import ObjectGraph.Proofs.Live.Bound
import ObjectGraph.Proofs.Live.Provider
import ObjectGraph.Proofs.Live.Serve

/-!
# Termination — nested constructions go down the ranks

Constructors that request instances only for what their nodes depend on nest constructions along the
edges of the graph. Every nested construction therefore concerns a node of a smaller rank, while all
that is under construction has a larger one: none of it is asked for again, and the ranks run out
before the rounds do.

* `Blueprint.Disciplined`, `Node.Supplies` — constructors that keep to the dependencies of their
  nodes;
* `Store.Calm`, `Store.Rests` — what is under construction around a job, and after it;
* `Server.Ends` — a server for jobs below a rank;
* `World.serveWithin_ends` — with more rounds than ranks, jobs end without a fault.
-/

namespace ObjectGraph

/-! ## Disciplined constructors -/

def Action.instance? : Action → Option Key
  | .demand wanted _ => wanted.instance?
  | .fail _ _ _ => none

def Registration.script : Registration → List Action
  | .construct _ _ script => script
  | .factory _ script => script
  | .cast _ _ _ => []

/-- The constructor of an entry requests instances only for what the entry depends on. -/
def Blueprint.Disciplined (blueprint : Blueprint) (plan : Plan) : Prop :=
  ∀ component ∈ plan.components, ∀ entry ∈ component.providers,
    ∀ registration ∈ blueprint.registrations.find? entry.key,
      ∀ action ∈ registration.script, ∀ wanted ∈ action.instance?, wanted ∈ entry.dependencies

instance (blueprint : Blueprint) (plan : Plan) : Decidable (blueprint.Disciplined plan) :=
  inferInstanceAs (Decidable (∀ component ∈ plan.components, ∀ entry ∈ component.providers,
    ∀ registration ∈ blueprint.registrations.find? entry.key,
      ∀ action ∈ registration.script, ∀ wanted ∈ action.instance?, wanted ∈ entry.dependencies))

/-- A script requests instances only for what a node depends on. -/
def Node.Supplies (node : Node) (script : List Action) : Prop :=
  ∀ action ∈ script, ∀ wanted, action.instance? = some wanted → wanted ∈ node.dependencies

namespace Wiring

variable {wiring : Wiring} {graph : Graph}

def Disciplined (wiring : Wiring) : Prop :=
  Blueprint.Disciplined ⟨wiring.registrations⟩ wiring.plan

/-- The entry of a hosted node stands in the plan. -/
theorem exists_component_of_local? (hsound : graph.Sound) (hplan : wiring.plan = .ofGraph graph)
    {component : ComponentId} {key : Key} {node : Node}
    (hlocal : graph.local? component key = some node) :
    ∃ found ∈ wiring.plan.components, Entry.ofNode graph node ∈ found.providers := by
  have hentry : wiring.entry? component key = some (.ofNode graph node) := by
    simp [entry?_ofGraph hsound hplan, hlocal]
  rcases Option.bind_eq_some_iff.1 hentry with ⟨found, hfound, hprovider⟩
  exact ⟨found, List.mem_of_find?_eq_some hfound, List.mem_of_find?_eq_some hprovider⟩

theorem Disciplined.supplies (h : wiring.Disciplined) (hsound : graph.Sound)
    (hplan : wiring.plan = .ofGraph graph) {component : ComponentId} {key : Key} {node : Node}
    (hlocal : graph.local? component key = some node) {registration : Registration}
    (hregistration : wiring.registrations.find? key = some registration) :
    node.Supplies registration.script := by
  intro action haction wanted hwanted
  rcases exists_component_of_local? hsound hplan hlocal with ⟨found, hfound, hentry⟩
  have hkey : (Entry.ofNode graph node).key = key := (hsound.keyed.of_local? hlocal).2.2
  exact h found hfound _ hentry registration (hkey ▸ hregistration) action haction wanted hwanted

end Wiring

/-! ## Stores -/

def Value.IsObject : Value → Prop
  | .object _ _ => True
  | .factory _ => False

namespace Store

/-- Only objects are cached; a factory is made for each request. -/
def Objects (store : Store) : Prop :=
  ∀ id value, store.cells.find? id = some (.ready value) → value.IsObject

/-- A cell under construction holds no value. -/
theorem Objects.build {store : Store} (h : store.Objects) (id : EntryId) :
    (store.setCell id .building).Objects := by
  intro other value hvalue
  simp only [setCell, Table.find?_insert] at hvalue
  split at hvalue
  · simp at hvalue
  · exact h other value hvalue

/-- Whatever is under construction has at least the given rank. -/
structure Calm (graph : Graph) (known : Instance → Prop) (limit : Nat) (store : Store) : Prop where
  above : ∀ inst key node, known inst → graph.local? inst.component key = some node →
    store.cells.find? ⟨inst.stamp, key⟩ = some .building → limit ≤ graph.rank node
  objects : store.Objects

/-- Nothing has been left under construction meanwhile. -/
structure Rests (store later : Store) : Prop where
  building : ∀ id, later.cells.find? id = some .building → store.cells.find? id = some .building
  objects : store.Objects → later.Objects

variable {graph : Graph} {known : Instance → Prop} {limit : Nat} {store later : Store}

namespace Rests

theorem refl (store : Store) : store.Rests store :=
  ⟨fun _ h => h, fun h => h⟩

theorem trans {last : Store} (h : store.Rests later) (hlast : later.Rests last) :
    store.Rests last where
  building := fun id hid => h.building id (hlast.building id hid)
  objects := fun hstore => hlast.objects (h.objects hstore)

/-- Numbers, events and the list of served values concern no cell. -/
theorem of_cells {last : Store} (h : store.Rests later) (hcells : last.cells = later.cells) :
    store.Rests last where
  building := by
    intro id hid
    exact h.building id (hcells ▸ hid)
  objects := by
    intro hstore id value hvalue
    exact h.objects hstore id value (hcells ▸ hvalue)

/-- The cell of a construction that has ended is empty or holds an object; the others rest. -/
theorem of_building {id : EntryId} {last : Store} (h : (store.setCell id .building).Rests later)
    (hlast : ∀ other cell, last.cells.find? other = some cell →
      (other ≠ id ∧ later.cells.find? other = some cell) ∨
        ∃ value, cell = .ready value ∧ value.IsObject) : store.Rests last where
  building := by
    intro other hother
    rcases hlast other .building hother with ⟨hne, hlater⟩ | ⟨value, hready, _⟩
    · simpa [setCell, Table.find?_insert, hne] using h.building other hlater
    · simp at hready
  objects := by
    intro hstore other value hvalue
    rcases hlast other (.ready value) hvalue with ⟨_, hlater⟩ | ⟨made, hready, hobject⟩
    · exact h.objects (hstore.build id) other value hlater
    · cases hready
      exact hobject

end Rests

namespace Calm

variable {inst : Instance} {key : Key} {node : Node}

theorem of_rests (h : store.Calm graph known limit) (hrests : store.Rests later) :
    later.Calm graph known limit where
  above := fun inst key node hinst hlocal hcell =>
    h.above inst key node hinst hlocal (hrests.building _ hcell)
  objects := hrests.objects h.objects

theorem mono (h : store.Calm graph known limit) {lower : Nat} (hle : lower ≤ limit) :
    store.Calm graph known lower where
  above := fun inst key node hinst hlocal hcell =>
    Nat.le_trans hle (h.above inst key node hinst hlocal hcell)
  objects := h.objects

/-- A node whose value is under construction is the lowest one of these. -/
theorem build {nextStamp : Nat} (h : store.Calm graph known limit)
    (census : Census known nextStamp) (hinst : known inst)
    (hlocal : graph.local? inst.component key = some node) (hle : graph.rank node ≤ limit) :
    (store.setCell ⟨inst.stamp, key⟩ .building).Calm graph known (graph.rank node) where
  above := by
    intro other otherKey found hother hfound hcell
    simp only [setCell, Table.find?_insert] at hcell
    split at hcell
    · -- The stamp tells the instance, and the instance and the key tell the node.
      rename_i hid
      have hsame : other = inst :=
        census.distinct other inst hother hinst (congrArg EntryId.stamp hid)
      have hkey : otherKey = key := congrArg EntryId.key hid
      subst hsame hkey
      have hnode : found = node := Option.some.inj (hfound.symm.trans hlocal)
      simp [hnode]
    · exact Nat.le_trans hle (h.above other otherKey found hother hfound hcell)
  objects := h.objects.build _

end Calm
end Store

/-! ## Servers -/

/-- A result that is no fault, and a store in which nothing has been left under construction. -/
structure Ends {α : Type} (store : Store) (outcome : Except Fault α) (later : Store) : Prop where
  errors : ∀ fault, outcome = .error fault → ∃ error, fault = .error error
  rests : store.Rests later

/-- A constructed value is an object. -/
structure Makes (store : Store) (outcome : Outcome) (later : Store) : Prop
    extends Ends store outcome later where
  object : ∀ value, outcome = .ok value → value.IsObject

namespace Ends

variable {α : Type} {store later : Store}

theorem ofError (error : ResolveError) (h : store.Rests later) :
    Ends store (.error (.error error) : Except Fault α) later :=
  ⟨fun _ hfault => ⟨error, (Except.error.inj hfault).symm⟩, h⟩

theorem ofOk (result : α) (h : store.Rests later) : Ends store (.ok result) later :=
  ⟨by simp, h⟩

/-- A failure is passed on, whatever was asked for. -/
theorem passOn {β : Type} {middle : Store} {fault : Fault} (hrests : store.Rests middle)
    (h : Ends middle (.error fault : Except Fault α) later) :
    Ends store (.error fault : Except Fault β) later where
  errors := by
    intro other hother
    cases hother
    exact h.errors fault rfl
  rests := hrests.trans h.rests

end Ends

/-- A node of a known instance whose rank is below a limit. -/
def Below (graph : Graph) (known : Instance → Prop) (limit : Nat) (host : Instance) (key : Key) :
    Prop :=
  known host ∧ ∃ node, graph.local? host.component key = some node ∧ graph.rank node < limit

/-- What a factory creates belongs to a node below a limit. -/
def Value.Below (graph : Graph) (known : Instance → Prop) (limit : Nat) : Value → Prop
  | .object _ _ => True
  | .factory made => ObjectGraph.Below graph known limit made.host made.key

theorem Value.IsObject.below {value : Value} (h : value.IsObject) (graph : Graph)
    (known : Instance → Prop) (limit : Nat) : value.Below graph known limit := by
  cases value with
  | object serial kept => trivial
  | factory made => exact h.elim

theorem Value.ViewOf.below {graph : Graph} {known : Instance → Prop} {limit : Nat}
    {value whole : Value} (h : value.ViewOf whole) (hwhole : whole.Below graph known limit) :
    value.Below graph known limit := by
  cases h with
  | object _ => trivial
  | factory made => exact hwhole

/-- A job for a node below a limit. A provider whose key is not hosted is refused anyway. -/
def Job.Below (graph : Graph) (known : Instance → Prop) (limit : Nat) : Job → Prop
  | .call provider _ => known provider.host ∧ ∀ node,
      graph.local? provider.host.component provider.key = some node → graph.rank node < limit
  | .create factory _ => ObjectGraph.Below graph known limit factory.host factory.key

/-- A limit that is not reached by any node leaves a call to its host. -/
theorem Job.below_size {graph : Graph} {known : Instance → Prop} (hkeyed : graph.Keyed)
    {provider : Provider} (hhost : known provider.host) (context : Context) :
    (Job.call provider context).Below graph known graph.size := by
  refine ⟨hhost, ?_⟩
  intro node hlocal
  exact Graph.Sound.rank_lt_size (hkeyed.of_local? hlocal).1

/-- Jobs below a limit end as long as only nodes above it are under construction. -/
structure Server.Ends (graph : Graph) (known : Instance → Prop) (limit : Nat) (server : Server) :
    Prop where
  ends : ∀ {job : Job} {store : Store} {outcome : Outcome} {later : Store},
    job.Below graph known limit → store.Calm graph known limit →
      server job store = (outcome, later) → ObjectGraph.Ends store outcome later
  yields : ∀ {job : Job} {store : Store} {value : Value} {later : Store},
    job.Below graph known limit → store.Calm graph known limit →
      server job store = (.ok value, later) → value.Below graph known limit

/-- The sound graph behind a wiring, its constructors and the instances made of it. -/
structure World.Orderly (graph : Graph) (known : Instance → Prop) (nextStamp : Nat)
    (world : World) : Prop where
  sound : graph.Sound
  plan : world.wiring.plan = .ofGraph graph
  disciplined : world.wiring.Disciplined
  census : Census known nextStamp
  follows : ∀ inst, known inst → inst.Follows graph.hierarchy

/-- An entry with a kind is made of a node. -/
theorem World.Orderly.exists_local? {graph : Graph} {known : Instance → Prop} {nextStamp : Nat}
    {world : World} (h : world.Orderly graph known nextStamp) {component : ComponentId} {key : Key}
    {kind : ProviderKind} (hkind : world.wiring.kind? component key = some kind) :
    ∃ node, graph.local? component key = some node := by
  have hplanned : (Plan.ofGraph graph).kind? component key = some kind := h.plan ▸ hkind
  rcases Plan.exists_local?_of_kind? h.sound hplanned with ⟨node, hlocal, _⟩
  exact ⟨node, hlocal⟩

/-- A site at which the constructor of a node runs. -/
structure Site.Builds (graph : Graph) (known : Instance → Prop) (site : Site) (node : Node) :
    Prop where
  known : known site.host
  hosted : graph.local? site.host.component site.key = some node

namespace World

variable {graph : Graph} {known : Instance → Prop} {nextStamp : Nat} {world : World}
  {server : Server} {site : Site} {node : Node} {store later : Store}

/-! ## Constructors -/

section Constructors

variable (h : world.Orderly graph known nextStamp)
  (hserver : server.Ends graph known (graph.rank node)) (hsite : site.Builds graph known node)

include h hserver hsite

/-- What a node depends on has a smaller rank, also at the end of a chain of aliases. -/
theorem request_ends {key : Key} (hkey : key ∈ node.dependencies)
    (hcalm : store.Calm graph known (graph.rank node)) {type : ValueType} {context : Context}
    {outcome : Except Fault (Provider × Value)}
    (hresult : world.request server site key type context store = (outcome, later)) :
    Ends store outcome later ∧ ∀ provider value, outcome = .ok (provider, value) →
      value.Below graph known (graph.rank node) := by
  have hjob {provider : Provider}
      (hprovider : world.wiring.provider site.host key type = .ok provider) :
      (Job.call provider context).Below graph known (graph.rank node) := by
    refine ⟨h.census.of_provider hsite.known hprovider, ?_⟩
    intro other hother
    rcases Wiring.reaches_of_providerWithin h.sound h.plan (h.follows _ hsite.known) hprovider with
      ⟨target, last, htarget, hlast, hreaches⟩
    have hle := h.sound.rank_le hreaches
    rcases h.sound.keyed.of_local? hsite.hosted with ⟨hnode, hhost, _⟩
    have hlt : graph.rank target < graph.rank node :=
      h.sound.rank_lt ⟨hnode, key, hkey, hhost ▸ htarget⟩
    have hsame : other = last := Option.some.inj (hother.symm.trans hlast)
    simp only [hsame]
    omega
  cases requested_of_request hresult with
  | @refused error _ => exact ⟨.ofError error (.refl store), by simp⟩
  | fails _ hprovider hcall =>
    exact ⟨.passOn (.refl store) (hserver.ends (hjob hprovider) hcalm hcall), by simp⟩
  | answers _ hprovider hcall =>
    refine ⟨.ofOk _ (hserver.ends (hjob hprovider) hcalm hcall).rests, ?_⟩
    intro other yielded hok
    cases hok
    exact hserver.yields (hjob hprovider) hcalm hcall

theorem demand_ends {wanted : Demand}
    (hwanted : ∀ key, wanted.instance? = some key → key ∈ node.dependencies)
    (hcalm : store.Calm graph known (graph.rank node)) {outcome : Except Fault Reply}
    (hresult : world.demand server site wanted store = (outcome, later)) :
    Ends store outcome later := by
  cases demanded_of_demand hresult with
  | reads hreads => exact ⟨hreads.errors, .refl store⟩
  | refused hinstance hrequest =>
    have hends := (request_ends h hserver hsite (hwanted _ hinstance) hcalm hrequest).1
    exact .passOn (.refl store) hends
  | shows hinstance hrequest _ _ =>
    exact .ofOk _ (request_ends h hserver hsite (hwanted _ hinstance) hcalm hrequest).1.rests
  | mistyped hrequest =>
    exact .ofError _ (request_ends h hserver hsite (hwanted _ rfl) hcalm hrequest).1.rests
  | fails made arguments hrequest hcreate =>
    -- The factory that is asked for first creates afterwards, below the same limit.
    rcases request_ends h hserver hsite (hwanted _ rfl) hcalm hrequest with ⟨hends, hbelow⟩
    have hjob : (Job.create made arguments).Below graph known (graph.rank node) :=
      hbelow _ (.factory made) rfl
    exact .passOn hends.rests (hserver.ends hjob (hcalm.of_rests hends.rests) hcreate)
  | creates made arguments hrequest hcreate =>
    rcases request_ends h hserver hsite (hwanted _ rfl) hcalm hrequest with ⟨hends, hbelow⟩
    have hjob : (Job.create made arguments).Below graph known (graph.rank node) :=
      hbelow _ (.factory made) rfl
    have hlast := hserver.ends hjob (hcalm.of_rests hends.rests) hcreate
    exact .ofOk _ (hends.rests.trans hlast.rests)

theorem runScript_rests {call : Nat} {script : List Action} {progress last : Progress}
    {ending : Ending}
    (hscript : node.Supplies script)
    (hcalm : store.Calm graph known (graph.rank node))
    (hresult : world.runScript server site call script progress store = (ending, last, later)) :
    (∀ fault, ending ≠ .fault fault) ∧ store.Rests later := by
  have hcourse := course_of_runScript hresult
  clear hresult
  have hrest {action : Action} {rest : List Action} (h : node.Supplies (action :: rest)) :
      node.Supplies rest := fun other hother => h other (List.mem_cons_of_mem _ hother)
  induction hcourse with
  | done | fails _ => exact ⟨by simp, .refl _⟩
  | passes _ _ ih => exact ih (hrest hscript) hcalm
  | answered hdemand _ ih =>
    -- The rest of the script starts from a store that is as calm.
    have hwanted := hscript _ List.mem_cons_self
    have hrests := (demand_ends h hserver hsite hwanted hcalm hdemand).rests
    rcases ih (hrest hscript) (hcalm.of_rests hrests) with ⟨hending, hlast⟩
    exact ⟨hending, hrests.trans hlast⟩
  | returns hdemand | wraps hdemand =>
    have hwanted := hscript _ List.mem_cons_self
    exact ⟨by simp, (demand_ends h hserver hsite hwanted hcalm hdemand).rests⟩
  | notes hdemand _ ih =>
    have hwanted := hscript _ List.mem_cons_self
    have hrests := (demand_ends h hserver hsite hwanted hcalm hdemand).rests
    rcases ih (hrest hscript) (hcalm.of_rests hrests) with ⟨hending, hlast⟩
    exact ⟨hending, hrests.trans hlast⟩
  | faults hdemand hfault =>
    have hwanted := hscript _ List.mem_cons_self
    rcases (demand_ends h hserver hsite hwanted hcalm hdemand).errors _ rfl with ⟨error, rfl⟩
    exact absurd rfl (hfault error)

theorem construct_makes {script : List Action} {extra : Extra} {outcome : Outcome}
    (hscript : node.Supplies script)
    (hcalm : store.Calm graph known (graph.rank node))
    (hresult : world.construct server site script extra store = (outcome, later)) :
    Makes store outcome later := by
  have hstart : store.Rests (store.start site.constructorId) :=
    (Store.Rests.refl store).of_cells rfl
  cases constructed_of_construct hresult with
  | yields hrun =>
    have hrests := (runScript_rests h hserver hsite hscript (hcalm.of_rests hstart) hrun).2
    refine ⟨.ofOk _ ((hstart.trans hrests).of_cells rfl), ?_⟩
    intro value hok
    cases hok
    trivial
  | breaks hrun =>
    have hrests := (runScript_rests h hserver hsite hscript (hcalm.of_rests hstart) hrun).2
    exact ⟨.ofError _ ((hstart.trans hrests).of_cells rfl), by simp⟩
  | faults hrun =>
    have hending := (runScript_rests h hserver hsite hscript (hcalm.of_rests hstart) hrun).1
    exact absurd rfl (hending _)

theorem constructAt_makes {context : Option TypeName} {script : List Action} {outcome : Outcome}
    (hscript : node.Supplies script)
    (hcalm : store.Calm graph known (graph.rank node))
    (hresult : world.constructAt server site context script store = (outcome, later)) :
    Makes store outcome later := by
  rcases constructAt_cases world site context script with ⟨error, _, heq⟩ | ⟨extra, _, heq⟩
  · rw [heq] at hresult
    cases hresult
    exact ⟨.ofError _ (.refl store), by simp⟩
  · rw [heq] at hresult
    exact construct_makes h hserver hsite hscript hcalm hresult

end Constructors

/-- A scoped value below the limit is not under construction, so its cell is free or filled. -/
theorem cached_makes (census : Census known nextStamp) {limit : Nat}
    (hsite : site.Builds graph known node) (hlt : graph.rank node < limit)
    {fresh : Store → Outcome × Store}
    (hfresh : ∀ {store : Store} {outcome : Outcome} {later : Store},
      store.Calm graph known (graph.rank node) → fresh store = (outcome, later) →
        Makes store outcome later)
    (hcalm : store.Calm graph known limit) {outcome : Outcome}
    (hresult : cached site.entryId fresh store = (outcome, later)) :
    Makes store outcome later := by
  have hbuild : (store.setCell site.entryId .building).Calm graph known (graph.rank node) :=
    hcalm.build census hsite.known hsite.hosted (Nat.le_of_lt hlt)
  cases recalled_of_cached hresult with
  | ready hready =>
    refine ⟨.ofOk _ (.refl store), ?_⟩
    intro other hok
    cases hok
    exact hcalm.objects _ _ hready
  | building hbuilding =>
    have hle := hcalm.above site.host site.key node hsite.known hsite.hosted hbuilding
    omega
  | @fills value _ _ hrun =>
    have hmakes := hfresh hbuild hrun
    refine ⟨.ofOk _ (hmakes.rests.of_building ?_), hmakes.object⟩
    intro other cell hcell
    simp only [Store.setCell, Table.find?_insert] at hcell
    split at hcell
    · cases hcell
      exact Or.inr ⟨value, rfl, hmakes.object value rfl⟩
    · next hne => exact Or.inl ⟨hne, hcell⟩
  | clears _ hrun =>
    have hmakes := hfresh hbuild hrun
    refine ⟨.ofError _ (hmakes.rests.of_building ?_), by simp⟩
    intro other cell hcell
    simp only [Store.clearCell, Table.find?_erase] at hcell
    split at hcell
    · simp at hcell
    · next hne => exact Or.inl ⟨hne, hcell⟩
  | faults _ hfault hrun =>
    rcases (hfresh hbuild hrun).errors _ rfl with ⟨error, rfl⟩
    exact absurd rfl (hfault error)

/-! ## Jobs -/

section Jobs

variable {limit : Nat} (h : world.Orderly graph known nextStamp)
  (hserver : ∀ lower < limit, server.Ends graph known lower)
  (hcalm : store.Calm graph known limit)

include h hserver hcalm

theorem call_ends {provider : Provider} {context : Context} {outcome : Outcome}
    (hjob : (Job.call provider context).Below graph known limit)
    (hresult : world.call server provider context store = (outcome, later)) :
    Ends store outcome later ∧ ∀ value, outcome = .ok value → value.Below graph known limit := by
  rcases hjob with ⟨hhost, hrank⟩
  -- The entry that is called is made of a node, which is the one that the limit is about.
  cases called_of_call hresult with
  | caches hkind hregistration hcached =>
    rcases h.exists_local? hkind with ⟨node, hlocal⟩
    have hlt := hrank node hlocal
    have hsite : Site.Builds graph known ⟨provider.host, provider.key, context⟩ node :=
      ⟨hhost, hlocal⟩
    have hmakes := cached_makes h.census hsite hlt
      (constructAt_makes h (hserver _ hlt) hsite
        (h.disciplined.supplies h.sound h.plan hlocal hregistration)) hcalm hcached
    exact ⟨hmakes.toEnds, fun value hok => (hmakes.object value hok).below graph known limit⟩
  | constructs hkind hregistration hrun =>
    rcases h.exists_local? hkind with ⟨node, hlocal⟩
    have hlt := hrank node hlocal
    have hsite : Site.Builds graph known ⟨provider.host, provider.key, context⟩ node :=
      ⟨hhost, hlocal⟩
    have hmakes := constructAt_makes h (hserver _ hlt) hsite
      (h.disciplined.supplies h.sound h.plan hlocal hregistration)
      (hcalm.mono (Nat.le_of_lt hlt)) hrun
    exact ⟨hmakes.toEnds, fun value hok => (hmakes.object value hok).below graph known limit⟩
  | lends hkind _ _ =>
    rcases h.exists_local? hkind with ⟨node, hlocal⟩
    refine ⟨.ofOk _ (.refl store), ?_⟩
    intro value hok
    cases hok
    exact ⟨hhost, node, hlocal, hrank node hlocal⟩
  | dropped _ _ | missing => exact ⟨.ofError _ (.refl store), by simp⟩

theorem create_ends {factory : AssistedFactory} {arguments : String} {outcome : Outcome}
    (hjob : (Job.create factory arguments).Below graph known limit)
    (hresult : world.create server factory arguments store = (outcome, later)) :
    Makes store outcome later := by
  rcases hjob with ⟨hhost, node, hlocal, hlt⟩
  cases created_of_create hresult with
  | constructs hregistration _ hrun =>
    have hsite : Site.Builds graph known ⟨factory.host, factory.key, factory.context⟩ node :=
      ⟨hhost, hlocal⟩
    exact construct_makes h (hserver _ hlt) hsite
      (h.disciplined.supplies h.sound h.plan hlocal hregistration)
      (hcalm.mono (Nat.le_of_lt hlt)) hrun
  | dropped _ | missing => exact ⟨.ofError _ (.refl store), by simp⟩

end Jobs

/-- With a round for every rank below the limit, and one more, jobs below it end. -/
theorem serveWithin_ends (h : world.Orderly graph known nextStamp) {bound limit : Nat}
    (hlt : limit < bound) : Server.Ends graph known limit (world.serveWithin bound) := by
  induction bound generalizing limit with
  | zero => exact absurd hlt (Nat.not_lt_zero _)
  | succ bound ih =>
    have hserver : ∀ lower < limit, (world.serveWithin bound).Ends graph known lower := by
      intro lower hlower
      exact ih (by omega)
    constructor
    · intro job store outcome later hjob hcalm hresult
      cases job with
      | call provider context =>
        cases answered_of_serveWithin hresult with
        | yields hcall =>
          exact .ofOk _ ((call_ends h hserver hcalm hjob hcall).1.rests.of_cells rfl)
        | fails hcall => exact (call_ends h hserver hcalm hjob hcall).1
      | create factory arguments => exact (create_ends h hserver hcalm hjob hresult).toEnds
    · intro job store value later hjob hcalm hresult
      cases job with
      | call provider context =>
        cases answered_of_serveWithin hresult with
        | yields hcall =>
          have hmade := (call_ends h hserver hcalm hjob hcall).2 _ rfl
          exact (world.wiring.view_castAlong _ _).below hmade
      | create factory arguments =>
        exact ((create_ends h hserver hcalm hjob hresult).object value rfl).below graph known limit

/-! ## Rounds -/

/-- The result of a job does not depend on the rounds, once there are enough, and is no fault. -/
def Finishes (world : World) (rounds : Nat) (job : Job) (store : Store) : Prop :=
  ∃ outcome later, (∀ fault, outcome = .error fault → ∃ error, fault = .error error) ∧
    ∀ bound, rounds ≤ bound → world.serveWithin bound job store = (outcome, later)

theorem finishes (h : world.Orderly graph known nextStamp) {job : Job}
    (hjob : job.Below graph known graph.size) (hcalm : store.Calm graph known graph.size) :
    world.Finishes (graph.size + 1) job store := by
  have hends := serveWithin_ends h (Nat.lt_succ_self graph.size)
  rcases hresult : world.serveWithin (graph.size + 1) job store with ⟨outcome, later⟩
  have herrors := (hends.ends hjob hcalm hresult).errors
  refine ⟨outcome, later, herrors, ?_⟩
  intro bound hle
  apply serveWithin_of_le hle hresult
  intro hexhausted
  rcases herrors .exhausted hexhausted with ⟨error, herror⟩
  simp at herror

/-- The bound that jobs are served with leaves more rounds than there are nodes. -/
theorem size_lt_depthBound (h : world.Orderly graph known nextStamp) :
    graph.size < world.wiring.depthBound := by
  have hsize : graph.size ≤ world.wiring.plan.size := by
    simpa only [h.plan] using h.sound.size_le_planSize
  simp only [Wiring.depthBound]
  generalize (world.wiring.registrations.values.map Wiring.lastFailure).foldl max 0 = failing
  calc
    graph.size < 4 * (world.wiring.plan.size + 1) * 1 := by omega
    _ ≤ 4 * (world.wiring.plan.size + 1) * (failing + 2) := Nat.mul_le_mul_left _ (by omega)

end World
end ObjectGraph
