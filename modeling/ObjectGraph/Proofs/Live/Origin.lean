import ObjectGraph.Proofs.Live.Termination

/-!
# Origins — which runs a value goes back to

An object goes back to the run that made it and to the runs behind all that this run was given.
With disciplined constructors those belong to nodes that the node of the object reaches, so a value
of the context is found among them only if one of these nodes declares it.

* `Blueprint.Discreet` — constructors that take what their nodes declare of the context;
* `Event.FromContext`, `Value.Contains` — runs given a context value, and the runs behind a value;
* `Value.MadeFor`, `Event.Traced` — values of a node, and runs given only values of reached nodes;
* `Server.Traces`, `World.serveWithin_traces` — however deep constructions nest, runs stay traced;
* `Value.MadeFor.of_contains` — the runs behind a value of a node.
-/

namespace ObjectGraph

/-! ## Discreet constructors -/

/-- An action that takes a value of the context. -/
def Action.takesContext : Action → Bool
  | .demand (.context _) _ => true
  | .demand _ _ | .fail _ _ _ => false

/-- The constructor takes a value of the context, when it starts or by its script. -/
def Registration.takesContext : Registration → Bool
  | .construct _ context script => context.isSome || script.any Action.takesContext
  | .factory _ script => script.any Action.takesContext
  | .cast _ _ _ => false

/-- The constructor of an entry takes a value of the context only if the entry declares one. -/
def Blueprint.Discreet (blueprint : Blueprint) (plan : Plan) : Prop :=
  ∀ component ∈ plan.components, ∀ entry ∈ component.providers, entry.context = none →
    ∀ registration ∈ blueprint.registrations.find? entry.key, registration.takesContext = false

instance (blueprint : Blueprint) (plan : Plan) : Decidable (blueprint.Discreet plan) :=
  inferInstanceAs (Decidable (∀ component ∈ plan.components, ∀ entry ∈ component.providers,
    entry.context = none → ∀ registration ∈ blueprint.registrations.find? entry.key,
      registration.takesContext = false))

namespace Wiring

variable {wiring : Wiring} {graph : Graph}

def Discreet (wiring : Wiring) : Prop :=
  Blueprint.Discreet ⟨wiring.registrations⟩ wiring.plan

theorem Discreet.takesContext (h : wiring.Discreet) (hsound : graph.Sound)
    (hplan : wiring.plan = .ofGraph graph) {component : ComponentId} {key : Key} {node : Node}
    (hlocal : graph.local? component key = some node) (hcontext : node.context = none)
    {registration : Registration}
    (hregistration : wiring.registrations.find? key = some registration) :
    registration.takesContext = false := by
  rcases exists_component_of_local? hsound hplan hlocal with ⟨found, hfound, hentry⟩
  have hkey : (Entry.ofNode graph node).key = key := (hsound.keyed.of_local? hlocal).2.2
  have hnone : (Entry.ofNode graph node).context = none := by
    simp [Entry.ofNode, hcontext]
  exact h found hfound _ hentry hnone registration (hkey ▸ hregistration)

end Wiring

/-! ## Runs behind a value -/

/-- The run was given a value of the context, when it started or by its script. -/
def Event.FromContext (event : Event) : Prop :=
  (∃ value, event.extra = .context value) ∨ ∃ text, .text text ∈ event.saw

/-- The runs behind a value: the one that made it, and those behind what that run was given. No run is
behind a factory. It was handed out with a context, but that is not counted here: it shows only in what
the factory creates later, by runs of their own. -/
inductive Value.Contains (log : List Event) : Value → Event → Prop where
  | made {event : Event} {kept : List Provider} (hevent : event ∈ log) :
      Contains log (.object event.serial kept) event
  | given {event inner : Event} {kept : List Provider} {type : ValueType} {part : Value}
      (hevent : event ∈ log) (hsaw : .value type part ∈ event.saw)
      (hpart : Contains log part inner) : Contains log (.object event.serial kept) inner

/-! ## Traced runs -/

/-- An object was made by a run for the node, and a factory creates for it. -/
def Value.MadeFor (graph : Graph) (log : List Event) (node : Node) : Value → Prop
  | .object serial _ => ∃ event ∈ log, event.serial = serial ∧
      graph.local? event.host.component event.key = some node
  | .factory made => graph.local? made.host.component made.key = some node

/-- The value is one of a node that is reached. -/
def Value.Within (graph : Graph) (log : List Event) (node : Node) (value : Value) : Prop :=
  ∃ target, graph.Reaches node target ∧ value.MadeFor graph log target

/-- What a run for the node may see: values of reached nodes, and a text only if the node takes one
of the context. -/
structure Node.Sees (graph : Graph) (log : List Event) (node : Node) (saw : List Observation) :
    Prop where
  values : ∀ type value, .value type value ∈ saw → value.Within graph log node
  texts : node.context = none → ∀ text, .text text ∉ saw

/-- The run was given what the node of its entry may see, and takes. -/
def Event.Traced (graph : Graph) (log : List Event) (event : Event) : Prop :=
  ∀ node, graph.local? event.host.component event.key = some node →
    node.Sees graph log event.saw ∧ (node.context = none → ∀ value, event.extra ≠ .context value)

def Store.Traced (graph : Graph) (store : Store) : Prop :=
  ∀ event ∈ store.log, event.Traced graph store.log

variable {graph : Graph} {known : Instance → Prop} {nextStamp : Nat} {node : Node}
  {log more : List Event} {saw : List Observation} {store later : Store}

/-- A view of a value is made by the run that the value is made by. -/
theorem Value.ViewOf.madeFor {value whole : Value} (h : value.ViewOf whole)
    (hwhole : whole.MadeFor graph log node) : value.MadeFor graph log node := by
  cases h with
  | object _ => exact hwhole
  | factory made => exact hwhole

/-! ### Longer logs -/

theorem Value.MadeFor.mono {value : Value} (h : value.MadeFor graph log node)
    (hmore : log ⊆ more) : value.MadeFor graph more node := by
  cases value with
  | object serial kept =>
    rcases h with ⟨event, hevent, hserial, hlocal⟩
    exact ⟨event, hmore hevent, hserial, hlocal⟩
  | factory made => exact h

namespace Node.Sees

theorem nil (graph : Graph) (log : List Event) (node : Node) : node.Sees graph log [] where
  values := by simp
  texts := by simp

theorem mono (h : node.Sees graph log saw) (hmore : log ⊆ more) : node.Sees graph more saw where
  values := by
    intro type value hvalue
    rcases h.values type value hvalue with ⟨target, hreaches, hmade⟩
    exact ⟨target, hreaches, hmade.mono hmore⟩
  texts := h.texts

theorem append (h : node.Sees graph log saw) {other : List Observation}
    (hother : node.Sees graph log other) : node.Sees graph log (saw ++ other) where
  values := by
    intro type value hvalue
    rcases List.mem_append.1 hvalue with hold | hnew
    · exact h.values type value hold
    · exact hother.values type value hnew
  texts := by
    intro hcontext text htext
    rcases List.mem_append.1 htext with hold | hnew
    · exact h.texts hcontext text hold
    · exact hother.texts hcontext text hnew

theorem ofValue {type : ValueType} {value : Value} (h : value.Within graph log node) :
    node.Sees graph log [.value type value] where
  values := by
    intro other found hfound
    cases List.mem_singleton.1 hfound
    exact h
  texts := by simp

theorem ofFailure (error : ResolveError) : node.Sees graph log [.failure error] where
  values := by simp
  texts := by simp

theorem ofReads {wanted : Demand} {reply : Reply} {world : World} {site : Site}
    (h : wanted.Reads world site (.ok reply))
    (hcontext : node.context = none → ∀ type, wanted ≠ .context type) :
    node.Sees graph log [reply.saw] where
  values := by
    intro type value hvalue
    exact absurd (List.mem_singleton.1 hvalue).symm (h.values reply type value rfl)
  texts := by
    intro hnone text htext
    rcases h.texts reply text rfl (List.mem_singleton.1 htext).symm with ⟨type, htype⟩
    exact hcontext hnone type htype

end Node.Sees

theorem Event.Traced.mono {event : Event} (h : event.Traced graph log) (hmore : log ⊆ more) :
    event.Traced graph more := by
  intro node hlocal
  rcases h node hlocal with ⟨hsees, hextra⟩
  exact ⟨hsees.mono hmore, hextra⟩

namespace Store

theorem Extends.log_subset (h : store.Extends later) : store.log ⊆ later.log := by
  rcases h.log with ⟨events, hlog, _⟩
  simp [hlog]

theorem Traced.of_log (h : store.Traced graph) (hlog : later.log = store.log) :
    later.Traced graph := by
  simpa only [Traced, hlog] using h

theorem Traced.record (h : store.Traced graph) {event : Event}
    (hevent : event.Traced graph store.log) : (store.record event).Traced graph := by
  have hmore : store.log ⊆ (store.record event).log := List.subset_append_left _ _
  intro other hother
  rcases List.mem_append.1 hother with hold | hnew
  · exact (h other hold).mono hmore
  · simp only [List.mem_singleton.1 hnew]
    exact hevent.mono hmore

end Store

/-- A script takes nothing of the context unless the node does. -/
def Node.Permits (node : Node) (script : List Action) : Prop :=
  node.context = none → script.any Action.takesContext = false

/-! ## Servers -/

/-- Runs stay traced, and what a job yields is made for the node of its entry. -/
structure Server.Traces (graph : Graph) (known : Instance → Prop) (server : Server) : Prop where
  faithful : server.Faithful (.ofGraph graph) known
  traced : ∀ {job : Job} {store : Store} {outcome : Outcome} {later : Store},
    job.Below graph known graph.size → store.Consistent (.ofGraph graph) known →
      store.Traced graph → server job store = (outcome, later) → later.Traced graph
  yields : ∀ {job : Job} {store : Store} {value : Value} {later : Store},
    job.Below graph known graph.size → store.Consistent (.ofGraph graph) known →
      store.Traced graph → server job store = (.ok value, later) →
        ∀ node, graph.local? job.host.component job.key = some node →
          value.MadeFor graph later.log node

namespace World

variable {world : World} {server : Server} {site : Site}

/-! ### Constructors -/

section Constructors

variable (h : world.Orderly graph known nextStamp) (hserver : server.Traces graph known)
  (hsite : site.Builds graph known node) (hstore : store.Consistent (.ofGraph graph) known)
  (htraced : store.Traced graph)

include h hserver hsite hstore htraced

/-- What is requested for a dependency is made for a node that is reached through it. -/
theorem request_traces {key : Key} (hkey : key ∈ node.dependencies) {type : ValueType}
    {context : Context} {outcome : Except Fault (Provider × Value)}
    (hresult : world.request server site key type context store = (outcome, later)) :
    later.Traced graph ∧ ∀ provider value, outcome = .ok (provider, value) →
      value.Within graph later.log node := by
  have hjob {provider : Provider}
      (hprovider : world.wiring.provider site.host key type = .ok provider) :
      (Job.call provider context).Below graph known graph.size :=
    Job.below_size h.sound.keyed (h.census.of_provider hsite.known hprovider) context
  cases requested_of_request hresult with
  | refused _ => exact ⟨htraced, by simp⟩
  | fails _ hprovider hcall =>
    exact ⟨hserver.traced (hjob hprovider) hstore htraced hcall, by simp⟩
  | answers _ hprovider hcall =>
    refine ⟨hserver.traced (hjob hprovider) hstore htraced hcall, ?_⟩
    intro other yielded hok
    cases hok
    rcases Wiring.reaches_of_providerWithin h.sound h.plan (h.follows _ hsite.known) hprovider with
      ⟨target, last, htarget, hlast, hreaches⟩
    rcases h.sound.keyed.of_local? hsite.hosted with ⟨hnode, hhost, _⟩
    have hedge : graph.Edge node target := ⟨hnode, key, hkey, hhost ▸ htarget⟩
    have hmade := hserver.yields (hjob hprovider) hstore htraced hcall last hlast
    exact ⟨last, .head hedge hreaches, hmade⟩

/-- A factory that is requested creates for the node that it was itself made for. -/
theorem requested_factory_traces {key : Key} (hkey : key ∈ node.dependencies) {type : ValueType}
    {context : Context} {provider : Provider} {made : AssistedFactory} {middle : Store}
    (hresult : world.request server site key type context store =
      (.ok (provider, .factory made), middle)) :
    middle.Consistent (.ofGraph graph) known ∧ middle.Traced graph ∧
      ∃ target, graph.Reaches node target ∧
        graph.local? made.host.component made.key = some target ∧
          ∀ arguments, (Job.create made arguments).Below graph known graph.size := by
  rcases request_grows h.census hserver.faithful hsite.known hstore hresult with ⟨hgrows, hfound⟩
  rcases request_traces h hserver hsite hstore htraced hkey hresult with ⟨hmiddle, hwithin⟩
  rcases hwithin provider (.factory made) rfl with ⟨target, hreaches, hlocal⟩
  have hmade : known made.host := (hfound provider (.factory made) rfl).2
  have htarget : target ∈ graph.nodes := (h.sound.keyed.of_local? hlocal).1
  exact ⟨hgrows.consistent, hmiddle, target, hreaches, hlocal,
    fun _ => ⟨hmade, target, hlocal, Graph.Sound.rank_lt_size htarget⟩⟩

theorem demand_traces {wanted : Demand}
    (hwanted : ∀ key, wanted.instance? = some key → key ∈ node.dependencies)
    (hcontext : node.context = none → ∀ type, wanted ≠ .context type)
    {outcome : Except Fault Reply}
    (hresult : world.demand server site wanted store = (outcome, later)) :
    later.Traced graph ∧ ∀ reply, outcome = .ok reply → node.Sees graph later.log [reply.saw] := by
  cases demanded_of_demand hresult with
  | reads hreads =>
    refine ⟨htraced, ?_⟩
    rintro reply rfl
    exact .ofReads hreads hcontext
  | refused hinstance hrequest =>
    have hlater := (request_traces h hserver hsite hstore htraced (hwanted _ hinstance) hrequest).1
    exact ⟨hlater, by simp⟩
  | shows hinstance hrequest hsaw _ =>
    rcases request_traces h hserver hsite hstore htraced (hwanted _ hinstance) hrequest with
      ⟨hlater, hwithin⟩
    refine ⟨hlater, ?_⟩
    intro other hok
    cases hok
    rw [hsaw]
    exact .ofValue (hwithin _ _ rfl)
  | mistyped hrequest =>
    have hlater := (request_traces h hserver hsite hstore htraced (hwanted _ rfl) hrequest).1
    exact ⟨hlater, by simp⟩
  | fails made arguments hrequest hcreate =>
    rcases requested_factory_traces h hserver hsite hstore htraced (hwanted _ rfl) hrequest with
      ⟨hconsistent, hmiddle, _, _, _, hjob⟩
    exact ⟨hserver.traced (hjob arguments) hconsistent hmiddle hcreate, by simp⟩
  | creates made arguments hrequest hcreate =>
    rcases requested_factory_traces h hserver hsite hstore htraced (hwanted _ rfl) hrequest with
      ⟨hconsistent, hmiddle, target, hreaches, hlocal, hjob⟩
    refine ⟨hserver.traced (hjob arguments) hconsistent hmiddle hcreate, ?_⟩
    intro reply hok
    cases hok
    have hcreated := hserver.yields (hjob arguments) hconsistent hmiddle hcreate target hlocal
    exact .ofValue ⟨target, hreaches, hcreated⟩

theorem runScript_traces {call : Nat} {script : List Action} {progress last : Progress}
    {ending : Ending} (hscript : node.Supplies script) (hpermits : node.Permits script)
    (hsaw : node.Sees graph store.log progress.saw)
    (hresult : world.runScript server site call script progress store = (ending, last, later)) :
    later.Traced graph ∧ node.Sees graph later.log last.saw := by
  have hcourse := course_of_runScript hresult
  clear hresult
  have hrest {action : Action} {rest : List Action} (h : node.Supplies (action :: rest)) :
      node.Supplies rest := fun other hother => h other (List.mem_cons_of_mem _ hother)
  have hpasses {action : Action} {rest : List Action} (h : node.Permits (action :: rest)) :
      node.Permits rest := fun hnone => (Bool.or_eq_false_iff.1 (h hnone)).2
  have hcontext {wanted : Demand} {onError : OnError} {rest : List Action}
      (h : node.Permits (.demand wanted onError :: rest)) :
      node.context = none → ∀ type, wanted ≠ .context type := by
    rintro hnone type rfl
    have htakes := (Bool.or_eq_false_iff.1 (h hnone)).1
    simp [Action.takesContext] at htakes
  -- What was seen before stays seen while the log grows.
  induction hcourse with
  | done | fails _ => exact ⟨htraced, hsaw⟩
  | passes _ _ ih => exact ih hstore htraced (hrest hscript) (hpasses hpermits) hsaw
  | answered hdemand _ ih =>
    have hwanted := hscript _ List.mem_cons_self
    have hgrows := (demand_grows h.census hserver.faithful hsite.known hstore hdemand).1
    rcases demand_traces h hserver hsite hstore htraced hwanted (hcontext hpermits) hdemand with
      ⟨hmiddle, hreply⟩
    have hseen := (hsaw.mono hgrows.extended.log_subset).append (hreply _ rfl)
    exact ih hgrows.consistent hmiddle (hrest hscript) (hpasses hpermits) hseen
  | notes hdemand _ ih =>
    have hwanted := hscript _ List.mem_cons_self
    have hgrows := (demand_grows h.census hserver.faithful hsite.known hstore hdemand).1
    have hmiddle := (demand_traces h hserver hsite hstore htraced hwanted (hcontext hpermits)
      hdemand).1
    have hseen := hsaw.mono hgrows.extended.log_subset
    exact ih hgrows.consistent hmiddle (hrest hscript) (hpasses hpermits)
      (hseen.append (.ofFailure _))
  | returns hdemand | wraps hdemand | faults hdemand _ =>
    have hwanted := hscript _ List.mem_cons_self
    have hgrows := (demand_grows h.census hserver.faithful hsite.known hstore hdemand).1
    have hmiddle := (demand_traces h hserver hsite hstore htraced hwanted (hcontext hpermits)
      hdemand).1
    exact ⟨hmiddle, hsaw.mono hgrows.extended.log_subset⟩

theorem construct_traces {script : List Action} {extra : Extra} {outcome : Outcome}
    (hscript : node.Supplies script) (hpermits : node.Permits script)
    (hextra : node.context = none → ∀ value, extra ≠ .context value)
    (hresult : world.construct server site script extra store = (outcome, later)) :
    later.Traced graph ∧ ∀ value, outcome = .ok value → value.MadeFor graph later.log node := by
  have hstart : (store.start site.constructorId).Traced graph := htraced.of_log rfl
  -- The node of the entry is the one that the site builds.
  have hevent : ∀ {log : List Event} {saw : List Observation} (failed : Bool),
      node.Sees graph log saw → Event.Traced graph log
        ⟨store.nextSerial, site.key, site.host.frame, saw, extra, failed⟩ := by
    intro log saw failed hsees other hother
    have hsame : other = node := Option.some.inj (hother.symm.trans hsite.hosted)
    subst hsame
    exact ⟨hsees, hextra⟩
  cases constructed_of_construct hresult with
  | yields hrun =>
    rcases runScript_traces h hserver hsite hstore.start hstart hscript hpermits (.nil ..) hrun with
      ⟨hinner, hsees⟩
    refine ⟨hinner.record (hevent false hsees), ?_⟩
    intro value hok
    cases hok
    exact ⟨_, List.mem_append_right _ (List.mem_singleton_self _), rfl, hsite.hosted⟩
  | breaks hrun =>
    rcases runScript_traces h hserver hsite hstore.start hstart hscript hpermits (.nil ..) hrun with
      ⟨hinner, hsees⟩
    exact ⟨hinner.record (hevent true hsees), by simp⟩
  | faults hrun =>
    have hinner :=
      (runScript_traces h hserver hsite hstore.start hstart hscript hpermits (.nil ..) hrun).1
    exact ⟨hinner, by simp⟩

theorem constructAt_traces {type : ValueType} {context : Option TypeName} {script : List Action}
    {outcome : Outcome} (hscript : node.Supplies script)
    (htakes : node.context = none →
      (Registration.construct type context script).takesContext = false)
    (hresult : world.constructAt server site context script store = (outcome, later)) :
    later.Traced graph ∧ ∀ value, outcome = .ok value → value.MadeFor graph later.log node := by
  have hpermits : node.Permits script := by
    intro hnone
    exact (Bool.or_eq_false_iff.1 (htakes hnone)).2
  rcases constructAt_cases world site context script with ⟨error, _, heq⟩ | ⟨extra, hadmits, heq⟩
  · rw [heq] at hresult
    cases hresult
    exact ⟨htraced, by simp⟩
  · rw [heq] at hresult
    refine construct_traces h hserver hsite hstore htraced hscript hpermits ?_ hresult
    intro hnone
    cases hadmits with
    | alone _ => simp
    | supplied _ _ =>
      -- A constructor with a context type belongs to a node that declares one.
      have htaken := htakes hnone
      simp [Registration.takesContext] at htaken

end Constructors

/-! ### Jobs -/

/-- The value of a cell was made by the only run for its entry that succeeded. -/
theorem cached_traces (h : world.Orderly graph known nextStamp)
    (hsite : site.Builds graph known node)
    (hkind : (Plan.ofGraph graph).kind? site.host.component site.key = some .scoped)
    {fresh : Store → Outcome × Store}
    (hfresh : ∀ {store : Store} {outcome : Outcome} {later : Store},
      store.Consistent (.ofGraph graph) known → store.Traced graph →
        fresh store = (outcome, later) → later.Traced graph ∧
          ∀ value, outcome = .ok value → value.MadeFor graph later.log node)
    (hstore : store.Consistent (.ofGraph graph) known) (htraced : store.Traced graph)
    {outcome : Outcome} (hresult : cached site.entryId fresh store = (outcome, later)) :
    later.Traced graph ∧ ∀ value, outcome = .ok value → value.MadeFor graph later.log node := by
  have hbuild (hnone : store.cells.find? site.entryId = none) :=
    hstore.build h.census hsite.known hkind hnone
  -- Cells come and go without a change to the log.
  have hstart : (store.setCell site.entryId .building).Traced graph := htraced.of_log rfl
  cases recalled_of_cached hresult with
  | ready hready =>
    refine ⟨htraced, ?_⟩
    intro other hok
    cases hok
    rcases hstore.of_ready hsite.known hkind hready with ⟨event, kept, hevent, hhost, hkey, rfl⟩
    refine ⟨event, hevent, rfl, ?_⟩
    rw [hhost, hkey]
    exact hsite.hosted
  | building _ => exact ⟨htraced, by simp⟩
  | fills hnone hrun =>
    rcases hfresh (hbuild hnone) hstart hrun with ⟨hinner, hmade⟩
    exact ⟨hinner.of_log rfl, hmade⟩
  | clears hnone hrun =>
    have hinner := (hfresh (hbuild hnone) hstart hrun).1
    exact ⟨hinner.of_log rfl, by simp⟩
  | faults hnone _ hrun =>
    have hinner := (hfresh (hbuild hnone) hstart hrun).1
    exact ⟨hinner, by simp⟩

section Jobs

variable (h : world.Orderly graph known nextStamp) (hdiscreet : world.wiring.Discreet)
  (hserver : server.Traces graph known) (hstore : store.Consistent (.ofGraph graph) known)
  (htraced : store.Traced graph)

include h hdiscreet hserver hstore htraced

theorem call_traces {provider : Provider} {context : Context} {outcome : Outcome}
    (hhost : known provider.host)
    (hresult : world.call server provider context store = (outcome, later)) :
    later.Traced graph ∧ ∀ value, outcome = .ok value → ∀ node,
      graph.local? provider.host.component provider.key = some node →
        value.MadeFor graph later.log node := by
  cases called_of_call hresult with
  | caches hkind hregistration hcached =>
    rcases h.exists_local? hkind with ⟨node, hlocal⟩
    have hsite : Site.Builds graph known ⟨provider.host, provider.key, context⟩ node :=
      ⟨hhost, hlocal⟩
    have hmade := cached_traces h hsite (h.plan ▸ hkind)
      (fun hstore htraced => constructAt_traces h hserver hsite hstore htraced
        (h.disciplined.supplies h.sound h.plan hlocal hregistration)
        (fun hnone => hdiscreet.takesContext h.sound h.plan hlocal hnone hregistration))
      hstore htraced hcached
    refine ⟨hmade.1, ?_⟩
    intro value hok other hother
    cases hother.symm.trans hlocal
    exact hmade.2 value hok
  | constructs hkind hregistration hrun =>
    rcases h.exists_local? hkind with ⟨node, hlocal⟩
    have hsite : Site.Builds graph known ⟨provider.host, provider.key, context⟩ node :=
      ⟨hhost, hlocal⟩
    have hmade := constructAt_traces h hserver hsite hstore htraced
      (h.disciplined.supplies h.sound h.plan hlocal hregistration)
      (fun hnone => hdiscreet.takesContext h.sound h.plan hlocal hnone hregistration) hrun
    refine ⟨hmade.1, ?_⟩
    intro value hok other hother
    cases hother.symm.trans hlocal
    exact hmade.2 value hok
  | lends _ _ _ =>
    refine ⟨htraced, ?_⟩
    intro value hok node hlocal
    cases hok
    exact hlocal
  | dropped _ _ | missing => exact ⟨htraced, by simp⟩

theorem create_traces {factory : AssistedFactory} {arguments : String} {outcome : Outcome}
    (hhost : known factory.host)
    (hlocal : graph.local? factory.host.component factory.key = some node)
    (hresult : world.create server factory arguments store = (outcome, later)) :
    later.Traced graph ∧ ∀ value, outcome = .ok value → value.MadeFor graph later.log node := by
  cases created_of_create hresult with
  | constructs hregistration _ hrun =>
    have hsite : Site.Builds graph known ⟨factory.host, factory.key, factory.context⟩ node :=
      ⟨hhost, hlocal⟩
    exact construct_traces h hserver hsite hstore htraced
      (h.disciplined.supplies h.sound h.plan hlocal hregistration)
      (fun hnone => hdiscreet.takesContext h.sound h.plan hlocal hnone hregistration)
      (by simp) hrun
  | dropped _ | missing => exact ⟨htraced, by simp⟩

end Jobs

/-- However deep constructions may nest, runs stay traced. -/
theorem serveWithin_traces (h : world.Orderly graph known nextStamp) (hfits : world.wiring.Fits)
    (hdiscreet : world.wiring.Discreet) (bound : Nat) :
    Server.Traces graph known (world.serveWithin bound) := by
  induction bound with
  | zero =>
    refine ⟨serveWithin_faithful h.census hfits h.plan 0, ?_, ?_⟩
    · intro job store outcome later _ _ htraced hresult
      cases hresult
      exact htraced
    · intro job store value later _ _ _ hresult
      simp [serveWithin] at hresult
  | succ bound ih =>
    refine ⟨serveWithin_faithful h.census hfits h.plan (bound + 1), ?_, ?_⟩
    · intro job store outcome later hjob hstore htraced hresult
      cases job with
      | call provider context =>
        cases answered_of_serveWithin hresult with
        | yields hcall =>
          exact (call_traces h hdiscreet ih hstore htraced hjob.1 hcall).1.of_log rfl
        | fails hcall => exact (call_traces h hdiscreet ih hstore htraced hjob.1 hcall).1
      | create factory arguments =>
        rcases hjob with ⟨hhost, node, hlocal, _⟩
        exact (create_traces h hdiscreet ih hstore htraced hhost hlocal hresult).1
    · intro job store value later hjob hstore htraced hresult node hlocal
      cases job with
      | call provider context =>
        cases answered_of_serveWithin hresult with
        | yields hcall =>
          have hmade := (call_traces h hdiscreet ih hstore htraced hjob.1 hcall).2 _ rfl node hlocal
          exact (world.wiring.view_castAlong _ _).madeFor hmade
      | create factory arguments =>
        exact (create_traces h hdiscreet ih hstore htraced hjob.1 hlocal hresult).2 value rfl

end World

/-! ## What a value contains -/

/-- The runs behind a value of a node belong to nodes that it reaches. A run that was given a value
of the context belongs to one that takes one. -/
theorem Value.MadeFor.of_contains {value : Value} {event : Event} (h : value.MadeFor graph log node)
    (hserials : (log.map Event.serial).Nodup) (htraced : ∀ event ∈ log, event.Traced graph log)
    (hcontains : value.Contains log event) :
    ∃ target, graph.Reaches node target ∧
      graph.local? event.host.component event.key = some target ∧
        (target.context = none → ¬ event.FromContext) := by
  induction hcontains generalizing node with
  | made hevent =>
    rename_i event kept
    rcases h with ⟨other, hother, hserial, hlocal⟩
    have hsame : other = event := List.inj_on_of_nodup_map hserials hother hevent hserial
    subst hsame
    rcases htraced other hevent node hlocal with ⟨hsees, hextra⟩
    refine ⟨node, .refl, hlocal, ?_⟩
    rintro hnone (⟨value, hvalue⟩ | ⟨text, htext⟩)
    · exact hextra hnone value hvalue
    · exact hsees.texts hnone text htext
  | given hevent hsaw hpart ih =>
    rename_i event inner kept type part
    rcases h with ⟨other, hother, hserial, hlocal⟩
    have hsame : other = event := List.inj_on_of_nodup_map hserials hother hevent hserial
    subst hsame
    -- What the run was given is made for a node further down.
    rcases (htraced other hevent node hlocal).1.values type part hsaw with
      ⟨next, hreaches, hmade⟩
    rcases ih hmade with ⟨target, hrest, hfound, hcontext⟩
    exact ⟨target, hreaches.trans hrest, hfound, hcontext⟩

end ObjectGraph
