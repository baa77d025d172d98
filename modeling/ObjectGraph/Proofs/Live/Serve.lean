import ObjectGraph.Proofs.Live.Blueprint
import ObjectGraph.Proofs.Live.Course
import ObjectGraph.Proofs.Live.Demand
import ObjectGraph.Proofs.Live.Store

/-!
# Serving requests — every nesting of constructions keeps the store consistent

A server is faithful if it keeps a store consistent and hands out what is known. Scripts call the
server again and again, so whatever runs with a faithful server keeps the store consistent too; a
run that succeeds leaves its event as the last change. The cell of a scoped entry stays under
construction until its run ends, which is why no second run can fill it.

* `Store.Grows` — consistent and later than another store;
* `Server.Faithful` — what a server promises;
* `World.runScript_grows`, `World.construct_ends` — scripts and runs;
* `World.cached_grows` — a cell is filled once;
* `World.serveWithin_faithful`, `World.serve_faithful` — the servers of a world are faithful.
-/

namespace ObjectGraph

/-- The instance that a job is for. -/
def Job.host : Job → Instance
  | .call provider _ => provider.host
  | .create factory _ => factory.host

/-- The key whose constructor a job asks for. -/
def Job.key : Job → Key
  | .call provider _ => provider.key
  | .create factory _ => factory.key

/-- Whatever a job is about belongs to an instance of a census. -/
def Job.Known (known : Instance → Prop) : Job → Prop
  | .call provider _ => known provider.host
  | .create factory _ => known factory.host

structure Store.Grows (plan : Plan) (known : Instance → Prop) (store later : Store) : Prop where
  consistent : later.Consistent plan known
  extended : store.Extends later

/-- The store stays consistent, and what is handed out is known. -/
structure Server.Faithful (plan : Plan) (known : Instance → Prop) (server : Server) : Prop where
  grows : ∀ {job : Job} {store : Store} {outcome : Outcome} {later : Store}, job.Known known →
    store.Consistent plan known → server job store = (outcome, later) →
      store.Grows plan known later
  yields : ∀ {job : Job} {store : Store} {value : Value} {later : Store}, job.Known known →
    store.Consistent plan known → server job store = (.ok value, later) → value.Known known

namespace Store.Grows

variable {plan : Plan} {known : Instance → Prop} {store later last : Store}

theorem refl (h : store.Consistent plan known) : store.Grows plan known store :=
  ⟨h, .refl store⟩

theorem trans (h : store.Grows plan known later) (hlast : later.Grows plan known last) :
    store.Grows plan known last :=
  ⟨hlast.consistent, h.extended.trans hlast.extended⟩

end Store.Grows

namespace World

variable {plan : Plan} {known : Instance → Prop} {nextStamp : Nat} {world : World}
  {server : Server} {site : Site} {store : Store}

/-! ## Demands -/

section Demands

variable (census : Census known nextStamp) (hserver : server.Faithful plan known)
  (hsite : known site.host) (h : store.Consistent plan known)

include census hserver hsite h

theorem request_grows {key : Key} {type : ValueType} {context : Context}
    {outcome : Except Fault (Provider × Value)} {later : Store}
    (hresult : world.request server site key type context store = (outcome, later)) :
    store.Grows plan known later ∧
      ∀ provider value, outcome = .ok (provider, value) →
        known provider.host ∧ value.Known known := by
  cases requested_of_request hresult with
  | refused _ => exact ⟨.refl h, by simp⟩
  | fails provider hprovider hcall =>
    have hhost : (Job.call provider context).Known known := census.of_provider hsite hprovider
    exact ⟨hserver.grows hhost h hcall, by simp⟩
  | answers provider hprovider hcall =>
    have hhost : (Job.call provider context).Known known := census.of_provider hsite hprovider
    refine ⟨hserver.grows hhost h hcall, ?_⟩
    intro other yielded hok
    cases hok
    exact ⟨hhost, hserver.yields hhost h hcall⟩

/-- A demand keeps providers of instances that are known. -/
theorem demand_grows {wanted : Demand} {outcome : Except Fault Reply} {later : Store}
    (hresult : world.demand server site wanted store = (outcome, later)) :
    store.Grows plan known later ∧
      ∀ reply, outcome = .ok reply → ∀ provider ∈ reply.kept, known provider.host := by
  cases demanded_of_demand hresult with
  | reads hreads =>
    refine ⟨.refl h, ?_⟩
    rintro reply rfl provider hprovider
    rcases hreads.kept reply rfl provider hprovider with ⟨key, type, hfound⟩
    exact census.of_provider hsite hfound
  | refused _ hrequest | mistyped hrequest =>
    exact ⟨(request_grows census hserver hsite h hrequest).1, by simp⟩
  | shows _ hrequest _ hreply =>
    -- At most the provider that was called is kept.
    rcases request_grows census hserver hsite h hrequest with ⟨hgrows, hfound⟩
    refine ⟨hgrows, ?_⟩
    intro other hok kept hkept
    cases hok
    cases List.mem_singleton.1 (hreply hkept)
    exact (hfound _ _ rfl).1
  | fails made arguments hrequest hcreate | creates made arguments hrequest hcreate =>
    rcases request_grows census hserver hsite h hrequest with ⟨hfirst, hfound⟩
    have hmade : (Job.create made arguments).Known known := (hfound _ _ rfl).2
    exact ⟨hfirst.trans (hserver.grows hmade hfirst.consistent hcreate), by simp⟩

end Demands

/-! ## Scripts -/

/-- Whatever a script calls, the store grows and the providers kept are known. -/
theorem runScript_grows (census : Census known nextStamp) (hserver : server.Faithful plan known)
    (hsite : known site.host) {call : Nat} {script : List Action} {progress last : Progress}
    {ending : Ending} {later : Store} (h : store.Consistent plan known)
    (hkept : ∀ provider ∈ progress.kept, known provider.host)
    (hresult : world.runScript server site call script progress store = (ending, last, later)) :
    store.Grows plan known later ∧ ∀ provider ∈ last.kept, known provider.host := by
  have hcourse := course_of_runScript hresult
  clear hresult
  induction hcourse with
  | done | fails _ => exact ⟨.refl h, hkept⟩
  | passes _ _ ih => exact ih h hkept
  | @answered _ _ _ progress _ _ _ _ _ reply hdemand _ ih =>
    -- The rest of the script starts from what the demand has left.
    rcases demand_grows census hserver hsite h hdemand with ⟨hgrows, hreply⟩
    have hboth : ∀ provider ∈ progress.kept ++ reply.kept, known provider.host := by
      intro provider hprovider
      rcases List.mem_append.1 hprovider with hold | hnew
      · exact hkept provider hold
      · exact hreply reply rfl provider hnew
    rcases ih hgrows.consistent hboth with ⟨hrest, hlast⟩
    exact ⟨hgrows.trans hrest, hlast⟩
  | notes hdemand _ ih =>
    have hgrows := (demand_grows census hserver hsite h hdemand).1
    rcases ih hgrows.consistent hkept with ⟨hrest, hlast⟩
    exact ⟨hgrows.trans hrest, hlast⟩
  | returns hdemand | wraps hdemand | faults hdemand _ =>
    exact ⟨(demand_grows census hserver hsite h hdemand).1, hkept⟩

/-! ## Runs -/

/-- A run at a site, up to its event: the number is new and what it keeps is known. -/
structure Succeeds (plan : Plan) (known : Instance → Prop) (site : Site) (store inner : Store)
    (event : Event) (kept : List Provider) : Prop where
  grows : store.Grows plan known inner
  numbered : inner.Numbered event
  serial : store.nextSerial ≤ event.serial
  host : event.host = site.host.frame
  key : event.key = site.key
  succeeded : event.failed = false
  kept : ∀ provider ∈ kept, known provider.host

/-- How a run at a site ends. The event of a success is the last change to the store. -/
inductive RunEnds (plan : Plan) (known : Instance → Prop) (site : Site) (store : Store) :
    Outcome → Store → Prop where
  | success {inner : Store} {event : Event} {kept : List Provider}
      (h : Succeeds plan known site store inner event kept) :
      RunEnds plan known site store (.ok (.object event.serial kept)) (inner.record event)
  | failure {fault : Fault} {later : Store} (h : store.Grows plan known later) :
      RunEnds plan known site store (.error fault) later

section Runs

variable (census : Census known nextStamp) (hserver : server.Faithful plan known)
  (hsite : known site.host)

include census hserver hsite

theorem construct_ends {script : List Action} {extra : Extra} {outcome : Outcome} {later : Store}
    (h : store.Consistent plan known)
    (hresult : world.construct server site script extra store = (outcome, later)) :
    RunEnds plan known site store outcome later := by
  have hstart : store.Grows plan known (store.start site.constructorId) := ⟨h.start, .start⟩
  cases constructed_of_construct hresult with
  | @yields progress inner hscript =>
    -- The number was taken before the script ran, so the log does not hold it yet.
    rcases runScript_grows census hserver hsite hstart.consistent (by simp) hscript with
      ⟨hgrows, hkept⟩
    have hsuccess : Succeeds plan known site store inner
        ⟨store.nextSerial, site.key, site.host.frame, progress.saw, extra, false⟩ progress.kept :=
      { grows := hstart.trans hgrows
        numbered := hgrows.extended.numbered h.books rfl
        serial := Nat.le_refl _
        host := rfl
        key := rfl
        succeeded := rfl
        kept := hkept }
    exact .success hsuccess
  | @breaks failure progress inner hscript =>
    have hgrows := (runScript_grows census hserver hsite hstart.consistent (by simp) hscript).1
    have hnumbered : inner.Numbered
        ⟨store.nextSerial, site.key, site.host.frame, progress.saw, extra, true⟩ :=
      hgrows.extended.numbered h.books rfl
    have hextended := (hstart.trans hgrows).extended
    exact .failure ⟨hgrows.consistent.recordFailed hsite hnumbered rfl rfl,
      hextended.record (Nat.le_refl _)⟩
  | faults hscript =>
    have hgrows := (runScript_grows census hserver hsite hstart.consistent (by simp) hscript).1
    exact .failure (hstart.trans hgrows)

theorem constructAt_ends {context : Option TypeName} {script : List Action} {outcome : Outcome}
    {later : Store} (h : store.Consistent plan known)
    (hresult : world.constructAt server site context script store = (outcome, later)) :
    RunEnds plan known site store outcome later := by
  rcases constructAt_cases world site context script with ⟨error, _, heq⟩ | ⟨extra, _, heq⟩
  · rw [heq] at hresult
    cases hresult
    exact .failure (.refl h)
  · rw [heq] at hresult
    exact construct_ends census hserver hsite h hresult

end Runs

/-- A cell is filled by the run that found it empty, and by no other. -/
theorem cached_grows (census : Census known nextStamp) (site : Site) (hsite : known site.host)
    {fresh : Store → Outcome × Store} {outcome : Outcome} {later : Store}
    (hkind : plan.kind? site.host.component site.key = some .scoped)
    (hfresh : ∀ {store : Store} {outcome : Outcome} {later : Store},
      store.Consistent plan known → fresh store = (outcome, later) →
        RunEnds plan known site store outcome later)
    (h : store.Consistent plan known)
    (hresult : cached site.entryId fresh store = (outcome, later)) :
    store.Grows plan known later ∧
      ∀ value, outcome = .ok value → later.cells.find? site.entryId = some (.ready value) := by
  have hbuild (hnone : store.cells.find? site.entryId = none) :
      (store.setCell site.entryId .building).Consistent plan known :=
    h.build census hsite hkind hnone
  -- No nested construction touches the cell before this one ends.
  have hbuilding : ∀ {inner : Store},
      (store.setCell site.entryId .building).Extends inner →
        inner.cells.find? site.entryId = some .building := by
    intro inner hinner
    apply hinner.cells
    simp only [Store.setCell, Table.find?_insert, if_true]
  cases recalled_of_cached hresult with
  | ready hready =>
    refine ⟨.refl h, ?_⟩
    intro other hok
    cases hok
    exact hready
  | building _ => exact ⟨.refl h, by simp⟩
  | fills hnone hrun =>
    cases hfresh (hbuild hnone) hrun with
    | @success middle event kept hsuccess =>
      have hextended := hsuccess.grows.extended
      have hcell := hbuilding hextended
      have hkind' : plan.kind? site.host.component event.key = some .scoped := by
        simpa only [hsuccess.key] using hkind
      have hid : site.entryId = ⟨site.host.stamp, event.key⟩ := by
        simp only [hsuccess.key]
        rfl
      rw [hid] at hcell hnone ⊢
      have hcache := hsuccess.grows.consistent.cache census hsite hkind' hcell
        hsuccess.numbered hsuccess.host hsuccess.succeeded hsuccess.kept
      have hserial : store.nextSerial ≤ event.serial := hsuccess.serial
      simp only [hid] at hextended
      refine ⟨⟨hcache, ((hextended.of_setCell hnone).record hserial).setCell hnone⟩, ?_⟩
      intro value hok
      cases hok
      simp only [Store.setCell, Table.find?_insert, if_true]
  | clears hnone hrun =>
    -- The cell is emptied again, as if nothing had been tried.
    cases hfresh (hbuild hnone) hrun with
    | failure hgrows =>
      have hcell := hbuilding hgrows.extended
      refine ⟨⟨hgrows.consistent.clear census hsite hkind hcell, ?_⟩, by simp⟩
      exact (hgrows.extended.of_setCell hnone).clearCell hnone
  | faults hnone _ hrun =>
    cases hfresh (hbuild hnone) hrun with
    | failure hgrows => exact ⟨⟨hgrows.consistent, hgrows.extended.of_setCell hnone⟩, by simp⟩

/-! ## Jobs -/

section Jobs

variable (census : Census known nextStamp) (hfits : world.wiring.Fits)
  (hplan : world.wiring.plan = plan) (hserver : server.Faithful plan known)
  (h : store.Consistent plan known)

include census hplan hserver h

/-- A call that fails leaves a consistent store, and so does one that yields a value once that value
is listed. -/
theorem call_grows {provider : Provider} {context : Context} {outcome : Outcome} {later : Store}
    (hhost : known provider.host)
    (hresult : world.call server provider context store = (outcome, later)) :
    (∀ fault, outcome = .error fault → store.Grows plan known later) ∧
      ∀ value, outcome = .ok value →
        store.Grows plan known (later.noteServed provider value) ∧ value.Known known := by
  subst hplan
  cases called_of_call hresult with
  | caches hkind _ hcached =>
    rcases cached_grows census ⟨provider.host, provider.key, context⟩ hhost hkind
        (constructAt_ends census hserver hhost) h hcached with ⟨hgrows, hready⟩
    refine ⟨fun _ _ => hgrows, ?_⟩
    intro value hok
    have hcell := hready value hok
    exact ⟨⟨hgrows.consistent.yieldCached census hhost hkind hcell, hgrows.extended.noteServed⟩,
      hgrows.consistent.books.values _ value hcell⟩
  | constructs hkind _ hrun =>
    cases constructAt_ends census hserver hhost h hrun with
    | failure hgrows => exact ⟨fun _ _ => hgrows, by simp⟩
    | success hsuccess =>
      refine ⟨by simp, ?_⟩
      intro value hok
      cases hok
      have hfresh := hsuccess.grows.consistent.yieldFresh census hhost hkind hsuccess.numbered
        hsuccess.host hsuccess.key hsuccess.succeeded
      exact ⟨⟨hfresh _, (hsuccess.grows.extended.record hsuccess.serial).noteServed⟩,
        hsuccess.kept⟩
  | lends hkind _ _ =>
    refine ⟨by simp, ?_⟩
    intro value hok
    cases hok
    exact ⟨⟨h.yieldFactory census hhost hkind rfl rfl, (Store.Extends.refl store).noteServed⟩,
      hhost⟩
  | dropped _ _ | missing => exact ⟨fun _ _ => .refl h, by simp⟩

include hfits

theorem create_grows {factory : AssistedFactory} {arguments : String} {outcome : Outcome}
    {later : Store} (hhost : known factory.host)
    (hresult : world.create server factory arguments store = (outcome, later)) :
    store.Grows plan known later ∧ ∀ value, outcome = .ok value → value.Known known := by
  subst hplan
  cases created_of_create hresult with
  | constructs hfactory _ hrun =>
    cases construct_ends census hserver hhost h hrun with
    | failure hgrows => exact ⟨hgrows, by simp⟩
    | @success inner event kept hsuccess =>
      -- A factory stands behind a factory entry, whose history is nobody's concern.
      have hkind : ∀ kind, world.wiring.plan.kind? factory.host.component event.key =
          some kind → kind = .factory := by
        intro kind hkind
        simp only [hsuccess.key] at hkind
        exact hfits.kind_of_factory hfactory hkind
      have hrecord := hsuccess.grows.consistent.recordUnkept census hhost hsuccess.numbered
        hsuccess.host
      refine ⟨⟨hrecord ?_ ?_, hsuccess.grows.extended.record hsuccess.serial⟩, ?_⟩
      · intro hscoped
        simpa using hkind _ hscoped
      · intro hunscoped
        simpa using hkind _ hunscoped
      · intro value hok
        cases hok
        exact hsuccess.kept
  | dropped _ | missing => exact ⟨.refl h, by simp⟩

end Jobs

/-! ## Servers -/

/-- What an entry yields is listed, whoever has asked for it and through whatever casts. -/
theorem served_of_serveWithin {bound : Nat} {provider : Provider} {context : Context}
    {value : Value} {later : Store}
    (hresult : world.serveWithin bound (.call provider context) store = (.ok value, later)) :
    later.Lists world.wiring provider value := by
  cases bound with
  | zero => simp [serveWithin] at hresult
  | succ bound =>
    cases answered_of_serveWithin hresult with
    | @yields made inner _ => exact ⟨made, by simp [Store.noteServed], rfl⟩

/-- However deep constructions may nest, the server is faithful. -/
theorem serveWithin_faithful (census : Census known nextStamp) (hfits : world.wiring.Fits)
    (hplan : world.wiring.plan = plan) (bound : Nat) :
    Server.Faithful plan known (world.serveWithin bound) := by
  induction bound with
  | zero =>
    refine ⟨?_, ?_⟩
    · intro job store outcome later _ h hresult
      cases hresult
      exact .refl h
    · intro job store value later _ _ hresult
      simp [serveWithin] at hresult
  | succ bound ih =>
    refine ⟨?_, ?_⟩
    · intro job store outcome later hjob h hresult
      cases job with
      | call provider context =>
        cases answered_of_serveWithin hresult with
        | yields hcall => exact ((call_grows census hplan ih h hjob hcall).2 _ rfl).1
        | fails hcall => exact (call_grows census hplan ih h hjob hcall).1 _ rfl
      | create factory arguments =>
        exact (create_grows census hfits hplan ih h hjob hresult).1
    · intro job store value later hjob h hresult
      cases job with
      | call provider context =>
        cases answered_of_serveWithin hresult with
        | yields hcall =>
          -- Casts hand out no provider that the value of the entry does not keep.
          have hmade := ((call_grows census hplan ih h hjob hcall).2 _ rfl).2
          exact (world.wiring.view_castAlong _ _).known hmade
      | create factory arguments =>
        exact (create_grows census hfits hplan ih h hjob hresult).2 value rfl

theorem serve_faithful (census : Census known nextStamp) (hfits : world.wiring.Fits)
    (hplan : world.wiring.plan = plan) : Server.Faithful plan known world.serve :=
  serveWithin_faithful census hfits hplan _

end World
end ObjectGraph
