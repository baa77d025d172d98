import ObjectGraph.Proofs.Live.Provenance
import ObjectGraph.Proofs.Live.Provider

/-!
# Live hosts — nothing is dropped while it is in use

Whoever holds an instance holds all above it, and lookups lead upwards only. Once the host of a job is
alive, so is every instance that the job gets to, however deep constructions nest: no component is
reported as dropped.

* `World.Upward` — what is above a live instance is alive;
* `Undropped` — an outcome that reports no dropped component;
* `World.runScript_undropped`, `World.construct_undropped` — scripts and runs at a live site;
* `Server.Sustains` — jobs of live hosts;
* `World.serveWithin_sustains` — the servers of a world;
* `World.serve_call_of_dropped`, `World.serve_create_of_dropped` — jobs of hosts that were dropped;
* `World.serve_call_of_ready` — cached values need no host.
-/

namespace ObjectGraph

/-- The outcome reports no component that was dropped. -/
def Undropped {α : Type} (outcome : Except Fault α) : Prop :=
  ∀ component, outcome ≠ .error (.error (.componentDropped component))

theorem Undropped.ok {α : Type} (value : α) : Undropped (.ok value : Except Fault α) := by
  simp [Undropped]

theorem Undropped.of_error {α β : Type} {fault : Fault}
    (h : Undropped (.error fault : Except Fault α)) : Undropped (.error fault : Except Fault β) := by
  simpa [Undropped] using h

/-- The outcome of a run that ends in this way reports no dropped component. -/
def World.Ending.Undropped (key : Key) : World.Ending → Prop
  | .success => True
  | .failure reported => ∀ component, reported.error key ≠ .componentDropped component
  | .fault reported => ObjectGraph.Undropped (.error reported : Outcome)

/-- With an instance, all instances above it are alive. -/
def World.Upward (world : World) (known : Instance → Prop) : Prop :=
  ∀ inst, known inst → world.isAlive inst = true → ∀ other ∈ inst.parents,
    world.isAlive other = true

/-- A job of a live host reports no dropped component, and a factory that it yields is of that host. -/
structure Server.Sustains (world : World) (plan : Plan) (known : Instance → Prop)
    (server : Server) : Prop where
  faithful : server.Faithful plan known
  undropped : ∀ {job : Job} {store : Store} {outcome : Outcome} {later : Store},
    job.Known known → world.isAlive job.host = true → store.Consistent plan known →
      server job store = (outcome, later) → Undropped outcome
  own : ∀ {job : Job} {store later : Store} {made : AssistedFactory}, job.Known known →
    store.Consistent plan known → server job store = (.ok (.factory made), later) →
      made.host = job.host

namespace World

variable {plan : Plan} {known : Instance → Prop} {nextStamp : Nat} {world : World}
  {server : Server} {site : Site} {store later : Store} {outcome : Outcome}

theorem Upward.of_provider (hupward : world.Upward known) {inst : Instance} (hinst : known inst)
    (halive : world.isAlive inst = true) {key : Key} {type : ValueType} {provider : Provider}
    (hprovider : world.wiring.provider inst key type = .ok provider) :
    world.isAlive provider.host = true := by
  rcases List.mem_cons.1 (Wiring.hosted_of_providerWithin hprovider).1 with hsame | habove
  · rwa [hsame]
  · exact hupward inst hinst halive _ habove

/-! ## Constructors -/

section Constructors

variable (census : Census known nextStamp) (hupward : world.Upward known)
  (hserver : server.Sustains world plan known) (hsite : known site.host)
  (halive : world.isAlive site.host = true) (h : store.Consistent plan known)

include census hupward hserver hsite halive h

/-- What is requested is found upwards, where everything is alive. -/
theorem request_undropped {key : Key} {type : ValueType} {context : Context}
    {outcome : Except Fault (Provider × Value)}
    (hresult : world.request server site key type context store = (outcome, later)) :
    Undropped outcome ∧ ∀ provider made, outcome = .ok (provider, .factory made) →
      world.isAlive made.host = true := by
  cases requested_of_request hresult with
  | refused hprovider =>
    refine ⟨?_, by simp⟩
    intro component heq
    cases heq
    exact Wiring.providerWithin_ne_dropped component hprovider
  | fails provider hprovider hcall =>
    have hjob : (Job.call provider context).Known known := census.of_provider hsite hprovider
    have hlive : world.isAlive provider.host = true := hupward.of_provider hsite halive hprovider
    exact ⟨(hserver.undropped hjob hlive h hcall).of_error, by simp⟩
  | answers provider hprovider hcall =>
    have hjob : (Job.call provider context).Known known := census.of_provider hsite hprovider
    refine ⟨.ok _, ?_⟩
    intro other made hok
    cases hok
    rw [hserver.own hjob h hcall]
    exact hupward.of_provider hsite halive hprovider

theorem demand_undropped {wanted : Demand} {outcome : Except Fault Reply}
    (hresult : world.demand server site wanted store = (outcome, later)) : Undropped outcome := by
  cases demanded_of_demand hresult with
  | reads hreads => exact hreads.undropped
  | refused _ hrequest =>
    exact (request_undropped census hupward hserver hsite halive h hrequest).1.of_error
  | shows _ _ _ _ | creates _ _ _ _ => exact .ok _
  | mistyped _ => simp [Undropped]
  | fails made arguments hrequest hcreate =>
    -- A creation is a job of the host of the factory, which was found upwards.
    rcases request_grows census hserver.faithful hsite h hrequest with ⟨hgrows, hfound⟩
    have hjob : (Job.create made arguments).Known known := (hfound _ _ rfl).2
    have hlive := (request_undropped census hupward hserver hsite halive h hrequest).2 _ _ rfl
    exact (hserver.undropped hjob hlive hgrows.consistent hcreate).of_error

theorem runScript_undropped {call : Nat} {script : List Action} {progress last : Progress}
    {ending : Ending}
    (hresult : world.runScript server site call script progress store = (ending, last, later)) :
    ending.Undropped site.key := by
  have hcourse := course_of_runScript hresult
  clear hresult
  induction hcourse with
  | done => trivial
  | fails _ => simp [Ending.Undropped, Failure.error]
  | passes _ _ ih => exact ih h
  | answered hdemand _ ih | notes hdemand _ ih =>
    exact ih (demand_grows census hserver.faithful hsite h hdemand).1.consistent
  | returns hdemand =>
    -- An error is reported as it is or, by the next case, as the cause of another one.
    have hundropped := demand_undropped census hupward hserver hsite halive h hdemand
    simpa [Undropped, Ending.Undropped, Failure.error] using hundropped
  | wraps _ => simp [Ending.Undropped, Failure.error]
  | faults hdemand _ =>
    exact (demand_undropped census hupward hserver hsite halive h hdemand).of_error

theorem construct_undropped {script : List Action} {extra : Extra}
    (hresult : world.construct server site script extra store = (outcome, later)) :
    Undropped outcome := by
  cases constructed_of_construct hresult with
  | yields _ => exact .ok _
  | breaks hscript =>
    have hending := runScript_undropped census hupward hserver hsite halive h.start hscript
    simpa [Undropped, Ending.Undropped] using hending
  | faults hscript =>
    exact runScript_undropped census hupward hserver hsite halive h.start hscript

theorem constructAt_undropped {context : Option TypeName} {script : List Action}
    (hresult : world.constructAt server site context script store = (outcome, later)) :
    Undropped outcome := by
  rcases constructAt_cases world site context script with ⟨error, hrejects, heq⟩ | ⟨extra, _, heq⟩
  · rw [heq] at hresult
    cases hresult
    cases hrejects with
    | dropped hdead => simp [hdead] at halive
    | unsupplied _ _ => simp [Undropped]
  · rw [heq] at hresult
    exact construct_undropped census hupward hserver hsite halive h hresult

end Constructors

/-! ## Jobs -/

theorem cached_undropped {id : EntryId} {fresh : Store → Outcome × Store}
    (hfresh : ∀ {outcome : Outcome} {later : Store}, store.cells.find? id = none →
      fresh (store.setCell id .building) = (outcome, later) → Undropped outcome)
    (hresult : cached id fresh store = (outcome, later)) : Undropped outcome := by
  cases recalled_of_cached hresult with
  | ready _ | fills _ _ => exact .ok _
  | building _ => simp [Undropped]
  | clears hnone hrun | faults hnone _ hrun => exact hfresh hnone hrun

section Jobs

variable (census : Census known nextStamp) (hupward : world.Upward known)
  (hplan : world.wiring.plan = plan) (hserver : server.Sustains world plan known)
  (h : store.Consistent plan known)

include census hupward hplan hserver h

theorem call_undropped {provider : Provider} {context : Context} (hhost : known provider.host)
    (halive : world.isAlive provider.host = true)
    (hresult : world.call server provider context store = (outcome, later)) :
    Undropped outcome := by
  subst hplan
  cases called_of_call hresult with
  | caches hkind _ hcached =>
    refine cached_undropped ?_ hcached
    intro outcome later hnone hrun
    exact constructAt_undropped census hupward hserver hhost halive
      (h.build census hhost hkind hnone) hrun
  | constructs _ _ hrun => exact constructAt_undropped census hupward hserver hhost halive h hrun
  | lends _ _ _ => exact .ok _
  | dropped _ hdead => exact absurd halive hdead
  | missing => simp [Undropped]

omit hplan in
theorem create_undropped {factory : AssistedFactory} {arguments : String}
    (hhost : known factory.host) (halive : world.isAlive factory.host = true)
    (hresult : world.create server factory arguments store = (outcome, later)) :
    Undropped outcome := by
  cases created_of_create hresult with
  | constructs _ _ hrun => exact construct_undropped census hupward hserver hhost halive h hrun
  | dropped hdead => exact absurd halive hdead
  | missing => simp [Undropped]

end Jobs

/-! ## Servers -/

/-- However deep constructions may nest, a live host gets to live instances only. -/
theorem serveWithin_sustains (census : Census known nextStamp) (hupward : world.Upward known)
    (hfits : world.wiring.Fits) (hplan : world.wiring.plan = plan) (bound : Nat) :
    Server.Sustains world plan known (world.serveWithin bound) := by
  have hown : ∀ bound {job : Job} {store later : Store} {made : AssistedFactory},
      job.Known known → store.Consistent plan known →
        world.serveWithin bound job store = (.ok (.factory made), later) → made.host = job.host :=
    fun bound _ _ _ _ hjob h hresult =>
      (madeBy_of_serveWithin census hfits hplan hjob h hresult).1
  induction bound with
  | zero =>
    refine ⟨serveWithin_faithful census hfits hplan 0, ?_, hown 0⟩
    intro job store outcome later _ _ _ hresult
    cases hresult
    simp [Undropped]
  | succ bound ih =>
    refine ⟨serveWithin_faithful census hfits hplan (bound + 1), ?_, hown (bound + 1)⟩
    intro job store outcome later hjob halive h hresult
    cases job with
    | call provider context =>
      cases answered_of_serveWithin hresult with
      | yields _ => exact .ok _
      | fails hcall => exact call_undropped census hupward hplan ih h hjob halive hcall
    | create factory arguments =>
      exact create_undropped census hupward ih h hjob halive hresult

theorem serve_undropped (census : Census known nextStamp) (hupward : world.Upward known)
    (hfits : world.wiring.Fits) (hplan : world.wiring.plan = plan) {job : Job}
    (hjob : job.Known known) (halive : world.isAlive job.host = true)
    (h : store.Consistent plan known) (hresult : world.serve job store = (outcome, later)) :
    Undropped outcome :=
  (serveWithin_sustains census hupward hfits hplan _).undropped hjob halive h hresult

/-! ## Dropped hosts -/

/-- The call has a constructor or a factory to go to, because nothing is cached for it. -/
def NeedsHost (plan : Plan) (store : Store) (provider : Provider) : Prop :=
  plan.kind? provider.host.component provider.key = some .unscoped ∨
    plan.kind? provider.host.component provider.key = some .factory ∨
      (plan.kind? provider.host.component provider.key = some .scoped ∧
        store.cells.find? ⟨provider.host.stamp, provider.key⟩ = none)

theorem exists_depthBound (wiring : Wiring) : ∃ rest, wiring.depthBound = rest + 1 := by
  refine Nat.exists_eq_succ_of_ne_zero ?_
  simp [Wiring.depthBound]

section Dropped

variable (hfits : world.wiring.Fits) (hplan : world.wiring.plan = plan) {provider : Provider}
  {context : Context}

include hfits hplan

/-- Without its host, a provider has no way to make a value. -/
theorem serve_call_of_dropped (hdead : world.isAlive provider.host = false)
    (hneeds : NeedsHost plan store provider) :
    ∃ later, world.serve (.call provider context) store =
      (.error (.error (.componentDropped provider.host.component)), later) := by
  subst hplan
  rcases exists_depthBound world.wiring with ⟨rest, hbound⟩
  simp only [serve, hbound]
  suffices hcall : ∃ later, world.call (world.serveWithin rest) provider context store =
      (.error (.error (.componentDropped provider.host.component)), later) by
    rcases hcall with ⟨later, hcall⟩
    exact ⟨later, (Answered.fails hcall).serveWithin_eq⟩
  simp only [call]
  rcases hneeds with hkind | hkind | ⟨hkind, hcell⟩
  · have hkind : world.wiring.kind? provider.host.component provider.key = some .unscoped := hkind
    rcases hfits.construct_of_kind hkind (Or.inr rfl) with ⟨type, wanted, script, hfound⟩
    simp [hkind, hfound, constructAt, hdead]
  · have hkind : world.wiring.kind? provider.host.component provider.key = some .factory := hkind
    rcases hfits.factory_of_kind hkind with ⟨product, script, hfound⟩
    simp [hkind, hfound, hdead]
  · -- The cell that was opened for the value is closed again.
    have hkind : world.wiring.kind? provider.host.component provider.key = some .scoped := hkind
    rcases hfits.construct_of_kind hkind (Or.inl rfl) with ⟨type, wanted, script, hfound⟩
    simp [hkind, hfound, cached, Site.entryId, hcell, constructAt, hdead]

/-- A cached value needs no host. -/
theorem serve_call_of_ready
    (hkind : plan.kind? provider.host.component provider.key = some .scoped) {value : Value}
    (hready : store.cells.find? ⟨provider.host.stamp, provider.key⟩ = some (.ready value)) :
    world.serve (.call provider context) store =
      (.ok (world.wiring.castAlong provider.casts value), store.noteServed provider value) := by
  subst hplan
  rcases exists_depthBound world.wiring with ⟨rest, hbound⟩
  have hkind : world.wiring.kind? provider.host.component provider.key = some .scoped := hkind
  rcases hfits.construct_of_kind hkind (Or.inl rfl) with ⟨type, wanted, script, hfound⟩
  have hcall : world.call (world.serveWithin rest) provider context store = (.ok value, store) := by
    simp [call, hkind, hfound, cached, Site.entryId, hready]
  simp only [serve, hbound]
  exact (Answered.yields hcall).serveWithin_eq

omit hfits hplan in
theorem serve_create_of_dropped {factory : AssistedFactory}
    (hdead : world.isAlive factory.host = false) (arguments : String) :
    world.serve (.create factory arguments) store =
      (.error (.error (.componentDropped factory.host.component)), store) := by
  rcases exists_depthBound world.wiring with ⟨rest, hbound⟩
  simp [serve, hbound, serveWithin, create, hdead]

end Dropped

end World
end ObjectGraph
