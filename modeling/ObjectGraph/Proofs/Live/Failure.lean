import Mathlib.Logic.Relation
import ObjectGraph.Proofs.Live.Script
import ObjectGraph.Proofs.Live.Termination

/-!
# Failures — every error is raised by one step and passed on as it is

A job fails in a step of its own, or because a job that its constructor waits for fails. Constructors
that wrap no error return what they get, so the error of a job is the one that the innermost failing
step has raised, however deep that step is nested.

* `Wiring.Transparent` — constructors that wrap no error of a demand;
* `World.Works`, `World.Comes` — the run that a job takes, and the actions that it comes to;
* `World.Raises` — the steps that fail themselves, each with its error;
* `World.PassesOn`, `World.Fails` — a job that fails with the error of a nested one;
* `World.Fails.serveWithin_eq`, `World.serveWithin_fails` — the failures of a server, both ways;
* `World.Fails.plain` — no error has another one as its cause.
-/

namespace ObjectGraph

/-! ## Constructors -/

/-- The action makes a failure of its own out of the error of a demand. -/
def Action.wraps : Action → Bool
  | .demand _ .wrap => true
  | .demand _ _ | .fail _ _ _ => false

/-- No constructor wraps the error of a demand. -/
def Blueprint.Transparent (blueprint : Blueprint) : Prop :=
  ∀ registration ∈ blueprint.registrations.values, ∀ action ∈ registration.script,
    action.wraps = false

instance (blueprint : Blueprint) : Decidable blueprint.Transparent :=
  inferInstanceAs (Decidable (∀ registration ∈ blueprint.registrations.values,
    ∀ action ∈ registration.script, action.wraps = false))

namespace Wiring

def Transparent (wiring : Wiring) : Prop :=
  Blueprint.Transparent ⟨wiring.registrations⟩

end Wiring

/-! ## Runs -/

/-- The site at which the constructor of a job runs. -/
def Job.site : Job → Site
  | .call provider context => ⟨provider.host, provider.key, context⟩
  | .create made _ => ⟨made.host, made.key, made.context⟩

/-- A job at the time when it is served, with the rounds that are left for what it nests. -/
structure Serving where
  bound : Nat
  job : Job
  store : Store

namespace World

/-- What a job needs its host for, unless its value is cached: a constructor with the context type that
it takes, begun in the store that comes last. A factory is handed out without a script. -/
inductive Works (world : World) (store : Store) :
    Job → Option TypeName → List Action → Store → Prop where
  | keeps {provider : Provider} {context : Context} {type : ValueType} {wanted : Option TypeName}
      {script : List Action}
      (hkind : world.wiring.kind? provider.host.component provider.key = some .scoped)
      (hfound : world.wiring.registrations.find? provider.key = some (.construct type wanted script))
      (hcell : store.cells.find? ⟨provider.host.stamp, provider.key⟩ = none) :
      world.Works store (.call provider context) wanted script
        (store.setCell ⟨provider.host.stamp, provider.key⟩ .building)
  | makes {provider : Provider} {context : Context} {type : ValueType} {wanted : Option TypeName}
      {script : List Action}
      (hkind : world.wiring.kind? provider.host.component provider.key = some .unscoped)
      (hfound : world.wiring.registrations.find? provider.key = some (.construct type wanted script)) :
      world.Works store (.call provider context) wanted script store
  | lends {provider : Provider} {context : Context} {product : TypeName} {script : List Action}
      (hkind : world.wiring.kind? provider.host.component provider.key = some .factory)
      (hfound : world.wiring.registrations.find? provider.key = some (.factory product script)) :
      world.Works store (.call provider context) none [] store
  | creates {made : AssistedFactory} {arguments : String} {product : TypeName}
      {script : List Action}
      (hfound : world.wiring.registrations.find? made.key = some (.factory product script)) :
      world.Works store (.create made arguments) none script store

/-- The constructor of a job, which is in its run of that number, comes to an action in a store. -/
inductive Comes (world : World) : Serving → Nat → Action → Store → Prop where
  | after {bound : Nat} {job : Job} {store inner middle : Store} {wanted : Option TypeName}
      {before rest : List Action} {action : Action} {progress : Progress}
      (hworks : world.Works store job wanted (before ++ action :: rest) inner)
      (halive : world.isAlive job.site.host = true)
      (hsupplied : ∀ type, wanted = some type → ∃ value, job.site.context.find? type = some value)
      (hrun : world.runScript (world.serveWithin bound) job.site
        (inner.callNumber job.site.constructorId) before ⟨[], []⟩
        (inner.start job.site.constructorId) = (.success, progress, middle)) :
      world.Comes ⟨bound + 1, job, store⟩ (inner.callNumber job.site.constructorId) action middle

/-! ## Failing steps -/

/-- The step that fails is one of the job itself: it has lost its host, it lacks the context value that
its constructor takes, or its constructor comes to an action that fails. -/
inductive Raises (world : World) : Serving → ResolveError → Prop where
  | dropped {bound : Nat} {job : Job} {store inner : Store} {wanted : Option TypeName}
      {script : List Action} (hworks : world.Works store job wanted script inner)
      (hdead : world.isAlive job.site.host = false) :
      world.Raises ⟨bound + 1, job, store⟩ (.componentDropped job.site.host.component)
  | unsupplied {bound : Nat} {job : Job} {store inner : Store} {type : TypeName}
      {script : List Action} (hworks : world.Works store job (some type) script inner)
      (halive : world.isAlive job.site.host = true)
      (hnone : job.site.context.find? type = none) :
      world.Raises ⟨bound + 1, job, store⟩ (.missingRuntimeContext job.site.key type)
  | custom {serving : Serving} {call : Nat} {text : String} {calls : List Nat}
      {contexts : List String} {middle : Store}
      (hcomes : world.Comes serving call (.fail text calls contexts) middle)
      (hcall : calls = [] ∨ call ∈ calls) :
      world.Raises serving (.custom serving.job.site.key text contexts)
  | refused {bound : Nat} {job : Job} {store middle : Store} {call : Nat} {wanted : Demand}
      {error : ResolveError}
      (hcomes : world.Comes ⟨bound + 1, job, store⟩ call (.demand wanted .propagate) middle)
      (hrefused : world.Refused (world.serveWithin bound) job.site middle wanted error) :
      world.Raises ⟨bound + 1, job, store⟩ error

/-- The constructor of a job returns the error of a job that it waits for. -/
inductive PassesOn (world : World) (error : ResolveError) : Serving → Serving → Prop where
  | demand {bound : Nat} {job nested : Job} {store middle last : Store} {call : Nat}
      {wanted : Demand}
      (hcomes : world.Comes ⟨bound + 1, job, store⟩ call (.demand wanted .propagate) middle)
      (hwaits : world.Waits (world.serveWithin bound) job.site middle wanted nested last)
      (hfails : (world.serveWithin bound nested last).1 = .error (.error error)) :
      world.PassesOn error ⟨bound + 1, job, store⟩ ⟨bound, nested, last⟩

/-- The job fails with the error that the innermost failing step has raised. -/
def Fails (world : World) (serving : Serving) (error : ResolveError) : Prop :=
  ∃ innermost, Relation.ReflTransGen (world.PassesOn error) serving innermost ∧
    world.Raises innermost error

/-- The sound graph behind a wiring, its constructors, which wrap no error, and the instances. -/
structure Transparent (graph : Graph) (known : Instance → Prop) (nextStamp : Nat)
    (world : World) : Prop where
  sound : graph.Sound
  plan : world.wiring.plan = .ofGraph graph
  fits : world.wiring.Fits
  transparent : world.wiring.Transparent
  census : Census known nextStamp
  follows : ∀ inst, known inst → inst.Follows graph.hierarchy

variable {graph : Graph} {known : Instance → Prop} {nextStamp : Nat} {world : World}
  {server : Server} {site : Site} {job : Job} {store inner later : Store} {error : ResolveError}

/-! ## Jobs -/

/-- How a run at a site fails. -/
inductive RunFails (world : World) (server : Server) (site : Site) (wanted : Option TypeName)
    (script : List Action) (store : Store) : ResolveError → Prop where
  | dropped (hdead : world.isAlive site.host = false) :
      world.RunFails server site wanted script store (.componentDropped site.host.component)
  | unsupplied {type : TypeName} (halive : world.isAlive site.host = true)
      (hwanted : wanted = some type) (hnone : site.context.find? type = none) :
      world.RunFails server site wanted script store (.missingRuntimeContext site.key type)
  | breaks {failure : Failure} {progress : Progress} {later : Store}
      (halive : world.isAlive site.host = true)
      (hsupplied : ∀ type, wanted = some type → ∃ value, site.context.find? type = some value)
      (hrun : world.runScript server site (store.callNumber site.constructorId) script ⟨[], []⟩
        (store.start site.constructorId) = (.failure failure, progress, later)) :
      world.RunFails server site wanted script store (failure.error site.key)

theorem runFails_of_construct {script : List Action} {extra : Extra} {wanted : Option TypeName}
    (halive : world.isAlive site.host = true)
    (hsupplied : ∀ type, wanted = some type → ∃ value, site.context.find? type = some value)
    (hresult : world.construct server site script extra store = (.error (.error error), later)) :
    world.RunFails server site wanted script store error := by
  cases constructed_of_construct hresult with
  | breaks hrun => exact .breaks halive hsupplied hrun
  | faults hrun => exact absurd rfl (runScript_fault hrun error)

theorem runFails_of_constructAt {script : List Action} {wanted : Option TypeName}
    (hresult : world.constructAt server site wanted script store = (.error (.error error), later)) :
    world.RunFails server site wanted script store error := by
  rcases constructAt_cases world site wanted script with
    ⟨other, hrejects, heq⟩ | ⟨extra, hadmits, heq⟩
  · rw [heq] at hresult
    cases hresult
    cases hrejects with
    | dropped hdead => exact .dropped hdead
    | unsupplied halive hnone => exact .unsupplied halive rfl hnone
  · rw [heq] at hresult
    exact runFails_of_construct hadmits.alive hadmits.finds hresult

theorem error_of_cached {id : EntryId} {fresh : Store → Outcome × Store}
    (hresult : cached id fresh store = (.error (.error error), later)) :
    store.cells.find? id = none ∧
      ∃ last, fresh (store.setCell id .building) = (.error (.error error), last) := by
  -- A value that is ready is no error, and one that is being built is a deadlock.
  cases recalled_of_cached hresult with
  | clears hnone hrun => exact ⟨hnone, _, hrun⟩
  | faults _ hfault _ => exact absurd rfl (hfault error)

/-- A founded job fails in the run that it takes. -/
theorem works_of_serveWithin (hfits : world.wiring.Fits) {bound : Nat}
    (hfounded : job.Founded world.wiring.plan)
    (hresult : world.serveWithin (bound + 1) job store = (.error (.error error), later)) :
    ∃ wanted script inner, world.Works store job wanted script inner ∧
      world.RunFails (world.serveWithin bound) job.site wanted script inner error := by
  cases job with
  | call provider context =>
    cases answered_of_serveWithin hresult with
    | fails hcall =>
      -- The kind of a founded job says which registration the blueprint has for it.
      rcases hfounded with ⟨kind, hkind, hyields⟩
      have hkind : world.wiring.kind? provider.host.component provider.key = some kind := hkind
      cases kind with
      | «scoped» =>
        rcases hfits.construct_of_kind hkind (Or.inl rfl) with ⟨type, wanted, script, hfound⟩
        simp only [call, hkind, hfound] at hcall
        rcases error_of_cached hcall with ⟨hcell, inner, hrun⟩
        exact ⟨_, _, _, .keeps hkind hfound hcell, runFails_of_constructAt hrun⟩
      | unscoped =>
        rcases hfits.construct_of_kind hkind (Or.inr rfl) with ⟨type, wanted, script, hfound⟩
        simp only [call, hkind, hfound] at hcall
        exact ⟨_, _, _, .makes hkind hfound, runFails_of_constructAt hcall⟩
      | factory =>
        rcases hfits.factory_of_kind hkind with ⟨product, script, hfound⟩
        simp only [call, hkind, hfound] at hcall
        split at hcall
        · simp at hcall
        · rename_i hdead
          cases hcall
          exact ⟨_, _, _, .lends hkind hfound, .dropped (Bool.eq_false_iff.2 hdead)⟩
      | aliasOf => exact hyields.elim
      | assistedOnly => exact hyields.elim
  | create made arguments =>
    rcases hfits.factory_of_kind hfounded with ⟨product, script, hfound⟩
    simp only [serveWithin, create, hfound] at hresult
    refine ⟨_, _, _, .creates hfound, ?_⟩
    split at hresult
    · rename_i halive
      exact runFails_of_construct halive (by simp) hresult
    · rename_i hdead
      cases hresult
      exact .dropped (Bool.eq_false_iff.2 hdead)

/-- A run that fails fails the job that takes it. -/
theorem RunFails.construct_eq {script : List Action} {extra : Extra} {failure : Failure}
    {progress : Progress}
    (hrun : world.runScript server site (store.callNumber site.constructorId) script ⟨[], []⟩
      (store.start site.constructorId) = (.failure failure, progress, later)) :
    (world.construct server site script extra store).1 = .error (.error (failure.error site.key)) := by
  simp [construct, hrun]

theorem RunFails.constructAt_eq {script : List Action} {wanted : Option TypeName}
    (h : world.RunFails server site wanted script store error) :
    (world.constructAt server site wanted script store).1 = .error (.error error) := by
  cases h with
  | dropped hdead => simp [constructAt, hdead]
  | unsupplied halive hwanted hnone => simp [constructAt, halive, hwanted, hnone]
  | breaks halive hsupplied hrun =>
    cases wanted with
    | none => simpa [constructAt, halive] using RunFails.construct_eq hrun
    | some type =>
      rcases hsupplied type rfl with ⟨value, hvalue⟩
      simpa [constructAt, halive, hvalue] using RunFails.construct_eq hrun

theorem cached_eq_error {id : EntryId} {fresh : Store → Outcome × Store}
    (hnone : store.cells.find? id = none)
    (hfresh : (fresh (store.setCell id .building)).1 = .error (.error error)) :
    (cached id fresh store).1 = .error (.error error) := by
  rcases hrun : fresh (store.setCell id .building) with ⟨outcome, inner⟩
  simp only [hrun] at hfresh
  subst hfresh
  simp [cached, hnone, hrun]

theorem Works.serveWithin_eq {wanted : Option TypeName} {script : List Action} {bound : Nat}
    (hworks : world.Works store job wanted script inner)
    (hfails : world.RunFails (world.serveWithin bound) job.site wanted script inner error) :
    (world.serveWithin (bound + 1) job store).1 = .error (.error error) := by
  -- A call that fails is not listed, so its error is that of the provider.
  have hcall : ∀ {provider : Provider} {context : Context},
      (world.call (world.serveWithin bound) provider context store).1 = .error (.error error) →
        (world.serveWithin (bound + 1) (.call provider context) store).1 =
          .error (.error error) := by
    intro provider context hfailed
    rcases hcalled : world.call (world.serveWithin bound) provider context store with
      ⟨outcome, last⟩
    simp only [hcalled] at hfailed
    subst hfailed
    simp only [(Answered.fails hcalled).serveWithin_eq]
  cases hworks with
  | keeps hkind hfound hcell =>
    apply hcall
    simp only [call, hkind, hfound]
    exact cached_eq_error hcell hfails.constructAt_eq
  | makes hkind hfound =>
    apply hcall
    simp only [call, hkind, hfound]
    exact hfails.constructAt_eq
  | @lends provider context _ _ hkind hfound =>
    apply hcall
    -- An empty script cannot fail, so only the host can be missing.
    cases hfails with
    | dropped hdead =>
      have hdead : world.isAlive provider.host = false := hdead
      simp [call, hkind, hfound, hdead, Job.site]
    | unsupplied _ hwanted _ => simp at hwanted
    | breaks _ _ hrun => simp [runScript] at hrun
  | @creates made arguments _ _ hfound =>
    cases hfails with
    | dropped hdead =>
      have hdead : world.isAlive made.host = false := hdead
      simp [serveWithin, create, hdead, Job.site]
    | unsupplied _ hwanted _ => simp at hwanted
    | breaks halive _ hrun =>
      have halive : world.isAlive made.host = true := halive
      simp only [serveWithin, create, halive, hfound, if_true]
      exact RunFails.construct_eq hrun

/-! ## Servers -/

theorem Comes.serveWithin_eq {serving : Serving} {call : Nat} {action : Action} {middle : Store}
    {failure : Failure} (hcomes : world.Comes serving call action middle)
    (hbreaks : world.Breaks (world.serveWithin (serving.bound - 1)) serving.job.site call middle
      action failure) :
    (world.serveWithin serving.bound serving.job serving.store).1 =
      .error (.error (failure.error serving.job.site.key)) := by
  cases hcomes with
  | after hworks halive hsupplied hrun =>
    rcases hbreaks.runScript_eq hrun with ⟨last, later, hfailed⟩
    exact hworks.serveWithin_eq (.breaks halive hsupplied hfailed)

/-- What is raised by a step of the job itself is the error of the job. -/
theorem Raises.serveWithin_eq {serving : Serving} (h : world.Raises serving error) :
    (world.serveWithin serving.bound serving.job serving.store).1 = .error (.error error) := by
  cases h with
  | dropped hworks hdead => exact hworks.serveWithin_eq (.dropped hdead)
  | unsupplied hworks halive hnone => exact hworks.serveWithin_eq (.unsupplied halive rfl hnone)
  | custom hcomes hcall => exact hcomes.serveWithin_eq (.own hcall)
  | refused hcomes hrefused =>
    exact hcomes.serveWithin_eq (.returns (Prod.ext hrefused.demand_eq rfl))

/-- The error of a nested job is passed on. -/
theorem PassesOn.serveWithin_eq {serving nested : Serving}
    (h : world.PassesOn error serving nested) :
    (world.serveWithin serving.bound serving.job serving.store).1 = .error (.error error) := by
  cases h with
  | demand hcomes hwaits hfails =>
    exact hcomes.serveWithin_eq (.returns (Prod.ext (hwaits.demand_eq hfails) rfl))

theorem Fails.serveWithin_eq {serving : Serving} (h : world.Fails serving error) :
    (world.serveWithin serving.bound serving.job serving.store).1 = .error (.error error) := by
  rcases h with ⟨innermost, hpasses, hraises⟩
  rcases hpasses.cases_head with rfl | ⟨nested, hnested, _⟩
  · exact hraises.serveWithin_eq
  · exact hnested.serveWithin_eq

section Servers

variable (h : world.Transparent graph known nextStamp)

include h

/-- The scripts that jobs run wrap no error. -/
theorem Works.wraps_eq_false {wanted : Option TypeName} {script : List Action}
    (hworks : world.Works store job wanted script inner) {action : Action}
    (haction : action ∈ script) : action.wraps = false := by
  have hregistered : ∀ {key : Key} {registration : Registration},
      world.wiring.registrations.find? key = some registration →
        action ∈ registration.script → action.wraps = false := by
    intro key registration hfound hmem
    exact h.transparent registration ((Table.mem_values_iff _).2 ⟨key, hfound⟩) action hmem
  cases hworks with
  | keeps _ hfound _ => exact hregistered hfound haction
  | makes _ hfound => exact hregistered hfound haction
  | lends => simp at haction
  | creates hfound => exact hregistered hfound haction

/-- The store in which a job begins is as good as the one that it was asked in. -/
theorem Works.keeps_store {wanted : Option TypeName} {script : List Action}
    (hworks : world.Works store job wanted script inner) (hjob : job.Known known)
    (hstore : store.Consistent (.ofGraph graph) known) (hcached : store.Founded (.ofGraph graph)) :
    inner.Consistent (.ofGraph graph) known ∧ inner.Founded (.ofGraph graph) := by
  cases hworks with
  | @keeps provider _ _ _ _ hkind _ hcell =>
    have hkind : (Plan.ofGraph graph).kind? provider.host.component provider.key =
        some .scoped := by
      rw [← h.plan]
      exact hkind
    exact ⟨hstore.build h.census hjob hkind hcell, hcached.setCell (by simp)⟩
  | makes => exact ⟨hstore, hcached⟩
  | lends => exact ⟨hstore, hcached⟩
  | creates => exact ⟨hstore, hcached⟩

/-- Whatever a constructor waits for is known and founded, and so is the store by then. -/
theorem Waits.keeps_job {bound : Nat} {middle last : Store} {wanted : Demand} {nested : Job}
    (hsite : known site.host) (hstore : middle.Consistent (.ofGraph graph) known)
    (hcached : middle.Founded (.ofGraph graph))
    (hwaits : world.Waits (world.serveWithin bound) site middle wanted nested last) :
    (nested.Known known ∧ nested.Founded (.ofGraph graph)) ∧
      last.Consistent (.ofGraph graph) known ∧ last.Founded (.ofGraph graph) := by
  cases hwaits with
  | call _ hprovider =>
    exact ⟨⟨h.census.of_provider hsite hprovider, h.plan ▸ Wiring.founded_of_provider hprovider⟩,
      hstore, hcached⟩
  | create hrequest =>
    have hfaithful := serveWithin_faithful h.census h.fits h.plan bound
    rcases request_grows h.census hfaithful hsite hstore hrequest with ⟨hgrows, hknown⟩
    rcases request_founds h.plan (serveWithin_founds h.plan bound) hcached hrequest with
      ⟨hlast, hfounded⟩
    exact ⟨⟨(hknown _ _ rfl).2, (hfounded _ _ rfl).2⟩, hgrows.consistent, hlast⟩

/-- Every failure of a job has been raised by the innermost step that failed. -/
theorem serveWithin_fails {bound : Nat} (hjob : job.Known known)
    (hfounded : job.Founded (.ofGraph graph)) (hstore : store.Consistent (.ofGraph graph) known)
    (hcached : store.Founded (.ofGraph graph))
    (hresult : world.serveWithin bound job store = (.error (.error error), later)) :
    world.Fails ⟨bound, job, store⟩ error := by
  -- Each nested job is served with one round less, which the induction is on.
  induction bound generalizing job store later with
  | zero => simp [serveWithin] at hresult
  | succ bound ih =>
    have hsite : known job.site.host := by
      cases job <;> exact hjob
    rcases works_of_serveWithin h.fits (h.plan ▸ hfounded) hresult with
      ⟨wanted, script, inner, hworks, hfails⟩
    rcases hworks.keeps_store h hjob hstore hcached with ⟨hinner, hopened⟩
    cases hfails with
    | dropped hdead => exact ⟨_, .refl, .dropped hworks hdead⟩
    | unsupplied halive hwanted hnone =>
      subst hwanted
      exact ⟨_, .refl, .unsupplied hworks halive hnone⟩
    | breaks halive hsupplied hrun =>
      rename_i failure progress last
      rcases runScript_breaks hrun with
        ⟨before, action, rest, middle, reached, rfl, hbefore, hbreaks⟩
      have hcomes : world.Comes ⟨bound + 1, job, store⟩ _ action middle :=
        .after hworks halive hsupplied hbefore
      have hwraps := hworks.wraps_eq_false h (List.mem_append_right _ List.mem_cons_self)
      -- The actions before have left the store in order.
      have hfaithful := serveWithin_faithful h.census h.fits h.plan bound
      have hmiddle :=
        (runScript_grows h.census hfaithful hsite hinner.start (by simp) hbefore).1.consistent
      have hreached : middle.Founded (.ofGraph graph) :=
        (runScript_founds h.plan (serveWithin_founds h.plan bound)
          (by exact hopened) (by simp) hbefore).1
      cases hbreaks with
      | own hcall => exact ⟨_, .refl, .custom hcomes hcall⟩
      | wraps => simp [Action.wraps] at hwraps
      | returns hdemand =>
        have hlookup : ∀ {key type error},
            world.wiring.provider job.site.host key type = .error error →
              world.wiring.Refuses job.site.host key type error :=
          fun herror => Wiring.refuses_of_provider h.sound h.plan h.fits (h.follows _ hsite) herror
        rcases demand_fails hlookup hdemand with hrefused | ⟨nested, last, hwaits, hfailed⟩
        · exact ⟨_, .refl, .refused hcomes hrefused⟩
        · -- The nested job has fewer rounds left, and its error is the one that is returned.
          rcases hwaits.keeps_job h hsite hmiddle hreached with
            ⟨⟨hnested, hbehind⟩, hlast, hkept⟩
          rcases ih hnested hbehind hlast hkept (Prod.ext hfailed rfl) with
            ⟨innermost, hpasses, hraises⟩
          exact ⟨innermost, .head (.demand hcomes hwaits hfailed) hpasses, hraises⟩

end Servers

end World

/-! ## Errors -/

/-- The error speaks for itself: no other error is the cause of it. -/
def ResolveError.Plain (error : ResolveError) : Prop :=
  ∀ key source, error ≠ .dependency key source ∧ error ≠ .wrapped key source

theorem Wiring.Refuses.plain {wiring : Wiring} {inst : Instance} {key : Key} {type : ValueType}
    {error : ResolveError} (h : wiring.Refuses inst key type error) : error.Plain := by
  induction h with
  | target _ _ _ _ ih => exact ih
  | source _ _ _ _ ih => exact ih
  | _ => simp [ResolveError.Plain]

theorem World.Raises.plain {world : World} {serving : Serving} {error : ResolveError}
    (h : world.Raises serving error) : error.Plain := by
  cases h with
  | refused _ hrefused =>
    cases hrefused with
    | lookup _ _ hrefuses => exact hrefuses.plain
    | _ => simp [ResolveError.Plain]
  | _ => simp [ResolveError.Plain]

theorem World.Fails.plain {world : World} {serving : Serving} {error : ResolveError}
    (h : world.Fails serving error) : error.Plain := by
  rcases h with ⟨_, _, hraises⟩
  exact hraises.plain

end ObjectGraph
