import ObjectGraph.Proofs.Live.Cast

/-!
# Courses — how scripts, constructions and calls get to their ends

A script goes from action to action until one of them ends it. Facts about scripts are shown along this
course, by one case for each kind of step, without another look at how scripts are run. What comes of a
construction, of a cell and of a job is listed in the same way.

* `World.Course`, `World.course_of_runScript`, `World.Course.runScript_eq` — the course of a script;
* `World.Course.append` — what comes after a success;
* `World.Constructed`, `World.constructed_of_construct` — one run of a constructor;
* `World.Rejects`, `World.Admits`, `World.constructAt_cases` — whether there is a run at a site;
* `World.Recalled`, `World.recalled_of_cached` — a value that may be cached;
* `World.Called`, `World.called_of_call` — a call of a provider;
* `World.Created`, `World.created_of_create` — a creation with a factory;
* `World.Answered`, `World.answered_of_serveWithin`, `World.Answered.serveWithin_eq` — a call that is
  served, through casts.
-/

namespace ObjectGraph
namespace World

/-- How a script runs to its end. An error of a demand ends it, unless it is noted. -/
inductive Course (world : World) (server : Server) (site : Site) (call : Nat) :
    List Action → Progress → Store → Ending → Progress → Store → Prop where
  | done {progress : Progress} {store : Store} :
      Course world server site call [] progress store .success progress store
  | fails {text : String} {calls : List Nat} {contexts : List String} {rest : List Action}
      {progress : Progress} {store : Store}
      (hcall : (calls.isEmpty || calls.contains call) = true) :
      Course world server site call (.fail text calls contexts :: rest) progress store
        (.failure (.custom text contexts)) progress store
  | passes {text : String} {calls : List Nat} {contexts : List String} {rest : List Action}
      {progress last : Progress} {store later : Store} {ending : Ending}
      (hcall : ¬ (calls.isEmpty || calls.contains call) = true)
      (hrest : Course world server site call rest progress store ending last later) :
      Course world server site call (.fail text calls contexts :: rest) progress store
        ending last later
  | answered {wanted : Demand} {onError : OnError} {rest : List Action}
      {progress last : Progress} {store middle later : Store} {ending : Ending} {reply : Reply}
      (hdemand : world.demand server site wanted store = (.ok reply, middle))
      (hrest : Course world server site call rest
        ⟨progress.saw ++ [reply.saw], progress.kept ++ reply.kept⟩ middle ending last later) :
      Course world server site call (.demand wanted onError :: rest) progress store
        ending last later
  | returns {wanted : Demand} {rest : List Action} {progress : Progress} {store middle : Store}
      {error : ResolveError}
      (hdemand : world.demand server site wanted store = (.error (.error error), middle)) :
      Course world server site call (.demand wanted .propagate :: rest) progress store
        (.failure (.dependency error)) progress middle
  | wraps {wanted : Demand} {rest : List Action} {progress : Progress} {store middle : Store}
      {error : ResolveError}
      (hdemand : world.demand server site wanted store = (.error (.error error), middle)) :
      Course world server site call (.demand wanted .wrap :: rest) progress store
        (.failure (.wrapped error)) progress middle
  | notes {wanted : Demand} {rest : List Action} {progress last : Progress}
      {store middle later : Store} {ending : Ending} {error : ResolveError}
      (hdemand : world.demand server site wanted store = (.error (.error error), middle))
      (hrest : Course world server site call rest
        { progress with saw := progress.saw ++ [.failure error] } middle ending last later) :
      Course world server site call (.demand wanted .record :: rest) progress store
        ending last later
  | faults {wanted : Demand} {onError : OnError} {rest : List Action} {progress : Progress}
      {store middle : Store} {fault : Fault}
      (hdemand : world.demand server site wanted store = (.error fault, middle))
      (hfault : ∀ error, fault ≠ .error error) :
      Course world server site call (.demand wanted onError :: rest) progress store
        (.fault fault) progress middle

variable {world : World} {server : Server} {site : Site} {call : Nat} {script : List Action}
  {progress last : Progress} {store later : Store} {ending : Ending}

theorem course_of_runScript
    (h : world.runScript server site call script progress store = (ending, last, later)) :
    world.Course server site call script progress store ending last later := by
  induction script generalizing progress store with
  | nil =>
    cases h
    exact .done
  | cons action rest ih =>
    cases action with
    | fail text calls contexts =>
      simp only [runScript] at h
      split at h
      · next hcall =>
        cases h
        exact .fails hcall
      · next hcall => exact .passes hcall (ih h)
    | demand wanted onError =>
      simp only [runScript] at h
      split at h
      · next reply middle hdemand => exact .answered hdemand (ih h)
      · next error middle hdemand =>
        cases onError with
        | propagate =>
          cases h
          exact .returns hdemand
        | wrap =>
          cases h
          exact .wraps hdemand
        | record => exact .notes hdemand (ih h)
      · next fault middle hfault hdemand =>
        cases h
        exact .faults hdemand hfault

theorem Course.runScript_eq
    (h : world.Course server site call script progress store ending last later) :
    world.runScript server site call script progress store = (ending, last, later) := by
  induction h with
  | done => rfl
  | fails hcall => simp only [runScript, if_pos hcall]
  | passes hcall _ ih => simpa only [runScript, if_neg hcall] using ih
  | answered hdemand _ ih => simpa only [runScript, hdemand] using ih
  | returns hdemand => simp only [runScript, hdemand]
  | wraps hdemand => simp only [runScript, hdemand]
  | notes hdemand _ ih => simpa only [runScript, hdemand] using ih
  | faults hdemand hfault =>
    rename_i fault
    cases fault with
    | error error => exact absurd rfl (hfault error)
    | _ => simp only [runScript, hdemand]

/-- What succeeds leads to what comes next. -/
theorem Course.append {before rest : List Action} {reached : Progress} {middle : Store}
    (h : world.Course server site call before progress store .success reached middle)
    (hrest : world.Course server site call rest reached middle ending last later) :
    world.Course server site call (before ++ rest) progress store ending last later := by
  generalize hsuccess : Ending.success = outcome at h
  induction h with
  | done => exact hrest
  | passes hcall _ ih => exact .passes hcall (ih hrest hsuccess)
  | answered hdemand _ ih => exact .answered hdemand (ih hrest hsuccess)
  | notes hdemand _ ih => exact .notes hdemand (ih hrest hsuccess)
  | _ => simp at hsuccess

/-! ## Constructions -/

/-- How a construction goes. What the script ends with decides what the event says, if there is one. -/
inductive Constructed (world : World) (server : Server) (site : Site) (script : List Action)
    (extra : Extra) (store : Store) : Outcome → Store → Prop where
  | yields {progress : Progress} {inner : Store}
      (hscript : world.runScript server site (store.callNumber site.constructorId) script ⟨[], []⟩
        (store.start site.constructorId) = (.success, progress, inner)) :
      Constructed world server site script extra store (.ok (.object store.nextSerial progress.kept))
        (inner.record ⟨store.nextSerial, site.key, site.host.frame, progress.saw, extra, false⟩)
  | breaks {failure : Failure} {progress : Progress} {inner : Store}
      (hscript : world.runScript server site (store.callNumber site.constructorId) script ⟨[], []⟩
        (store.start site.constructorId) = (.failure failure, progress, inner)) :
      Constructed world server site script extra store (.error (.error (failure.error site.key)))
        (inner.record ⟨store.nextSerial, site.key, site.host.frame, progress.saw, extra, true⟩)
  | faults {fault : Fault} {progress : Progress} {inner : Store}
      (hscript : world.runScript server site (store.callNumber site.constructorId) script ⟨[], []⟩
        (store.start site.constructorId) = (.fault fault, progress, inner)) :
      Constructed world server site script extra store (.error fault) inner

variable {extra : Extra} {outcome : Outcome}

theorem constructed_of_construct
    (h : world.construct server site script extra store = (outcome, later)) :
    world.Constructed server site script extra store outcome later := by
  simp only [construct] at h
  split at h
  · next hscript =>
    cases h
    exact .yields hscript
  · next hscript =>
    cases h
    exact .breaks hscript
  · next hscript =>
    cases h
    exact .faults hscript

theorem Constructed.construct_eq (h : world.Constructed server site script extra store outcome later) :
    world.construct server site script extra store = (outcome, later) := by
  cases h with
  | yields hscript => simp only [construct, hscript]
  | breaks hscript => simp only [construct, hscript]
  | faults hscript => simp only [construct, hscript]

/-- What a site lacks for a run. -/
inductive Rejects (world : World) (site : Site) : Option TypeName → ResolveError → Prop where
  | dropped {wanted : Option TypeName} (hdead : world.isAlive site.host = false) :
      Rejects world site wanted (.componentDropped site.host.component)
  | unsupplied {type : TypeName} (halive : world.isAlive site.host = true)
      (hnone : site.context.find? type = none) :
      Rejects world site (some type) (.missingRuntimeContext site.key type)

/-- A site has all that a run takes, which gets the value of the context that it wants. -/
inductive Admits (world : World) (site : Site) : Option TypeName → Extra → Prop where
  | alone (halive : world.isAlive site.host = true) : Admits world site none .nothing
  | supplied {type : TypeName} {value : String} (halive : world.isAlive site.host = true)
      (hvalue : site.context.find? type = some value) :
      Admits world site (some type) (.context value)

namespace Admits

variable {wanted : Option TypeName} (h : world.Admits site wanted extra)

include h

theorem alive : world.isAlive site.host = true := by
  cases h with
  | alone halive => exact halive
  | supplied halive _ => exact halive

theorem finds : ∀ type, wanted = some type → ∃ value, site.context.find? type = some value := by
  cases h with
  | alone _ => simp
  | supplied _ hvalue =>
    rintro type ⟨⟩
    exact ⟨_, hvalue⟩

end Admits

/-- The site alone decides whether there is a run. -/
theorem constructAt_cases (world : World) (site : Site) (wanted : Option TypeName)
    (script : List Action) :
    (∃ error, world.Rejects site wanted error ∧ ∀ server store,
      world.constructAt server site wanted script store = (.error (.error error), store)) ∨
    ∃ extra, world.Admits site wanted extra ∧ ∀ server store,
      world.constructAt server site wanted script store =
        world.construct server site script extra store := by
  cases halive : world.isAlive site.host with
  | false => exact Or.inl ⟨_, .dropped halive, fun _ _ => by simp [constructAt, halive]⟩
  | true =>
    cases wanted with
    | none => exact Or.inr ⟨_, .alone halive, fun _ _ => by simp only [constructAt, halive, if_true]⟩
    | some type =>
      cases hvalue : site.context.find? type with
      | none =>
        exact Or.inl ⟨_, .unsupplied halive hvalue, fun _ _ => by
          simp only [constructAt, halive, if_true, hvalue]⟩
      | some value =>
        exact Or.inr ⟨_, .supplied halive hvalue, fun _ _ => by
          simp only [constructAt, halive, if_true, hvalue]⟩

/-! ## Cells -/

/-- How a value is got that may be cached. A cell that is empty is filled by the value that is made. -/
inductive Recalled (id : EntryId) (fresh : Store → Outcome × Store) (store : Store) :
    Outcome → Store → Prop where
  | ready {value : Value} (hcell : store.cells.find? id = some (.ready value)) :
      Recalled id fresh store (.ok value) store
  | building (hcell : store.cells.find? id = some .building) :
      Recalled id fresh store (.error .deadlock) store
  | fills {value : Value} {inner : Store} (hcell : store.cells.find? id = none)
      (hrun : fresh (store.setCell id .building) = (.ok value, inner)) :
      Recalled id fresh store (.ok value) (inner.setCell id (.ready value))
  | clears {error : ResolveError} {inner : Store} (hcell : store.cells.find? id = none)
      (hrun : fresh (store.setCell id .building) = (.error (.error error), inner)) :
      Recalled id fresh store (.error (.error error)) (inner.clearCell id)
  | faults {fault : Fault} {inner : Store} (hcell : store.cells.find? id = none)
      (hfault : ∀ error, fault ≠ .error error)
      (hrun : fresh (store.setCell id .building) = (.error fault, inner)) :
      Recalled id fresh store (.error fault) inner

variable {id : EntryId} {fresh : Store → Outcome × Store}

theorem recalled_of_cached (h : cached id fresh store = (outcome, later)) :
    Recalled id fresh store outcome later := by
  simp only [cached] at h
  split at h
  · next hcell =>
    cases h
    exact .ready hcell
  · next hcell =>
    cases h
    exact .building hcell
  · next hcell =>
    split at h
    · next hrun =>
      cases h
      exact .fills hcell hrun
    · next hrun =>
      cases h
      exact .clears hcell hrun
    · next hfault hrun =>
      cases h
      exact .faults hcell hfault hrun

theorem Recalled.cached_eq (h : Recalled id fresh store outcome later) :
    cached id fresh store = (outcome, later) := by
  cases h with
  | ready hcell => simp only [cached, hcell]
  | building hcell => simp only [cached, hcell]
  | fills hcell hrun => simp only [cached, hcell, hrun]
  | clears hcell hrun => simp only [cached, hcell, hrun]
  | @faults fault inner hcell hfault hrun =>
    cases fault with
    | error error => exact absurd rfl (hfault error)
    | _ => simp only [cached, hcell, hrun]

/-! ## Jobs -/

/-- How a call goes. The kind of the entry and the registration of the key decide what it does. -/
inductive Called (world : World) (server : Server) (provider : Provider) (context : Context)
    (store : Store) : Outcome → Store → Prop where
  | caches {type : ValueType} {wanted : Option TypeName} {script : List Action}
      {outcome : Outcome} {later : Store}
      (hkind : world.wiring.kind? provider.host.component provider.key = some .scoped)
      (hfound : world.wiring.registrations.find? provider.key =
        some (.construct type wanted script))
      (hcached : cached ⟨provider.host.stamp, provider.key⟩
        (world.constructAt server ⟨provider.host, provider.key, context⟩ wanted script) store =
          (outcome, later)) :
      Called world server provider context store outcome later
  | constructs {type : ValueType} {wanted : Option TypeName} {script : List Action}
      {outcome : Outcome} {later : Store}
      (hkind : world.wiring.kind? provider.host.component provider.key = some .unscoped)
      (hfound : world.wiring.registrations.find? provider.key =
        some (.construct type wanted script))
      (hrun : world.constructAt server ⟨provider.host, provider.key, context⟩ wanted script store =
        (outcome, later)) :
      Called world server provider context store outcome later
  | lends {product : TypeName} {script : List Action}
      (hkind : world.wiring.kind? provider.host.component provider.key = some .factory)
      (hfound : world.wiring.registrations.find? provider.key = some (.factory product script))
      (halive : world.isAlive provider.host = true) :
      Called world server provider context store
        (.ok (.factory ⟨provider.host, provider.key, context, product⟩)) store
  | dropped (hkind : world.wiring.kind? provider.host.component provider.key = some .factory)
      (hdead : ¬ world.isAlive provider.host = true) :
      Called world server provider context store
        (.error (.error (.componentDropped provider.host.component))) store
  | missing :
      Called world server provider context store
        (.error (.error (.noProviderFound provider.key))) store

theorem called_of_call {provider : Provider} {context : Context}
    (h : world.call server provider context store = (outcome, later)) :
    world.Called server provider context store outcome later := by
  simp only [call] at h
  split at h
  · next hkind hfound => exact .caches hkind hfound h
  · next hkind hfound => exact .constructs hkind hfound h
  · next hkind hfound =>
    split at h
    · next halive =>
      cases h
      exact .lends hkind hfound halive
    · next hdead =>
      cases h
      exact .dropped hkind hdead
  · cases h
    exact .missing

/-- How a creation goes. Its script is run at the host of the factory. -/
inductive Created (world : World) (server : Server) (factory : AssistedFactory)
    (arguments : String) (store : Store) : Outcome → Store → Prop where
  | constructs {product : TypeName} {script : List Action} {outcome : Outcome} {later : Store}
      (hfound : world.wiring.registrations.find? factory.key = some (.factory product script))
      (halive : world.isAlive factory.host = true)
      (hrun : world.construct server ⟨factory.host, factory.key, factory.context⟩ script
        (.arguments arguments) store = (outcome, later)) :
      Created world server factory arguments store outcome later
  | dropped (hdead : ¬ world.isAlive factory.host = true) :
      Created world server factory arguments store
        (.error (.error (.componentDropped factory.host.component))) store
  | missing :
      Created world server factory arguments store
        (.error (.error (.noProviderFound factory.key))) store

theorem created_of_create {factory : AssistedFactory} {arguments : String}
    (h : world.create server factory arguments store = (outcome, later)) :
    world.Created server factory arguments store outcome later := by
  simp only [create] at h
  split at h
  · next halive =>
    split at h
    · next hfound => exact .constructs hfound halive h
    · cases h
      exact .missing
  · next hdead =>
    cases h
    exact .dropped hdead

/-- How a call is served. What the entry yields is listed and then cast, and nothing else is done to
it. -/
inductive Answered (world : World) (server : Server) (provider : Provider) (context : Context)
    (store : Store) : Outcome → Store → Prop where
  | yields {value : Value} {inner : Store}
      (hcall : world.call server provider context store = (.ok value, inner)) :
      Answered world server provider context store
        (.ok (world.wiring.castAlong provider.casts value)) (inner.noteServed provider value)
  | fails {fault : Fault} {inner : Store}
      (hcall : world.call server provider context store = (.error fault, inner)) :
      Answered world server provider context store (.error fault) inner

theorem answered_of_serveWithin {bound : Nat} {provider : Provider} {context : Context}
    (h : world.serveWithin (bound + 1) (.call provider context) store = (outcome, later)) :
    world.Answered (world.serveWithin bound) provider context store outcome later := by
  simp only [serveWithin, callThrough_eq, callEntry] at h
  split at h
  · next hcall =>
    cases h
    exact .yields hcall
  · next hcall =>
    cases h
    exact .fails hcall

theorem Answered.serveWithin_eq {bound : Nat} {provider : Provider} {context : Context}
    (h : world.Answered (world.serveWithin bound) provider context store outcome later) :
    world.serveWithin (bound + 1) (.call provider context) store = (outcome, later) := by
  cases h with
  | yields hcall =>
    simp only [serveWithin, callThrough_eq, callEntry, hcall]
    rfl
  | fails hcall =>
    simp only [serveWithin, callThrough_eq, callEntry, hcall]
    rfl

end World
end ObjectGraph
