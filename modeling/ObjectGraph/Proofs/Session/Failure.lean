import ObjectGraph.Proofs.Session.Candid
import ObjectGraph.Proofs.Session.Liveness
import ObjectGraph.Proofs.Session.Located

/-!
# Failed requests — the caller gets the error that was raised

A request of a session fails because its key is refused, or because the job fails that it has served.
In both cases the answer is the error of the step that went wrong, whatever lies between that step and
the caller.

* `Session.Misses` — requests that fail before a job is served;
* `Session.Fails`, `Session.step_fails` — all requests that fail, and their answers;
* `errors_reach_the_caller_unwrapped` — the failed requests of any reachable session.
-/

namespace ObjectGraph

namespace Session

/-- A request fails before a job is served: the context slot is empty, no component hosts the key, or
the instance that was found refuses it. -/
inductive Misses (session : Session) : Step → ResolveError → Prop where
  | uninitialized {contextSlot : String} {key : Key} {type : ValueType} {context : Context}
      {into : Option String}
      (hnone : (session.contextSlots.find? contextSlot).bind session.graphs.find? = none) :
      session.Misses (.inject contextSlot key type context into) (.context .notInitialized)
  | unhosted {step : Step} {live : LiveGraph} {key : Key} {type : ValueType} {context : Context}
      (hsends : session.Sends step live key type context)
      (hnone : live.wiring.plan.dispatch.find? key = none) :
      session.Misses step (.noProviderFound key)
  | refused {step : Step} {live : LiveGraph} {middle : Session} {inst : Instance} {key : Key}
      {type : ValueType} {context : Context} {error : ResolveError}
      (hseeks : session.Seeks step live middle inst key type context)
      (hprovider : live.wiring.provider inst key type = .error error)
      (hrefuses : live.wiring.Refuses inst key type error) : session.Misses step error

/-- The request fails with an error that was raised before its job is served, or in the innermost step
that failed while it was. -/
def Fails (session : Session) (step : Step) (error : ResolveError) : Prop :=
  session.Misses step error ∨ ∃ live middle job, session.Employs step live middle job ∧
    (World.mk live.wiring middle.alive).Fails ⟨live.wiring.depthBound, job, middle.store⟩ error

theorem Fails.plain {session : Session} {step : Step} {error : ResolveError}
    (h : session.Fails step error) : error.Plain := by
  rcases h with hmisses | ⟨_, _, _, _, hfails⟩
  · cases hmisses with
    | refused _ _ hrefuses => exact hrefuses.plain
    | _ => simp [ResolveError.Plain]
  · exact hfails.plain

/-- Whatever a request fails with is its answer. -/
theorem Fails.step_eq {session : Session} {step : Step} {error : ResolveError}
    (h : session.Fails step error) : (session.step step).1 = .failed error := by
  rcases h with hmisses | ⟨live, middle, job, hemploys, hfails⟩
  · cases hmisses with
    | uninitialized hnone => simp [Session.step, inject, hnone]
    | unhosted hsends hnone =>
      cases hsends with
      | get hlive =>
        simp [Session.step, Session.get, hlive, getFromGraph, dispatch, LiveGraph.dispatch,
          LiveGraph.host, hnone]
      | inject hid hlive =>
        simp [Session.step, Session.inject, hid, hlive, getFromGraph, dispatch,
          LiveGraph.dispatch, LiveGraph.host, hnone]
    | refused hseeks hprovider _ =>
      rcases hseeks.step_eq with ⟨into, hstep⟩
      simp only [hstep, getFrom, hprovider]
  · rcases hemploys.step_eq with ⟨into, hstep⟩
    rw [hstep]
    exact serve_failed (Prod.ext hfails.serveWithin_eq rfl)

/-- What a job is about came out of a lookup, be it now or when it was put into a slot. -/
theorem Candid.founded_of_employs {plan : Plan} {session middle : Session} {step : Step}
    {live : LiveGraph} {job : Job} (h : session.Candid plan)
    (hemploys : session.Employs step live middle job) : job.Founded plan := by
  cases hemploys with
  | sought hseeks hprovider =>
    rcases hseeks.find? with ⟨id, hlive⟩
    exact (h.wirings id live hlive).1 ▸ Wiring.founded_of_provider hprovider
  | stored hprovider _ => exact h.slots _ _ (find?_of_provider? hprovider)
  | kept hvalue hprovider _ => exact h.slots _ _ hvalue _ (List.mem_of_getElem? hprovider)
  | creates hvalue _ => exact h.slots _ _ hvalue

section Requests

variable {built : Graph} {known : Instance → Prop} {session later : Session} {live : LiveGraph}
  {step : Step} {error : ResolveError} (hsound : built.Sound) (h : session.Coherent built known)

include hsound h

/-- A live graph has an instance for every hosted key, so only other keys are refused by it. -/
theorem Sends.misses {key : Key} {type : ValueType} {context : Context}
    (hsends : session.Sends step live key type context)
    (hdispatch : session.dispatch live key = .error error) : session.Misses step error := by
  rcases hsends.find? with ⟨id, hlive⟩
  cases hentry : live.wiring.plan.dispatch.find? key with
  | none =>
    have hfailed : session.dispatch live key = .error (.noProviderFound key) := by
      simp [dispatch, LiveGraph.dispatch, LiveGraph.host, hentry]
    cases hdispatch.symm.trans hfailed
    exact .unhosted hsends hentry
  | some component =>
    have hplan := (h.graphs id live hlive).2.plan
    rcases dispatch_ok hsound h hlive (hplan ▸ hentry) with ⟨inst, middle, hok, _⟩
    simp [hok] at hdispatch

theorem Seeks.misses {inst : Instance} {key : Key} {type : ValueType} {context : Context}
    (hseeks : session.Seeks step live later inst key type context)
    (hprovider : live.wiring.provider inst key type = .error error) :
    session.Misses step error := by
  rcases hseeks.find? with ⟨id, hlive⟩
  have hgraph := (h.graphs id live hlive).2
  rcases hseeks.meets.goes h hsound.rooted with ⟨more, hgoes, hinst⟩
  exact .refused hseeks hprovider (Wiring.refuses_of_provider hsound hgraph.plan hgraph.fits
    (hgoes.coherent.follows inst hinst) hprovider)

variable (hcandid : session.Candid (.ofGraph built))

include hcandid

theorem serve_fails (hlive : live.Coherent built known session.store.nextStamp)
    (htransparent : live.wiring.Transparent) {job : Job} (hjob : job.Known known)
    (hfounded : job.Founded (.ofGraph built)) {type : ValueType} {into : Option String}
    (hanswer : (session.serve live job type into).1 = .failed error) :
    (World.mk live.wiring session.alive).Fails ⟨live.wiring.depthBound, job, session.store⟩
      error := by
  have hworld : (World.mk live.wiring session.alive).Transparent built known
      session.store.nextStamp :=
    ⟨hsound, hlive.plan, hlive.fits, htransparent, h.census, h.follows⟩
  rcases outcome_of_serve_failed hanswer with ⟨store, hserve⟩
  exact World.serveWithin_fails hworld hjob hfounded h.store hcandid.cells hserve

theorem Does.fails {answer : Answer} (hdoes : session.Does step answer later)
    (hstep : step.Requests) (hanswer : answer = .failed error) : session.Fails step error := by
  cases hdoes with
  | serves hemploys =>
    rcases hemploys.goes h hsound.rooted with ⟨more, hgoes, hjob, hlive⟩
    rcases hemploys.find? with ⟨id, hfind⟩
    exact Or.inr ⟨_, _, _, hemploys, serve_fails hsound hgoes.coherent
      (hcandid.opens hemploys.opens) hlive (hcandid.wirings id _ hfind).2 hjob
      (hcandid.founded_of_employs hemploys) hanswer⟩
  | refuses hseeks hprovider =>
    cases hanswer
    exact Or.inl (hseeks.misses hsound h hprovider)
  | unsent hsends hdispatch =>
    cases hanswer
    exact Or.inl (hsends.misses hsound h hdispatch)
  | uninitialized hinject hnone =>
    cases hanswer
    subst hinject
    exact Or.inl (.uninitialized hnone)
  | lost hinst hnone =>
    -- An instance that is still held belongs to a live graph of the session.
    rcases h.home _ (h.known_of_reaches hinst) with ⟨live, hlive⟩
    simp [hnone] at hlive
  | fills _ _ hother _ | empties hother _ => exact absurd hstep hother
  | destroys hdestroy _ _ =>
    subst hdestroy
    exact hstep.elim
  | builds hbuild _ =>
    subst hbuild
    exact hstep.elim
  | answers _ _ hfailed => exact absurd hanswer (hfailed hstep error)

/-- A request that is answered with an error has failed with it. -/
theorem step_fails (hstep : step.Requests) (hanswer : (session.step step).1 = .failed error) :
    session.Fails step error :=
  (does_step session step).fails hsound h hcandid hstep hanswer

end Requests
end Session

/-- If the constructors of all accepted blueprints wrap no error of a demand, a request is answered
with an error exactly if that is the error raised by the innermost step that failed, and no other error
is the cause of it. -/
theorem errors_reach_the_caller_unwrapped {manifest : Manifest} {config : Config}
    {compilation : Compilation} (hcompile : (compile manifest config).result = .ok compilation)
    {registrations : List (Key × Registration)} {session : Session}
    (hstart : Session.start compilation registrations = .ok session)
    (htransparent : (Blueprint.ofList registrations).Transparent) {steps : List Step}
    (hsteps : ∀ others into, .build others into ∈ steps →
      (Blueprint.ofList others).error? compilation.plan = none →
        (Blueprint.ofList others).Transparent)
    {step : Step} (hstep : step.Requests) (error : ResolveError) :
    let now := (session.run steps).2
    ((now.step step).1 = .failed error ↔ now.Fails step error) ∧
      ((now.step step).1 = .failed error →
        ∀ key source, error ≠ .dependency key source ∧ error ≠ .wrapped key source) := by
  intro now
  rcases Compilation.sound hcompile with ⟨hsound, hplan, _⟩
  have hcandid := Session.run_candid (Session.start_candid htransparent hstart) hsteps
  simp only [hplan] at hcandid
  rcases Session.run_coherent hcompile hstart steps with ⟨_, _, known, hcoherent⟩
  have hfails : (now.step step).1 = .failed error → now.Fails step error :=
    fun hanswer => Session.step_fails hsound hcoherent hcandid hstep hanswer
  exact ⟨⟨hfails, fun hfailed => hfailed.step_eq⟩, fun hanswer => (hfails hanswer).plain⟩

/-- Constructors for the shop of which the one of the clock fails. -/
def stoppedRegistrations : List (Key × Registration) :=
  [(.unqualified "OrderFactory", .factory "Order"
      [.demand (.get (.unqualified "Watch") (.object "Watch")) .record,
        .demand (.get (.unqualified "Clock") (.object "Clock")) .propagate]),
    (.unqualified "SystemClock", .construct (.object "SystemClock") none
      [.fail "stopped" [] ["no battery"]]),
    (.unqualified "Clock", .cast (.object "SystemClock") (.object "Clock")),
    (.unqualified "Shelf", .construct (.object "Shelf") none [])]

def stoppedSession : Session :=
  ((Session.blank shopCompilation.plan).build stoppedRegistrations "r").2

def orderedSession : Session :=
  (stoppedSession.run [.get (.graph "r") (.unqualified "OrderFactory") (.factory "Order") Table.empty
    (some "orders")]).2

/-- The order is not created because the clock behind the alias that it asks for cannot be made. -/
theorem stopped_clock_fails_the_order :
    (orderedSession.step (.create "orders" "12" none)).1 =
        .failed (.custom (.unqualified "SystemClock") "stopped" ["no battery"]) ∧
      orderedSession.Fails (.create "orders" "12" none)
        (.custom (.unqualified "SystemClock") "stopped" ["no battery"]) := by
  have hstart : Session.start shopCompilation stoppedRegistrations = .ok stoppedSession :=
    Session.start_eq_ok (by decide +kernel)
  have htransparent : (Blueprint.ofList stoppedRegistrations).Transparent := by
    decide +kernel
  have hsteps : ∀ others into, .build others into ∈ [Step.get (.graph "r")
      (.unqualified "OrderFactory") (.factory "Order") Table.empty (some "orders")] →
      (Blueprint.ofList others).error? shopCompilation.plan = none →
        (Blueprint.ofList others).Transparent := by
    intro others into hbuild
    simp at hbuild
  have hanswer : (orderedSession.step (.create "orders" "12" none)).1 =
      .failed (.custom (.unqualified "SystemClock") "stopped" ["no battery"]) := by
    decide +kernel
  have hrequest : (Step.create "orders" "12" none).Requests := trivial
  have hreach := errors_reach_the_caller_unwrapped compile_shopManifest hstart htransparent hsteps
    hrequest
    (.custom (.unqualified "SystemClock") "stopped" ["no battery"])
  exact ⟨hanswer, hreach.1.1 hanswer⟩

end ObjectGraph
