import ObjectGraph.Proofs.Live.Activation
import ObjectGraph.Proofs.Session.Moves
import ObjectGraph.Proofs.Session.Scopes

/-!
# Activation in a session — what a request for a component changes

A request for a component completes its lineage in one live graph and changes nothing else. As long
as nothing of the lineage is destroyed, the same request finds the same instance. What the plan does
not list is refused, and a refusal leaves the session as it was.

* `Session.Spares` — steps that destroy nothing of a lineage;
* `Session.Moves.inst?`, `Session.run_inst?` — instances that stay;
* `Session.component_eq` — the answer to a request for a component;
* `Session.step_of_no_host` — requests for a key without a host;
* `activation_completes_the_lineage` — the requests of any reachable session.
-/

namespace ObjectGraph

namespace Session

/-- None of the steps destroys one of the components in a live graph. -/
def Spares (id : Nat) (components : List ComponentId) : Session → List Step → Prop
  | _, [] => True
  | session, step :: rest =>
    (∀ slot component, step = .destroy slot component →
      (session.graph? slot).map LiveGraph.id = some id → component ∉ components) ∧
    Spares id components (session.step step).2 rest

variable {built : Graph} {known : Instance → Prop} {session later : Session} {live : LiveGraph}
  {step : Step} {id : Nat} {component : ComponentId} {inst : Instance}

/-! ## Instances that stay -/

/-- An instance stays if a step destroys nothing of its lineage. -/
theorem Moves.inst? (hmoves : session.Moves step later) (h : session.Coherent built known)
    (hrooted : built.hierarchy.Rooted) (hfind : session.graphs.find? id = some live)
    (hinst : live.inst? component = some inst)
    (hspared : ∀ slot other, step = .destroy slot other →
      (session.graph? slot).map LiveGraph.id = some id →
        other ∉ built.hierarchy.lineage component) :
    ∃ next, later.graphs.find? id = some next ∧ next.inst? component = some inst := by
  rcases h.graphs id live hfind with ⟨hid, hlive⟩
  rcases hmoves.find? h hrooted hfind with ⟨next, hnext, hcase⟩
  refine ⟨next, hnext, ?_⟩
  rcases hcase with rfl | ⟨_, activation, hok, rfl⟩ | ⟨slot, other, hstep, hslot, rfl⟩
  · exact hinst
  · exact (LiveGraph.completes_of_activate hlive.linked hrooted hlive.plan hok).kept _ _ hinst
  · have hnot := hspared slot other hstep (by simp [hslot, hid])
    have hmem := hlive.linked.mem_components hrooted hinst
    refine LiveGraph.inst?_of_destroy_above hrooted hlive.plan hinst ?_
    simpa [hrooted.mem_lineage_iff, hmem] using hnot

theorem run_inst? (h : session.Coherent built known) (hrooted : built.hierarchy.Rooted)
    (hfind : session.graphs.find? id = some live) (hinst : live.inst? component = some inst)
    {steps : List Step} (hspared : Spares id (built.hierarchy.lineage component) session steps) :
    ∃ last, (session.run steps).2.graphs.find? id = some last ∧
      last.inst? component = some inst := by
  induction steps generalizing session known live with
  | nil => exact ⟨live, hfind, hinst⟩
  | cons step rest ih =>
    rcases (step_moves h hrooted step).inst? h hrooted hfind hinst hspared.1 with
      ⟨next, hnext, hkept⟩
    rcases step_leads h hrooted step with ⟨more, hgoes⟩
    exact ih hgoes.coherent hnext hkept hspared.2

/-! ## Requests for components -/

theorem component_eq {slot : String} (hslot : session.graph? slot = some live)
    {activation : LiveGraph.Activation}
    (hok : live.activate component session.store.nextStamp = .ok activation)
    (into : Option String) :
    session.step (.component slot component into) =
      (session.setGraph activation.graph activation.nextStamp).answerInstance
        activation.inst into := by
  simp [Session.step, Session.component, hslot, hok]

theorem component_eq_failed {slot : String} (hslot : session.graph? slot = some live)
    {error : ResolveError} (herror : live.activate component session.store.nextStamp = .error error)
    (into : Option String) :
    session.step (.component slot component into) = (.failed error, session) := by
  simp [Session.step, Session.component, hslot, herror]

/-! ## Requests for keys without a host -/

theorem dispatch_of_no_host {key : Key} (hnone : live.wiring.plan.dispatch.find? key = none) :
    session.dispatch live key = .error (.noProviderFound key) := by
  simp [dispatch, LiveGraph.dispatch, LiveGraph.host, hnone]

/-- A key that the dispatch table does not list is refused, whatever way it is asked for. -/
theorem step_of_no_host {key : Key} (hnone : live.wiring.plan.dispatch.find? key = none) :
    (∀ slot type context into, session.graph? slot = some live →
      session.step (.get (.graph slot) key type context into) =
        (.failed (.noProviderFound key), session)) ∧
    (∀ slot type into, session.graph? slot = some live →
      session.step (.provider (.graph slot) key type into) =
        (.failed (.noProviderFound key), session)) ∧
    ∀ contextSlot type context into,
      (session.contextSlots.find? contextSlot).bind session.graphs.find? = some live →
        session.step (.inject contextSlot key type context into) =
          (.failed (.noProviderFound key), session) := by
  have hrefused : session.dispatch live key = .error (.noProviderFound key) :=
    dispatch_of_no_host hnone
  refine ⟨?_, ?_, ?_⟩
  · intro slot type context into hslot
    simp [Session.step, get, hslot, getFromGraph, hrefused]
  · intro slot type into hslot
    simp [Session.step, provider, hslot, hrefused]
  · intro contextSlot type context into hslot
    simp [Session.step, inject, hslot, getFromGraph, hrefused]

end Session

/-- A request for a component of the plan completes its lineage and finds the same instance again
until something of that lineage is destroyed; any other request for a component is refused, and so is
one for a key without a host. What is refused changes nothing. -/
theorem activation_completes_the_lineage {manifest : Manifest} {config : Config}
    {compilation : Compilation} (hcompile : (compile manifest config).result = .ok compilation)
    {registrations : List (Key × Registration)} {session : Session}
    (hstart : Session.start compilation registrations = .ok session) (steps : List Step) :
    let plan := compilation.plan
    let hierarchy := compilation.graph.hierarchy
    let now := (session.run steps).2
    (∀ slot live id into, now.graph? slot = some live → plan.component? id = none →
      now.step (.component slot id into) = (.failed (.unknownComponent id), now)) ∧
    (∀ slot live id into, now.graph? slot = some live → (plan.component? id).isSome = true →
      ∃ activation, live.activate id now.store.nextStamp = .ok activation ∧
        now.step (.component slot id into) =
          (now.setGraph activation.graph activation.nextStamp).answerInstance
            activation.inst into ∧
        live.Completes hierarchy id activation ∧
        ∀ more, let next := (now.step (.component slot id into)).2
          Session.Spares live.id (hierarchy.lineage id) next more →
            ∃ last again, (next.run more).2.graphs.find? live.id = some last ∧
              last.activate id (next.run more).2.store.nextStamp = .ok again ∧
                again.inst = activation.inst) ∧
    (∀ slot live key, now.graph? slot = some live → plan.dispatch.find? key = none →
      (∀ type context into, now.step (.get (.graph slot) key type context into) =
        (.failed (.noProviderFound key), now)) ∧
      ∀ type into, now.step (.provider (.graph slot) key type into) =
        (.failed (.noProviderFound key), now)) ∧
    ∀ contextSlot live key,
      (now.contextSlots.find? contextSlot).bind now.graphs.find? = some live →
        plan.dispatch.find? key = none → ∀ type context into,
          now.step (.inject contextSlot key type context into) =
            (.failed (.noProviderFound key), now) := by
  intro plan hierarchy now
  rcases Session.run_coherent hcompile hstart steps with ⟨hplan, hrooted, known, hcoherent⟩
  have hlisted : ∀ id live, now.graphs.find? id = some live → live.wiring.plan = plan :=
    fun id live hfind => (hcoherent.graphs id live hfind).2.plan.trans hplan.symm
  refine ⟨?_, ?_, ?_, ?_⟩
  · intro slot live id into hslot hnone
    rcases Session.find?_of_graph? hslot with ⟨graphId, hfind⟩
    have hlive := (hcoherent.graphs graphId live hfind).2
    have hnot : id ∉ hierarchy.components := by
      intro hmem
      simp [plan, hplan, Plan.component?_ofGraph, hierarchy, hmem] at hnone
    exact Session.component_eq_failed hslot
      (LiveGraph.activate_unknown hlive.linked hrooted hlive.plan hnot _) into
  · intro slot live id into hslot hsome
    rcases Session.find?_of_graph? hslot with ⟨graphId, hfind⟩
    rcases hcoherent.graphs graphId live hfind with ⟨rfl, hlive⟩
    have hmem : id ∈ hierarchy.components := by
      by_contra hnot
      simp [plan, hplan, Plan.component?_ofGraph, hierarchy, hnot] at hsome
    rcases LiveGraph.activate_ok hlive.linked hrooted hlive.plan hmem with ⟨activation, hok, _⟩
    have hcompletes := LiveGraph.completes_of_activate hlive.linked hrooted hlive.plan hok
    refine ⟨activation, hok, Session.component_eq hslot hok into, hcompletes, ?_⟩
    intro more next hspared
    -- The instance is there after the request, and stays there.
    rcases Session.step_leads hcoherent hrooted (.component slot id into) with ⟨_, hgoes⟩
    have hplace : activation.graph.id = live.id := congrArg Instance.stamp hcompletes.root
    have hnext : next.graphs.find? live.id = some activation.graph := by
      cases into <;>
        simp [next, Session.component_eq hslot hok, Session.answerInstance, Session.putIf,
          Session.put, Session.setGraph, Table.find?_insert, hplace]
    rcases Session.run_inst? hgoes.coherent hrooted hnext hcompletes.found hspared with
      ⟨last, hlast, hinst⟩
    rcases Session.run_leads hgoes.coherent hrooted more with ⟨_, hmore⟩
    have hfinal := (hmore.coherent.graphs live.id last hlast).2
    rcases LiveGraph.activate_ok hfinal.linked hrooted hfinal.plan hmem with ⟨again, hagain, _⟩
    exact ⟨last, again, hlast, hagain, (hfinal.activate_keeps hrooted hagain).2 _ hinst⟩
  · intro slot live key hslot hnone
    rcases Session.find?_of_graph? hslot with ⟨graphId, hfind⟩
    rcases Session.step_of_no_host ((hlisted graphId live hfind).symm ▸ hnone) with
      ⟨hget, hprovider, _⟩
    exact ⟨fun type context into => hget slot type context into hslot,
      fun type into => hprovider slot type into hslot⟩
  · intro contextSlot live key hslot hnone type context into
    rcases Option.bind_eq_some_iff.1 hslot with ⟨graphId, _, hfind⟩
    exact (Session.step_of_no_host ((hlisted graphId live hfind).symm ▸ hnone)).2.2
      contextSlot type context into hslot

/-- A request between two for the cart. -/
def clockRequest : Step :=
  .get (.graph "r") (.unqualified "Clock") (.object "Clock") Table.empty none

/-- The first cart of a shop is made below the root, and found again after a look at the clock. -/
theorem cart_is_found_again :
    ∃ live activation, shopSession.graph? "r" = some live ∧
      shopCompilation.plan.component? "Ghost" = none ∧
      shopSession.step (.component "r" "Ghost" none) =
        (.failed (.unknownComponent "Ghost"), shopSession) ∧
      live.Completes shopCompilation.graph.hierarchy "Cart" activation ∧
      let next := ((shopSession.step (.component "r" "Cart" none)).2.run [clockRequest]).2
      ∃ last again, next.graphs.find? live.id = some last ∧
        last.activate "Cart" next.store.nextStamp = .ok again ∧
          again.inst = activation.inst := by
  have hlive : (shopSession.graph? "r").isSome = true := by
    decide +kernel
  have hghost : shopCompilation.plan.component? "Ghost" = none := by
    decide +kernel
  have hcart : (shopCompilation.plan.component? "Cart").isSome = true := by
    decide +kernel
  rcases Option.isSome_iff_exists.1 hlive with ⟨live, hslot⟩
  rcases activation_completes_the_lineage compile_shopManifest start_shopRegistrations [] with
    ⟨hunknown, hknown, _, _⟩
  rcases hknown "r" live "Cart" none hslot hcart with ⟨activation, _, _, hcompletes, hagain⟩
  have hspares : Session.Spares live.id (shopCompilation.graph.hierarchy.lineage "Cart")
      (shopSession.step (.component "r" "Cart" none)).2 [clockRequest] := by
    simp [Session.Spares, clockRequest]
  exact ⟨live, activation, hslot, hghost, hunknown "r" live "Ghost" none hslot hghost, hcompletes,
    hagain [clockRequest] hspares⟩

end ObjectGraph
