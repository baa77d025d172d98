import ObjectGraph.Proofs.Live.Located
import ObjectGraph.Proofs.Session.Lookup

/-!
# Declared keys of a session — what a validated compilation rules out at run time

With validated dependencies, the keys that a plan lists are found in every reachable session: those of
the dispatch table from the live graph, and those that a node asks for from its host.

* `Session.dispatch_ok` — a key of the dispatch table leads to an instance of its host;
* `declared_lookups_cannot_miss` — lookups of both sorts, whatever was asked before.
-/

namespace ObjectGraph

namespace Session

variable {built : Graph} {known : Instance → Prop} {session : Session} {live : LiveGraph}
  {key : Key} {component : ComponentId}

theorem dispatch_ok (hsound : built.Sound) (h : session.Coherent built known) {id : Nat}
    (hfind : session.graphs.find? id = some live)
    (hkey : (Plan.ofGraph built).dispatch.find? key = some component) :
    ∃ inst later, session.dispatch live key = .ok (inst, later) ∧ inst.component = component ∧
      inst.Follows built.hierarchy := by
  have hlive := (h.graphs id live hfind).2
  have hmem := (Graph.local?_of_dispatch hsound.keyed hkey).1
  rcases LiveGraph.activate_ok hlive.linked hsound.rooted hlive.plan hmem with
    ⟨activation, hactivate, hcomponent⟩
  have hhost : live.host key = .ok component := by
    simp [LiveGraph.host, hlive.plan, hkey]
  have hdispatch : session.dispatch live key =
      .ok (activation.inst, session.setGraph activation.graph activation.nextStamp) := by
    simp [dispatch, LiveGraph.dispatch, hhost, hactivate]
  rcases dispatch_goes h hsound.rooted hfind hdispatch with ⟨more, hgoes, hinst⟩
  exact ⟨_, _, hdispatch, hcomponent, hgoes.coherent.follows _ hinst⟩

/-- The answer to a request for a provider, once the instance to ask is known. -/
theorem step_provider_of_dispatch {slot : String} (hslot : session.graph? slot = some live)
    {inst : Instance} {later : Session} (hdispatch : session.dispatch live key = .ok (inst, later))
    {type : ValueType} {into : Option String} {error : ResolveError}
    (hfailed : (session.step (.provider (.graph slot) key type into)).1 = .failed error) :
    live.wiring.provider inst key type = .error error := by
  simp only [step, provider, hslot, hdispatch, providerFrom] at hfailed
  cases hprovider : live.wiring.provider inst key type with
  | error other => simpa [hprovider] using hfailed
  | ok provider => simp [hprovider] at hfailed

end Session

theorem declared_lookups_cannot_miss {manifest : Manifest} {config : Config}
    {compilation : Compilation} (hcompile : (compile manifest config).result = .ok compilation)
    (hvalidate : config.validateDependencies = true)
    {registrations : List (Key × Registration)} {session : Session}
    (hstart : Session.start compilation registrations = .ok session) (before after : List Step) :
    let graph := compilation.graph
    let later := (session.run (before ++ after)).2
    (∀ id live key component, later.graphs.find? id = some live →
      compilation.plan.dispatch.find? key = some component →
        ∃ inst next entry, later.dispatch live key = .ok (inst, next) ∧
          inst.component = component ∧ live.wiring.entry? component key = some entry ∧
          (entry.kind ≠ .assistedOnly → live.wiring.Locates inst key) ∧
          (entry.kind = .assistedOnly → ∀ type,
            live.wiring.provider inst key type = .error (.assistedConstruction key)) ∧
          ∀ slot type into error, later.graph? slot = some live →
            (later.step (.provider (.graph slot) key type into)).1 = .failed error →
              (∃ other expected, error = .incorrectType other expected) ∨
                (entry.kind = .assistedOnly ∧ error = .assistedConstruction key)) ∧
    (∀ inst, (session.run before).2.Reaches inst →
      ∃ live, later.graphs.find? inst.rootStamp = some live ∧
        ∀ node ∈ graph.nodes, node.host = inst.component → ∀ key ∈ node.requested,
          live.wiring.Locates inst key) ∧
    (∀ id live component key entry, later.graphs.find? id = some live →
      live.wiring.entry? component key = some entry →
        entry.kind = .scoped ∨ entry.kind = .unscoped ∨ entry.kind = .factory →
          (live.wiring.product? key).isSome = true) := by
  intro graph later
  rcases Compilation.sound hcompile with ⟨hsound, hcompiled, hvalidated⟩
  have hclosed := hvalidated hvalidate
  rcases Session.run_coherent hcompile hstart (before ++ after) with ⟨_, _, known, hcoherent⟩
  refine ⟨?_, ?_, ?_⟩
  · intro id live key component hlive hkey
    have hgraph := (hcoherent.graphs id live hlive).2
    simp only [hcompiled] at hkey
    rcases Session.dispatch_ok hsound hcoherent hlive hkey with
      ⟨inst, next, hdispatch, hcomponent, hfollows⟩
    rcases (Graph.local?_of_dispatch hsound.keyed hkey).2 with ⟨node, hnode, hlocal⟩
    have hentry : live.wiring.entry? component key = some (.ofNode graph node) := by
      simp [Wiring.entry?_ofGraph hsound hgraph.plan, graph, hlocal]
    -- The host sees its own node first.
    have hresolve : graph.resolve? inst.component key = some node := by
      apply Graph.resolve?_of_local? hsound.rooted hfollows.mem_components
      simpa only [hcomponent] using hlocal
    have hlocates : (Entry.ofNode graph node).kind ≠ .assistedOnly → live.wiring.Locates inst key :=
      Wiring.locates_of_resolve? hsound hgraph.plan hgraph.fits hclosed hfollows hresolve
    have hassisted : (Entry.ofNode graph node).kind = .assistedOnly → ∀ type,
        live.wiring.provider inst key type = .error (.assistedConstruction key) := by
      intro hkind type
      exact Wiring.provider_eq_assisted hsound hgraph.plan hfollows hresolve hkind type
    refine ⟨inst, next, _, hdispatch, hcomponent, hentry, hlocates, hassisted, ?_⟩
    intro slot type into error hslot hfailed
    have herror := Session.step_provider_of_dispatch hslot hdispatch hfailed
    by_cases hkind : (Entry.ofNode graph node).kind = .assistedOnly
    · have hsame := herror.symm.trans (hassisted hkind type)
      exact Or.inr ⟨hkind, Except.error.inj hsame⟩
    · rcases hlocates hkind type with ⟨provider, hok⟩ | ⟨other, expected, hother⟩
      · simp [hok] at herror
      · exact Or.inl ⟨other, expected, Except.error.inj (herror.symm.trans hother)⟩
  · intro inst hreached
    rcases Session.run_home hcompile hstart before after hreached with
      ⟨more, live, hlater, hknown, hlive, hgraph⟩
    refine ⟨live, hlive, ?_⟩
    intro node hnode hhost key hkey
    exact Wiring.locates_requested hsound hgraph.plan hgraph.fits hclosed
      (hlater.follows inst hknown) hnode hhost hkey
  · intro id live component key entry hlive hentry hkind
    exact (hcoherent.graphs id live hlive).2.fits.product?_isSome hentry hkind

/-- The clock is an alias with a cast, in the root component. -/
theorem clock_is_located :
    ∃ live inst next, shopSession.graphs.find? 0 = some live ∧
      shopSession.dispatch live (.unqualified "Clock") = .ok (inst, next) ∧
        live.wiring.Locates inst (.unqualified "Clock") := by
  have hkinds : ((shopSession.graphs.find? 0).bind fun live =>
      live.wiring.kind? "App" (.unqualified "Clock")) = some .aliasOf := by
    decide +kernel
  have hhost : shopCompilation.plan.dispatch.find? (.unqualified "Clock") = some "App" := by
    decide +kernel
  rcases Option.bind_eq_some_iff.1 hkinds with ⟨live, hlive, hkind⟩
  rcases (declared_lookups_cannot_miss compile_shopManifest rfl start_shopRegistrations [] []).1
    0 live (.unqualified "Clock") "App" hlive hhost with
    ⟨inst, next, entry, hdispatch, _, hentry, hlocates, _⟩
  have halias : entry.kind = .aliasOf := by
    simpa [Wiring.kind?, hentry] using hkind
  exact ⟨live, inst, next, hlive, hdispatch, hlocates (by simp [halias])⟩

end ObjectGraph
