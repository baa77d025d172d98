import ObjectGraph.Live.Scopes
import ObjectGraph.Proofs.Compile.Views
import ObjectGraph.Proofs.Live.Blueprint

/-!
# Dispatch — the component that answers for a key

A request that names no component is sent to the host of its key that is nearest to the root, since
only that one is reached without entering a particular part of the tree. Every hosted key has one.

* `dispatch_leads_to_the_nearest_host` — the dispatch table of a plan and the graphs wired to it.
-/

namespace ObjectGraph

/-- The dispatch table has an entry for every key that some component hosts and for no other key. The
entry is the host that comes first by depth, then by identity: no host is nearer to the root, and it
is the root if the root hosts the key. In every live graph that is wired to the plan, a request that
names no component is sent there, or is refused if there is no host. -/
theorem dispatch_leads_to_the_nearest_host {manifest : Manifest} {config : Config}
    {compilation : Compilation} (hcompile : (compile manifest config).result = .ok compilation)
    (key : Key) :
    let graph := compilation.graph
    let hierarchy := compilation.hierarchy
    let dispatch := compilation.plan.dispatch
    (dispatch.contains key = true ↔ ∃ component, graph.IsHost key component) ∧
    (∀ component, dispatch.find? key = some component ↔
      graph.IsHost key component ∧ ∀ other, graph.IsHost key other → other ≠ component →
        hierarchy.Nearer component other) ∧
    (∀ component, dispatch.find? key = some component → ∀ other, graph.IsHost key other →
      ∃ upper lower, hierarchy.depth? component = some upper ∧
        hierarchy.depth? other = some lower ∧ upper ≤ lower) ∧
    (graph.IsHost key hierarchy.root → dispatch.find? key = some hierarchy.root) ∧
    ∀ (blueprint : Blueprint) (live : LiveGraph),
      blueprint.wire compilation.plan = .ok live.wiring →
      ((∃ component, graph.IsHost key component) → ∃ component node,
        live.host key = .ok component ∧ graph.local? component key = some node) ∧
      (∀ component, live.host key = .ok component ↔ dispatch.find? key = some component) ∧
      ((∀ component, ¬ graph.IsHost key component) →
        live.host key = .error (.noProviderFound key)) := by
  intro graph hierarchy dispatch
  rcases Compilation.sound hcompile with ⟨hsound, hplan, _⟩
  have hsound : graph.Sound := hsound
  have hincreasing := compilation.graph.hierarchy.increasing_components
  have htable : dispatch = graph.dispatch := by
    simp only [dispatch, hplan]
    rfl
  have hcontains : dispatch.contains key = true ↔ ∃ component, graph.IsHost key component := by
    rw [htable]
    exact hsound.isSome_dispatch_iff key
  have hfind : ∀ component, dispatch.find? key = some component ↔
      graph.IsHost key component ∧ ∀ other, graph.IsHost key other → other ≠ component →
        hierarchy.Nearer component other := by
    intro component
    rw [htable]
    exact hsound.dispatch_eq_some_iff hincreasing
  refine ⟨hcontains, hfind, ?_, ?_, ?_⟩
  · intro component hfound other hother
    exact hsound.depth_le_of_dispatch hincreasing (htable ▸ hfound) hother
  · intro hroot
    rw [htable]
    exact hsound.dispatch_root hincreasing hroot
  · intro blueprint live hwire
    have hlive : live.wiring.plan.dispatch = dispatch := by
      rw [(Blueprint.wire_eq_ok hwire).2]
    -- The live graph reads the table of its plan.
    cases hentry : dispatch.find? key with
    | none =>
      have hrefused : live.host key = .error (.noProviderFound key) := by
        simp only [LiveGraph.host, hlive, hentry]
      refine ⟨?_, ?_, fun _ => hrefused⟩
      · intro hsome
        have hlisted := hcontains.2 hsome
        simp [Table.contains, hentry] at hlisted
      · intro component
        simp [hrefused]
    | some found =>
      have hsent : live.host key = .ok found := by
        simp only [LiveGraph.host, hlive, hentry]
      rcases ((hfind found).1 hentry).1 with ⟨node, hlocal⟩
      refine ⟨fun _ => ⟨found, node, hsent, hlocal⟩, ?_, ?_⟩
      · intro component
        simp [hsent]
      · intro hnone
        exact absurd ⟨node, hlocal⟩ (hnone found)

def lampRegistrations : List (Key × Registration) :=
  ["Door", "Lamp", "Desk"].map fun type =>
    (.unqualified type, .construct (.object type) none [])

def lampWiring : Wiring :=
  ⟨lampCompilation.plan, (Blueprint.ofList lampRegistrations).registrations⟩

/-- Both rooms are nearer to the root than the attic, and the left one comes first. -/
theorem lamp_is_asked_of_the_left_room :
    (Blueprint.ofList lampRegistrations).wire lampCompilation.plan = .ok lampWiring ∧
      lampCompilation.graph.IsHost (.unqualified "Lamp") "Attic" ∧
      lampCompilation.hierarchy.Nearer "Left" "Attic" ∧
      (LiveGraph.start lampWiring 0).host (.unqualified "Lamp") = .ok "Left" ∧
      (LiveGraph.start lampWiring 0).host (.unqualified "Door") = .ok "House" ∧
      (LiveGraph.start lampWiring 0).host (.unqualified "Chair") =
        .error (.noProviderFound (.unqualified "Chair")) := by
  have herror : (Blueprint.ofList lampRegistrations).error? lampCompilation.plan = none := by
    decide +kernel
  have hwire : (Blueprint.ofList lampRegistrations).wire lampCompilation.plan = .ok lampWiring := by
    simp only [Blueprint.wire, herror]
    rfl
  have hattic : lampCompilation.graph.IsHost (.unqualified "Lamp") "Attic" :=
    Graph.isHost_iff_isSome.2 (by decide +kernel)
  have hleft : lampCompilation.plan.dispatch.find? (.unqualified "Lamp") = some "Left" := by
    decide +kernel
  have hdoor : lampCompilation.graph.IsHost (.unqualified "Door") "House" :=
    Graph.isHost_iff_isSome.2 (by decide +kernel)
  have hchair : lampCompilation.plan.dispatch.contains (.unqualified "Chair") = false := by
    decide +kernel
  have hlamps := dispatch_leads_to_the_nearest_host compile_lampManifest (.unqualified "Lamp")
  have hdoors := dispatch_leads_to_the_nearest_host compile_lampManifest (.unqualified "Door")
  have hchairs := dispatch_leads_to_the_nearest_host compile_lampManifest (.unqualified "Chair")
  have hnearest := ((hlamps.2.1 "Left").1 hleft).2 "Attic" hattic (by decide)
  have hhouse := hdoors.2.2.2.1 hdoor
  rcases hlamps.2.2.2.2 _ (LiveGraph.start lampWiring 0) hwire with ⟨_, hlamp, _⟩
  rcases hdoors.2.2.2.2 _ (LiveGraph.start lampWiring 0) hwire with ⟨_, hopened, _⟩
  rcases hchairs.2.2.2.2 _ (LiveGraph.start lampWiring 0) hwire with ⟨_, _, hrefused⟩
  refine ⟨hwire, hattic, hnearest, (hlamp "Left").2 hleft, (hopened "House").2 hhouse, ?_⟩
  apply hrefused
  intro component hhost
  have hlisted := hchairs.1.2 ⟨component, hhost⟩
  simp [hchair] at hlisted

end ObjectGraph
