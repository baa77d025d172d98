import ObjectGraph.Proofs.Compile.Sound
import ObjectGraph.Proofs.Hierarchy.WellFormed

/-!
# Views — what a component sees and which component answers for a key

The flattened view of a component is gathered node by node along its lineage, the dispatch table
along all components by their depth; in both the first node of a key stays. So the view agrees with
the search for one key up the lineage, and the table leads to the host that is nearest to the root.

* `Graph.Keyed.find?_nodesOf` — the listing of a component against its lookups;
* `Graph.Keyed.find?_flattened`, `Graph.Keyed.find?_dispatch` — the tables as searches;
* `Hierarchy.Nearer`, `Hierarchy.pairwise_componentsByDepth` — the order of dispatch;
* `Graph.Sound.dispatch_eq_some_iff` — the entry of a key is its nearest host;
* `flattened_view_agrees_with_resolution` — what a component sees.
-/

namespace ObjectGraph

/-! ## Components by depth -/

namespace Hierarchy

/-- Nearer to the root, or as near and earlier in the order of identities. -/
def Nearer (hierarchy : Hierarchy) (first second : ComponentId) : Prop :=
  ∃ upper lower, hierarchy.depth? first = some upper ∧ hierarchy.depth? second = some lower ∧
    (upper < lower ∨ upper = lower ∧ first < second)

variable {hierarchy : Hierarchy} {first second : ComponentId}

theorem Nearer.asymm (h : hierarchy.Nearer first second) : ¬ hierarchy.Nearer second first := by
  rintro ⟨upper, lower, hupper, hlower, hback⟩
  rcases h with ⟨other, another, hother, hanother, hforth⟩
  simp only [hother, hanother, Option.some.injEq] at hupper hlower
  subst hupper hlower
  rcases hforth with hlt | ⟨_, hlt⟩
  · omega
  · rcases hback with hgt | ⟨_, hgt⟩
    · omega
    · exact String.lt_asymm hlt hgt

theorem Nearer.depth_le (h : hierarchy.Nearer first second) :
    ∃ upper lower, hierarchy.depth? first = some upper ∧ hierarchy.depth? second = some lower ∧
      upper ≤ lower := by
  rcases h with ⟨upper, lower, hupper, hlower, horder⟩
  exact ⟨upper, lower, hupper, hlower, by omega⟩

theorem mem_components_of_mem_byDepth {component : ComponentId}
    (hmem : component ∈ hierarchy.componentsByDepth) : component ∈ hierarchy.components := by
  rcases List.mem_flatMap.1 hmem with ⟨depth, _, hfound⟩
  exact (List.mem_filter.1 hfound).1

/-- Members in the order of their identities are listed by depth, then by identity. -/
theorem pairwise_componentsByDepth (hincreasing : hierarchy.components.Pairwise (· < ·)) :
    hierarchy.componentsByDepth.Pairwise hierarchy.Nearer := by
  refine List.pairwise_flatMap.2 ⟨?_, ?_⟩
  · intro depth _
    refine (hincreasing.filter _).imp_of_mem ?_
    intro first second hfirst hsecond hlt
    simp only [List.mem_filter, decide_eq_true_eq] at hfirst hsecond
    exact ⟨depth, depth, hfirst.2, hsecond.2, Or.inr ⟨rfl, hlt⟩⟩
  · refine List.pairwise_lt_range.imp ?_
    intro upper lower hlt first hfirst second hsecond
    simp only [List.mem_filter, decide_eq_true_eq] at hfirst hsecond
    exact ⟨upper, lower, hfirst.2, hsecond.2, Or.inl hlt⟩

theorem Rooted.mem_componentsByDepth (h : hierarchy.Rooted) {component : ComponentId}
    (hmem : component ∈ hierarchy.components) : component ∈ hierarchy.componentsByDepth := by
  refine List.mem_flatMap.2 ⟨_, List.mem_range.2 (h.length_ancestors_lt hmem), ?_⟩
  exact List.mem_filter.2 ⟨hmem, by simp [h.depth?_eq_length hmem]⟩

/-- Every other member hangs below its parent, so it is deeper than the root. -/
theorem Rooted.nearer_root (h : hierarchy.Rooted) {component : ComponentId}
    (hmem : component ∈ hierarchy.components) (hne : component ≠ hierarchy.root) :
    hierarchy.Nearer hierarchy.root component := by
  rcases h.above component hmem hne with ⟨_, depth, _, _, hdepth⟩
  exact ⟨0, depth + 1, h.depth?_root, hdepth, Or.inl (Nat.succ_pos depth)⟩

end Hierarchy

/-! ## Tables as searches -/

namespace Graph

variable {graph : Graph}

namespace Keyed

/-- A component lists one node for a key, the one that it hosts. -/
theorem find?_nodesOf (h : graph.Keyed) (component : ComponentId) (key : Key) :
    ((graph.nodesOf component).find? fun node => node.key = key) = graph.local? component key := by
  cases hfound : (graph.nodesOf component).find? fun node => node.key = key with
  | none =>
    cases hlocal : graph.local? component key with
    | none => rfl
    | some node =>
      have hmiss := List.find?_eq_none.1 hfound node (h.mem_nodesOf hlocal)
      simp [(h.of_local? hlocal).2.2] at hmiss
  | some node =>
    have hkey : node.key = key := by
      simpa using List.find?_some hfound
    have hlocal := h.local?_of_mem_nodesOf (List.mem_of_find?_eq_some hfound)
    rw [← hlocal, hkey]

/-- Gathering all nodes of a lineage comes to a search for each key. -/
theorem find?_flattened (h : graph.Keyed) (component : ComponentId) (key : Key) :
    (graph.flattened component).find? key = graph.resolve? component key := by
  have hblocks := Table.find?_foldl_blocks (graph.hierarchy.lineage component) graph.nodesOf
    Node.key (fun _ node => node) Table.empty key
  simp only [Table.find?_empty, Option.none_or, Option.map_id', h.find?_nodesOf] at hblocks
  exact hblocks

/-- The dispatch table leads to the first component by depth that hosts the key. -/
theorem find?_dispatch (h : graph.Keyed) (key : Key) :
    graph.dispatch.find? key =
      graph.hierarchy.componentsByDepth.find? fun component =>
        (graph.local? component key).isSome := by
  have hblocks := Table.find?_foldl_blocks graph.hierarchy.componentsByDepth graph.nodesOf
    Node.key (fun component _ => component) Table.empty key
  simp only [Table.find?_empty, Option.none_or, h.find?_nodesOf] at hblocks
  refine hblocks.trans ?_
  induction graph.hierarchy.componentsByDepth with
  | nil => rfl
  | cons first rest ih =>
    cases hlocal : graph.local? first key with
    | none => simp [hlocal, ih]
    | some node => simp [hlocal]

end Keyed

/-! ## Hosts -/

/-- The component has a node of its own for the key. -/
def IsHost (graph : Graph) (key : Key) (component : ComponentId) : Prop :=
  ∃ node, graph.local? component key = some node

theorem isHost_iff_isSome {key : Key} {component : ComponentId} :
    graph.IsHost key component ↔ (graph.local? component key).isSome = true :=
  Option.isSome_iff_exists.symm

namespace Sound

variable {key : Key} {component : ComponentId}

theorem mem_components_of_isHost (h : graph.Sound) (hhost : graph.IsHost key component) :
    component ∈ graph.hierarchy.components := by
  rcases hhost with ⟨node, hlocal⟩
  rcases h.keyed.of_local? hlocal with ⟨hnode, rfl, _⟩
  exact h.hosted node hnode

/-- The dispatch table has a key exactly if some component hosts it. -/
theorem isSome_dispatch_iff (h : graph.Sound) (key : Key) :
    (graph.dispatch.find? key).isSome = true ↔ ∃ component, graph.IsHost key component := by
  simp only [h.keyed.find?_dispatch, List.find?_isSome, ← isHost_iff_isSome]
  constructor
  · rintro ⟨component, _, hhost⟩
    exact ⟨component, hhost⟩
  · rintro ⟨component, hhost⟩
    exact ⟨component, h.rooted.mem_componentsByDepth (h.mem_components_of_isHost hhost), hhost⟩

/-- It leads to the host that comes first by depth and identity. -/
theorem dispatch_eq_some_iff (h : graph.Sound)
    (hincreasing : graph.hierarchy.components.Pairwise (· < ·)) :
    graph.dispatch.find? key = some component ↔
      graph.IsHost key component ∧
        ∀ other, graph.IsHost key other → other ≠ component →
          graph.hierarchy.Nearer component other := by
  have hfirst : ∀ found, graph.dispatch.find? key = some found →
      graph.IsHost key found ∧ ∀ other, graph.IsHost key other → other ≠ found →
        graph.hierarchy.Nearer found other := by
    intro found hfound
    rw [h.keyed.find?_dispatch, List.find?_eq_some_iff_append] at hfound
    rcases hfound with ⟨hhost, before, after, hsplit, hbefore⟩
    refine ⟨isHost_iff_isSome.2 hhost, ?_⟩
    intro other hother hne
    have hlisted := h.rooted.mem_componentsByDepth (h.mem_components_of_isHost hother)
    have hsorted := Hierarchy.pairwise_componentsByDepth hincreasing
    rw [hsplit] at hlisted hsorted
    -- No host stands before the one that was found, so the other one stands after it.
    rcases List.mem_append.1 hlisted with hearlier | hlater
    · have hmiss := hbefore other hearlier
      simp [isHost_iff_isSome.1 hother] at hmiss
    · rcases List.mem_cons.1 hlater with rfl | hlater
      · exact absurd rfl hne
      · exact (List.pairwise_cons.1 (List.pairwise_append.1 hsorted).2.1).1 other hlater
  constructor
  · exact hfirst component
  · rintro ⟨hhost, hnearest⟩
    have hsome := (h.isSome_dispatch_iff key).2 ⟨component, hhost⟩
    rcases Option.isSome_iff_exists.1 hsome with ⟨found, hfound⟩
    rcases hfirst found hfound with ⟨hfoundHost, hfoundNearest⟩
    -- Two hosts cannot both be nearer than the other one.
    by_cases hsame : found = component
    · rw [hfound, hsame]
    · exact absurd (hfoundNearest component hhost (Ne.symm hsame))
        (hnearest found hfoundHost hsame).asymm

/-- No host is nearer to the root than the one that the table leads to. -/
theorem depth_le_of_dispatch (h : graph.Sound)
    (hincreasing : graph.hierarchy.components.Pairwise (· < ·))
    (hfound : graph.dispatch.find? key = some component) {other : ComponentId}
    (hother : graph.IsHost key other) :
    ∃ upper lower, graph.hierarchy.depth? component = some upper ∧
      graph.hierarchy.depth? other = some lower ∧ upper ≤ lower := by
  rcases (h.dispatch_eq_some_iff hincreasing).1 hfound with ⟨_, hnearest⟩
  by_cases hsame : other = component
  · have hdepth := h.rooted.depth?_eq_length (h.mem_components_of_isHost hother)
    exact ⟨_, _, hsame ▸ hdepth, hdepth, Nat.le_refl _⟩
  · exact (hnearest other hother hsame).depth_le

theorem dispatch_root (h : graph.Sound)
    (hincreasing : graph.hierarchy.components.Pairwise (· < ·))
    (hroot : graph.IsHost key graph.hierarchy.root) :
    graph.dispatch.find? key = some graph.hierarchy.root := by
  refine (h.dispatch_eq_some_iff hincreasing).2 ⟨hroot, ?_⟩
  intro other hother hne
  exact h.rooted.nearer_root (h.mem_components_of_isHost hother) hne

end Sound
end Graph

/-! ## Compilations -/

/-- What a component sees, gathered in one table, is what it sees key by key, whether the component
is a member of the tree or not: for each key the node of the first component of its lineage that
hosts the key. Nothing is seen of other components. -/
theorem flattened_view_agrees_with_resolution {manifest : Manifest} {config : Config}
    {compilation : Compilation} (hcompile : (compile manifest config).result = .ok compilation)
    (component : ComponentId) :
    let graph := compilation.graph
    let lineage := compilation.hierarchy.lineage component
    let view := graph.flattened component
    (∀ key, view.find? key = graph.resolve? component key) ∧
    (∀ key node, view.find? key = some node ↔
      ∃ before after, lineage = before ++ node.host :: after ∧ node.key = key ∧
        graph.local? node.host key = some node ∧ ∀ host ∈ before, ¬ graph.IsHost key host) ∧
    (∀ key, view.find? key = none ↔ ∀ host ∈ lineage, ¬ graph.IsHost key host) ∧
    (∀ node ∈ view.values, node.host ∈ lineage) ∧
    (component ∉ compilation.hierarchy.components → view.values = []) := by
  intro graph lineage view
  have hsound : graph.Sound := (Compilation.sound hcompile).1
  have hview : ∀ key, view.find? key = lineage.findSome? fun host => graph.local? host key :=
    fun key => hsound.keyed.find?_flattened component key
  have hmiss : ∀ host key, ¬ graph.IsHost key host ↔ graph.local? host key = none := by
    intro host key
    simp [Graph.isHost_iff_isSome]
  have hfirst : ∀ key node, view.find? key = some node ↔
      ∃ before after, lineage = before ++ node.host :: after ∧ node.key = key ∧
        graph.local? node.host key = some node ∧ ∀ host ∈ before, ¬ graph.IsHost key host := by
    intro key node
    simp only [hview, List.findSome?_eq_some_iff, hmiss]
    constructor
    · rintro ⟨before, host, after, hsplit, hlocal, hbefore⟩
      rcases hsound.keyed.of_local? hlocal with ⟨_, rfl, hkey⟩
      exact ⟨before, after, hsplit, hkey, hlocal, hbefore⟩
    · rintro ⟨before, after, hsplit, _, hlocal, hbefore⟩
      exact ⟨before, node.host, after, hsplit, hlocal, hbefore⟩
  have hhosts : ∀ node ∈ view.values, node.host ∈ lineage := by
    intro node hnode
    rcases (Table.mem_values_iff _).1 hnode with ⟨key, hfound⟩
    rcases (hfirst key node).1 hfound with ⟨before, after, hsplit, _⟩
    simp [hsplit]
  refine ⟨hview, hfirst, ?_, hhosts, ?_⟩
  · intro key
    simp only [hview, List.findSome?_eq_none_iff, hmiss]
  · intro hmem
    apply List.eq_nil_iff_forall_not_mem.2
    intro node hnode
    exact hmem (hsound.rooted.mem_lineage_iff.1 (hhosts node hnode)).1

/-- A lamp in each of two rooms and one in the attic above the first of them, and a door for all. By
identity alone the attic would come before the rooms. -/
def lampManifest : Manifest where
  entryPoint := "House"
  components :=
    [⟨"House", some "Singleton", .component, []⟩, ⟨"Left", some "Stay", .subcomponent, ["House"]⟩,
      ⟨"Right", some "Stay", .subcomponent, ["House"]⟩,
      ⟨"Attic", some "Singleton", .subcomponent, ["Left"]⟩]
  modules :=
    [⟨"Doors", ["House"]⟩, ⟨"LeftLamps", ["Left"]⟩, ⟨"RightLamps", ["Right"]⟩,
      ⟨"AtticLamps", ["Attic"]⟩]
  declarations :=
    [("Doors", "Door"), ("LeftLamps", "Lamp"), ("RightLamps", "Lamp"), ("RightLamps", "Desk"),
      ("AtticLamps", "Lamp")].map fun entry =>
        .provides ⟨entry.1, "make", .resolved entry.2, none, none, [], false⟩

def lampHierarchy : Hierarchy :=
  ⟨"House", .ofList [("Attic", ⟨some "Left", some "Singleton", [], 2⟩),
    ("House", ⟨none, some "Singleton", ["Left", "Right"], 0⟩),
    ("Left", ⟨some "House", some "Stay", ["Attic"], 1⟩),
    ("Right", ⟨some "House", some "Stay", [], 1⟩)]⟩

def lampCompilation : Compilation :=
  ⟨lampManifest, lampManifest.graph lampHierarchy, .ofGraph (lampManifest.graph lampHierarchy)⟩

theorem compile_lampManifest :
    (compile lampManifest ⟨.warn, false, true⟩).result = .ok lampCompilation :=
  compile_eq_ok_of_errors (by decide +kernel) (by decide +kernel)

/-- The attic sees its own lamp and the door of the house, and not the desk of the other room. -/
theorem attic_sees_its_own_lamp :
    ∃ lamp door, (lampCompilation.graph.flattened "Attic").find? (.unqualified "Lamp") = some lamp ∧
      lamp.host = "Attic" ∧
      (lampCompilation.graph.flattened "Attic").find? (.unqualified "Door") = some door ∧
      door.host = "House" ∧
      (lampCompilation.graph.flattened "Attic").find? (.unqualified "Desk") = none ∧
      (lampCompilation.graph.flattened "Cellar").values = [] := by
  have hattic := flattened_view_agrees_with_resolution compile_lampManifest "Attic"
  have hcellar := flattened_view_agrees_with_resolution compile_lampManifest "Cellar"
  have hlamp : ∃ lamp, lampCompilation.graph.resolve? "Attic" (.unqualified "Lamp") = some lamp ∧
      lamp.host = "Attic" := by
    decide +kernel
  have hdoor : ∃ door, lampCompilation.graph.resolve? "Attic" (.unqualified "Door") = some door ∧
      door.host = "House" := by
    decide +kernel
  have hdesk : lampCompilation.graph.resolve? "Attic" (.unqualified "Desk") = none := by
    decide +kernel
  rcases hlamp with ⟨lamp, hlamp, hown⟩
  rcases hdoor with ⟨door, hdoor, habove⟩
  refine ⟨lamp, door, (hattic.1 _).trans hlamp, hown, (hattic.1 _).trans hdoor, habove,
    (hattic.1 _).trans hdesk, ?_⟩
  exact hcellar.2.2.2.2 (by decide +kernel)

end ObjectGraph
