import ObjectGraph.Proofs.Hierarchy.Resolve

/-!
# Well-formed hierarchies — parents, depths, children and ancestors fit together

Whatever a manifest declares, a hierarchy that is resolved from it is one tree: each member but the
root hangs one level below the first known target of its contributions, and going from parent to
parent passes the ancestors of a member and ends at the root.

* `resolved_hierarchy_is_a_rooted_tree` — the whole shape.
-/

namespace ObjectGraph

/-! ## The shape of a resolved hierarchy -/

/-- A resolved hierarchy is a tree below one root, however often the manifest declares a component,
repeats a target or leads parents in a circle. -/
theorem resolved_hierarchy_is_a_rooted_tree {manifest : Manifest} {config : Config}
    {hierarchy : Hierarchy} (h : (manifest.resolveHierarchy config).1 = some hierarchy) :
    (hierarchy.contains hierarchy.root = true ∧ hierarchy.parent? hierarchy.root = none ∧
      hierarchy.depth? hierarchy.root = some 0) ∧
    (∀ component, hierarchy.contains component = true → component ≠ hierarchy.root →
      manifest.isSubcomponent component = true ∧ ∃ parent depth,
        hierarchy.parent? component = some parent ∧ hierarchy.contains parent = true ∧
          (manifest.targetsOf (.component component)).head? = some parent ∧
          hierarchy.depth? parent = some depth ∧
          hierarchy.depth? component = some (depth + 1)) ∧
    (∀ parent, (hierarchy.children parent).Pairwise (· < ·) ∧
      ∀ component, component ∈ hierarchy.children parent ↔
        hierarchy.parent? component = some parent) ∧
    (∀ component, hierarchy.contains component = true →
      let ancestors := hierarchy.ancestors component
      (∀ steps, ancestors[steps]? = climb? hierarchy.parent? (steps + 1) component) ∧
        hierarchy.depth? component = some ancestors.length ∧
        ancestors.Nodup ∧ (ancestors ≠ [] → ancestors.getLast? = some hierarchy.root) ∧
        component ∉ ancestors ∧ hierarchy.lineage component = component :: ancestors) := by
  have hrooted : hierarchy.Rooted := Manifest.rooted_of_resolveHierarchy h
  rcases Manifest.resolveHierarchy_eq_some h with ⟨_, hroots, htree, _⟩
  have hparents : ∀ component ∈ hierarchy.components,
      hierarchy.parent? component = manifest.parent? component := by
    rw [htree]
    intro component hmem
    exact Manifest.parent?_treeAt (Manifest.parent?_root hroots) hmem
  simp only [Hierarchy.contains_iff_mem]
  refine ⟨⟨hrooted.root_mem, hrooted.parent?_root, hrooted.depth?_root⟩, ?_, ?_, ?_⟩
  · intro component hmem hne
    rcases hrooted.above component hmem hne with ⟨parent, depth, hparent, hdepth, hsucc⟩
    have hparentMem := Hierarchy.mem_components_of_depth? hdepth
    -- The parent in the tree is the one that the manifest gives.
    have hgiven := hparents component hmem
    rw [hparent] at hgiven
    rcases Manifest.parent?_eq_some_iff.1 hgiven.symm with ⟨hsub, hfirst⟩
    exact ⟨hsub, parent, depth, hparent, hparentMem, hfirst, hdepth, hsucc⟩
  · intro parent
    exact ⟨hrooted.increasing_children parent, fun component => hrooted.mem_children_iff⟩
  · intro component hmem
    refine ⟨hrooted.ascends.getElem?_eq_climb?, hrooted.depth?_eq_length hmem,
      hrooted.nodup_ancestors, hrooted.getLast?_ancestors, hrooted.not_mem_ancestors_self, ?_⟩
    exact hrooted.lineage_eq_cons hmem

/-- A subcomponent declared twice, with repeated and unknown targets, above another one; and a circle
of parents next to them, tied to the root by a contribution of the root. -/
def tangledManifest : Manifest where
  entryPoint := "Page"
  components :=
    [⟨"App", some "Singleton", .component, ["Knot"]⟩,
      ⟨"Page", none, .subcomponent, ["Nowhere", "Shell"]⟩,
      ⟨"Shell", none, .component, []⟩,
      ⟨"Shell", some "Visit", .subcomponent, ["App", "App"]⟩,
      ⟨"Knot", none, .subcomponent, ["Loop"]⟩,
      ⟨"Loop", none, .subcomponent, ["Knot"]⟩]
  modules := []
  declarations := []

def tangledHierarchy : Hierarchy :=
  ⟨"App", .ofList [("App", ⟨none, some "Singleton", ["Shell"], 0⟩),
    ("Page", ⟨some "Shell", none, [], 2⟩), ("Shell", ⟨some "App", some "Visit", ["Page"], 1⟩)]⟩

theorem resolve_tangledManifest :
    (tangledManifest.resolveHierarchy .default).1 = some tangledHierarchy := by
  decide +kernel

theorem page_hangs_below_the_shell :
    (tangledManifest.resolveHierarchy .default).1 = some tangledHierarchy ∧
      tangledHierarchy.contains "Page" = true ∧
      tangledHierarchy.ancestors "Page" ≠ [] ∧
      (tangledHierarchy.ancestors "Page").getLast? = some "App" ∧
      ∃ parent depth, tangledHierarchy.parent? "Page" = some parent ∧
        (tangledManifest.targetsOf (.component "Page")).head? = some parent ∧
        tangledHierarchy.depth? parent = some depth ∧
        tangledHierarchy.depth? "Page" = some (depth + 1) := by
  have hcontains : tangledHierarchy.contains "Page" = true := by decide +kernel
  have habove : tangledHierarchy.ancestors "Page" ≠ [] := by decide +kernel
  rcases resolved_hierarchy_is_a_rooted_tree resolve_tangledManifest with ⟨_, hparents, _, hways⟩
  rcases hparents "Page" hcontains (by decide) with
    ⟨_, parent, depth, hparent, _, hfirst, hdepth, hsucc⟩
  exact ⟨resolve_tangledManifest, hcontains, habove, (hways "Page" hcontains).2.2.2.1 habove,
    parent, depth, hparent, hfirst, hdepth, hsucc⟩

end ObjectGraph
