import ObjectGraph.Proofs.Compile.Stage
import ObjectGraph.Proofs.Hierarchy.Hang

/-!
# Resolving a hierarchy — the root, and the tree that grows from it

A hierarchy is resolved over the one connected component that has no parent. The tree that grows from
there is connected, and what is connected without being in the tree goes up for ever.

* `Manifest.mem_rootCandidates_iff` — the connected components without a parent;
* `Manifest.parent?_root` — the root of a resolved hierarchy is one of them;
* `Manifest.mem_detached_iff` — what is connected and not in the tree;
* `Manifest.rooted_of_resolveHierarchy` — a resolved hierarchy is a tree.
-/

namespace ObjectGraph

namespace Manifest

variable {manifest : Manifest} {config : Config} {hierarchy : Hierarchy}

theorem mem_rootCandidates_iff {component : ComponentId} :
    component ∈ manifest.rootCandidates ↔
      component ∈ manifest.connected ∧ manifest.parent? component = none := by
  simp only [rootCandidates, List.mem_filter, decide_eq_true_eq, and_congr_right_iff]
  intro hmem
  simp [find?_parents, isComponent_of_mem_connected hmem]

theorem parent?_root {root : ComponentId} (h : manifest.rootCandidates = [root]) :
    manifest.parent? root = none := by
  have hmem : root ∈ manifest.rootCandidates := by simp [h]
  exact (mem_rootCandidates_iff.1 hmem).2

theorem mem_detached_iff {component : ComponentId} :
    component ∈ manifest.detached hierarchy ↔
      component ∈ manifest.connected ∧ component ∉ hierarchy.components := by
  simp [detached, ← Hierarchy.contains_iff_mem]

theorem rooted_of_resolveHierarchy
    (h : (manifest.resolveHierarchy config).1 = some hierarchy) : hierarchy.Rooted := by
  rcases resolveHierarchy_eq_some h with ⟨_, hroot, htree, _⟩
  rw [htree]
  exact rooted_treeAt (parent?_root hroot)

end Manifest
end ObjectGraph
