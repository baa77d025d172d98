import Mathlib.Data.List.TakeWhile
import ObjectGraph.Proofs.Graph.Cycle
import ObjectGraph.Proofs.Hierarchy.Resolve

/-!
# Cycle paths — a reported cycle stays in one component

A node only sees the nodes of its own component and of those above. An edge therefore never leads
down the tree, and a walk that returns to its start cannot have gone up either: all of its nodes
share one host. A path does not hold a node twice, so their keys differ.

* `Graph.Needs` — the local node of a key needs another key, which is local too;
* `Graph.visit_distinct` — a visit closes cycles without repetitions;
* `Graph.Genuine.exists_host` — the single host of a closed walk;
* `Graph.exists_component_of_mem_cycles` — a reported cycle, read as keys;
* `reported_cycles_are_genuine` — what every reported cycle is.
-/

namespace ObjectGraph

namespace Graph

variable {graph : Graph}

/-- The local node of `key` has `next` among its dependencies, and the component sees its own node
for `next`. -/
def Needs (graph : Graph) (component : ComponentId) (key next : Key) : Prop :=
  ∃ node target, graph.local? component key = some node ∧ next ∈ node.dependencies ∧
    graph.local? component next = some target ∧ graph.resolve? component next = some target

/-! ## No repetitions -/

/-- No cycle found so far holds a node twice. -/
def Distinct (search : Search) : Prop :=
  ∀ cycle ∈ search.cycles, (cycle.map Node.id).Nodup

theorem nodup_cycleFrom {path : List Node} (hpath : (path.map Node.id).Nodup) (node : Node) :
    ((cycleFrom node path).map Node.id).Nodup := by
  have hfresh : node.id ∉ (path.takeWhile fun other => other.id ≠ node.id).map Node.id := by
    intro hmem
    rcases List.mem_map.1 hmem with ⟨other, hother, hid⟩
    have hne := List.mem_takeWhile_imp hother
    simp [hid] at hne
  have hfront : ((path.takeWhile fun other => other.id ≠ node.id).map Node.id).Nodup :=
    hpath.sublist ((List.takeWhile_sublist _).map Node.id)
  simp only [cycleFrom, List.map_cons, List.map_reverse, List.nodup_cons, List.mem_reverse,
    List.nodup_reverse]
  exact ⟨hfresh, hfront⟩

/-- A visit from a path without repetitions closes cycles without repetitions. -/
theorem visit_distinct {bound : Nat} {path : List Node} {node : Node} {search : Search}
    (hpath : (path.map Node.id).Nodup) (hsearch : Distinct search) :
    Distinct (graph.visit bound path node search) := by
  induction bound generalizing path node search with
  | zero => exact hsearch
  | succ bound ih =>
    simp only [visit]
    split
    · exact hsearch
    · split
      · -- The path meets itself.
        intro cycle hcycle
        rcases List.mem_append.1 hcycle with hbefore | hclosed
        · exact hsearch cycle hbefore
        · rcases List.mem_singleton.1 hclosed with rfl
          exact nodup_cycleFrom hpath node
      · rename_i hmeets
        have hlonger : ((node :: path).map Node.id).Nodup := by
          simp only [List.map_cons, List.nodup_cons]
          exact ⟨by simpa using hmeets, hpath⟩
        exact List.foldlRecOn (motive := fun search => Distinct search)
          (graph.constructionTargets node) _ hsearch
          (fun inner hinner target _ => ih hlonger hinner)

theorem nodup_of_mem_cycles {cycle : List Node} (hcycle : cycle ∈ graph.cycles) :
    (cycle.map Node.id).Nodup := by
  have hsearch : Distinct graph.search := by
    refine List.foldlRecOn (motive := fun search => Distinct search) graph.nodes _ ?_ ?_
    · intro cycle hnone
      simp at hnone
    · intro search hsearch node _
      exact visit_distinct (by simp) hsearch
  exact hsearch cycle hcycle

/-! ## One host -/

/-- A node of the same component as another one, or of one above. -/
def Upwards (graph : Graph) (u v : Node) : Prop :=
  v ∈ graph.nodes ∧ v.host ∈ graph.hierarchy.lineage u.host

theorem Edge.upwards (hkeyed : graph.Keyed) {u v : Node} (hedge : graph.Edge u v) :
    graph.Upwards u v := by
  rcases hedge with ⟨_, key, _, hresolve⟩
  rcases hkeyed.of_resolve? hresolve with ⟨hnode, hhost, _⟩
  exact ⟨hnode, hhost⟩

theorem Upwards.trans (hrooted : graph.hierarchy.Rooted) {u v w : Node}
    (huv : graph.Upwards u v) (hvw : graph.Upwards v w) : graph.Upwards u w :=
  ⟨hvw.1, hrooted.mem_lineage_trans huv.2 hvw.2⟩

/-- Whoever walks up a tree and arrives at the start has not moved. -/
theorem Genuine.exists_host (hkeyed : graph.Keyed) (hrooted : graph.hierarchy.Rooted)
    {cycle : List Node} (hgenuine : graph.Genuine cycle) :
    ∃ component ∈ graph.hierarchy.components,
      ∀ node ∈ cycle, node ∈ graph.nodes ∧ node.host = component := by
  rcases hgenuine with ⟨start, rest, rfl, _, _, _, hchain⟩
  have htrans : IsTrans Node graph.Upwards := ⟨fun _ _ _ => Upwards.trans hrooted⟩
  have hup : (start :: (rest ++ [start])).IsChain graph.Upwards :=
    hchain.imp fun _ _ hedge => hedge.upwards hkeyed
  rcases List.pairwise_cons.1 (List.isChain_iff_pairwise.1 hup) with ⟨habove, hrest⟩
  have hself : graph.Upwards start start := habove start (by simp)
  refine ⟨start.host, (hrooted.mem_lineage_iff.1 hself.2).1, ?_⟩
  intro node hnode
  rcases List.mem_cons.1 hnode with rfl | hnode
  · exact ⟨hself.1, rfl⟩
  · -- The node is above the start, and the start is above the node.
    have hto : graph.Upwards start node := habove node (List.mem_append_left _ hnode)
    have hback : graph.Upwards node start :=
      (List.pairwise_append.1 hrest).2.2 node hnode start (by simp)
    exact ⟨hto.1, hrooted.eq_of_mem_lineage hto.2 hback.2⟩

/-- A component has and sees the nodes that it hosts. -/
theorem sees_of_host (hkeyed : graph.Keyed) (hrooted : graph.hierarchy.Rooted)
    {component : ComponentId} (hmem : component ∈ graph.hierarchy.components) {node : Node}
    (hnode : node ∈ graph.nodes) (hhost : node.host = component) :
    graph.local? component node.key = some node ∧
      graph.resolve? component node.key = some node := by
  have hlocal : graph.local? component node.key = some node := by
    simp only [← hhost]
    exact hkeyed.mem_nodes_iff.1 hnode
  exact ⟨hlocal, resolve?_of_local? hrooted hmem hlocal⟩

/-- A reported cycle, read as keys, is a closed walk of local needs without repetitions. -/
theorem exists_component_of_mem_cycles (hkeyed : graph.Keyed) (hrooted : graph.hierarchy.Rooted)
    {cycle : List Node} (hcycle : cycle ∈ graph.cycles) :
    ∃ component ∈ graph.hierarchy.components,
      (∀ node ∈ cycle, graph.local? component node.key = some node ∧
        graph.resolve? component node.key = some node) ∧
      (cycle.map (·.key)).Nodup ∧
      ∃ start rest, cycle.map (·.key) = start :: rest ∧
        (start :: (rest ++ [start])).IsChain (graph.Needs component) := by
  have hgenuine : graph.Genuine cycle := (search_settled hkeyed).1.genuine cycle hcycle
  rcases hgenuine.exists_host hkeyed hrooted with ⟨component, hmem, hhosted⟩
  have hsees : ∀ node ∈ cycle, graph.local? component node.key = some node ∧
      graph.resolve? component node.key = some node := by
    intro node hnode
    rcases hhosted node hnode with ⟨hlisted, hhost⟩
    exact sees_of_host hkeyed hrooted hmem hlisted hhost
  refine ⟨component, hmem, hsees, ?_, ?_⟩
  · -- Nodes of one host that differ have different keys.
    have hids := List.pairwise_map.1 (nodup_of_mem_cycles hcycle)
    refine List.pairwise_map.2 (hids.imp_of_mem ?_)
    intro u v hu hv hne hkey
    apply hne
    simp only [Node.id, (hhosted u hu).2, (hhosted v hv).2, hkey]
  · rcases hgenuine with ⟨start, rest, rfl, _, _, _, hchain⟩
    refine ⟨start.key, rest.map (·.key), rfl, ?_⟩
    have hagain : ∀ node ∈ start :: (rest ++ [start]), node ∈ start :: rest := by
      simp [or_comm]
    have hneeds : (start :: (rest ++ [start])).IsChain fun u v =>
        graph.Needs component u.key v.key := by
      refine hchain.imp_of_mem_imp ?_
      rintro u v hu hv ⟨_, key, hkey, hresolve⟩
      rcases hkeyed.of_resolve? hresolve with ⟨_, _, rfl⟩
      rcases hsees v (hagain v hv) with ⟨hlocal, hseen⟩
      exact ⟨u, v, (hsees u (hagain u hu)).1, hkey, hlocal, hseen⟩
    simpa using (List.isChain_map Node.key).2 hneeds

end Graph

/-! ## Compilations -/

/-- Every reported cycle is made of distinct keys of one component. Each of them is a dependency of
the local node of the one before, the first one of the last, and the component sees its own nodes
for them: no node of another component has a part in the cycle. -/
theorem reported_cycles_are_genuine {manifest : Manifest} {config : Config} {hierarchy : Hierarchy}
    (h : (manifest.resolveHierarchy config).1 = some hierarchy) :
    let graph := manifest.graph hierarchy
    let errors := (compile manifest config).errors
    (∀ path, .cyclicDependency path ∈ errors → path.Nodup ∧
      ∃ component ∈ hierarchy.components, ∃ start rest, path = start :: rest ∧
        (start :: (rest ++ [start])).IsChain (graph.Needs component)) ∧
    (errors.filterMap GraphError.cycle? = graph.cycles.map fun cycle => cycle.map (·.key)) ∧
    (∀ cycle ∈ graph.cycles, ∃ component ∈ hierarchy.components, ∀ node ∈ cycle,
      graph.local? component node.key = some node ∧
        graph.resolve? component node.key = some node) := by
  intro graph errors
  have hkeyed : graph.Keyed := manifest.keyed_graph hierarchy
  have hrooted : graph.hierarchy.Rooted := Manifest.rooted_of_resolveHierarchy h
  refine ⟨?_, filterMap_cycle?_compile h, ?_⟩
  · intro path hpath
    rcases List.mem_map.1 ((cyclicDependency_mem_iff h).1 hpath) with ⟨cycle, hcycle, rfl⟩
    rcases Graph.exists_component_of_mem_cycles hkeyed hrooted hcycle with
      ⟨component, hmem, _, hnodup, hwalk⟩
    exact ⟨hnodup, component, hmem, hwalk⟩
  · intro cycle hcycle
    rcases Graph.exists_component_of_mem_cycles hkeyed hrooted hcycle with
      ⟨component, hmem, hsees, _⟩
    exact ⟨component, hmem, hsees⟩

/-- Two types that need one another share their component. -/
theorem mutual_dependency_is_local :
    (mutualManifest.resolveHierarchy .default).1 = some mutualHierarchy ∧
      .cyclicDependency [.unqualified "A", .unqualified "B"] ∈
        (compile mutualManifest .default).errors ∧
      ∃ component ∈ mutualHierarchy.components, ∃ start rest,
        [Key.unqualified "A", .unqualified "B"] = start :: rest ∧
          (start :: (rest ++ [start])).IsChain
            ((mutualManifest.graph mutualHierarchy).Needs component) := by
  have hresolve : (mutualManifest.resolveHierarchy .default).1 = some mutualHierarchy := by
    decide +kernel
  have hreported : .cyclicDependency [.unqualified "A", .unqualified "B"] ∈
      (compile mutualManifest .default).errors := by
    decide +kernel
  exact ⟨hresolve, hreported, ((reported_cycles_are_genuine hresolve).1 _ hreported).2⟩

end ObjectGraph
