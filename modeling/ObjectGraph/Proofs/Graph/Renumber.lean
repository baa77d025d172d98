import ObjectGraph.Compile
import ObjectGraph.Proofs.Table

/-!
# Renumbering — the same nodes from other positions

A node keeps the position of the declaration that it comes from, but no check and no listing reads
it. A graph whose positions are renumbered is therefore checked and planned like the graph itself.

* `Graph.renumber` — the graph with other positions;
* `Graph.local?_renumber`, `Graph.resolve?_renumber` — lookups;
* `Graph.visit_renumber`, `Graph.cycleErrors_renumber` — the search for cycles, step by step;
* `Plan.ofGraph_renumber` — the plan is the same.
-/

namespace ObjectGraph

/-! ## Nodes -/

namespace Node

def renumber (positions : Nat → Nat) (node : Node) : Node :=
  { node with source := positions node.source }

variable (positions : Nat → Nat) (node : Node)

@[simp]
theorem renumber_key : (node.renumber positions).key = node.key := rfl

@[simp]
theorem renumber_host : (node.renumber positions).host = node.host := rfl

@[simp]
theorem renumber_dependencies : (node.renumber positions).dependencies = node.dependencies := rfl

@[simp]
theorem renumber_requested : (node.renumber positions).requested = node.requested := rfl

end Node

/-! ## Lookups -/

namespace Graph

/-- The graph with every node coming from the position that replaces its own. -/
def renumber (positions : Nat → Nat) (graph : Graph) : Graph :=
  ⟨graph.hierarchy, graph.table.map (Node.renumber positions)⟩

variable (positions : Nat → Nat) (graph : Graph)

@[simp]
theorem hierarchy_renumber : (graph.renumber positions).hierarchy = graph.hierarchy := rfl

@[simp]
theorem nodes_renumber :
    (graph.renumber positions).nodes = graph.nodes.map (Node.renumber positions) :=
  Table.values_map _ _

@[simp]
theorem size_renumber : (graph.renumber positions).size = graph.size := by
  simp [size, renumber, Table.size, Table.map]

@[simp]
theorem local?_renumber (component : ComponentId) (key : Key) :
    (graph.renumber positions).local? component key =
      (graph.local? component key).map (Node.renumber positions) :=
  Table.find?_map _ _ _

@[simp]
theorem resolve?_renumber (component : ComponentId) (key : Key) :
    (graph.renumber positions).resolve? component key =
      (graph.resolve? component key).map (Node.renumber positions) := by
  simp only [resolve?, hierarchy_renumber, local?_renumber, List.map_findSome?]
  rfl

@[simp]
theorem nodesOf_renumber (component : ComponentId) :
    (graph.renumber positions).nodesOf component =
      (graph.nodesOf component).map (Node.renumber positions) := by
  simp only [nodesOf, nodes_renumber, List.filter_map]
  rfl

/-! ## Checks -/

theorem shadowed_renumber : (graph.renumber positions).shadowed = graph.shadowed := by
  have hancestor : ∀ node : Node,
      (graph.renumber positions).shadowedAncestor? (node.renumber positions) =
        graph.shadowedAncestor? node := by
    intro node
    simp [shadowedAncestor?]
  simp only [shadowed, nodes_renumber, List.filterMap_map]
  apply List.filterMap_congr
  intro node _
  simp [hancestor]

theorem shadowingReport_renumber (config : Config) :
    (graph.renumber positions).shadowingReport config = graph.shadowingReport config := by
  simp only [shadowingReport, shadowed_renumber]

theorem dependencyError?_renumber (config : Config) (node : Node) (key : Key) :
    (graph.renumber positions).dependencyError? config (node.renumber positions) key =
      graph.dependencyError? config node key := by
  simp only [dependencyError?, Node.renumber_host, Node.renumber_key, resolve?_renumber]
  cases graph.resolve? node.host key with
  | none => rfl
  | some target => rfl

theorem dependencyErrors_renumber (config : Config) :
    (graph.renumber positions).dependencyErrors config = graph.dependencyErrors config := by
  simp only [dependencyErrors, nodes_renumber, List.flatMap_map, Node.renumber_requested]
  apply List.flatMap_congr
  intro node _
  apply List.filterMap_congr
  intro key _
  exact dependencyError?_renumber positions graph config node key

/-! ## Cycles -/

end Graph

def Search.renumber (positions : Nat → Nat) (search : Search) : Search :=
  ⟨search.done, search.cycles.map (List.map (Node.renumber positions))⟩

theorem cycleFrom_renumber (positions : Nat → Nat) (node : Node) (path : List Node) :
    cycleFrom (node.renumber positions) (path.map (Node.renumber positions)) =
      (cycleFrom node path).map (Node.renumber positions) := by
  simp only [cycleFrom, List.takeWhile_map, List.map_cons, List.map_reverse]
  rfl

namespace Graph

variable (positions : Nat → Nat) (graph : Graph)

theorem constructionTargets_renumber (node : Node) :
    (graph.renumber positions).constructionTargets (node.renumber positions) =
      (graph.constructionTargets node).map (Node.renumber positions) := by
  simp [constructionTargets, List.map_filterMap]

/-- Visits of renumbered nodes go the same way. -/
theorem visit_renumber (bound : Nat) (path : List Node) (node : Node) (search : Search) :
    (graph.renumber positions).visit bound (path.map (Node.renumber positions))
        (node.renumber positions) (search.renumber positions) =
      (graph.visit bound path node search).renumber positions := by
  -- By induction on the depth: the targets of the renumbered node are the renumbered targets.
  induction bound generalizing path node search with
  | zero => rfl
  | succ bound ih =>
    have hinner : ((graph.constructionTargets node).map (Node.renumber positions)).foldl
          (fun search target => (graph.renumber positions).visit bound
            (node.renumber positions :: path.map (Node.renumber positions)) target search)
          (search.renumber positions) =
        ((graph.constructionTargets node).foldl
          (fun search target => graph.visit bound (node :: path) target search)
          search).renumber positions := by
      rw [List.foldl_map]
      refine List.foldl_hom (Search.renumber positions) ?_
      intro search target
      exact ih (node :: path) target search
    have hdone : (search.renumber positions).done.contains (node.renumber positions).id =
        search.done.contains node.id := rfl
    have hmeets : ((path.map (Node.renumber positions)).any fun other =>
        other.id = (node.renumber positions).id) = path.any fun other => other.id = node.id := by
      rw [List.any_map]
      rfl
    simp only [visit, hdone, hmeets, constructionTargets_renumber, hinner, cycleFrom_renumber]
    by_cases hended : search.done.contains node.id = true
    · simp only [hended, if_true]
    · by_cases hclosed : (path.any fun other => other.id = node.id) = true
      · simp only [hended, hclosed, if_false, if_true, Search.renumber, List.map_append,
          List.map_cons, List.map_nil, Bool.false_eq_true]
      · simp only [hended, hclosed, if_false, Bool.false_eq_true]
        rfl

theorem cycles_renumber : (graph.renumber positions).cycles =
    graph.cycles.map (List.map (Node.renumber positions)) := by
  have hsearch : graph.nodes.foldl
      (fun search node => (graph.renumber positions).visit (graph.size + 1) []
        (node.renumber positions) search) (Search.renumber positions ⟨[], []⟩) =
      graph.search.renumber positions := by
    refine List.foldl_hom (Search.renumber positions) ?_
    intro search node
    exact visit_renumber positions graph (graph.size + 1) [] node search
  simp only [cycles, search, nodes_renumber, size_renumber, List.foldl_map]
  exact congrArg Search.cycles hsearch

theorem cycleErrors_renumber :
    (graph.renumber positions).cycleErrors = graph.cycleErrors := by
  simp only [cycleErrors, cycles_renumber, List.map_map]
  apply List.map_congr_left
  intro cycle _
  simp

/-! ## Plans -/

theorem visitKey_renumber (component : ComponentId) (bound : Nat) (key : Key) (state : Visits) :
    (graph.renumber positions).visitKey component bound key state =
      graph.visitKey component bound key state := by
  induction bound generalizing key state with
  | zero => rfl
  | succ bound ih =>
    -- Which dependencies are local is all that a visit asks the graph.
    simp only [visitKey, ih, local?_renumber, Option.isSome_map, Option.map_map,
      Function.comp_def, Node.renumber_dependencies]

theorem topologicalOrder_renumber (component : ComponentId) :
    (graph.renumber positions).topologicalOrder component = graph.topologicalOrder component := by
  have hkeys : ((graph.renumber positions).nodesOf component).map (·.key) =
      (graph.nodesOf component).map (·.key) := by
    simp
  simp only [topologicalOrder, hkeys, visitKey_renumber]

theorem dispatch_renumber : (graph.renumber positions).dispatch = graph.dispatch := by
  simp [dispatch, List.foldl_map]

end Graph

theorem Entry.ofNode_renumber (positions : Nat → Nat) (graph : Graph) (node : Node) :
    Entry.ofNode (graph.renumber positions) (node.renumber positions) =
      Entry.ofNode graph node := rfl

theorem Plan.ofGraph_renumber (positions : Nat → Nat) (graph : Graph) :
    Plan.ofGraph (graph.renumber positions) = Plan.ofGraph graph := by
  have hcomponent : ∀ component, ComponentPlan.ofGraph (graph.renumber positions) component =
      ComponentPlan.ofGraph graph component := by
    intro component
    simp [ComponentPlan.ofGraph, Graph.topologicalOrder_renumber, Function.comp_def,
      Entry.ofNode_renumber]
  simp [ofGraph, Graph.dispatch_renumber, hcomponent]

end ObjectGraph
