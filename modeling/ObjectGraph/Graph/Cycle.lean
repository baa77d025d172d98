import ObjectGraph.Diagnostic
import ObjectGraph.Graph.Basic

/-!
# Cycles — depth-first search along construction edges

The search starts at every node in turn and follows the nodes that its dependencies resolve to. A
node met again on the current path closes a cycle: the part of the path from that node on. A node
whose visit has ended is not visited again.

* `Graph.visit` — the visit of one node;
* `Graph.cycles` — the cycles in the order in which they are closed.
-/

namespace ObjectGraph

/-- Nodes whose visit has ended, and the cycles found so far. -/
structure Search where
  done : List NodeId
  cycles : List (List Node)

/-- The part of a path from a node on. The last node of the path comes first. -/
def cycleFrom (node : Node) (path : List Node) : List Node :=
  node :: (path.takeWhile fun other => other.id ≠ node.id).reverse

namespace Graph

variable (graph : Graph)

/-- Visits a node at the end of a path, whose last node comes first. No node occurs on a path twice,
which bounds the depth of the visits. -/
def visit : Nat → List Node → Node → Search → Search
  | 0, _, _, search => search
  | bound + 1, path, node, search =>
    -- Every cycle through a node is closed before the visit of the node ends.
    if search.done.contains node.id then search
    else if path.any fun other => other.id = node.id then
      -- The node is on the path, so it is not visited again from here.
      { search with cycles := search.cycles ++ [cycleFrom node path] }
    else
      let inner := (graph.constructionTargets node).foldl
        (fun search target => visit bound (node :: path) target search) search
      { inner with done := node.id :: inner.done }

def search : Search :=
  graph.nodes.foldl (fun search node => graph.visit (graph.size + 1) [] node search) ⟨[], []⟩

def cycles : List (List Node) := graph.search.cycles

def cycleErrors : List GraphError :=
  graph.cycles.map fun cycle => .cyclicDependency (cycle.map (·.key))

end Graph
end ObjectGraph
