import ObjectGraph.Graph.Node
import ObjectGraph.Hierarchy.Basic
import ObjectGraph.Table

/-!
# Graphs — the nodes of every component

A component sees its own nodes and those of its ancestors, the nearest one first. The nodes of a
graph are listed by component and key.

* `Graph.local?` — a node hosted by a component;
* `Graph.resolve?` — the node that a component sees for a key;
* `Graph.flattened` — everything a component sees;
* `Graph.dispatch` — for every key the host nearest the root;
* `Graph.topologicalOrder` — the keys of a component, each after its local dependencies.
-/

namespace ObjectGraph

structure Graph where
  hierarchy : Hierarchy
  table : Table NodeId Node

namespace Graph

variable (graph : Graph)

/-! ## Nodes -/

def nodes : List Node := graph.table.values

/-- Nodes hosted by a component, in key order. -/
def nodesOf (component : ComponentId) : List Node :=
  graph.nodes.filter fun node => node.host = component

def local? (component : ComponentId) (key : Key) : Option Node :=
  graph.table.find? ⟨component, key⟩

def resolve? (component : ComponentId) (key : Key) : Option Node :=
  (graph.hierarchy.lineage component).findSome? fun host => graph.local? host key

/-- Nodes that the construction edges of a node lead to. -/
def constructionTargets (node : Node) : List Node :=
  node.dependencies.filterMap fun key => graph.resolve? node.host key

/-! ## Views -/

def size : Nat := graph.table.size

/-- Everything a component sees; its own nodes hide those of its ancestors. -/
def flattened (component : ComponentId) : Table Key Node :=
  (graph.hierarchy.lineage component).foldl
    (fun view host =>
      (graph.nodesOf host).foldl (fun view node => view.insertNew node.key node) view)
    Table.empty

def hostedKeys : List (ComponentId × List Key) :=
  graph.hierarchy.components.map fun component =>
    (component, (graph.nodesOf component).map (·.key))

def dispatch : Table Key ComponentId :=
  graph.hierarchy.componentsByDepth.foldl
    (fun table component =>
      (graph.nodesOf component).foldl (fun table node => table.insertNew node.key component) table)
    Table.empty

/-- Whether one instance of the node serves its host instance for good: it has a scope, the one of
its host, and its identity is not left to the site that asks for it. -/
def isScoped (node : Node) : Bool :=
  match node.scope with
  | some scope => !node.runtimeScoped && graph.hierarchy.scope? node.host = some scope
  | none => false

/-! ## Construction order -/

/-- Keys visited so far and keys whose visit has ended, in the order of their ends. -/
structure Visits where
  visited : List Key
  finished : List Key

/-- Visits a key of a component after the local keys that its node depends on. The depth of nested
visits is bounded by the number of keys, because no key is visited twice. -/
def visitKey (component : ComponentId) : Nat → Key → Visits → Visits
  | 0, _, state => state
  | bound + 1, key, state =>
    if state.visited.contains key then state
    else
      -- Dependencies hosted further up are constructed there and do not matter here.
      let dependencies := ((graph.local? component key).map (·.dependencies)).getD []
      let inner := dependencies.foldl
        (fun state dependency =>
          if (graph.local? component dependency).isSome then
            visitKey component bound dependency state
          else
            state)
        { state with visited := key :: state.visited }
      -- All local dependencies are finished by now.
      { inner with finished := inner.finished ++ [key] }

def topologicalOrder (component : ComponentId) : List Key :=
  let keys := (graph.nodesOf component).map (·.key)
  (keys.foldl (fun state key => graph.visitKey component (keys.length + 1) key state)
    ⟨[], []⟩).finished

end Graph
end ObjectGraph
