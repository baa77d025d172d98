import ObjectGraph.Graph.Basic

/-!
# Plans — what to emit for a graph

* `ProviderKind` — how the provider of a node is wired;
* `Entry` — one provider of a component;
* `ComponentPlan` — a component with its providers in construction order;
* `Plan` — all components and the dispatch table;
* `Plan.descendants` — everything below a component, depth first.
-/

namespace ObjectGraph

/-! ## Provider kinds -/

inductive ProviderKind where
  /-- Constructed at most once for an instance of the host. -/
  | scoped
  /-- Constructed on every request. -/
  | unscoped
  /-- The provider of another key. -/
  | aliasOf
  | factory
  /-- Constructed only through a factory. -/
  | assistedOnly
  deriving DecidableEq, Repr

namespace ProviderKind

def text : ProviderKind → String
  | .scoped => "scoped"
  | .unscoped => "unscoped"
  | .aliasOf => "alias"
  | .factory => "factory"
  | .assistedOnly => "assisted-only"

def ofNode (graph : Graph) (node : Node) : ProviderKind :=
  if node.isAlias then .aliasOf
  else if node.isFactory then .factory
  else if node.isAssisted then .assistedOnly
  else if graph.isScoped node then .scoped
  else .unscoped

end ProviderKind

/-! ## Plans -/

structure Entry where
  key : Key
  name : String
  kind : ProviderKind
  dependencies : List Key
  deferred : List Key
  context : Option TypeName
  deriving DecidableEq, Repr

namespace Entry

def ofNode (graph : Graph) (node : Node) : Entry where
  key := node.key
  name := node.key.providerName
  kind := .ofNode graph node
  dependencies := node.dependencies
  deferred := node.deferred
  context := node.context.map (·.2)

/-- The key that the entry of an alias forwards to. -/
def target? (entry : Entry) : Option Key :=
  match entry.kind with
  | .aliasOf => entry.dependencies.head?
  | .scoped | .unscoped | .factory | .assistedOnly => none

end Entry

structure ComponentPlan where
  id : ComponentId
  parent : Option ComponentId
  scope : Option ScopeId
  providers : List Entry
  children : List ComponentId
  deriving DecidableEq, Repr

namespace ComponentPlan

def provider? (plan : ComponentPlan) (key : Key) : Option Entry :=
  plan.providers.find? fun entry => entry.key = key

def ofGraph (graph : Graph) (component : ComponentId) : ComponentPlan where
  id := component
  parent := graph.hierarchy.parent? component
  scope := graph.hierarchy.scope? component
  providers := (graph.topologicalOrder component).filterMap fun key =>
    (graph.local? component key).map (Entry.ofNode graph)
  children := graph.hierarchy.children component

end ComponentPlan

structure Plan where
  root : ComponentId
  components : List ComponentPlan
  dispatch : Table Key ComponentId
  deriving DecidableEq

namespace Plan

def ofGraph (graph : Graph) : Plan where
  root := graph.hierarchy.root
  components := graph.hierarchy.components.map (ComponentPlan.ofGraph graph)
  dispatch := graph.dispatch

def component? (plan : Plan) (id : ComponentId) : Option ComponentPlan :=
  plan.components.find? fun component => component.id = id

def children (plan : Plan) (id : ComponentId) : List ComponentId :=
  ((plan.component? id).map (·.children)).getD []

/-- A component's children, each followed by everything below it. -/
def below (plan : Plan) : Nat → ComponentId → List ComponentId
  | 0, _ => []
  -- A child comes before what is below it, and that before the next child.
  | depth + 1, id => (plan.children id).flatMap fun child => child :: below plan depth child

/-- Everything below a component, depth first. A tree is not as deep as it has components. -/
def descendants (plan : Plan) (id : ComponentId) : List ComponentId :=
  plan.below plan.components.length id

/-- Number of providers of all components. -/
def size (plan : Plan) : Nat :=
  plan.components.foldl (fun count component => count + component.providers.length) 0

end Plan
end ObjectGraph
