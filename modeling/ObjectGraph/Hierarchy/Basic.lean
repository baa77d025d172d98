import ObjectGraph.Name
import ObjectGraph.Table

/-!
# Hierarchies — the tree of components

Every member has its parent, its children and its depth on record; what is further up or further down
is found by going from member to member.

* `Hierarchy.parent?`, `Hierarchy.ancestors`, `Hierarchy.lineage` — upwards;
* `Hierarchy.children`, `Hierarchy.descendants` — downwards, breadth first.
-/

namespace ObjectGraph

structure Member where
  parent : Option ComponentId
  scope : Option ScopeId
  children : List ComponentId
  depth : Nat
  deriving DecidableEq, Repr

structure Hierarchy where
  root : ComponentId
  members : Table ComponentId Member
  deriving DecidableEq

namespace Hierarchy

variable (hierarchy : Hierarchy)

/-- Members in the order of their identities. -/
def components : List ComponentId :=
  hierarchy.members.keys

def contains (component : ComponentId) : Bool :=
  hierarchy.members.contains component

def scope? (component : ComponentId) : Option ScopeId :=
  (hierarchy.members.find? component).bind (·.scope)

def parent? (component : ComponentId) : Option ComponentId :=
  (hierarchy.members.find? component).bind (·.parent)

def children (component : ComponentId) : List ComponentId :=
  ((hierarchy.members.find? component).map (·.children)).getD []

def depth? (component : ComponentId) : Option Nat :=
  (hierarchy.members.find? component).map (·.depth)

/-! ## Upwards -/

/-- A component, its parent, the parent of that and so on, as far as the bound allows. -/
def successors : Nat → Option ComponentId → List ComponentId
  | _, none => []
  | 0, some _ => []
  | bound + 1, some component => component :: successors bound (hierarchy.parent? component)

/-- Ancestors of a component, the nearest first. No way up is longer than there are members. -/
def ancestors (component : ComponentId) : List ComponentId :=
  hierarchy.successors hierarchy.members.size (hierarchy.parent? component)

/-- A component and its ancestors; nothing for a component that is not a member. -/
def lineage (component : ComponentId) : List ComponentId :=
  hierarchy.successors hierarchy.members.size
    (if hierarchy.contains component then some component else none)

/-- Components by depth, those of one depth by identity. A tree is not as deep as it has members. -/
def componentsByDepth : List ComponentId :=
  (List.range hierarchy.members.size).flatMap fun depth =>
    hierarchy.components.filter fun component => hierarchy.depth? component = some depth

/-! ## Downwards -/

/-- The levels below a list of components, one after the other. -/
def levelsBelow : Nat → List ComponentId → List ComponentId
  | 0, _ => []
  | levels + 1, level =>
    let next := level.flatMap hierarchy.children
    next ++ levelsBelow levels next

/-- Everything below a component, breadth first. A tree has fewer levels than members. -/
def descendants (component : ComponentId) : List ComponentId :=
  hierarchy.levelsBelow hierarchy.members.size [component]

end Hierarchy
end ObjectGraph
