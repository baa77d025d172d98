import ObjectGraph.Manifest

/-!
# Nodes — what a graph holds for one key of one component

* `NodeId` — a component and a key, ordered in that order;
* `Node.isAssisted` — a node that only its factory can build;
* `Node.aliasTarget?` — the key that an alias forwards to.
-/

namespace ObjectGraph

structure NodeId where
  host : ComponentId
  key : Key
  deriving DecidableEq, Repr

namespace NodeId

instance : Ord NodeId where
  compare := compareLex (compareOn host) (compareOn key)

instance : Std.TransOrd NodeId :=
  inferInstanceAs (Std.TransCmp (compareLex (compareOn NodeId.host) (compareOn NodeId.key)))

instance : Std.LawfulEqOrd NodeId where
  eq_of_compare {a b} h := by
    -- Neither field may differ if the whole comparison ends in `eq`.
    obtain ⟨hhost, hkey⟩ := Ordering.then_eq_eq.1 h
    have hhost : a.host = b.host := Std.LawfulEqCmp.eq_of_compare hhost
    have hkey : a.key = b.key := Std.LawfulEqCmp.eq_of_compare hkey
    cases a; cases b; simp_all

end NodeId

/-- `source` is the position of the declaration that the node comes from. `dependencies` are the
keys needed to construct it, in parameter order; `deferred` those asked for as providers. -/
structure Node where
  key : Key
  source : Nat
  host : ComponentId
  dependencies : List Key
  deferred : List Key
  assisted : List (String × TypeRef)
  bindingTargets : List Key
  scope : Option ScopeId
  context : Option (String × TypeName)
  isAlias : Bool
  isFactory : Bool
  runtimeScoped : Bool
  deriving DecidableEq, Repr

namespace Node

def id (node : Node) : NodeId := ⟨node.host, node.key⟩

/-- A node with nothing but its key, source and host. -/
def bare (key : Key) (source : Nat) (host : ComponentId) : Node where
  key := key
  source := source
  host := host
  dependencies := []
  deferred := []
  assisted := []
  bindingTargets := []
  scope := none
  context := none
  isAlias := false
  isFactory := false
  runtimeScoped := false

def isAssisted (node : Node) : Bool :=
  !node.isFactory && !node.assisted.isEmpty

def aliasTarget? (node : Node) : Option Key :=
  if node.isAlias then node.dependencies.head? else none

/-- Every key the node asks for, constructed or deferred. -/
def requested (node : Node) : List Key :=
  node.dependencies ++ node.deferred

end Node
end ObjectGraph
