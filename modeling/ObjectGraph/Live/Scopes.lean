import ObjectGraph.Live.Lookup

/-!
# Live graphs — the instances that are active

A live graph has one root instance for good and at most one active instance of every other
component. Instances are made on first use, parents first, and stay active until they are destroyed.

* `LiveGraph.activate` — the active instance of a component, made if it is missing;
* `LiveGraph.destroy` — removes an active instance and those of everything below it;
* `LiveGraph.dispatch` — the instance that the dispatch table leads to for a key.
-/

namespace ObjectGraph

structure LiveGraph where
  wiring : Wiring
  root : Instance
  active : Table ComponentId Instance

namespace LiveGraph

/-- A graph with nothing but its root instance, which takes the given stamp. -/
def start (wiring : Wiring) (stamp : Nat) : LiveGraph :=
  ⟨wiring, ⟨⟨stamp, wiring.plan.root⟩, []⟩, .empty⟩

/-- The stamp of the root instance, by which the graph is known. -/
def id (graph : LiveGraph) : Nat := graph.root.stamp

def isActive (graph : LiveGraph) (component : ComponentId) : Bool :=
  component = graph.root.component || graph.active.contains component

/-- Instances that the graph holds. -/
def instances (graph : LiveGraph) : List Instance := graph.root :: graph.active.values

/-! ## Activation -/

/-- An instance, the graph that it is active in and the next free stamp. -/
structure Activation where
  inst : Instance
  graph : LiveGraph
  nextStamp : Nat

/-- The active instance of a component below a parent instance, or a new one in its place. -/
def activateBelow (parent : Instance) (component : ComponentId) (graph : LiveGraph)
    (nextStamp : Nat) : Activation :=
  let fresh : Instance := ⟨⟨nextStamp, component⟩, parent.lineage⟩
  let renewed : Activation :=
    ⟨fresh, { graph with active := graph.active.insert component fresh }, nextStamp + 1⟩
  match graph.active.find? component with
  | none => renewed
  -- An instance that hangs below an earlier parent instance is replaced.
  | some inst => if inst.parent? = some parent then ⟨inst, graph, nextStamp⟩ else renewed

def activateWithin : Nat → ComponentId → LiveGraph → Nat → Except ResolveError Activation
  | bound, component, graph, nextStamp =>
    if component = graph.root.component then .ok ⟨graph.root, graph, nextStamp⟩
    else
      match graph.wiring.plan.component? component, bound with
      | none, _ => .error (.unknownComponent component)
      | some _, 0 => .error (.unknownComponent component)
      | some plan, bound + 1 =>
        match plan.parent with
        | none => .ok (activateBelow graph.root component graph nextStamp)
        | some parent =>
          match activateWithin bound parent graph nextStamp with
          | .error error => .error error
          | .ok above => .ok (activateBelow above.inst component above.graph above.nextStamp)

/-- The active instance of a component, with its missing ancestors made first. The chain of parents
is shorter than the list of components. -/
def activate (graph : LiveGraph) (component : ComponentId) (nextStamp : Nat) :
    Except ResolveError Activation :=
  activateWithin graph.wiring.plan.components.length component graph nextStamp

/-! ## Destruction -/

/-- Whether the component was active, and the graph without it and everything below it. The root is
never removed. -/
def destroy (graph : LiveGraph) (component : ComponentId) : Bool × LiveGraph :=
  if graph.active.contains component then
    -- Inactive components below are simply not there to be erased.
    (true, { graph with
      active := (component :: graph.wiring.plan.descendants component).foldl Table.erase
        graph.active })
  else
    (false, graph)

/-! ## Dispatch -/

def host (graph : LiveGraph) (key : Key) : Except ResolveError ComponentId :=
  match graph.wiring.plan.dispatch.find? key with
  | some component => .ok component
  | none => .error (.noProviderFound key)

def dispatch (graph : LiveGraph) (key : Key) (nextStamp : Nat) : Except ResolveError Activation :=
  match graph.host key with
  | .error error => .error error
  | .ok component => graph.activate component nextStamp

end LiveGraph
end ObjectGraph
