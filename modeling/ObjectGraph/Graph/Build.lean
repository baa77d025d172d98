import ObjectGraph.Contribution
import ObjectGraph.Graph.Basic
import ObjectGraph.Graph.Classify

/-!
# Building the graph — from hosted declarations to nodes

The declarations that a component hosts are visited in the order in which their units were
contributed, component by component; a unit contributed to its host twice is visited twice. The
first node of a key stays, every later one is reported.

* `Manifest.visits` — declarations and hosts in the order of the visits;
* `Manifest.draft` — the nodes and the errors of all visits.
-/

namespace ObjectGraph

structure Draft where
  table : Table NodeId Node
  errors : List GraphError

namespace Draft

def empty : Draft := ⟨.empty, []⟩

def insert (draft : Draft) (node : Node) : Draft :=
  if draft.table.contains node.id then
    { draft with errors := draft.errors ++ [.duplicateBinding node.key node.host] }
  else
    { draft with table := draft.table.insertNew node.id node }

/-- Records the errors of a declaration, then its nodes one by one. -/
def add (draft : Draft) (classified : Classified) : Draft :=
  classified.nodes.foldl insert { draft with errors := draft.errors ++ classified.errors }

end Draft

namespace ContributionIndex

/-- Positions of the declarations that a unit brings along. -/
def positionsOf (index : ContributionIndex) : ContributionUnit → List Nat
  | .injectable position => [position]
  | .moduleUnit id => index.members.group id
  | .component _ => []

/-- Positions of the declarations visited for a component. -/
def visitsOf (index : ContributionIndex) (component : ComponentId) : List Nat :=
  -- A unit may be contributed to several components, but lands only at its host.
  ((index.contributions.group component).filter fun unit =>
    index.host? unit = some component).flatMap index.positionsOf

end ContributionIndex

namespace Manifest

def visitsOf (manifest : Manifest) (component : ComponentId) : List Nat :=
  manifest.index.visitsOf component

def visits (manifest : Manifest) (hierarchy : Hierarchy) : List Placement :=
  let index := manifest.index
  hierarchy.components.flatMap fun component =>
    (index.visitsOf component).map fun position =>
      ⟨position, component, hierarchy.scope? component⟩

/-- Nodes and errors of the declaration at a place. -/
def classifyAt (manifest : Manifest) (place : Placement) : Classified :=
  ((manifest.declarations[place.position]?).map (Declaration.classify place)).getD ⟨[], []⟩

def draft (manifest : Manifest) (hierarchy : Hierarchy) : Draft :=
  (manifest.visits hierarchy).foldl (fun draft place => draft.add (manifest.classifyAt place))
    Draft.empty

end Manifest
end ObjectGraph
