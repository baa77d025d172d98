import ObjectGraph.Config
import ObjectGraph.Contribution
import ObjectGraph.Hierarchy.Basic

/-!
# Resolving the hierarchy — from contributions to a tree

The parent of a subcomponent is its first known target. The components connected to the entry point
by contributions, in either direction, have to hold exactly one without a parent: the root. The tree
grows from there level by level; connected components that it does not reach go up in circles.

* `Manifest.connected` — the components connected to the entry point;
* `Manifest.hang` — the loop that hangs components into the tree, nearest to the root first;
* `Manifest.resolveHierarchy` — the tree, if there is one root, and everything found wrong;
* `Hierarchy.ambiguousScopes` — scopes declared twice along a lineage.
-/

namespace ObjectGraph

namespace Manifest

/-! ## Parents -/

def isSubcomponent (manifest : Manifest) (component : ComponentId) : Bool :=
  (manifest.effectiveComponent? component).any fun declaration => declaration.kind = .subcomponent

def parent? (manifest : Manifest) (component : ComponentId) : Option ComponentId :=
  if manifest.isSubcomponent component then manifest.hostOfUnit? (.component component) else none

/-- Every declared component with its parent, if it has one. -/
def parents (manifest : Manifest) : Table ComponentId (Option ComponentId) :=
  let index := manifest.index
  .ofList (manifest.componentIds.map fun component =>
    (component, if manifest.isSubcomponent component then index.host? (.component component)
      else none))

/-! ## Connected components -/

/-- Files a contribution of one component to another one at both ends. -/
def fileEdge (component : ComponentId) (edges : Table ComponentId (List ComponentId)) :
    ContributionUnit → Table ComponentId (List ComponentId)
  | .component child => (edges.push component child).push child component
  | .moduleUnit _ | .injectable _ => edges

/-- The neighbours of each component, those that it contributes to and those that contribute to it. -/
def componentEdges (manifest : Manifest) : Table ComponentId (List ComponentId) :=
  manifest.index.contributions.entries.foldl
    (fun edges entry => entry.2.foldl (fileEdge entry.1) edges) .empty

/-- Takes up the components that wait, one after the other, and makes the neighbours of a new one
wait behind the others. -/
def reach (edges : Table ComponentId (List ComponentId)) (reached : Table ComponentId Unit) :
    List ComponentId → Table ComponentId Unit
  | [] => reached
  | component :: waiting =>
    if reached.contains component then
      reach edges reached waiting
    else
      reach edges (reached.insert component ()) (waiting ++ edges.group component)
-- What may come to wait are the neighbours of the components not reached so far.
termination_by waiting => waiting.length + edges.weight fun component => !reached.contains component
decreasing_by
  · simp
  · rename_i hnew
    have hless : (edges.group component).length +
        edges.weight (fun other => !(reached.insert component ()).contains other) ≤
          edges.weight fun other => !reached.contains other :=
      Table.length_group_add_weight_le (by simp [hnew]) (by simp [Table.contains_insert])
        fun other => by simp +contextual [Table.contains_insert]
    simp only [List.length_append, List.length_cons]
    omega

/-- Components connected to the entry point, in order. -/
def connected (manifest : Manifest) : List ComponentId :=
  if manifest.isComponent manifest.entryPoint then
    (reach manifest.componentEdges .empty [manifest.entryPoint]).keys
  else
    []

/-! ## The tree -/

/-- Files a component under its parent, if it has one. -/
def fileChild (children : Table ComponentId (List ComponentId))
    (entry : ComponentId × Option ComponentId) : Table ComponentId (List ComponentId) :=
  match entry.2 with
  | some parent => children.push parent entry.1
  | none => children

/-- The children of each component, in the order of their identities. -/
def childTable (parents : Table ComponentId (Option ComponentId)) :
    Table ComponentId (List ComponentId) :=
  parents.entries.foldl fileChild .empty

/-- A component that is to be hung into the tree, with its place there. -/
structure Hanging where
  component : ComponentId
  parent : Option ComponentId
  depth : Nat
  deriving DecidableEq, Repr

def hang (manifest : Manifest) (parents : Table ComponentId (Option ComponentId))
    (children : Table ComponentId (List ComponentId)) (members : Table ComponentId Member) :
    List Hanging → Table ComponentId Member
  | [] => members
  | next :: queue =>
    let below := children.group next.component
    let added := (below.filter parents.contains).map fun child =>
      ⟨child, some next.component, next.depth + 1⟩
    let member := ⟨next.parent, (manifest.effectiveComponent? next.component).bind (·.scope), below,
      next.depth⟩
    hang manifest parents (children.erase next.component) (members.insert next.component member)
      (queue ++ added)
-- A component takes its children out of the table when it puts them into the queue.
termination_by queue => queue.length + children.weight fun _ => true
decreasing_by
  have hless : (children.group next.component).length +
      (children.erase next.component).weight (fun _ => true) ≤ children.weight fun _ => true := by
    rw [Table.weight_erase]
    exact Table.length_group_add_weight_le rfl (by simp) fun _ _ => rfl
  have hadded : ((children.group next.component).filter parents.contains).length ≤
      (children.group next.component).length := List.length_filter_le _ _
  simp only [List.length_append, List.length_map, List.length_cons]
  omega

def treeAt (manifest : Manifest) (root : ComponentId) : Hierarchy where
  root := root
  members :=
    hang manifest manifest.parents (childTable manifest.parents) .empty [⟨root, none, 0⟩]

end Manifest

/-! ## Scopes -/

/-- Scopes that a component and one of its ancestors declare, with the nearest such ancestor. -/
def Hierarchy.ambiguousScopes (hierarchy : Hierarchy) : List GraphError :=
  hierarchy.members.entries.filterMap fun entry =>
    entry.2.scope.bind fun scope =>
      ((hierarchy.ancestors entry.1).find? fun ancestor =>
        hierarchy.scope? ancestor = some scope).map
          fun ancestor => .ambiguousScope scope entry.1 ancestor

def Hierarchy.scopeReport (config : Config) (hierarchy : Hierarchy) : Report :=
  if config.rejectAmbiguousScopes then .ofErrors hierarchy.ambiguousScopes
  else .tolerate hierarchy.ambiguousScopes

/-! ## Resolution -/

namespace Manifest

def severalParents (manifest : Manifest) : List GraphError :=
  manifest.componentIds.filterMap fun component =>
    let targets := manifest.targetsOf (.component component)
    if manifest.isSubcomponent component && 1 < targets.length then
      some (.multipleParents component targets)
    else
      none

/-- Connected components without a parent. -/
def rootCandidates (manifest : Manifest) : List ComponentId :=
  let parents := manifest.parents
  manifest.connected.filter fun component => parents.find? component = some none

/-- Connected components that are not in the tree. -/
def detached (manifest : Manifest) (hierarchy : Hierarchy) : List ComponentId :=
  manifest.connected.filter fun component => !hierarchy.contains component

def detachedErrors (manifest : Manifest) (hierarchy : Hierarchy) : List GraphError :=
  match manifest.detached hierarchy with
  | [] => []
  | components => [.cyclicHierarchy components]

def resolveHierarchy (manifest : Manifest) (config : Config) : Option Hierarchy × Report :=
  if manifest.isComponent manifest.entryPoint then
    match manifest.rootCandidates with
    | [root] =>
      -- Detached components and ambiguous scopes fail a compilation, but there is still a tree.
      let hierarchy := manifest.treeAt root
      (some hierarchy,
        .ofErrors (manifest.severalParents ++ manifest.detachedErrors hierarchy) ++
          hierarchy.scopeReport config)
    | [] => (none, .ofErrors (manifest.severalParents ++ [.noRoot manifest.entryPoint]))
    | roots => (none, .ofErrors (manifest.severalParents ++ [.multipleRoots roots]))
  else
    (none, .ofErrors [.unknownEntryPoint manifest.entryPoint])

end Manifest
end ObjectGraph
