import ObjectGraph.Config
import ObjectGraph.Graph.Build

/-!
# Checks — what a graph must not contain

* `Manifest.orphans` — declarations that no component hosts and that name no target;
* `Graph.shadowed` — keys that a component and one of its ancestors host;
* `Graph.dependencyErrors` — keys asked for that nothing provides or that only a factory can build.
-/

namespace ObjectGraph

/-! ## Orphans -/

namespace Manifest

/-- Whether a declaration names targets, directly or through the first declaration of its module. A
function of an undeclared module was reported as such. -/
def namesTargets (manifest : Manifest) : Declaration → Bool
  | .injectable i => !i.contributesTo.isEmpty
  | .provides f => (manifest.module? f.moduleId).all fun m => !m.contributesTo.isEmpty
  | .binds f => (manifest.module? f.moduleId).all fun m => !m.contributesTo.isEmpty

def orphans (manifest : Manifest) : List GraphError :=
  manifest.declarations.zipIdx.filterMap fun entry =>
    -- A declaration with targets but no host was reported with its unknown targets.
    if manifest.hostOf? entry.2 = none ∧ manifest.namesTargets entry.1 = false then
      some (.orphanDeclaration entry.1.displayName)
    else
      none

end Manifest

namespace Graph

variable (graph : Graph)

/-! ## Shadowing -/

/-- The nearest proper ancestor of a node's host that hosts the same key. -/
def shadowedAncestor? (node : Node) : Option ComponentId :=
  (graph.hierarchy.ancestors node.host).find? fun ancestor =>
    (graph.local? ancestor node.key).isSome

def shadowed : List GraphError :=
  graph.nodes.filterMap fun node =>
    (graph.shadowedAncestor? node).map (.shadowedBinding node.key node.host)

def shadowingReport (config : Config) : Report :=
  match config.shadowing with
  | .allow => .empty
  | .warn => .tolerate graph.shadowed
  | .deny => .ofErrors graph.shadowed

/-! ## Dependencies -/

/-- Whatever a node asks for has to be visible from its host, and not be a type that only its
factory can build. -/
def dependencyError? (config : Config) (node : Node) (key : Key) : Option GraphError :=
  match graph.resolve? node.host key with
  | some target =>
    -- Its factory is a node of its own, with a key of its own.
    if target.isAssisted then some (.directAssistedDependency key node.key) else none
  | none =>
    if config.validateDependencies then some (.unsatisfiedDependency key node.key node.host)
    else none

def dependencyErrors (config : Config) : List GraphError :=
  graph.nodes.flatMap fun node => node.requested.filterMap (graph.dependencyError? config node)

end Graph
end ObjectGraph
