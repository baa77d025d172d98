import ObjectGraph.Graph.Check
import ObjectGraph.Graph.Cycle
import ObjectGraph.Hierarchy.Resolve
import ObjectGraph.Plan

/-!
# Compilation — from a manifest to a graph and its plan

The stages report in a fixed order: contributions, hierarchy, classification, orphans, shadowing,
dependencies, cycles. Without a hierarchy the later stages do not run; with any error there is no
graph.

* `Manifest.graph` — the graph over a hierarchy, sound or not;
* `compile` — the compilation or every error, and the warnings in either case.
-/

namespace ObjectGraph

structure Compilation where
  manifest : Manifest
  graph : Graph
  plan : Plan

namespace Compilation

def hierarchy (compilation : Compilation) : Hierarchy := compilation.graph.hierarchy

/-- The declaration that a node comes from. -/
def source? (compilation : Compilation) (node : Node) : Option Declaration :=
  compilation.manifest.declarations[node.source]?

end Compilation

namespace Manifest

def graph (manifest : Manifest) (hierarchy : Hierarchy) : Graph :=
  ⟨hierarchy, (manifest.draft hierarchy).table⟩

/-- What the stages after the hierarchy report. -/
def graphReport (manifest : Manifest) (config : Config) (hierarchy : Hierarchy) : Report :=
  let draft := manifest.draft hierarchy
  let graph : Graph := ⟨hierarchy, draft.table⟩
  .ofErrors (draft.errors ++ manifest.orphans) ++ graph.shadowingReport config ++
    .ofErrors (graph.dependencyErrors config ++ graph.cycleErrors)

/-- The hierarchy, if there is one, and the report of all stages. -/
def analyze (manifest : Manifest) (config : Config) : Option Hierarchy × Report :=
  match manifest.resolveHierarchy config with
  | (none, report) => (none, manifest.indexReport ++ report)
  | (some hierarchy, report) =>
    (some hierarchy,
      manifest.indexReport ++ report ++ manifest.graphReport config hierarchy)

end Manifest

structure CompileResult where
  result : Except (List GraphError) Compilation
  warnings : List Warning

def compile (manifest : Manifest) (config : Config) : CompileResult :=
  match manifest.analyze config with
  -- Warnings alone do not fail a compilation.
  | (some hierarchy, ⟨[], warnings⟩) =>
    let graph := manifest.graph hierarchy
    ⟨.ok ⟨manifest, graph, .ofGraph graph⟩, warnings⟩
  | (_, report) => ⟨.error report.errors, report.warnings⟩

end ObjectGraph
