import Mathlib.Data.List.Count
import Mathlib.Logic.Relation
import ObjectGraph.Proofs.Graph.Cycle
import ObjectGraph.Proofs.Graph.Precedence
import ObjectGraph.Proofs.Graph.Sources

/-!
# Sound graphs — what a compilation without errors has established

A compilation that succeeds has checked its graph: components of the tree host all nodes, an alias
forwards to one key, nothing asks for a type that only a factory builds, and construction edges form
no cycle. Counting the nodes that end earlier therefore ranks the nodes along those edges.

* `Graph.Sound` — the graph of a successful compilation;
* `Graph.Closed` — whatever a node asks for is visible from its host;
* `Graph.Reaches` — chains of construction edges;
* `Graph.rank`, `Graph.Sound.rank_lt` — construction edges lead to smaller ranks;
* `Node.Regular`, `Manifest.regular_of_mem_nodes` — what a classification never yields;
* `Compilation.sound` — successful compilations yield sound graphs, closed ones if that is checked.
-/

namespace ObjectGraph

/-- What the checks of a compilation have ruled out of its graph. -/
structure Graph.Sound (graph : Graph) : Prop where
  keyed : graph.Keyed
  rooted : graph.hierarchy.Rooted
  hosted : ∀ node ∈ graph.nodes, node.host ∈ graph.hierarchy.components
  aliased : ∀ node ∈ graph.nodes, node.isAlias = true → ∃ target, node.dependencies = [target]
  direct : ∀ node ∈ graph.nodes, ∀ key ∈ node.requested, ∀ target,
    graph.resolve? node.host key = some target → target.isAssisted = false
  acyclic : graph.cycles = []

/-- Every key that a node asks for resolves at its host. -/
def Graph.Closed (graph : Graph) : Prop :=
  ∀ node ∈ graph.nodes, ∀ key ∈ node.requested, graph.resolve? node.host key ≠ none

/-- A chain of construction edges, of any length, leads from a node to another one. -/
def Graph.Reaches (graph : Graph) : Node → Node → Prop :=
  Relation.ReflTransGen graph.Edge

/-! ## Ranks -/

/-- The number of nodes whose visits ended before that of the node. -/
def Graph.rank (graph : Graph) (node : Node) : Nat :=
  let ends := graph.search.done.reverse
  graph.nodes.countP fun other => ends.idxOf other.id < ends.idxOf node.id

namespace Graph.Sound

variable {graph : Graph}

theorem rank_lt_size {node : Node} (hnode : node ∈ graph.nodes) :
    graph.rank node < graph.size := by
  have hsize : graph.size = graph.nodes.length := by
    simp [Graph.size, Graph.nodes, Table.size, Table.values]
  -- The node itself is not among those that ended before it.
  simp only [hsize, rank]
  exact List.countP_lt_length_iff.2 ⟨node, hnode, by simp⟩

/-- A node is ended by the time that the nodes it is constructed from have ended. -/
theorem rank_lt (h : graph.Sound) {u v : Node} (hedge : graph.Edge u v) :
    graph.rank v < graph.rank u := by
  have hopen : ¬ Closes graph.cycles u v := by
    rintro ⟨cycle, hcycle, _⟩
    simp [h.acyclic] at hcycle
  have hlt := idxOf_lt_of_edge h.keyed hedge hopen
  have hv : v ∈ graph.nodes := by
    rcases hedge with ⟨_, key, _, hresolve⟩
    exact (h.keyed.of_resolve? hresolve).1
  -- What ended before the target ended before the node, and so did the target.
  exact countP_rank_lt (fun node => graph.search.done.reverse.idxOf node.id) hv hlt

/-- Chains of construction edges go down the ranks. -/
theorem rank_le (h : graph.Sound) {u v : Node} (hreaches : graph.Reaches u v) :
    graph.rank v ≤ graph.rank u := by
  induction hreaches with
  | refl => exact Nat.le_refl _
  | tail _ hedge ih => exact Nat.le_trans (Nat.le_of_lt (h.rank_lt hedge)) ih

theorem size_le_planSize (h : graph.Sound) : graph.size ≤ (Plan.ofGraph graph).size :=
  Graph.size_le_planSize h.keyed h.hosted

end Graph.Sound

/-! ## Aliases -/

/-- Only binds functions and bound interfaces forward, each to one key. -/
theorem Declaration.forwards_of_mem_outlines {declaration : Declaration} {position : Nat}
    {host : ComponentId} {outline : Outline} {keys : List Key}
    (h : outline ∈ declaration.outlines position host) (hforwards : outline.forwards = some keys) :
    ∃ target, keys = [target] := by
  cases declaration with
  | injectable i =>
    simp only [outlines, Injectable.outlines] at h
    split at h
    · simp at h
    · simp only [List.cons_append, List.mem_cons, List.mem_append, List.mem_map] at h
      rcases h with rfl | ⟨contract, _, rfl⟩ | ⟨interface, _, rfl⟩
      · simp at hforwards
      · simp at hforwards
      · exact ⟨_, (Option.some.inj hforwards).symm⟩
  | provides f =>
    rcases List.mem_map.1 h with ⟨type, _, rfl⟩
    simp at hforwards
  | binds f =>
    simp only [outlines, BindsFunction.outlines] at h
    split at h
    · rcases List.mem_map.1 h with ⟨target, _, rfl⟩
      exact ⟨target, (Option.some.inj hforwards).symm⟩
    · simp at h

namespace Manifest

variable {manifest : Manifest} {hierarchy : Hierarchy}

/-- Where the outline of a node comes from, if the draft has no errors. -/
theorem outline_mem_of_mem_nodes (h : (manifest.draft hierarchy).errors = []) {node : Node}
    (hnode : node ∈ (manifest.graph hierarchy).nodes) :
    ∃ component ∈ hierarchy.components, ∃ position,
      node.outline ∈ manifest.outlinesAt component position := by
  have hmem := (outlines_nodes_perm h).subset (List.mem_map_of_mem hnode)
  rcases List.mem_flatMap.1 hmem with ⟨component, hcomponent, hvisited⟩
  rcases List.mem_flatMap.1 hvisited with ⟨position, _, houtline⟩
  exact ⟨component, hcomponent, position, houtline⟩

theorem host_mem_of_mem_nodes (h : (manifest.draft hierarchy).errors = []) {node : Node}
    (hnode : node ∈ (manifest.graph hierarchy).nodes) : node.host ∈ hierarchy.components := by
  rcases outline_mem_of_mem_nodes h hnode with ⟨component, hcomponent, position, houtline⟩
  have hhost : node.host = component := (mem_outlinesAt houtline).2
  simpa only [hhost] using hcomponent

theorem dependencies_of_isAlias (h : (manifest.draft hierarchy).errors = []) {node : Node}
    (hnode : node ∈ (manifest.graph hierarchy).nodes) (halias : node.isAlias = true) :
    ∃ target, node.dependencies = [target] := by
  rcases outline_mem_of_mem_nodes h hnode with ⟨component, _, position, houtline⟩
  simp only [outlinesAt] at houtline
  cases hfound : manifest.declarations[position]? with
  | none => simp [hfound] at houtline
  | some declaration =>
    simp only [hfound, Option.map_some, Option.getD_some] at houtline
    refine Declaration.forwards_of_mem_outlines houtline ?_
    simp [Node.outline, halias]

end Manifest

/-! ## Regular nodes -/

/-- The callers of a factory supply the assisted parameters, so it takes none itself. What takes a
value from its site is made anew for each site, by the node itself or by its factory. -/
structure Node.Regular (node : Node) : Prop where
  unassisted : node.isFactory = true → node.assisted = []
  unscoped : node.context ≠ none → node.isFactory = true ∨ node.runtimeScoped = true

theorem regular_constructedNode (place : Placement) (key : Key) (scope : Option ScopeId)
    (runtimeScoped : Bool) (supply : Supply) :
    (constructedNode place key scope runtimeScoped supply).Regular where
  unassisted := by simp [constructedNode, Node.bare]
  unscoped := by
    intro hcontext
    have hsome : supply.context.isSome = true := Option.isSome_iff_ne_none.2 hcontext
    simp [constructedNode, hsome]

/-- The interfaces that a node is bound to do not matter. -/
theorem Node.Regular.withTargets {node : Node} (h : node.Regular) (targets : List Key) :
    { node with bindingTargets := targets }.Regular :=
  ⟨h.unassisted, h.unscoped⟩

theorem Declaration.Yields.regular {declaration : Declaration} {place : Placement} {node : Node}
    (h : declaration.Yields place node) : node.Regular := by
  cases h with
  | own => exact (regular_constructedNode ..).withTargets _
  | factory => exact ⟨fun _ => rfl, fun _ => Or.inl rfl⟩
  | interface => exact ⟨fun _ => rfl, fun hcontext => absurd rfl hcontext⟩
  | provided => exact regular_constructedNode ..
  | bound => exact ⟨fun _ => rfl, fun hcontext => absurd rfl hcontext⟩

theorem Manifest.regular_of_mem_nodes {manifest : Manifest} {hierarchy : Hierarchy}
    (h : (manifest.draft hierarchy).errors = []) {node : Node}
    (hnode : node ∈ (manifest.graph hierarchy).nodes) : node.Regular := by
  rcases List.mem_flatMap.1 ((values_draft_perm h).2.subset hnode) with ⟨place, _, hclassified⟩
  rcases mem_classifyAt_iff.1 hclassified with ⟨declaration, _, hyields⟩
  exact hyields.regular

/-! ## Compilations -/

namespace Graph

variable {graph : Graph} {config : Config}

theorem dependencyError?_eq_none (h : graph.dependencyErrors config = []) {node : Node}
    (hnode : node ∈ graph.nodes) {key : Key} (hkey : key ∈ node.requested) :
    graph.dependencyError? config node key = none := by
  have hnone := List.flatMap_eq_nil_iff.1 h node hnode
  exact List.filterMap_eq_nil_iff.1 hnone key hkey

end Graph

/-- The graph of a successful compilation is sound, its plan is the one of that graph, and the graph
is closed if dependencies are validated. -/
theorem Compilation.sound {manifest : Manifest} {config : Config} {compilation : Compilation}
    (hcompile : (compile manifest config).result = .ok compilation) :
    compilation.graph.Sound ∧ compilation.plan = .ofGraph compilation.graph ∧
      (config.validateDependencies = true → compilation.graph.Closed) := by
  rcases compile_eq_ok hcompile with ⟨hierarchy, hresolve, hnone, _, hgraph, hplan⟩
  simp only [compile_errors hresolve, List.append_eq_nil_iff] at hnone
  rcases hnone with ⟨⟨⟨⟨⟨_, hdraft⟩, _⟩, _⟩, hdependencies⟩, hcycles⟩
  simp only [hgraph]
  have hkeyed := manifest.keyed_graph hierarchy
  have herror : ∀ node ∈ (manifest.graph hierarchy).nodes, ∀ key ∈ node.requested,
      (manifest.graph hierarchy).dependencyError? config node key = none := by
    intro node hnode key hkey
    exact Graph.dependencyError?_eq_none hdependencies hnode hkey
  refine ⟨⟨hkeyed, Manifest.rooted_of_resolveHierarchy hresolve, ?_, ?_, ?_, ?_⟩, hplan, ?_⟩
  · intro node hnode
    exact Manifest.host_mem_of_mem_nodes hdraft hnode
  · intro node hnode halias
    exact Manifest.dependencies_of_isAlias hdraft hnode halias
  · intro node hnode key hkey target htarget
    have hchecked := herror node hnode key hkey
    simp only [Graph.dependencyError?, htarget] at hchecked
    simpa using hchecked
  · simpa [Graph.cycleErrors] using hcycles
  · intro hvalidate node hnode key hkey hmissing
    have hchecked := herror node hnode key hkey
    simp [Graph.dependencyError?, hmissing, hvalidate] at hchecked

/-- The nodes of a compilation are regular. -/
theorem Compilation.regular {manifest : Manifest} {config : Config} {compilation : Compilation}
    (hcompile : (compile manifest config).result = .ok compilation) {node : Node}
    (hnode : node ∈ compilation.graph.nodes) : node.Regular := by
  rcases Compilation.drafted hcompile with ⟨hierarchy, _, _, hdraft, _, hgraph⟩
  exact Manifest.regular_of_mem_nodes hdraft (hgraph ▸ hnode)

end ObjectGraph
