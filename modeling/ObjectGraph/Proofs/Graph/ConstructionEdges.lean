import ObjectGraph.Proofs.Graph.CyclePath
import ObjectGraph.Proofs.Graph.Drafts
import ObjectGraph.Proofs.Graph.Sources

/-!
# Construction edges — which parameters a node is constructed from

An interface of an injectable leads to the type itself. Every other node of an injectable or of a
provides function leads to the keys that regular parameters ask for directly; what is deferred, left to a
caller or left to the site is no edge. A binds function leads to its parameter whatever it asks for, so
only there can a deferred parameter close a cycle.

* `Parameter.constructionKey?`, `Declaration.constructionKeys` — what a declaration asks for directly;
* `Declaration.Yields.dependencies_eq` — the edges of a node, way by way;
* `Manifest.Grounds`, `Manifest.Binds` — why an edge is there;
* `Manifest.BindsDirectly` — binds functions that ask for the instance;
* `construction_edges_follow_requests` — the edges of all nodes and those of reported cycles.
-/

namespace ObjectGraph

/-! ## Parameters -/

/-- The key that a parameter needs before construction. Only a regular one that asks for the instance
needs any. -/
def Parameter.constructionKey? (parameter : Parameter) : Option Key :=
  if parameter.kind = .regular ∧ parameter.request = .direct then parameter.key? else none

theorem dependencies_splitParameters (declaration : String) (parameters : List Parameter) :
    (splitParameters declaration parameters).supply.dependencies =
      parameters.filterMap Parameter.constructionKey? :=
  congrArg Supply.dependencies (supply_splitParameters declaration parameters)

/-! ## Declarations -/

/-- What the nodes of a declaration are constructed from if all its parameters are taken at their word.
An alias of an injectable forwards to the type itself. -/
def Declaration.constructionKeys : Declaration → Bool → List Key
  | .injectable i, true => i.type.name?.toList.map fun type => ⟨type, i.qualifier⟩
  | declaration, _ => declaration.parameters.filterMap Parameter.constructionKey?

/-- A binds function whose alias leads to its only parameter. -/
structure Declaration.BindsTo (declaration : Declaration) (node : Node)
    (implementation : Parameter) : Prop where
  parameters_eq : declaration.parameters = [implementation]
  binds : ∃ function, declaration = .binds function
  dependencies_eq : node.dependencies = implementation.key?.toList

theorem Declaration.Yields.dependencies_eq {declaration : Declaration} {place : Placement}
    {node : Node} (h : declaration.Yields place node) :
    node.dependencies = declaration.constructionKeys node.isAlias ∨
      ∃ implementation, declaration.BindsTo node implementation := by
  have hsupplied : ∀ {name parameters supply},
      (splitParameters name parameters).supply? = some supply →
        supply.dependencies = parameters.filterMap Parameter.constructionKey? := by
    intro name parameters supply hsupply
    rw [← dependencies_splitParameters name, (Split.supply?_eq_some hsupply).2]
  cases h with
  | own hinjectable => exact Or.inl (hsupplied hinjectable.supply_eq)
  | factory hinjectable _ _ => exact Or.inl (hsupplied hinjectable.supply_eq)
  | interface hinjectable _ =>
    simp [Injectable.aliasNode, constructionKeys, hinjectable.type_eq, TypeRef.name?,
      Injectable.ownNode, constructedNode, Node.bare]
  | provided _ hsupply _ => exact Or.inl (hsupplied hsupply)
  | bound _ hparameters _ htype =>
    refine Or.inr ⟨_, hparameters, ⟨_, rfl⟩, ?_⟩
    simp [Parameter.key?, htype, TypeRef.name?]

/-! ## Nodes -/

namespace Manifest

variable (manifest : Manifest)

/-- A node needs a key because it is an interface of an injectable of that key, or because a regular
parameter of its declaration asks for the key directly. -/
inductive Grounds (node : Node) (next : Key) : Prop where
  | implementation {injectable : Injectable} {type : TypeName} :
      manifest.declarations[node.source]? = some (.injectable injectable) →
        node.isAlias = true → node.key ∈ injectable.interfaces type →
          injectable.type = .resolved type → next = ⟨type, injectable.qualifier⟩ →
            Grounds node next
  | parameter {declaration : Declaration} {parameter : Parameter} :
      manifest.declarations[node.source]? = some declaration →
        parameter ∈ declaration.parameters → parameter.kind = .regular →
          parameter.request = .direct → parameter.key? = some next → Grounds node next

/-- A node needs the key of the only parameter of its binds function. -/
def Binds (node : Node) (next : Key) : Prop :=
  ∃ function implementation, manifest.declarations[node.source]? = some (.binds function) ∧
    function.parameters = [implementation] ∧ implementation.key? = some next

/-- Every binds function asks for the instance that it binds. -/
def BindsDirectly : Prop :=
  ∀ function, .binds function ∈ manifest.declarations → ∀ parameter ∈ function.parameters,
    parameter.kind = .regular ∧ parameter.request = .direct

/-- A closed walk over the nodes of one component, each step of which has a reason. -/
def Walks (hierarchy : Hierarchy) (reason : Node → Key → Prop) (path : List Key) : Prop :=
  ∃ component ∈ hierarchy.components, ∃ start rest, path = start :: rest ∧
    (start :: (rest ++ [start])).IsChain fun key next =>
      ∃ node, (manifest.graph hierarchy).local? component key = some node ∧ reason node next

variable {manifest} {hierarchy : Hierarchy} {node : Node}

theorem exists_yields (hnode : node ∈ (manifest.graph hierarchy).nodes) :
    ∃ place declaration, manifest.declarations[node.source]? = some declaration ∧
      declaration.Yields place node := by
  rcases mem_classifyAt_of_mem_nodes hnode with ⟨place, _, hclassified⟩
  rcases mem_classifyAt_iff.1 hclassified with ⟨declaration, hfound, hyields⟩
  exact ⟨place, declaration, by rw [hyields.source_eq, hfound], hyields⟩

/-- Every edge has its grounds in the declaration of the node, unless a binds function made it. -/
theorem grounds_or_binds (hnode : node ∈ (manifest.graph hierarchy).nodes) {next : Key}
    (hnext : next ∈ node.dependencies) : manifest.Grounds node next ∨ manifest.Binds node next := by
  rcases exists_yields hnode with ⟨place, declaration, hfound, hyields⟩
  rcases hyields.dependencies_eq with hkeys | ⟨implementation, hbinds⟩
  · left
    have hparameter : next ∈ declaration.parameters.filterMap Parameter.constructionKey? →
        manifest.Grounds node next := by
      intro hmem
      rcases List.mem_filterMap.1 hmem with ⟨parameter, hparameter, hkey⟩
      simp only [Parameter.constructionKey?, Option.ite_none_right_eq_some] at hkey
      exact .parameter hfound hparameter hkey.1.1 hkey.1.2 hkey.2
    rw [hkeys] at hnext
    -- Only an interface has edges that are no parameters of the declaration.
    cases hyields with
    | own _ => exact hparameter hnext
    | factory _ _ _ => exact hparameter hnext
    | provided _ _ _ => exact hparameter hnext
    | bound _ _ _ _ => exact hparameter hnext
    | interface hinjectable hinterface =>
      refine .implementation hfound rfl hinterface hinjectable.type_eq ?_
      simpa [Declaration.constructionKeys, hinjectable.type_eq, TypeRef.name?,
        Injectable.aliasNode] using hnext
  · rcases hbinds.binds with ⟨function, rfl⟩
    refine Or.inr ⟨function, implementation, hfound, hbinds.parameters_eq, ?_⟩
    simpa [hbinds.dependencies_eq] using hnext

theorem Binds.grounds (hdirect : manifest.BindsDirectly) {next : Key}
    (h : manifest.Binds node next) : manifest.Grounds node next := by
  rcases h with ⟨function, implementation, hfound, hparameters, hkey⟩
  have hmem : implementation ∈ function.parameters := by simp [hparameters]
  have hregular := hdirect function (List.mem_of_getElem? hfound) implementation hmem
  exact .parameter hfound hmem hregular.1 hregular.2 hkey

/-- A reported cycle is a closed walk over the edges of its nodes. -/
theorem walks_of_cyclicDependency {config : Config}
    (h : (manifest.resolveHierarchy config).1 = some hierarchy) {path : List Key}
    (hpath : .cyclicDependency path ∈ (compile manifest config).errors)
    {reason : Node → Key → Prop}
    (hreason : ∀ node ∈ (manifest.graph hierarchy).nodes, ∀ next ∈ node.dependencies,
      reason node next) : manifest.Walks hierarchy reason path := by
  have hkeyed := manifest.keyed_graph hierarchy
  rcases List.mem_map.1 ((cyclicDependency_mem_iff h).1 hpath) with ⟨cycle, hcycle, rfl⟩
  rcases Graph.exists_component_of_mem_cycles hkeyed (rooted_of_resolveHierarchy h) hcycle with
    ⟨component, hmem, _, _, start, rest, hstart, hwalk⟩
  refine ⟨component, hmem, start, rest, hstart, hwalk.imp ?_⟩
  rintro key next ⟨node, _, hlocal, hnext, _⟩
  exact ⟨node, hlocal, hreason node (hkeyed.of_local? hlocal).1 next hnext⟩

end Manifest

/-- The edges of every node are the keys that the regular parameters of its declaration ask for directly,
or the implementation of an interface, or the only parameter of a binds function. So is each step of a
reported cycle, the last one included. Where binds functions ask for the instance, there are no other
edges than the first two, and nothing deferred, assisted or left to the site takes part in a cycle. -/
theorem construction_edges_follow_requests (manifest : Manifest) (config : Config) :
    (∀ hierarchy, ∀ node ∈ (manifest.graph hierarchy).nodes,
      ∃ declaration, manifest.declarations[node.source]? = some declaration ∧
        (node.dependencies = declaration.constructionKeys node.isAlias ∨
          ∃ implementation, declaration.BindsTo node implementation)) ∧
    (∀ path, .cyclicDependency path ∈ (compile manifest config).errors →
      ∃ hierarchy, (manifest.resolveHierarchy config).1 = some hierarchy ∧
        manifest.Walks hierarchy
          (fun node next => manifest.Grounds node next ∨ manifest.Binds node next) path) ∧
    (manifest.BindsDirectly →
      (∀ hierarchy, ∀ node ∈ (manifest.graph hierarchy).nodes,
        ∃ declaration, manifest.declarations[node.source]? = some declaration ∧
          node.dependencies = declaration.constructionKeys node.isAlias) ∧
      ∀ path, .cyclicDependency path ∈ (compile manifest config).errors →
        ∃ hierarchy, (manifest.resolveHierarchy config).1 = some hierarchy ∧
          manifest.Walks hierarchy manifest.Grounds path) := by
  have hnodes : ∀ hierarchy, ∀ node ∈ (manifest.graph hierarchy).nodes,
      ∃ declaration, manifest.declarations[node.source]? = some declaration ∧
        (node.dependencies = declaration.constructionKeys node.isAlias ∨
          ∃ implementation, declaration.BindsTo node implementation) := by
    intro hierarchy node hnode
    rcases Manifest.exists_yields hnode with ⟨_, declaration, hfound, hyields⟩
    exact ⟨declaration, hfound, hyields.dependencies_eq⟩
  have hresolved : ∀ path, .cyclicDependency path ∈ (compile manifest config).errors →
      ∃ hierarchy, (manifest.resolveHierarchy config).1 = some hierarchy := by
    intro path hpath
    exact exists_hierarchy_of_mem_errors hpath (by simp [GraphError.stage])
      (by simp [GraphError.stage])
  refine ⟨hnodes, ?_, fun hdirect => ⟨?_, ?_⟩⟩
  · intro path hpath
    rcases hresolved path hpath with ⟨hierarchy, h⟩
    exact ⟨hierarchy, h, Manifest.walks_of_cyclicDependency h hpath fun node hnode next hnext =>
      Manifest.grounds_or_binds hnode hnext⟩
  · intro hierarchy node hnode
    rcases hnodes hierarchy node hnode with ⟨declaration, hfound, hkeys | ⟨implementation, hbinds⟩⟩
    · exact ⟨declaration, hfound, hkeys⟩
    · -- The parameter of the binds function is one that asks for the instance.
      rcases hbinds.binds with ⟨function, rfl⟩
      have hparameters : function.parameters = [implementation] := hbinds.parameters_eq
      have hregular := hdirect function (List.mem_of_getElem? hfound) implementation
        (by simp [hparameters])
      refine ⟨.binds function, hfound, hbinds.dependencies_eq.trans ?_⟩
      simp [Declaration.constructionKeys, Declaration.parameters, hparameters,
        Parameter.constructionKey?, hregular, List.filterMap_eq_flatMap_toList]
  · intro path hpath
    rcases hresolved path hpath with ⟨hierarchy, h⟩
    refine ⟨hierarchy, h, Manifest.walks_of_cyclicDependency h hpath ?_⟩
    intro node hnode next hnext
    rcases Manifest.grounds_or_binds hnode hnext with hgrounds | hbinds
    · exact hgrounds
    · exact hbinds.grounds hdirect

/-- A disk that serves as the store, and a cache in front of the store that the disk asks for. The cache
may also ask for the disk later on. -/
def storageManifest : Manifest where
  entryPoint := "App"
  components := [⟨"App", none, .component, []⟩]
  modules := [⟨"Storage", ["App"]⟩]
  declarations :=
    [.injectable ⟨.resolved "Disk", none, none, [.regular "cache" (.resolved "Cache") none], ["Store"],
        [.resolved "Store"], none, false, ["App"]⟩,
      .binds ⟨"Storage", "cache", .resolved "Cache", none,
        [.regular "memory" (.resolved "Memory") none], true⟩,
      .injectable ⟨.resolved "Memory", none, none,
        [.regular "store" (.resolved "Store") none,
          ⟨"later", .resolved "Disk", none, .regular, .deferred⟩], [], [], none, false, ["App"]⟩]

theorem storage_cycle_is_grounded :
    storageManifest.BindsDirectly ∧
      .cyclicDependency [.unqualified "Cache", .unqualified "Memory", .unqualified "Store",
        .unqualified "Disk"] ∈ (compile storageManifest .default).errors ∧
      ∃ hierarchy, (storageManifest.resolveHierarchy .default).1 = some hierarchy ∧
        storageManifest.Walks hierarchy storageManifest.Grounds
          [.unqualified "Cache", .unqualified "Memory", .unqualified "Store", .unqualified "Disk"] := by
  have hdirect : storageManifest.BindsDirectly := by
    intro function hmem parameter hparameter
    simp only [storageManifest, List.mem_cons, reduceCtorEq, Declaration.binds.injEq,
      List.not_mem_nil, or_false, false_or] at hmem
    subst hmem
    rcases List.mem_singleton.1 hparameter with rfl
    exact ⟨rfl, rfl⟩
  have hreported : .cyclicDependency [.unqualified "Cache", .unqualified "Memory",
      .unqualified "Store", .unqualified "Disk"] ∈ (compile storageManifest .default).errors := by
    decide +kernel
  exact ⟨hdirect, hreported,
    ((construction_edges_follow_requests storageManifest .default).2.2 hdirect).2 _ hreported⟩

/-- A repository that is bound by a function which asks for a provider of it. -/
def lazyManifest : Manifest where
  entryPoint := "App"
  components := [⟨"App", none, .component, []⟩]
  modules := [⟨"Data", ["App"]⟩]
  declarations :=
    [.injectable ⟨.resolved "Archive", none, none, [.regular "repository" (.resolved "Repository") none],
        [], [], none, false, ["App"]⟩,
      .binds ⟨"Data", "repository", .resolved "Repository", none,
        [⟨"archive", .resolved "Archive", none, .regular, .deferred⟩], true⟩]

def lazyHierarchy : Hierarchy := ⟨"App", .ofList [("App", ⟨none, none, [], 0⟩)]⟩

/-- The alias leads to what its parameter only asks to be provided later, and the cycle is reported. -/
theorem deferred_binding_closes_a_cycle :
    .cyclicDependency [.unqualified "Archive", .unqualified "Repository"] ∈
        (compile lazyManifest .default).errors ∧
      ¬ ∃ hierarchy, (lazyManifest.resolveHierarchy .default).1 = some hierarchy ∧
        lazyManifest.Walks hierarchy lazyManifest.Grounds
          [.unqualified "Archive", .unqualified "Repository"] := by
  have hresolve : (lazyManifest.resolveHierarchy .default).1 = some lazyHierarchy := by
    decide +kernel
  have hsource : ((lazyManifest.graph lazyHierarchy).local? "App" (.unqualified "Repository")).map
      Node.source = some 1 := by
    decide +kernel
  refine ⟨by decide +kernel, ?_⟩
  rintro ⟨hierarchy, hother, component, hmem, start, rest, hpath, hwalk⟩
  cases Option.some.inj (hresolve.symm.trans hother)
  rcases List.mem_singleton.1 hmem with rfl
  simp only [List.cons.injEq] at hpath
  rcases hpath with ⟨rfl, rfl⟩
  -- The last step leads from the alias back to the start.
  simp only [List.cons_append, List.nil_append, List.isChain_cons_cons, List.isChain_singleton,
    and_true] at hwalk
  rcases hwalk with ⟨_, node, hlocal, hgrounds⟩
  have hnode : node.source = 1 := by simpa [hlocal] using hsource
  cases hgrounds with
  | implementation hfound _ _ _ _ =>
    rw [hnode] at hfound
    exact absurd hfound (by simp [lazyManifest])
  | parameter hfound hparameter _ hrequest _ =>
    rw [hnode] at hfound
    cases Option.some.inj hfound
    rcases List.mem_singleton.1 hparameter with rfl
    exact absurd hrequest (by decide)

end ObjectGraph
