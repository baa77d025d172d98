import ObjectGraph.Proofs.Graph.Generated

/-!
# Sources — the nodes of a component, declaration by declaration

A node of a classification is made in one of five ways: for an injectable, for its factory, for an
interface that it is bound to, for a provides function or for a binds function. Without errors a
component has the nodes of the declarations that it hosts and no others.

* `Injectable.ownNode`, `Injectable.Supplied` — an injectable whose parameters are in order;
* `Declaration.Yields`, `Declaration.mem_classify_iff` — how a node is made;
* `Manifest.nodesOf_perm` — the nodes of a component against its declarations;
* `Manifest.mem_nodesOf_iff`, `Manifest.errors_classify` — one node, one declaration;
* `Compilation.drafted` — compilations have no errors in their drafts.
-/

namespace ObjectGraph

/-! ## Injectables -/

namespace Injectable

/-- Of the interfaces that the injectable names, those that it can be bound to. -/
def interfaces (injectable : Injectable) (type : TypeName) : List Key :=
  (injectable.bindsTo.map (injectable.bindingTarget type)).filterMap Except.toOption

/-- The node of the type itself. -/
def ownNode (injectable : Injectable) (place : Placement) (type : TypeName) (supply : Supply) :
    Node :=
  { constructedNode place ⟨type, injectable.qualifier⟩ injectable.scope
      injectable.runtimeScoped supply with
    bindingTargets := injectable.interfaces type }

/-- The injectable is of a known type, and its parameters split without errors. -/
structure Supplied (injectable : Injectable) (type : TypeName) (supply : Supply) : Prop where
  type_eq : injectable.type = .resolved type
  supply_eq : (splitParameters type injectable.parameters).supply? = some supply

variable {injectable : Injectable} {place : Placement} {type : TypeName} {supply : Supply}

theorem Supplied.unique {otherType : TypeName} {otherSupply : Supply}
    (h : injectable.Supplied type supply) (hother : injectable.Supplied otherType otherSupply) :
    otherType = type ∧ otherSupply = supply := by
  have htype : otherType = type :=
    TypeRef.resolved.inj (hother.type_eq.symm.trans h.type_eq)
  subst htype
  exact ⟨rfl, Option.some.inj (hother.supply_eq.symm.trans h.supply_eq)⟩

theorem Supplied.classify_eq (h : injectable.Supplied type supply) :
    injectable.classify place =
      ⟨injectable.ownNode place type supply ::
          (injectable.factory? place type supply).nodes ++
          (injectable.interfaces type).map (aliasNode (injectable.ownNode place type supply)),
        (injectable.bindsTo.map (injectable.bindingTarget type)).filterMap errorOf? ++
          (injectable.factory? place type supply).errors⟩ := by
  simp only [classify, h.type_eq, h.supply_eq]
  rfl

/-- An injectable is supplied, or its classification has errors and nothing else. -/
theorem supplied_or_errors (injectable : Injectable) (place : Placement) :
    (∃ type supply, injectable.Supplied type supply) ∨
      (injectable.classify place).nodes = [] ∧ (injectable.classify place).errors ≠ [] := by
  cases htype : injectable.type with
  | unresolved raw => exact Or.inr (by simp [classify, htype, Classified.ofErrors])
  | resolved type =>
    cases hsplit : (splitParameters type injectable.parameters).supply? with
    | some supply => exact Or.inl ⟨type, supply, htype, hsplit⟩
    | none =>
      right
      simp only [classify, htype, hsplit, Classified.ofErrors]
      exact ⟨trivial, Split.errors_ne_nil_of_supply? hsplit⟩

theorem mem_factory?_iff {node : Node} :
    node ∈ (injectable.factory? place type supply).nodes ↔
      supply.assisted ≠ [] ∧ ∃ contract, injectable.matchedContract type supply = .ok contract ∧
        node = factoryNode place contract supply := by
  simp only [factory?]
  cases hassisted : supply.assisted with
  | nil => simp
  | cons first rest =>
    cases hmatched : injectable.matchedContract type supply with
    | error error => simp [Classified.ofErrors]
    | ok contract => simp [Classified.ofNode]

end Injectable

/-! ## Declarations -/

namespace Declaration

/-- The ways in which a declaration at a place makes a node. -/
inductive Yields (place : Placement) : Declaration → Node → Prop where
  | own {injectable : Injectable} {type : TypeName} {supply : Supply} :
      injectable.Supplied type supply →
        Yields place (.injectable injectable) (injectable.ownNode place type supply)
  | factory {injectable : Injectable} {type : TypeName} {supply : Supply}
      {contract : FactoryContract} :
      injectable.Supplied type supply → supply.assisted ≠ [] →
        injectable.matchedContract type supply = .ok contract →
          Yields place (.injectable injectable) (Injectable.factoryNode place contract supply)
  | interface {injectable : Injectable} {type : TypeName} {supply : Supply} {key : Key} :
      injectable.Supplied type supply → key ∈ injectable.interfaces type →
        Yields place (.injectable injectable)
          (Injectable.aliasNode (injectable.ownNode place type supply) key)
  | provided {function : ProvidesFunction} {type : TypeName} {supply : Supply} :
      function.returns = .resolved type →
        (splitParameters (Declaration.provides function).displayName
          function.parameters).supply? = some supply →
          supply.assisted = [] →
            Yields place (.provides function)
              (constructedNode place ⟨type, function.qualifier⟩ function.scope
                function.runtimeScoped supply)
  | bound {function : BindsFunction} {interface type : TypeName} {implementation : Parameter} :
      function.isAbstract = true → function.parameters = [implementation] →
        function.returns = .resolved interface → implementation.type = .resolved type →
          Yields place (.binds function)
            { Node.bare ⟨interface, function.qualifier⟩ place.position place.host with
              dependencies := [⟨type, implementation.qualifier⟩]
              scope := place.hostScope
              isAlias := true }

variable {declaration : Declaration} {place : Placement} {node : Node}

theorem Yields.source_eq (h : declaration.Yields place node) : node.source = place.position := by
  cases h <;> rfl

theorem Yields.host_eq (h : declaration.Yields place node) : node.host = place.host := by
  cases h <;> rfl

/-- The nodes of a classification are those that the declaration yields. -/
theorem mem_classify_iff :
    node ∈ (declaration.classify place).nodes ↔ declaration.Yields place node := by
  constructor
  · intro hnode
    cases declaration with
    | injectable injectable =>
      have hnode : node ∈ (injectable.classify place).nodes := hnode
      rcases injectable.supplied_or_errors place with ⟨type, supply, hsupplied⟩ | ⟨hnil, _⟩
      · simp only [hsupplied.classify_eq, List.cons_append, List.mem_cons, List.mem_append,
          List.mem_map] at hnode
        rcases hnode with rfl | hfactory | ⟨key, hkey, rfl⟩
        · exact .own hsupplied
        · rcases Injectable.mem_factory?_iff.1 hfactory with ⟨hassisted, contract, hmatched, rfl⟩
          exact .factory hsupplied hassisted hmatched
        · exact .interface hsupplied hkey
      · simp [hnil] at hnode
    | provides function =>
      simp only [classify, ProvidesFunction.classify] at hnode
      split at hnode
      · simp [Classified.ofErrors] at hnode
      · rename_i type htype
        split at hnode
        · simp [Classified.ofErrors] at hnode
        · rename_i supply hsupply
          split at hnode
          · rename_i hassisted
            rcases List.mem_singleton.1 hnode with rfl
            exact .provided htype hsupply (List.isEmpty_iff.1 hassisted)
          · simp [Classified.ofErrors] at hnode
    | binds function =>
      unfold classify BindsFunction.classify at hnode
      simp only at hnode
      split at hnode
      · rename_i habstract
        split at hnode
        · rename_i implementation hparameters
          split at hnode
          · simp [Classified.ofErrors] at hnode
          · simp [Classified.ofErrors] at hnode
          · rename_i interface type hreturns htype
            rcases List.mem_singleton.1 hnode with rfl
            exact .bound habstract hparameters hreturns htype
        · simp [Classified.ofErrors] at hnode
      · simp [Classified.ofErrors] at hnode
  · intro hyields
    cases hyields with
    | own hsupplied => simp [classify, hsupplied.classify_eq]
    | factory hsupplied hassisted hmatched =>
      simp only [classify, hsupplied.classify_eq]
      refine List.mem_append_left _ (List.mem_cons_of_mem _ ?_)
      exact Injectable.mem_factory?_iff.2 ⟨hassisted, _, hmatched, rfl⟩
    | interface hsupplied hkey =>
      simp only [classify, hsupplied.classify_eq]
      exact List.mem_append_right _ (List.mem_map_of_mem hkey)
    | provided htype hsupply hassisted =>
      simp [classify, ProvidesFunction.classify, htype, hsupply, hassisted, Classified.ofNode]
    | bound habstract hparameters hreturns htype =>
      simp [classify, BindsFunction.classify, habstract, hparameters, hreturns, htype,
        Classified.ofNode]

end Declaration

/-! ## Components -/

namespace Manifest

variable {manifest : Manifest} {hierarchy : Hierarchy} {component : ComponentId}

/-- The place of a declaration that the component hosts. -/
def placeAt (hierarchy : Hierarchy) (component : ComponentId) (position : Nat) : Placement :=
  ⟨position, component, hierarchy.scope? component⟩

/-- The nodes that the visits of a component add, in their order. -/
def visitedNodes (manifest : Manifest) (hierarchy : Hierarchy) (component : ComponentId) :
    List Node :=
  (manifest.visitsOf component).flatMap fun position =>
    (manifest.classifyAt (placeAt hierarchy component position)).nodes

theorem mem_classifyAt_iff {place : Placement} {node : Node} :
    node ∈ (manifest.classifyAt place).nodes ↔
      ∃ declaration, manifest.declarations[place.position]? = some declaration ∧
        declaration.Yields place node := by
  simp only [classifyAt]
  cases hfound : manifest.declarations[place.position]? with
  | none => simp
  | some declaration => simp [Declaration.mem_classify_iff]

theorem host_of_mem_visitedNodes {node : Node}
    (h : node ∈ manifest.visitedNodes hierarchy component) : node.host = component := by
  rcases List.mem_flatMap.1 h with ⟨position, _, hnode⟩
  rcases mem_classifyAt_iff.1 hnode with ⟨declaration, _, hyields⟩
  exact hyields.host_eq

/-- Without errors a component has the nodes of the declarations that it hosts, each once. -/
theorem nodesOf_perm (h : (manifest.draft hierarchy).errors = [])
    (hnodup : hierarchy.components.Nodup) (hmem : component ∈ hierarchy.components) :
    ((manifest.graph hierarchy).nodesOf component).Perm
      ((manifest.hostedBy component).flatMap fun position =>
        (manifest.classifyAt (placeAt hierarchy component position)).nodes) := by
  have hvisits : ((manifest.visits hierarchy).flatMap fun place =>
      (manifest.classifyAt place).nodes) =
        hierarchy.components.flatMap (manifest.visitedNodes hierarchy) := by
    simp only [visits_eq, List.flatMap_assoc, List.flatMap_map]
    rfl
  -- The nodes of a component are those of its own visits.
  have hfilter := (values_draft_perm h).2.filter fun node => node.host = component
  have hids : (hierarchy.components.map fun component => component).Nodup := by
    simpa only [List.map_id'] using hnodup
  have hfound : (hierarchy.components.find? fun other => other = component) = some component := by
    simp [find?_eq_some_iff_of_nodup hids, hmem]
  have howner : ∀ component, ∀ node ∈ manifest.visitedNodes hierarchy component,
      node.host = component := by
    intro component node hnode
    exact host_of_mem_visitedNodes hnode
  have hblock := filter_flatMap_of_nodup howner hids component
  simp only [hfound, Option.map_some, Option.getD_some] at hblock
  simp only [hvisits, hblock] at hfilter
  -- Every hosted declaration is visited once.
  have hpositions : (manifest.visitsOf component).Perm (manifest.hostedBy component) := by
    apply (List.perm_ext_iff_of_nodup (nodup_visitsOf h hmem) (nodup_hostedBy component)).2
    intro position
    simp only [mem_visitsOf_iff, mem_hostedBy_iff]
  exact hfilter.trans (List.Perm.flatMap_right _ hpositions)

theorem mem_visits_iff {place : Placement} :
    place ∈ manifest.visits hierarchy ↔ ∃ component ∈ hierarchy.components, ∃ position,
      manifest.hostOf? position = some component ∧ place = placeAt hierarchy component position := by
  simp only [visits_eq, List.mem_flatMap, List.mem_map, mem_visitsOf_iff, placeAt, eq_comm]

theorem mem_nodesOf_iff (h : (manifest.draft hierarchy).errors = []) {node : Node} :
    node ∈ (manifest.graph hierarchy).nodesOf component ↔
      component ∈ hierarchy.components ∧ ∃ position declaration,
        manifest.hostOf? position = some component ∧
          manifest.declarations[position]? = some declaration ∧
            declaration.Yields (placeAt hierarchy component position) node := by
  have hnodes : node ∈ (manifest.graph hierarchy).nodes ↔
      ∃ place ∈ manifest.visits hierarchy, node ∈ (manifest.classifyAt place).nodes :=
    (values_draft_perm h).2.mem_iff.trans List.mem_flatMap
  simp only [Graph.nodesOf, List.mem_filter, decide_eq_true_eq, hnodes, mem_visits_iff,
    mem_classifyAt_iff]
  constructor
  · rintro ⟨⟨_, ⟨host, hmem, position, hhost, rfl⟩, declaration, hfound, hyields⟩, rfl⟩
    -- The node belongs to the component that the visit is for.
    have hsame : host = node.host := hyields.host_eq.symm
    subst hsame
    exact ⟨hmem, position, declaration, hhost, hfound, hyields⟩
  · rintro ⟨hmem, position, declaration, hhost, hfound, hyields⟩
    exact ⟨⟨_, ⟨component, hmem, position, hhost, rfl⟩, declaration, hfound, hyields⟩,
      hyields.host_eq⟩

/-- Without errors every hosted declaration is classified without errors. -/
theorem errors_classify (h : (manifest.draft hierarchy).errors = [])
    (hmem : component ∈ hierarchy.components) {position : Nat} {declaration : Declaration}
    (hhost : manifest.hostOf? position = some component)
    (hfound : manifest.declarations[position]? = some declaration) :
    (declaration.classify (placeAt hierarchy component position)).errors = [] := by
  have hplace : placeAt hierarchy component position ∈ manifest.visits hierarchy :=
    mem_visits_iff.2 ⟨component, hmem, position, hhost, rfl⟩
  have hclassified := (values_draft_perm h).1 _ hplace
  simpa only [classifyAt, placeAt, hfound, Option.map_some, Option.getD_some] using hclassified

end Manifest

/-- The graph of a compilation comes from a draft without errors over a tree. -/
theorem Compilation.drafted {manifest : Manifest} {config : Config} {compilation : Compilation}
    (hcompile : (compile manifest config).result = .ok compilation) :
    ∃ hierarchy, (manifest.resolveHierarchy config).1 = some hierarchy ∧ hierarchy.Rooted ∧
      (manifest.draft hierarchy).errors = [] ∧ compilation.manifest = manifest ∧
        compilation.graph = manifest.graph hierarchy := by
  rcases compile_eq_ok hcompile with ⟨hierarchy, hresolve, hnone, hmanifest, hgraph, _⟩
  simp only [compile_errors hresolve, List.append_eq_nil_iff] at hnone
  exact ⟨hierarchy, hresolve, Manifest.rooted_of_resolveHierarchy hresolve, hnone.1.1.1.1.2,
    hmanifest, hgraph⟩

end ObjectGraph
