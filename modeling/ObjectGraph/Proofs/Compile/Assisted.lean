import ObjectGraph.Proofs.Compile.Emission
import ObjectGraph.Proofs.Graph.Sources

/-!
# Assisted types — every one has a factory of its own

An injectable with assisted parameters makes the node of its type and the node of the factory that
its contract names; nothing else makes either kind of node. So the assisted types of a component and
its factories come in pairs. Only the factory can be asked for: whatever else would lead to the type,
an interface that it is bound to included, has been rejected.

* `Injectable.Assembled`, `Node.Creates` — an assisted type with its contract, and what they agree on;
* `Manifest.Pairs` — the two nodes that one declaration makes;
* `Manifest.existsUnique_factory`, `Manifest.existsUnique_assisted` — both directions;
* `Graph.Sound.resolve?_ne_of_assisted` — no key of any node leads to an assisted type;
* `assisted_types_have_their_own_factories` — the pairs of a compilation.
-/

namespace ObjectGraph

/-! ## Injectables with assisted parameters -/

/-- The injectable takes assisted parameters, and the factory contract takes the same. -/
structure Injectable.Assembled (injectable : Injectable) (type : TypeName) (supply : Supply)
    (contract : FactoryContract) : Prop where
  supplied : injectable.Supplied type supply
  assisted : supply.assisted ≠ []
  matched : injectable.matchedContract type supply = .ok contract

/-- What the node of a factory has in common with the node of the type that the factory creates, and
with the contract that it fulfils. -/
structure Node.Creates (factory node : Node) (contract : FactoryContract) : Prop where
  key : factory.key = .unqualified contract.type
  dependencies : factory.dependencies = node.dependencies
  deferred : factory.deferred = node.deferred
  context : factory.context = node.context
  unassisted : factory.assisted = []
  parameters : contract.parameters.map (·.2) = node.assisted.map (·.2)
  returns : contract.returns = .resolved node.key.type

namespace Injectable

variable {injectable : Injectable} {type : TypeName} {supply : Supply} {contract : FactoryContract}

theorem types_of_matchedContract
    (h : injectable.matchedContract type supply = .ok contract) :
    contract.parameters.map (·.2) = supply.assisted.map (·.2) ∧
      contract.returns = .resolved type := by
  simp only [matchedContract] at h
  split at h
  · simp at h
  · split at h
    · simp at h
    · rename_i hparameters
      split at h
      · simp at h
      · rename_i hreturns
        cases h
        refine ⟨not_not.1 hparameters, ?_⟩
        cases htype : contract.returns with
        | resolved name => simpa [htype, TypeRef.name?] using hreturns
        | unresolved raw => simp [htype, TypeRef.name?] at hreturns

theorem Assembled.creates (h : injectable.Assembled type supply contract) (place : Placement) :
    (factoryNode place contract supply).Creates (injectable.ownNode place type supply)
      contract where
  key := rfl
  dependencies := rfl
  deferred := rfl
  context := rfl
  unassisted := rfl
  parameters := (types_of_matchedContract h.matched).1
  returns := (types_of_matchedContract h.matched).2

theorem Assembled.unique {otherType : TypeName} {otherSupply : Supply}
    {otherContract : FactoryContract} (h : injectable.Assembled type supply contract)
    (hother : injectable.Assembled otherType otherSupply otherContract) :
    otherType = type ∧ otherSupply = supply ∧ otherContract = contract := by
  rcases h.supplied.unique hother.supplied with ⟨rfl, rfl⟩
  exact ⟨rfl, rfl, Except.ok.inj (hother.matched.symm.trans h.matched)⟩

/-- Without errors an injectable with assisted parameters has a contract that takes them. -/
theorem exists_assembled {place : Placement} (h : (injectable.classify place).errors = [])
    (hsupplied : injectable.Supplied type supply) (hassisted : supply.assisted ≠ []) :
    ∃ contract, injectable.Assembled type supply contract := by
  simp only [hsupplied.classify_eq, List.append_eq_nil_iff, factory?] at h
  cases hmatched : injectable.matchedContract type supply with
  | ok contract => exact ⟨contract, hsupplied, hassisted, hmatched⟩
  | error error => simp [hassisted, hmatched, Classified.ofErrors] at h

end Injectable

/-! ## Nodes -/

namespace Declaration.Yields

variable {declaration : Declaration} {place : Placement} {node : Node}

/-- Only an injectable makes a node with assisted parameters: the one of its own type. -/
theorem exists_supplied_of_assisted (h : declaration.Yields place node)
    (hassisted : node.assisted ≠ []) :
    ∃ injectable type supply, declaration = .injectable injectable ∧
      injectable.Supplied type supply ∧ supply.assisted ≠ [] ∧
        node = injectable.ownNode place type supply := by
  cases h with
  | own hsupplied => exact ⟨_, _, _, rfl, hsupplied, hassisted, rfl⟩
  | factory => exact absurd rfl hassisted
  | interface => exact absurd rfl hassisted
  | provided _ _ hnone => exact absurd hnone hassisted
  | bound => exact absurd rfl hassisted

/-- Only an injectable with assisted parameters makes a factory. -/
theorem exists_assembled_of_isFactory (h : declaration.Yields place node)
    (hfactory : node.isFactory = true) :
    ∃ injectable type supply contract, declaration = .injectable injectable ∧
      injectable.Assembled type supply contract ∧
        node = Injectable.factoryNode place contract supply := by
  cases h with
  | factory hsupplied hassisted hmatched =>
    exact ⟨_, _, _, _, rfl, ⟨hsupplied, hassisted, hmatched⟩, rfl⟩
  | own => simp [Injectable.ownNode, constructedNode, Node.bare] at hfactory
  | interface => simp [Injectable.aliasNode, Node.bare] at hfactory
  | provided => simp [constructedNode, Node.bare] at hfactory
  | bound => simp [Node.bare] at hfactory

/-- An interface that a node is bound to is a node of its own, which depends on the first one. -/
theorem exists_alias_of_mem_bindingTargets (h : declaration.Yields place node) {key : Key}
    (hkey : key ∈ node.bindingTargets) :
    ∃ forwarding, declaration.Yields place forwarding ∧ node.key ∈ forwarding.dependencies := by
  cases h with
  | own hsupplied => exact ⟨_, .interface hsupplied hkey, List.mem_singleton_self _⟩
  | factory => simp [Injectable.factoryNode, Node.bare] at hkey
  | interface => simp [Injectable.aliasNode, Node.bare] at hkey
  | provided => simp [constructedNode, Node.bare] at hkey
  | bound => simp [Node.bare] at hkey

end Declaration.Yields

/-! ## Pairs -/

namespace Manifest

/-- A declaration that the component hosts makes both nodes, of a type and of its factory. -/
structure Pairs (manifest : Manifest) (hierarchy : Hierarchy) (component : ComponentId)
    (injectable : Injectable) (contract : FactoryContract) (node factory : Node) : Prop where
  member : component ∈ hierarchy.components
  hosted : manifest.hostOf? node.source = some component
  declared : manifest.declarations[node.source]? = some (.injectable injectable)
  made : ∃ type supply, injectable.Assembled type supply contract ∧
    node = injectable.ownNode (placeAt hierarchy component node.source) type supply ∧
      factory = Injectable.factoryNode (placeAt hierarchy component node.source) contract supply

variable {manifest : Manifest} {hierarchy : Hierarchy} {component : ComponentId}
  {injectable : Injectable} {contract : FactoryContract} {node factory : Node}

namespace Pairs

theorem creates (h : manifest.Pairs hierarchy component injectable contract node factory) :
    factory.Creates node contract := by
  rcases h.made with ⟨type, supply, hassembled, hnode, hfactory⟩
  simpa only [← hnode, ← hfactory] using
    hassembled.creates (placeAt hierarchy component node.source)

theorem factory_eq_some
    (h : manifest.Pairs hierarchy component injectable contract node factory) :
    injectable.factory = some contract := by
  rcases h.made with ⟨type, supply, hassembled, _⟩
  exact Injectable.eq_some_of_matchedContract hassembled.matched

theorem source_eq (h : manifest.Pairs hierarchy component injectable contract node factory) :
    factory.source = node.source := by
  rcases h.made with ⟨_, _, _, _, hfactory⟩
  simp only [hfactory, Injectable.factoryNode, Node.bare, placeAt]

theorem assisted_ne_nil
    (h : manifest.Pairs hierarchy component injectable contract node factory) :
    node.assisted ≠ [] := by
  rcases h.made with ⟨_, _, hassembled, hnode, _⟩
  rw [hnode]
  exact hassembled.assisted

theorem isFactory (h : manifest.Pairs hierarchy component injectable contract node factory) :
    factory.isFactory = true := by
  rcases h.made with ⟨_, _, _, _, hfactory⟩
  simp only [hfactory, Injectable.factoryNode]

/-- A declaration makes one pair. -/
theorem unique {otherInjectable : Injectable} {otherContract : FactoryContract}
    {otherNode otherFactory : Node}
    (h : manifest.Pairs hierarchy component injectable contract node factory)
    (hother : manifest.Pairs hierarchy component otherInjectable otherContract otherNode
      otherFactory) (hsource : otherNode.source = node.source) :
    otherNode = node ∧ otherFactory = factory := by
  have hdeclared := hother.declared
  rw [hsource, h.declared] at hdeclared
  cases hdeclared
  rcases h.made with ⟨_, _, hassembled, hnode, hfactory⟩
  rcases hother.made with ⟨_, _, hotherAssembled, hotherNode, hotherFactory⟩
  rcases hassembled.unique hotherAssembled with ⟨rfl, rfl, rfl⟩
  rw [hsource] at hotherNode hotherFactory
  exact ⟨hotherNode.trans hnode.symm, hotherFactory.trans hfactory.symm⟩

end Pairs

section Draft

variable (h : (manifest.draft hierarchy).errors = [])

include h

/-- Both nodes of a pair are hosted by the component. -/
theorem Pairs.mem_nodesOf
    (hpairs : manifest.Pairs hierarchy component injectable contract node factory) :
    node ∈ (manifest.graph hierarchy).nodesOf component ∧
      factory ∈ (manifest.graph hierarchy).nodesOf component := by
  rcases hpairs.made with ⟨type, supply, hassembled, hnode, hfactory⟩
  let place := placeAt hierarchy component node.source
  have hown : (Declaration.injectable injectable).Yields place
      (injectable.ownNode place type supply) := .own hassembled.supplied
  have hmade : (Declaration.injectable injectable).Yields place
      (Injectable.factoryNode place contract supply) :=
    .factory hassembled.supplied hassembled.assisted hassembled.matched
  rw [← hnode] at hown
  rw [← hfactory] at hmade
  simp only [mem_nodesOf_iff h]
  exact ⟨⟨hpairs.member, _, _, hpairs.hosted, hpairs.declared, hown⟩,
    ⟨hpairs.member, _, _, hpairs.hosted, hpairs.declared, hmade⟩⟩

theorem exists_pairs_of_assisted (hnode : node ∈ (manifest.graph hierarchy).nodesOf component)
    (hassisted : node.assisted ≠ []) :
    ∃ injectable contract factory,
      manifest.Pairs hierarchy component injectable contract node factory := by
  rcases (mem_nodesOf_iff h).1 hnode with ⟨hmem, position, declaration, hhost, hfound, hyields⟩
  have hsource : node.source = position := hyields.source_eq
  subst hsource
  rcases hyields.exists_supplied_of_assisted hassisted with
    ⟨injectable, type, supply, rfl, hsupplied, hsome, hown⟩
  -- The classification has no errors, so the parameters match a contract.
  rcases Injectable.exists_assembled (errors_classify h hmem hhost hfound) hsupplied hsome with
    ⟨contract, hassembled⟩
  exact ⟨injectable, contract, _, hmem, hhost, hfound, type, supply, hassembled, hown, rfl⟩

theorem exists_pairs_of_isFactory
    (hfactory : factory ∈ (manifest.graph hierarchy).nodesOf component)
    (hkind : factory.isFactory = true) :
    ∃ injectable contract node,
      manifest.Pairs hierarchy component injectable contract node factory := by
  rcases (mem_nodesOf_iff h).1 hfactory with ⟨hmem, position, declaration, hhost, hfound, hyields⟩
  rcases hyields.exists_assembled_of_isFactory hkind with
    ⟨injectable, type, supply, contract, rfl, hassembled, hmade⟩
  exact ⟨injectable, contract,
    injectable.ownNode (placeAt hierarchy component position) type supply,
    hmem, hhost, hfound, type, supply, hassembled, rfl, hmade⟩

theorem existsUnique_factory (hnode : node ∈ (manifest.graph hierarchy).nodesOf component)
    (hassisted : node.assisted ≠ []) :
    ∃! factory, factory ∈ (manifest.graph hierarchy).nodesOf component ∧
      factory.isFactory = true ∧ factory.source = node.source := by
  rcases exists_pairs_of_assisted h hnode hassisted with ⟨injectable, contract, factory, hpairs⟩
  refine ⟨factory, ⟨(hpairs.mem_nodesOf h).2, hpairs.isFactory, hpairs.source_eq⟩, ?_⟩
  rintro other ⟨hother, hkind, hsource⟩
  rcases exists_pairs_of_isFactory h hother hkind with ⟨_, _, creator, hotherPairs⟩
  exact (hpairs.unique hotherPairs (hotherPairs.source_eq.symm.trans hsource)).2

theorem existsUnique_assisted
    (hfactory : factory ∈ (manifest.graph hierarchy).nodesOf component)
    (hkind : factory.isFactory = true) :
    ∃! node, node ∈ (manifest.graph hierarchy).nodesOf component ∧ node.assisted ≠ [] ∧
      node.source = factory.source := by
  rcases exists_pairs_of_isFactory h hfactory hkind with ⟨injectable, contract, node, hpairs⟩
  refine ⟨node, ⟨(hpairs.mem_nodesOf h).1, hpairs.assisted_ne_nil, hpairs.source_eq.symm⟩, ?_⟩
  rintro other ⟨hother, hassisted, hsource⟩
  rcases exists_pairs_of_assisted h hother hassisted with ⟨_, _, _, hotherPairs⟩
  exact (hpairs.unique hotherPairs (hsource.trans hpairs.source_eq)).1

/-- An assisted type and a factory of one source are a pair. -/
theorem exists_pairs (hnode : node ∈ (manifest.graph hierarchy).nodesOf component)
    (hassisted : node.assisted ≠ [])
    (hfactory : factory ∈ (manifest.graph hierarchy).nodesOf component)
    (hkind : factory.isFactory = true) (hsource : factory.source = node.source) :
    ∃ injectable contract,
      manifest.Pairs hierarchy component injectable contract node factory := by
  rcases exists_pairs_of_isFactory h hfactory hkind with ⟨injectable, contract, creator, hpairs⟩
  rcases exists_pairs_of_assisted h hnode hassisted with ⟨_, _, _, hnodePairs⟩
  have hcreator : node = creator :=
    (hpairs.unique hnodePairs (hsource.symm.trans hpairs.source_eq)).1
  exact ⟨injectable, contract, hcreator ▸ hpairs⟩

/-- What an assisted type is bound to would be a node that depends on it. -/
theorem exists_dependent_of_mem_bindingTargets
    (hnode : node ∈ (manifest.graph hierarchy).nodesOf component) {key : Key}
    (hkey : key ∈ node.bindingTargets) :
    ∃ dependent ∈ (manifest.graph hierarchy).nodesOf component,
      node.key ∈ dependent.dependencies := by
  rcases (mem_nodesOf_iff h).1 hnode with ⟨hmem, position, declaration, hhost, hfound, hyields⟩
  rcases hyields.exists_alias_of_mem_bindingTargets hkey with ⟨dependent, hdependent, hdepends⟩
  exact ⟨dependent,
    (mem_nodesOf_iff h).2 ⟨hmem, position, declaration, hhost, hfound, hdependent⟩, hdepends⟩

end Draft
end Manifest

/-! ## What leads to an assisted type -/

namespace Graph.Sound

variable {graph : Graph} {node other : Node} {key : Key}

/-- The check of dependencies leaves no key that leads to an assisted type. -/
theorem resolve?_ne_of_assisted (h : graph.Sound) (hregular : node.Regular)
    (hassisted : node.assisted ≠ []) (hother : other ∈ graph.nodes)
    (hkey : key ∈ other.requested) : graph.resolve? other.host key ≠ some node := by
  intro hresolve
  have hdirect := h.direct other hother key hkey node hresolve
  cases hkind : node.isFactory with
  | true => exact hassisted (hregular.unassisted hkind)
  | false => simp [Node.isAssisted, hkind, hassisted] at hdirect

/-- A node of the component that depends on an assisted type would lead to it. -/
theorem not_mem_dependencies_of_assisted (h : graph.Sound) (hregular : node.Regular)
    {component : ComponentId} (hnode : node ∈ graph.nodesOf component)
    (hassisted : node.assisted ≠ []) (hother : other ∈ graph.nodesOf component) :
    node.key ∉ other.dependencies := by
  intro hdepends
  rcases List.mem_filter.1 hother with ⟨hmem, hhost⟩
  have hlocal := h.keyed.local?_of_mem_nodesOf hnode
  rw [← of_decide_eq_true hhost] at hlocal
  exact h.resolve?_ne_of_assisted hregular hassisted hmem (List.mem_append_left _ hdepends)
    (h.resolve?_of_local? hlocal)

end Graph.Sound

theorem Node.mem_requested_of_aliasTarget? {node : Node} {key : Key}
    (h : node.aliasTarget? = some key) : key ∈ node.requested := by
  simp only [aliasTarget?] at h
  split at h
  · exact List.mem_append_left _ (List.mem_of_head? h)
  · simp at h

/-! ## Compilations -/

/-- In a compiled graph the nodes with assisted parameters and the factories of a component are in
bijection, a factory and its type being made by the same declaration, and the factory agrees with the
type and with the contract of the declaration. A node with assisted parameters is bound to no
interface, and nothing that any node asks for, directly, deferred or as an alias, resolves to it. -/
theorem assisted_types_have_their_own_factories {manifest : Manifest} {config : Config}
    {compilation : Compilation} (hcompile : (compile manifest config).result = .ok compilation)
    (component : ComponentId) :
    let graph := compilation.graph
    let nodes := graph.nodesOf component
    (∀ node ∈ nodes, node.assisted ≠ [] →
      ∃! factory, factory ∈ nodes ∧ factory.isFactory = true ∧ factory.source = node.source) ∧
    (∀ factory ∈ nodes, factory.isFactory = true →
      ∃! node, node ∈ nodes ∧ node.assisted ≠ [] ∧ node.source = factory.source) ∧
    (∀ node ∈ nodes, node.assisted ≠ [] → ∀ factory ∈ nodes, factory.isFactory = true →
      factory.source = node.source →
        ∃ injectable contract, compilation.source? node = some (.injectable injectable) ∧
          injectable.factory = some contract ∧ factory.Creates node contract) ∧
    (∀ node ∈ nodes, node.assisted ≠ [] → node.isFactory = false ∧ node.bindingTargets = [] ∧
      ∀ other ∈ graph.nodes, ∀ key,
        key ∈ other.dependencies ∨ key ∈ other.deferred ∨ other.aliasTarget? = some key →
          graph.resolve? other.host key ≠ some node) := by
  intro graph nodes
  have hsound : graph.Sound := (Compilation.sound hcompile).1
  have hregular : ∀ node ∈ nodes, node.Regular := by
    intro node hnode
    exact Compilation.regular hcompile (List.mem_filter.1 hnode).1
  rcases Compilation.drafted hcompile with ⟨hierarchy, _, _, hdraft, hmanifest, hgraph⟩
  have hnodes : nodes = (manifest.graph hierarchy).nodesOf component := by
    simp only [nodes, graph, hgraph]
  refine ⟨?_, ?_, ?_, ?_⟩
  · intro node hnode hassisted
    simpa only [hnodes] using Manifest.existsUnique_factory hdraft (hnodes ▸ hnode) hassisted
  · intro factory hfactory hkind
    simpa only [hnodes] using Manifest.existsUnique_assisted hdraft (hnodes ▸ hfactory) hkind
  · intro node hnode hassisted factory hfactory hkind hsource
    rcases Manifest.exists_pairs hdraft (hnodes ▸ hnode) hassisted (hnodes ▸ hfactory) hkind
      hsource with ⟨injectable, contract, hpairs⟩
    refine ⟨injectable, contract, ?_, hpairs.factory_eq_some, hpairs.creates⟩
    simpa only [Compilation.source?, hmanifest] using hpairs.declared
  · intro node hnode hassisted
    refine ⟨?_, ?_, ?_⟩
    · cases hkind : node.isFactory with
      | false => rfl
      | true => exact absurd ((hregular node hnode).unassisted hkind) hassisted
    · -- An interface that the node is bound to would depend on it.
      apply List.eq_nil_iff_forall_not_mem.2
      intro key hkey
      rcases Manifest.exists_dependent_of_mem_bindingTargets hdraft (hnodes ▸ hnode) hkey with
        ⟨dependent, hdependent, hdepends⟩
      have hmember : dependent ∈ nodes := hnodes ▸ hdependent
      exact hsound.not_mem_dependencies_of_assisted (hregular node hnode) hnode hassisted hmember
        hdepends
    · intro other hother key hkey
      apply hsound.resolve?_ne_of_assisted (hregular node hnode) hassisted hother
      rcases hkey with hdependency | hdeferred | htarget
      · exact List.mem_append_left _ hdependency
      · exact List.mem_append_right _ hdeferred
      · exact Node.mem_requested_of_aliasTarget? htarget

/-- The orders of the shop are created from a number that the caller supplies. -/
theorem orders_have_a_factory :
    ∃ order ∈ shopCompilation.graph.nodesOf "App",
      order.key = ⟨"Order", none⟩ ∧ order.assisted = [("number", .resolved "Number")] ∧
        ∃ factory ∈ shopCompilation.graph.nodesOf "App", ∃ contract,
          factory.source = order.source ∧ contract.type = "OrderFactory" ∧
            factory.Creates order contract ∧
              ∃! node, node ∈ shopCompilation.graph.nodesOf "App" ∧ node.assisted ≠ [] ∧
                node.source = factory.source := by
  have hfound : ∃ order ∈ shopCompilation.graph.nodesOf "App",
      order.key = ⟨"Order", none⟩ ∧ order.assisted = [("number", .resolved "Number")] ∧
        order.source = 0 := by
    decide +kernel
  rcases hfound with ⟨order, horder, hkey, hassisted, hposition⟩
  have hsome : order.assisted ≠ [] := by
    simp [hassisted]
  rcases assisted_types_have_their_own_factories compile_shopManifest "App" with
    ⟨hfactories, htypes, hagree, _⟩
  rcases hfactories order horder hsome with ⟨factory, ⟨hfactory, hkind, hsource⟩, _⟩
  rcases hagree order horder hsome factory hfactory hkind hsource with
    ⟨injectable, contract, hdeclared, hcontract, hcreates⟩
  refine ⟨order, horder, hkey, hassisted, factory, hfactory, contract, hsource, ?_, hcreates,
    htypes factory hfactory hkind⟩
  simp only [Compilation.source?, hposition, shopCompilation, shopManifest] at hdeclared
  cases hdeclared
  cases hcontract
  rfl

end ObjectGraph
