import ObjectGraph.Proofs.Compile.Emission
import ObjectGraph.Proofs.Graph.Sources

/-!
# Provider kinds — how providers are wired, read off the declarations

Whether an instance is kept for its component is decided in several places: a declaration without a
scope takes that of its host, a runtime context overrides both, and the scope of the host is that of
its last declaration. Together they amount to a rule about the manifest alone.

* `ProviderKind.ofConstructed`, `Declaration.providerKinds` — the rule;
* `Supply.context_eq_none_iff` — a context is supplied if some parameter is one;
* `Declaration.map_kind_classify` — the nodes of a declaration follow the rule;
* `provider_kinds_follow_declarations` — the plan of a compilation follows it.
-/

namespace ObjectGraph

/-! ## The rule -/

/-- Instances are kept for the component if it has a scope, the declaration does not name another one,
and neither the declaration nor a parameter leaves the instance to the site that asks for it. -/
def ProviderKind.ofConstructed (hostScope own : Option ScopeId) (runtimeScoped : Bool)
    (parameters : List Parameter) : ProviderKind :=
  if (∃ scope ∈ hostScope, ∀ named ∈ own, named = scope) ∧ runtimeScoped = false ∧
      ∀ parameter ∈ parameters, parameter.kind ≠ .runtimeContext then .scoped
  else .unscoped

namespace Injectable

def ownKind (injectable : Injectable) (hostScope : Option ScopeId) : ProviderKind :=
  if injectable.hasAssisted then .assistedOnly
  else .ofConstructed hostScope injectable.scope injectable.runtimeScoped injectable.parameters

/-- The type itself, its factory if a caller supplies some of the parameters, and the interfaces that
it is bound to. -/
def providerKinds (injectable : Injectable) (hostScope : Option ScopeId) :
    List (Key × ProviderKind) :=
  match injectable.type.name? with
  | none => []
  | some type =>
    let factories := if injectable.hasAssisted then injectable.factory.toList else []
    let interfaces := injectable.bindsTo.filterMap TypeRef.name?
    (⟨type, injectable.qualifier⟩, injectable.ownKind hostScope) ::
      factories.map (fun contract => (.unqualified contract.type, .factory)) ++
      interfaces.map fun interface => (⟨interface, injectable.qualifier⟩, .aliasOf)

end Injectable

def ProvidesFunction.providerKinds (function : ProvidesFunction) (hostScope : Option ScopeId) :
    List (Key × ProviderKind) :=
  function.returns.name?.toList.map fun type =>
    (⟨type, function.qualifier⟩,
      .ofConstructed hostScope function.scope function.runtimeScoped function.parameters)

def BindsFunction.providerKinds (function : BindsFunction) : List (Key × ProviderKind) :=
  function.returns.name?.toList.map fun interface => (⟨interface, function.qualifier⟩, .aliasOf)

/-- The keys that a declaration serves at a host of this scope, each with how it is wired. -/
def Declaration.providerKinds (hostScope : Option ScopeId) :
    Declaration → List (Key × ProviderKind)
  | .injectable i => i.providerKinds hostScope
  | .provides f => f.providerKinds hostScope
  | .binds f => f.providerKinds

namespace Manifest

/-- The scope of a component, by its last declaration. -/
def scope? (manifest : Manifest) (component : ComponentId) : Option ScopeId :=
  (manifest.effectiveComponent? component).bind (·.scope)

/-- What the declarations that a component hosts say about its providers. -/
def providerKinds (manifest : Manifest) (component : ComponentId) : List (Key × ProviderKind) :=
  (manifest.hostedBy component).flatMap fun position =>
    (manifest.declarations[position]?.map
      (Declaration.providerKinds (manifest.scope? component))).getD []

end Manifest

/-! ## Runtime contexts -/

/-- Parameters that are supplied come with a context exactly if one of them is a context. -/
theorem Supply.context_eq_none_iff {declaration : String} {parameters : List Parameter} {supply : Supply}
    (h : (splitParameters declaration parameters).supply? = some supply) :
    supply.context = none ↔ ∀ parameter ∈ parameters, parameter.kind ≠ .runtimeContext := by
  rw [← Option.toList_eq_nil_iff, (exact_of_supply? h).context_eq]
  simp [List.filter_eq_nil_iff]

/-! ## Classifications -/

section Classifications

variable {graph : Graph} {place : Placement}

/-- The key of a node, with how its provider is wired. -/
def Graph.kinded (graph : Graph) (node : Node) : Key × ProviderKind :=
  (node.key, .ofNode graph node)

theorem Graph.isScoped_constructedNode (hscope : place.hostScope = graph.hierarchy.scope? place.host)
    (key : Key) (own : Option ScopeId) (runtimeScoped : Bool) (supply : Supply)
    (targets : List Key) :
    graph.isScoped
        { constructedNode place key own runtimeScoped supply with bindingTargets := targets } =
          true ↔
      (∃ scope ∈ place.hostScope, ∀ named ∈ own, named = scope) ∧ runtimeScoped = false ∧
        supply.context = none := by
  simp only [Graph.isScoped, constructedNode, Node.bare, ← hscope]
  cases own with
  | none => cases place.hostScope <;> simp
  | some named =>
    -- A scope of its own keeps an instance only in a component of that scope.
    cases hhost : place.hostScope with
    | none => simp
    | some scope =>
      by_cases hsame : named = scope
      · simp [hsame]
      · simp [hsame, Ne.symm hsame]

/-- A node constructed from supplied parameters is wired by the rule, unless a caller supplies some
of them. -/
theorem ProviderKind.ofNode_constructedNode
    (hscope : place.hostScope = graph.hierarchy.scope? place.host) {declaration : String}
    {parameters : List Parameter} {supply : Supply}
    (hsupply : (splitParameters declaration parameters).supply? = some supply) (key : Key)
    (own : Option ScopeId) (runtimeScoped : Bool) (targets : List Key) :
    ProviderKind.ofNode graph
        { constructedNode place key own runtimeScoped supply with bindingTargets := targets } =
      if supply.assisted = [] then ofConstructed place.hostScope own runtimeScoped parameters
      else .assistedOnly := by
  have hscoped := graph.isScoped_constructedNode hscope key own runtimeScoped supply targets
  simp only [Supply.context_eq_none_iff hsupply] at hscoped
  have hassisted : ({ constructedNode place key own runtimeScoped supply with
        bindingTargets := targets } : Node).isAssisted = !supply.assisted.isEmpty := by
    simp [Node.isAssisted, constructedNode, Node.bare]
  simp only [ofNode, hassisted, hscoped, ofConstructed]
  cases supply.assisted with
  | nil => simp [constructedNode, Node.bare]
  | cons first rest => simp [constructedNode, Node.bare]

theorem Injectable.map_kind_classify {injectable : Injectable}
    (hscope : place.hostScope = graph.hierarchy.scope? place.host)
    (h : (injectable.classify place).errors = []) :
    (injectable.classify place).nodes.map graph.kinded =
      injectable.providerKinds place.hostScope := by
  rcases injectable.supplied_or_errors place with ⟨type, supply, hsupplied⟩ | ⟨_, hne⟩
  · simp only [hsupplied.classify_eq, List.append_eq_nil_iff] at h ⊢
    rcases h with ⟨htargets, hfactory⟩
    have hown : graph.kinded (injectable.ownNode place type supply) =
        (⟨type, injectable.qualifier⟩, injectable.ownKind place.hostScope) := by
      have hkind := ProviderKind.ofNode_constructedNode hscope hsupplied.supply_eq
        ⟨type, injectable.qualifier⟩ injectable.scope injectable.runtimeScoped
        (injectable.interfaces type)
      refine Prod.ext rfl (hkind.trans ?_)
      cases hassisted : supply.assisted with
      | nil => simp [ownKind, hasAssisted_iff hsupplied.supply_eq, hassisted]
      | cons first rest => simp [ownKind, hasAssisted_iff hsupplied.supply_eq, hassisted]
    -- The contract of the factory is the one that the injectable names.
    have hfactories : (injectable.factory? place type supply).nodes.map graph.kinded =
        (if injectable.hasAssisted then injectable.factory.toList else []).map
          fun contract => (.unqualified contract.type, .factory) := by
      have hkinded : ∀ node ∈ (injectable.factory? place type supply).nodes,
          graph.kinded node = (node.outline.key, .factory) := by
        intro node hnode
        rcases mem_factory?_iff.1 hnode with ⟨_, contract, _, rfl⟩
        rfl
      have houtlines := congrArg (List.map fun outline => (outline.key, ProviderKind.factory))
        (map_outline_factory? hsupplied.supply_eq hfactory).1
      simp only [List.map_map] at houtlines
      exact (List.map_congr_left hkinded).trans houtlines
    have hinterfaces : injectable.interfaces type =
        (injectable.bindsTo.filterMap TypeRef.name?).map
          fun name => ⟨name, injectable.qualifier⟩ :=
      (filterMap_toOption_bindingTarget htargets).1
    simp only [List.map_cons, List.map_append, hown, hfactories, hinterfaces, List.map_map,
      providerKinds, hsupplied.type_eq, TypeRef.name?]
    rfl
  · exact absurd h hne

theorem ProvidesFunction.map_kind_classify {function : ProvidesFunction}
    (hscope : place.hostScope = graph.hierarchy.scope? place.host)
    (h : (function.classify place).errors = []) :
    (function.classify place).nodes.map graph.kinded =
      function.providerKinds place.hostScope := by
  simp only [ProvidesFunction.classify] at h ⊢
  cases htype : function.returns with
  | unresolved raw => simp [htype, Classified.ofErrors] at h
  | resolved type =>
    simp only [htype] at h ⊢
    cases hsupply : (splitParameters (Declaration.provides function).displayName
        function.parameters).supply? with
    | none =>
      simp only [hsupply, Classified.ofErrors] at h
      exact absurd h (Split.errors_ne_nil_of_supply? hsupply)
    | some supply =>
      simp only [hsupply] at h ⊢
      cases hassisted : supply.assisted with
      | cons first rest => simp [hassisted, Classified.ofErrors] at h
      | nil =>
        have hkind := ProviderKind.ofNode_constructedNode hscope hsupply
          ⟨type, function.qualifier⟩ function.scope function.runtimeScoped []
        simp only [hassisted, if_true] at hkind
        simp only [Classified.ofNode, List.isEmpty_nil, if_true, List.map_singleton, providerKinds,
          htype, TypeRef.name?, Option.toList_some]
        exact congrArg (fun kind => [(_, kind)]) hkind

theorem BindsFunction.map_kind_classify {function : BindsFunction}
    (h : (function.classify place).errors = []) :
    (function.classify place).nodes.map graph.kinded = function.providerKinds := by
  unfold BindsFunction.classify at h ⊢
  simp only at h ⊢
  split at h
  · rename_i habstract
    split at h
    · rename_i implementation hparameters
      cases hreturns : function.returns with
      | unresolved raw => simp [hreturns, Classified.ofErrors] at h
      | resolved interface =>
        cases htype : implementation.type with
        | unresolved raw => simp [hreturns, htype, Classified.ofErrors] at h
        | resolved type =>
          simp [habstract, hreturns, Classified.ofNode, providerKinds, TypeRef.name?,
            Graph.kinded, ProviderKind.ofNode, Node.bare]
    · simp [Classified.ofErrors] at h
  · simp [Classified.ofErrors] at h

/-- The nodes of a classification without errors follow the rule. -/
theorem Declaration.map_kind_classify {declaration : Declaration}
    (hscope : place.hostScope = graph.hierarchy.scope? place.host)
    (h : (declaration.classify place).errors = []) :
    (declaration.classify place).nodes.map graph.kinded =
      declaration.providerKinds place.hostScope := by
  cases declaration with
  | injectable i => exact Injectable.map_kind_classify hscope h
  | provides f => exact ProvidesFunction.map_kind_classify hscope h
  | binds f => exact BindsFunction.map_kind_classify h

/-- An order is made by its factory alone, and the interface it is bound to stands for it. -/
example :
    Declaration.providerKinds (some "Singleton")
      (.injectable
        { type := .resolved "Order"
          qualifier := none
          scope := none
          parameters := [⟨"number", .resolved "Number", none, .assisted, .direct⟩]
          supertypes := ["Document"]
          bindsTo := [.resolved "Document"]
          factory := some ⟨"OrderFactory", [("number", .resolved "Number")], .resolved "Order"⟩
          runtimeScoped := false
          contributesTo := ["App"] }) =
    [(⟨"Order", none⟩, .assistedOnly), (⟨"OrderFactory", none⟩, .factory),
      (⟨"Document", none⟩, .aliasOf)] := by
  decide +kernel

end Classifications

/-! ## Plans -/

section Plans

variable {graph : Graph} {component : ComponentId}

/-- A plan has an entry for each node that the component hosts, and no others. -/
theorem Graph.Sound.providers_perm (h : graph.Sound) (component : ComponentId) :
    (ComponentPlan.ofGraph graph component).providers.Perm
      ((graph.nodesOf component).map (Entry.ofNode graph)) := by
  have hproviders : (ComponentPlan.ofGraph graph component).providers.Nodup :=
    (ComponentPlan.nodup_keys_providers h.keyed (h.ordered_topologicalOrder component).1).of_map
  have hnodes : ((graph.nodesOf component).map (Entry.ofNode graph)).Nodup := by
    refine (h.keyed.nodup_map_id.of_map.filter _).map_on ?_
    intro a ha b hb heq
    -- Nodes of one component differ in their keys, which their entries keep.
    have hkey : a.key = b.key := congrArg Entry.key heq
    have hlocal := h.keyed.local?_of_mem_nodesOf ha
    rw [hkey, h.keyed.local?_of_mem_nodesOf hb] at hlocal
    exact (Option.some.inj hlocal).symm
  apply (List.perm_ext_iff_of_nodup hproviders hnodes).2
  intro entry
  simp only [ComponentPlan.mem_providers_iff h.keyed, Option.map_eq_some_iff, List.mem_map]
  constructor
  · rintro ⟨node, hlocal, rfl⟩
    exact ⟨node, h.keyed.mem_nodesOf hlocal, rfl⟩
  · rintro ⟨node, hnode, rfl⟩
    exact ⟨node, h.keyed.local?_of_mem_nodesOf hnode, rfl⟩

end Plans

namespace Manifest

variable {manifest : Manifest} {hierarchy : Hierarchy} {component : ComponentId}

theorem scope?_of_resolveHierarchy {config : Config}
    (h : (manifest.resolveHierarchy config).1 = some hierarchy)
    (hmem : component ∈ hierarchy.components) :
    hierarchy.scope? component = manifest.scope? component := by
  rcases resolveHierarchy_eq_some h with ⟨_, hroot, htree, _⟩
  rw [htree] at hmem ⊢
  exact scope?_treeAt (parent?_root hroot) hmem

/-- The nodes that the declarations of a component leave follow the rule. -/
theorem map_kinded_nodesOf_perm {config : Config}
    (hresolve : (manifest.resolveHierarchy config).1 = some hierarchy)
    (h : (manifest.draft hierarchy).errors = []) (hmem : component ∈ hierarchy.components) :
    (((manifest.graph hierarchy).nodesOf component).map (manifest.graph hierarchy).kinded).Perm
      (manifest.providerKinds component) := by
  have hrooted := rooted_of_resolveHierarchy hresolve
  have hscope := scope?_of_resolveHierarchy hresolve hmem
  have hkinds : (manifest.hostedBy component).flatMap (fun position =>
      (manifest.classifyAt (placeAt hierarchy component position)).nodes.map
        (manifest.graph hierarchy).kinded) = manifest.providerKinds component := by
    apply List.flatMap_congr
    intro position hposition
    have hhost := mem_hostedBy_iff.1 hposition
    have hfound := List.getElem?_eq_getElem (lt_length_of_hostOf? hhost)
    have hplace : (placeAt hierarchy component position).hostScope =
        (manifest.graph hierarchy).hierarchy.scope? component := rfl
    have hkind := Declaration.map_kind_classify hplace (errors_classify h hmem hhost hfound)
    simpa only [classifyAt, placeAt, hfound, Option.map_some, Option.getD_some, ← hscope] using hkind
  have hperm := (nodesOf_perm h Hierarchy.nodup_components hmem).map (manifest.graph hierarchy).kinded
  simpa only [List.map_flatMap, hkinds] using hperm

end Manifest

/-! ## Compilations -/

/-- Every component of a plan has the scope that the manifest gives it. It has one entry for a key, and
its entries are those that the declarations hosted by the component ask for, wired as the declarations
say. -/
theorem provider_kinds_follow_declarations {manifest : Manifest} {config : Config}
    {compilation : Compilation} (hcompile : (compile manifest config).result = .ok compilation)
    {component : ComponentPlan} (hmem : component ∈ compilation.plan.components) :
    component.scope = manifest.scope? component.id ∧
      (component.providers.map (·.key)).Nodup ∧
      (component.providers.map fun entry => (entry.key, entry.kind)).Perm
        (manifest.providerKinds component.id) := by
  rcases Compilation.sound hcompile with ⟨hsound, hplan, _⟩
  rcases Compilation.drafted hcompile with ⟨hierarchy, hresolve, _, hdraft, _, hgraph⟩
  simp only [hplan, Plan.ofGraph, List.mem_map] at hmem
  rcases hmem with ⟨id, hid, rfl⟩
  have hid : id ∈ hierarchy.components := by
    simpa only [hgraph, Manifest.graph] using hid
  have hscope : compilation.graph.hierarchy.scope? id = manifest.scope? id := by
    simpa only [hgraph, Manifest.graph] using Manifest.scope?_of_resolveHierarchy hresolve hid
  refine ⟨hscope, ComponentPlan.nodup_keys_providers hsound.keyed
    (hsound.ordered_topologicalOrder id).1, ?_⟩
  have hentries := (hsound.providers_perm id).map fun entry => (entry.key, entry.kind)
  simp only [List.map_map] at hentries
  have hkinds := Manifest.map_kinded_nodesOf_perm hresolve hdraft hid
  rw [← hgraph] at hkinds
  exact hentries.trans hkinds

/-- The last declaration of the component decides which of the constructed instances it keeps. -/
def deskManifest : Manifest where
  entryPoint := "App"
  components := [⟨"App", some "Visit", .component, []⟩, ⟨"App", some "Singleton", .component, []⟩]
  modules := [⟨"Desk", ["App"]⟩]
  declarations :=
    [.provides ⟨"Desk", "clock", .resolved "Clock", none, some "Singleton", [], false⟩,
      .provides ⟨"Desk", "paper", .resolved "Paper", none, none, [], false⟩,
      .provides ⟨"Desk", "visitor", .resolved "Visitor", none, some "Visit", [], false⟩,
      .provides ⟨"Desk", "ticket", .resolved "Ticket", none, none, [], true⟩,
      .provides ⟨"Desk", "screen", .resolved "Screen", none, some "Singleton",
        [⟨"handle", .resolved "Handle", none, .runtimeContext, .direct⟩], false⟩,
      .binds ⟨"Desk", "sheet", .resolved "Sheet", none,
        [.regular "paper" (.resolved "Paper") none], true⟩]

def deskCompilation : Compilation :=
  let hierarchy : Hierarchy := ⟨"App", .ofList [("App", ⟨none, some "Singleton", [], 0⟩)]⟩
  ⟨deskManifest, deskManifest.graph hierarchy, .ofGraph (deskManifest.graph hierarchy)⟩

theorem compile_deskManifest :
    (compile deskManifest .default).result = .ok deskCompilation :=
  compile_eq_ok_of_errors (by decide +kernel) (by decide +kernel)

theorem desk_keeps_clock_and_paper :
    ∃ component ∈ deskCompilation.plan.components,
      component.scope = some "Singleton" ∧
        (component.providers.map fun entry => (entry.key.type, entry.kind)).Perm
          [("Clock", .scoped), ("Paper", .scoped), ("Visitor", .unscoped), ("Ticket", .unscoped),
            ("Screen", .unscoped), ("Sheet", .aliasOf)] := by
  have hfound : ∃ component ∈ deskCompilation.plan.components, component.id = "App" := by
    decide +kernel
  rcases hfound with ⟨component, hmem, hid⟩
  rcases provider_kinds_follow_declarations compile_deskManifest hmem with ⟨hscope, _, hperm⟩
  rw [hid] at hscope hperm
  refine ⟨component, hmem, hscope, ?_⟩
  have htypes := hperm.map fun pair => (pair.1.type, pair.2)
  simp only [List.map_map] at htypes
  exact htypes

end ObjectGraph
