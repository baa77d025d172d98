import ObjectGraph.Proofs.Hierarchy.WellFormed

/-!
# Roots — which component a hierarchy hangs from, and which components hang there

The components connected to the entry point have a hierarchy exactly if one of them, and no other, has
no parent. Any other number of them is reported. The members are those whose way up leads to the root;
all other connected components go up for ever and are reported together.

* `Manifest.Topmost` — a connected component without a parent;
* `Lists` — a list that names the components with a property, in order;
* `Manifest.filter_concernsRoots_resolveHierarchy` — what is reported about roots;
* `Manifest.mem_components_treeAt_iff`, `Manifest.neverEnds_of_mem_detached` — members and others;
* `root_discovery_is_exact` — hierarchies, roots, members and reports.
-/

namespace ObjectGraph

/-! ## Lists of components -/

/-- The list names the components with a property, once each, in the order of identities. -/
structure Lists (list : List ComponentId) (p : ComponentId → Prop) : Prop where
  increasing : list.Pairwise (· < ·)
  mem_iff : ∀ component, component ∈ list ↔ p component

theorem Lists.unique {first second : List ComponentId} {p : ComponentId → Prop}
    (hfirst : Lists first p) (hsecond : Lists second p) : first = second := by
  have hcompare : ∀ {list : List ComponentId}, Lists list p →
      list.Pairwise fun a b => compare a b = .lt := by
    intro list hlist
    exact hlist.increasing.imp fun hlt => compareOfLessAndEq_eq_lt.2 hlt
  apply Table.eq_of_increasing (hcompare hfirst) (hcompare hsecond)
  intro component
  rw [hfirst.mem_iff, hsecond.mem_iff]

/-! ## Roots -/

def GraphError.concernsRoots : GraphError → Bool
  | .noRoot _ | .multipleRoots _ => true
  | _ => false

/-- The components that a parent cycle keeps from the root, if that is what is reported. -/
def GraphError.detached? : GraphError → Option (List ComponentId)
  | .cyclicHierarchy components => some components
  | _ => none

namespace Manifest

variable {manifest : Manifest} {config : Config}

/-- A connected component without a parent. -/
def Topmost (manifest : Manifest) (component : ComponentId) : Prop :=
  manifest.Connected component ∧ manifest.parent? component = none

theorem lists_rootCandidates (hentry : manifest.isComponent manifest.entryPoint = true) :
    Lists manifest.rootCandidates manifest.Topmost where
  increasing := increasing_connected.filter _
  mem_iff := by
    intro component
    rw [mem_rootCandidates_iff, mem_connected_iff hentry, Topmost]

theorem eq_multipleParents_of_mem_severalParents {error : GraphError}
    (h : error ∈ manifest.severalParents) :
    ∃ component parents, error = .multipleParents component parents := by
  rcases List.mem_filterMap.1 h with ⟨component, _, herror⟩
  simp only at herror
  split at herror
  · exact ⟨component, _, (Option.some.inj herror).symm⟩
  · simp at herror

theorem filterMap_detached?_resolveHierarchy {hierarchy : Hierarchy}
    (h : (manifest.resolveHierarchy config).1 = some hierarchy) :
    (manifest.resolveHierarchy config).2.errors.filterMap GraphError.detached? =
      if manifest.detached hierarchy = [] then [] else [manifest.detached hierarchy] := by
  have hparents : manifest.severalParents.filterMap GraphError.detached? = [] := by
    apply List.filterMap_eq_nil_iff.2
    intro error herror
    rcases eq_multipleParents_of_mem_severalParents herror with ⟨component, parents, rfl⟩
    rfl
  have hscopes : (hierarchy.scopeReport config).errors.filterMap GraphError.detached? = [] := by
    apply List.filterMap_eq_nil_iff.2
    intro error herror
    have hstage := hierarchy.stage_of_mem_scopeReport config error herror
    cases error with
    | cyclicHierarchy components => simp [GraphError.stage] at hstage
    | _ => rfl
  simp only [(resolveHierarchy_eq_some h).2.2.2, List.filterMap_append, hparents, hscopes,
    List.nil_append, List.append_nil, detachedErrors]
  cases manifest.detached hierarchy with
  | nil => rfl
  | cons first rest => simp [GraphError.detached?]

/-- What is to be reported about the components without a parent. -/
def rootErrors (manifest : Manifest) : List GraphError :=
  match manifest.rootCandidates with
  | [_] => []
  | [] => [.noRoot manifest.entryPoint]
  | roots => [.multipleRoots roots]

theorem filter_concernsRoots_resolveHierarchy
    (hentry : manifest.isComponent manifest.entryPoint = true) :
    (manifest.resolveHierarchy config).2.errors.filter GraphError.concernsRoots =
      manifest.rootErrors := by
  have hparents : manifest.severalParents.filter GraphError.concernsRoots = [] := by
    apply List.filter_eq_nil_iff.2
    intro error herror
    rcases eq_multipleParents_of_mem_severalParents herror with ⟨component, parents, rfl⟩
    simp [GraphError.concernsRoots]
  have hdetached : ∀ hierarchy : Hierarchy,
      (manifest.detachedErrors hierarchy).filter GraphError.concernsRoots = [] := by
    intro hierarchy
    simp only [detachedErrors]
    split
    · rfl
    · simp [GraphError.concernsRoots]
  have hscopes : ∀ hierarchy : Hierarchy,
      (hierarchy.scopeReport config).errors.filter GraphError.concernsRoots = [] := by
    intro hierarchy
    apply List.filter_eq_nil_iff.2
    intro error herror
    have hstage := hierarchy.stage_of_mem_scopeReport config error herror
    cases error with
    | noRoot entry => simp [GraphError.stage] at hstage
    | multipleRoots roots => simp [GraphError.stage] at hstage
    | _ => simp [GraphError.concernsRoots]
  -- No, one, or several components without a parent.
  simp only [resolveHierarchy, hentry, if_true, rootErrors]
  rcases manifest.rootCandidates with _ | ⟨first, _ | ⟨second, rest⟩⟩
  · simp [Report.ofErrors, hparents, GraphError.concernsRoots]
  · simp [Report.ofErrors, hparents, hdetached, hscopes]
  · simp [Report.ofErrors, hparents, GraphError.concernsRoots]

theorem noRoot_mem_rootErrors_iff {entry : ComponentId} :
    .noRoot entry ∈ manifest.rootErrors ↔
      entry = manifest.entryPoint ∧ manifest.rootCandidates = [] := by
  simp only [rootErrors]
  rcases manifest.rootCandidates with _ | ⟨first, _ | ⟨second, rest⟩⟩ <;> simp

theorem multipleRoots_mem_rootErrors_iff {roots : List ComponentId} :
    .multipleRoots roots ∈ manifest.rootErrors ↔
      roots = manifest.rootCandidates ∧ ∃ first second rest, roots = first :: second :: rest := by
  simp only [rootErrors]
  rcases manifest.rootCandidates with _ | ⟨first, _ | ⟨second, rest⟩⟩
  · simp +contextual
  · simp +contextual
  · simp only [List.mem_singleton, GraphError.multipleRoots.injEq, iff_self_and]
    intro hroots
    exact ⟨first, second, rest, hroots⟩

theorem mem_errors_iff_of_concernsRoots
    (hentry : manifest.isComponent manifest.entryPoint = true) {error : GraphError}
    (hroots : error.concernsRoots = true) :
    error ∈ (manifest.resolveHierarchy config).2.errors ↔ error ∈ manifest.rootErrors := by
  have hfilter : (manifest.resolveHierarchy config).2.errors.filter GraphError.concernsRoots =
      manifest.rootErrors :=
    filter_concernsRoots_resolveHierarchy hentry
  simp [← hfilter, hroots]

/-- Several components without a parent are reported together, and never just some of them. -/
theorem multipleRoots_mem_errors_iff
    (hentry : manifest.isComponent manifest.entryPoint = true) {roots : List ComponentId} :
    .multipleRoots roots ∈ (manifest.resolveHierarchy config).2.errors ↔
      (∃ a b, a ≠ b ∧ manifest.Topmost a ∧ manifest.Topmost b) ∧
        Lists roots manifest.Topmost := by
  have hroots := lists_rootCandidates hentry
  rw [mem_errors_iff_of_concernsRoots hentry rfl, multipleRoots_mem_rootErrors_iff]
  constructor
  · rintro ⟨rfl, first, second, rest, hseveral⟩
    have hlt := hseveral ▸ hroots.increasing
    refine ⟨⟨first, second, ?_, ?_, ?_⟩, hroots⟩
    · rintro rfl
      exact String.lt_irrefl first (List.rel_of_pairwise_cons hlt List.mem_cons_self)
    · simp [← hroots.mem_iff, hseveral]
    · simp [← hroots.mem_iff, hseveral]
  · rintro ⟨⟨a, b, hne, ha, hb⟩, hlist⟩
    refine ⟨hlist.unique hroots, ?_⟩
    rw [← hlist.mem_iff] at ha hb
    -- Two members that differ make a list of at least two.
    rcases roots with _ | ⟨first, _ | ⟨second, rest⟩⟩
    · simp at ha
    · simp only [List.mem_singleton] at ha hb
      exact absurd (ha.trans hb.symm) hne
    · exact ⟨first, second, rest, rfl⟩

/-- A hierarchy needs a single root, and nothing else. -/
theorem exists_hierarchy_iff (hentry : manifest.isComponent manifest.entryPoint = true) :
    (∃ hierarchy, (manifest.resolveHierarchy config).1 = some hierarchy) ↔
      ∃! component, manifest.Topmost component := by
  have hsingle : (∃ hierarchy, (manifest.resolveHierarchy config).1 = some hierarchy) ↔
      ∃ root, manifest.rootCandidates = [root] := by
    simp only [resolveHierarchy, hentry, if_true]
    rcases manifest.rootCandidates with _ | ⟨first, _ | ⟨second, rest⟩⟩ <;> simp
  have hroots := lists_rootCandidates hentry
  rw [hsingle]
  constructor
  · rintro ⟨root, hroot⟩
    simp only [← hroots.mem_iff, hroot, List.mem_singleton]
    exact ⟨root, rfl, fun _ h => h⟩
  · rintro ⟨root, hroot, honly⟩
    have hlist : Lists [root] manifest.Topmost := by
      refine ⟨List.pairwise_singleton _ _, ?_⟩
      intro component
      rw [List.mem_singleton]
      exact ⟨fun h => h ▸ hroot, honly component⟩
    exact ⟨root, hroots.unique hlist⟩

/-! ## Members -/

/-- Whatever a connected component leads up to is connected. -/
theorem connected_of_leadsUp {component above : ComponentId} (h : manifest.Connected component)
    (hleads : LeadsUp manifest.parent? component above) : manifest.Connected above := by
  induction hleads with
  | refl => exact h
  | tail _ hparent ih => exact ih.tail (Or.inl (mem_targetsOf_of_parent? hparent))

/-- Whatever leads up to a connected component is connected. -/
theorem connected_of_leadsUp_to {component above : ComponentId} (h : manifest.Connected above)
    (hleads : LeadsUp manifest.parent? component above) : manifest.Connected component := by
  induction hleads using Relation.ReflTransGen.head_induction_on with
  | refl => exact h
  | head hparent _ ih => exact ih.tail (Or.inr (mem_targetsOf_of_parent? hparent))

section Members

variable {root component : ComponentId}
  (hentry : manifest.isComponent manifest.entryPoint = true)
  (h : manifest.rootCandidates = [root])

include hentry h

theorem topmost_iff_eq_root (other : ComponentId) : manifest.Topmost other ↔ other = root := by
  rw [← (lists_rootCandidates hentry).mem_iff, h, List.mem_singleton]

theorem mem_components_treeAt_iff :
    component ∈ (manifest.treeAt root).components ↔
      manifest.Connected component ∧ LeadsUp manifest.parent? component root := by
  rw [mem_components_treeAt_iff_leadsUp (parent?_root h), iff_and_self]
  exact connected_of_leadsUp_to ((topmost_iff_eq_root hentry h root).2 rfl).1

theorem neverEnds_of_mem_detached (hmem : component ∈ manifest.detached (manifest.treeAt root)) :
    NeverEnds manifest.parent? component := by
  rcases mem_detached_iff.1 hmem with ⟨hconnected, houtside⟩
  rw [mem_connected_iff hentry] at hconnected
  refine neverEnds_iff.2 fun list hlist => houtside ?_
  -- A way up that ends does so at a connected component without a parent, which is the root.
  rcases hlist.exists_leadsUp with ⟨last, hleads, hlast⟩
  have hsame := (topmost_iff_eq_root hentry h last).1
    ⟨connected_of_leadsUp hconnected hleads, hlast⟩
  exact (mem_components_treeAt_iff hentry h).2 ⟨hconnected, hsame ▸ hleads⟩

end Members

theorem lists_detached {hierarchy : Hierarchy}
    (hentry : manifest.isComponent manifest.entryPoint = true) :
    Lists (manifest.detached hierarchy) fun component =>
      manifest.Connected component ∧ component ∉ hierarchy.components where
  increasing := increasing_connected.filter _
  mem_iff := by
    intro component
    rw [mem_detached_iff, mem_connected_iff hentry]

theorem detached_eq_nil {hierarchy : Hierarchy} (h : manifest.detachedErrors hierarchy = []) :
    manifest.detached hierarchy = [] := by
  simp only [detachedErrors] at h
  split at h
  · assumption
  · simp at h

/-- A compilation that succeeds has left no connected component outside of its hierarchy. -/
theorem mem_components_iff_of_compile (hentry : manifest.isComponent manifest.entryPoint = true)
    {compilation : Compilation} (h : (compile manifest config).result = .ok compilation)
    {component : ComponentId} :
    component ∈ compilation.hierarchy.components ↔ manifest.Connected component := by
  rcases compile_eq_ok h with ⟨hierarchy, hresolve, hnone, _, hgraph, _⟩
  rcases resolveHierarchy_eq_some hresolve with ⟨_, hroot, htree, _⟩
  have hdetached : manifest.detached hierarchy = [] := by
    simp only [compile_errors hresolve, List.append_eq_nil_iff] at hnone
    exact detached_eq_nil hnone.1.1.1.1.1.1.2.2
  have hhierarchy : compilation.hierarchy = hierarchy := by
    simp only [Compilation.hierarchy, hgraph, Manifest.graph]
  rw [hhierarchy]
  constructor
  · intro hmem
    rw [htree] at hmem
    exact ((mem_components_treeAt_iff hentry hroot).1 hmem).1
  · intro hconnected
    by_contra houtside
    -- It would be among the detached ones.
    have hmem := mem_detached_iff.2 ⟨(mem_connected_iff hentry).2 hconnected, houtside⟩
    simp [hdetached] at hmem

end Manifest

/-! ## Exactness -/

/-- With a declared entry point, a hierarchy is resolved exactly if one connected component has no
parent; which ones have none, and which ones never get there, is reported in full. -/
theorem root_discovery_is_exact {manifest : Manifest}
    (hentry : manifest.isComponent manifest.entryPoint = true) (config : Config) :
    let resolved := manifest.resolveHierarchy config
    ((∃ hierarchy, resolved.1 = some hierarchy) ↔ ∃! component, manifest.Topmost component) ∧
    (∀ entry, .noRoot entry ∈ resolved.2.errors ↔
      entry = manifest.entryPoint ∧ ∀ component, ¬ manifest.Topmost component) ∧
    (∀ roots, .multipleRoots roots ∈ resolved.2.errors ↔
      (∃ a b, a ≠ b ∧ manifest.Topmost a ∧ manifest.Topmost b) ∧
        Lists roots manifest.Topmost) ∧
    (∀ hierarchy, resolved.1 = some hierarchy →
      manifest.Topmost hierarchy.root ∧
      (∀ component, component ∈ hierarchy.components ↔
        manifest.Connected component ∧
          LeadsUp manifest.parent? component hierarchy.root) ∧
      ∃ detached, Lists detached (fun component =>
          manifest.Connected component ∧ component ∉ hierarchy.components) ∧
        resolved.2.errors.filterMap GraphError.detached? =
          (if detached = [] then [] else [detached]) ∧
        ∀ component ∈ detached, NeverEnds manifest.parent? component) ∧
    (∀ compilation, (compile manifest config).result = .ok compilation →
      (∀ component, component ∈ compilation.hierarchy.components ↔
        manifest.Connected component) ∧
      manifest.entryPoint ∈ compilation.hierarchy.components) := by
  intro resolved
  have hroots := Manifest.lists_rootCandidates hentry
  refine ⟨Manifest.exists_hierarchy_iff hentry, ?_, ?_, ?_, ?_⟩
  · intro entry
    rw [Manifest.mem_errors_iff_of_concernsRoots hentry rfl, Manifest.noRoot_mem_rootErrors_iff,
      List.eq_nil_iff_forall_not_mem]
    simp only [hroots.mem_iff]
  · intro roots
    exact Manifest.multipleRoots_mem_errors_iff hentry
  · intro hierarchy hresolve
    rcases Manifest.resolveHierarchy_eq_some hresolve with ⟨_, hroot, htree, _⟩
    refine ⟨?_, ?_, manifest.detached hierarchy, Manifest.lists_detached hentry,
      Manifest.filterMap_detached?_resolveHierarchy hresolve, ?_⟩
    · simp [← hroots.mem_iff, hroot]
    · intro component
      conv_lhs => rw [htree]
      exact Manifest.mem_components_treeAt_iff hentry hroot
    · intro component hmem
      rw [htree] at hmem
      exact Manifest.neverEnds_of_mem_detached hentry hroot hmem
  · intro compilation hcompile
    have hall : ∀ component, component ∈ compilation.hierarchy.components ↔
        manifest.Connected component := by
      intro component
      exact Manifest.mem_components_iff_of_compile hentry hcompile
    exact ⟨hall, (hall _).2 .refl⟩

theorem knot_and_loop_are_detached :
    tangledManifest.isComponent tangledManifest.entryPoint = true ∧
      (∃! component, tangledManifest.Topmost component) ∧ tangledManifest.Topmost "App" ∧
      (tangledManifest.resolveHierarchy .default).2.errors.filterMap GraphError.detached? =
        [["Knot", "Loop"]] ∧
      tangledManifest.Connected "Loop" ∧ NeverEnds tangledManifest.parent? "Loop" := by
  have hentry : tangledManifest.isComponent tangledManifest.entryPoint = true := by
    decide +kernel
  have hreported : (tangledManifest.resolveHierarchy .default).2.errors.filterMap
      GraphError.detached? = [["Knot", "Loop"]] := by
    decide +kernel
  rcases root_discovery_is_exact hentry .default with ⟨hroot, _, _, hresolved, _⟩
  rcases hresolved tangledHierarchy resolve_tangledManifest with
    ⟨htop, _, detached, hlist, herrors, hends⟩
  have hsame : detached = ["Knot", "Loop"] := by
    rw [hreported] at herrors
    split at herrors
    · simp at herrors
    · simpa using herrors.symm
  have hloop : "Loop" ∈ detached := by simp [hsame]
  exact ⟨hentry, hroot.1 ⟨_, resolve_tangledManifest⟩, htop, hreported,
    ((hlist.mem_iff _).1 hloop).1, hends _ hloop⟩

end ObjectGraph
