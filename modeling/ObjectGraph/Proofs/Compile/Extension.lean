import ObjectGraph.Proofs.Compile.Sound
import ObjectGraph.Proofs.Extended

/-!
# Extension — compiling a manifest with a part beside it

No stage of a compilation finds fault with a part that stands beside a manifest. The first stages look
at all declarations, and the part names nothing unknown, gives no component several parents and leaves
nothing without a target; the later ones look at the tree of the entry point, which the part is not in.

* `Manifest.Separate.complete_extend`, `Manifest.Separate.severalParents`,
  `Manifest.Separate.orphans` — what is looked for in all declarations is not found in the part;
* `Manifest.Separate.resolveHierarchy` — the same hierarchy;
* `separate_parts_do_not_interfere` — the same graph and the same plan.
-/

namespace ObjectGraph

namespace Manifest

variable {manifest added : Manifest}

namespace Separate

/-! ## Contributions -/

/-- The part names nothing that is not declared. -/
theorem complete_extend (h : manifest.Separate added) (hcomplete : manifest.Complete) :
    (manifest.extend added).Complete where
  known := by
    intro entry hentry
    rw [isComponent_extend]
    rcases mem_contributions_extend.1 hentry with hentry | hentry
    · simp [hcomplete.known entry hentry]
    · simp [(h.of_mem_contributionsFrom hentry).1]
  modules := by
    intro declaration hdeclaration id hid
    rw [isModule_extend]
    rcases List.mem_append.1 hdeclaration with hdeclaration | hdeclaration
    · simp [hcomplete.modules declaration hdeclaration id hid]
    · simp [h.functions declaration hdeclaration id hid]

/-! ## Several parents -/

/-- The entries of a component of the part are those of its only declaration. -/
theorem filter_componentContributions (h : manifest.Separate added)
    {component : ComponentDeclaration} (hmem : component ∈ added.components) :
    (added.componentContributions.filter fun entry => entry.unit = .component component.id) =
      component.contributesTo.map fun target =>
        ⟨.component component.id, component.id, target⟩ := by
  have hdistinct := nodup_componentUnits h.distinctComponents
  have hfound := (find?_eq_some_iff_of_nodup hdistinct).2 ⟨hmem, rfl⟩
  simp only [componentContributions, hfound, Option.map_some, Option.getD_some,
    filter_flatMap_of_nodup unit_of_mem_componentEntries hdistinct]

theorem filter_unit_extend (h : manifest.Separate added) {component : ComponentDeclaration}
    (hmem : component ∈ added.components) :
    ((manifest.extend added).contributions.filter fun entry =>
        entry.unit = .component component.id) =
      component.contributesTo.map fun target =>
        ⟨.component component.id, component.id, target⟩ := by
  have hnone : ∀ entries : List Contribution,
      (∀ entry ∈ entries, entry.unit ≠ .component component.id) →
        (entries.filter fun entry => entry.unit = .component component.id) = [] := by
    intro entries hentries
    apply List.filter_eq_nil_iff.2
    simpa using hentries
  have hfirst : ∀ entry ∈ manifest.contributions, entry.unit ≠ .component component.id := by
    intro entry hentry hunit
    have hdeclared := declares_of_mem_contributions hentry
    simp [hunit, Declares, h.freshComponents component hmem] at hdeclared
  simp only [contributions, List.mem_append, or_imp, forall_and] at hfirst
  have hmodules : ∀ entry ∈ added.moduleContributions, entry.unit ≠ .component component.id := by
    intro entry hentry
    rcases List.mem_flatMap.1 hentry with ⟨moduleDeclaration, _, hentry⟩
    simp [unit_of_mem_moduleEntries moduleDeclaration entry hentry]
  have hdeclarations : ∀ entry ∈ (added.declarations.zipIdx
      manifest.declarations.length).flatMap fun place => declarationContributions place.1 place.2,
      entry.unit ≠ .component component.id := by
    intro entry hentry
    rcases List.mem_flatMap.1 hentry with ⟨place, _, hentry⟩
    simp [unit_of_mem_declarationContributions hentry]
  rw [contributions_extend]
  simp only [List.filter_append, h.filter_componentContributions hmem, hnone _ hfirst.1.1,
    hnone _ hfirst.1.2, hnone _ hfirst.2, hnone _ hmodules, hnone _ hdeclarations, List.nil_append,
    List.append_nil]

end Separate

theorem severalParents_eq_nil_iff : manifest.severalParents = [] ↔
    ∀ component, manifest.isComponent component = true →
      manifest.isSubcomponent component = true →
        (manifest.targetsOf (.component component)).length ≤ 1 := by
  simp only [severalParents, List.filterMap_eq_nil_iff, mem_componentIds_iff]
  refine forall₂_congr fun component _ => ?_
  by_cases hsub : manifest.isSubcomponent component = true
  · simp [hsub]
  · simp [hsub]

/-- A subcomponent has a declaration that makes it one. -/
theorem exists_of_isSubcomponent {id : ComponentId} (hsub : manifest.isSubcomponent id = true) :
    ∃ component ∈ manifest.components, component.id = id ∧ component.kind = .subcomponent := by
  simp only [isSubcomponent, effectiveComponent?, List.findRev?_eq_find?_reverse,
    Option.any_eq_true] at hsub
  rcases hsub with ⟨component, hfound, hkind⟩
  refine ⟨component, List.mem_reverse.1 (List.mem_of_find?_eq_some hfound), ?_, by simpa using hkind⟩
  simpa using List.find?_some hfound

namespace Separate

theorem severalParents (h : manifest.Separate added) (hcomplete : manifest.Complete)
    (hnone : manifest.severalParents = []) : (manifest.extend added).severalParents = [] := by
  refine severalParents_eq_nil_iff.2 ?_
  intro id hid hsub
  cases hfirst : manifest.isComponent id with
  | true =>
    rw [h.isSubcomponent hfirst] at hsub
    rw [h.targetsOf_component hcomplete hfirst]
    exact severalParents_eq_nil_iff.1 hnone id hfirst hsub
  | false =>
    -- Its declaration is in the part, where it has a single target.
    rcases exists_of_isSubcomponent hsub with ⟨component, hmem, rfl, hkind⟩
    rcases List.mem_append.1 hmem with hmem | hmem
    · have hdeclared : manifest.isComponent component.id = true :=
        List.any_eq_true.2 ⟨component, hmem, by simp⟩
      simp [hdeclared] at hfirst
    · rw [targetsOf_eq_filter, h.filter_unit_extend hmem, List.map_map]
      refine Nat.le_trans (List.length_filter_le _ _) ?_
      simpa using h.singleParents component hmem hkind

/-! ## Orphans -/

theorem module? {id : ModuleId} (hid : manifest.isModule id = true) :
    (manifest.extend added).module? id = manifest.module? id := by
  have hfound : (manifest.module? id).isSome = true := by
    simpa [Manifest.module?, Manifest.isModule, List.find?_isSome] using hid
  rcases Option.isSome_iff_exists.1 hfound with ⟨moduleDeclaration, hmodule⟩
  simp only [Manifest.module?] at hmodule
  simp only [Manifest.module?, extend, List.find?_append, hmodule, Option.some_or]

end Separate

/-- Every declaration of a complete manifest goes with a unit that is declared. -/
theorem Complete.declares_of_unitAt? (hcomplete : manifest.Complete) {position : Nat}
    {unit : ContributionUnit} (h : manifest.unitAt? position = some unit) :
    manifest.Declares unit := by
  rcases Option.map_eq_some_iff.1 h with ⟨declaration, hfound, hunit⟩
  have hmem := List.mem_of_getElem? hfound
  cases declaration with
  | injectable i =>
    simp only [Declaration.moduleId?] at hunit
    exact hunit ▸ ⟨i, hfound⟩
  | provides f =>
    simp only [Declaration.moduleId?] at hunit
    exact hunit ▸ hcomplete.modules _ hmem f.moduleId rfl
  | binds f =>
    simp only [Declaration.moduleId?] at hunit
    exact hunit ▸ hcomplete.modules _ hmem f.moduleId rfl

theorem orphans_eq_nil_iff : manifest.orphans = [] ↔
    ∀ declaration position, manifest.declarations[position]? = some declaration →
      manifest.hostOf? position = none → manifest.namesTargets declaration = true := by
  simp only [orphans, List.filterMap_eq_nil_iff, List.mem_zipIdx_iff_getElem?, Prod.forall]
  refine forall₂_congr fun declaration position => ?_
  by_cases hhost : manifest.hostOf? position = none
  · simp [hhost]
  · simp [hhost]

namespace Separate

/-- A declaration of the manifest keeps its host. -/
theorem hostOf? (h : manifest.Separate added) (hcomplete : manifest.Complete) {position : Nat}
    (hposition : position < manifest.declarations.length) :
    (manifest.extend added).hostOf? position = manifest.hostOf? position := by
  have hunit : (manifest.extend added).unitAt? position = manifest.unitAt? position := by
    simp only [Manifest.unitAt?, extend, List.getElem?_append_left hposition]
  simp only [Manifest.hostOf?, hunit]
  cases hfound : manifest.unitAt? position with
  | none => rfl
  | some unit => exact h.hostOfUnit? hcomplete (hcomplete.declares_of_unitAt? hfound)

theorem namesTargets (hcomplete : manifest.Complete) {declaration : Declaration}
    (hmem : declaration ∈ manifest.declarations) :
    (manifest.extend added).namesTargets declaration = manifest.namesTargets declaration := by
  have hmodule := hcomplete.modules declaration hmem
  cases declaration with
  | injectable i => rfl
  | provides f => simp only [Manifest.namesTargets, module? (hmodule f.moduleId rfl)]
  | binds f => simp only [Manifest.namesTargets, module? (hmodule f.moduleId rfl)]

/-- Everything in the part names a target. -/
theorem namesTargets_of_mem_added (h : manifest.Separate added) {declaration : Declaration}
    (hmem : declaration ∈ added.declarations) :
    (manifest.extend added).namesTargets declaration = true := by
  have hmodules : ∀ id, declaration.moduleId? = some id →
      ((manifest.extend added).module? id).all (fun m => !m.contributesTo.isEmpty) = true := by
    intro id hid
    simp only [Option.all_eq_true]
    intro moduleDeclaration hfound
    have hsame : moduleDeclaration.id = id := by
      simpa using List.find?_some hfound
    have hmodule : moduleDeclaration ∈ added.modules := by
      rcases List.mem_append.1 (List.mem_of_find?_eq_some hfound) with hfirst | hadded
      · have hdeclared : manifest.isModule id = true :=
          List.any_eq_true.2 ⟨moduleDeclaration, hfirst, by simpa using hsame⟩
        simp [h.isModule_eq_false (h.functions declaration hmem id hid)] at hdeclared
      · exact hadded
    have htargets := h.hostedFunctions declaration hmem moduleDeclaration hmodule (hsame ▸ hid)
    simpa using htargets
  cases declaration with
  | injectable i => simpa [Manifest.namesTargets] using h.hostedInjectables i hmem
  | provides f => exact hmodules f.moduleId rfl
  | binds f => exact hmodules f.moduleId rfl

theorem orphans (h : manifest.Separate added) (hcomplete : manifest.Complete)
    (hnone : manifest.orphans = []) : (manifest.extend added).orphans = [] := by
  refine orphans_eq_nil_iff.2 ?_
  intro declaration position hfound hhost
  by_cases hposition : position < manifest.declarations.length
  · simp only [extend, List.getElem?_append_left hposition] at hfound
    rw [h.hostOf? hcomplete hposition] at hhost
    rw [namesTargets hcomplete (List.mem_of_getElem? hfound)]
    exact orphans_eq_nil_iff.1 hnone declaration position hfound hhost
  · simp only [extend, List.getElem?_append_right (Nat.le_of_not_lt hposition)] at hfound
    exact h.namesTargets_of_mem_added (List.mem_of_getElem? hfound)

/-! ## Hierarchies -/

theorem resolveHierarchy (h : manifest.Separate added) (hcomplete : manifest.Complete)
    {config : Config} {hierarchy : Hierarchy}
    (hresolve : (manifest.resolveHierarchy config).1 = some hierarchy) :
    ((manifest.extend added).resolveHierarchy config).1 = some hierarchy := by
  rcases resolveHierarchy_eq_some hresolve with ⟨hentry, hroot, htree, _⟩
  have hroots := (h.rootCandidates hcomplete hentry).trans hroot
  simp only [Manifest.resolveHierarchy, isComponent_entryPoint hentry, if_true, hroots]
  rw [h.treeAt hcomplete hentry hroot, ← htree]

end Separate
end Manifest

/-! ## Compilations -/

/-- A manifest that compiles does so with any part beside it, to the same graph and the same plan. -/
theorem separate_parts_do_not_interfere {manifest added : Manifest} {config : Config}
    {compilation : Compilation} (hcompile : (compile manifest config).result = .ok compilation)
    (hseparate : manifest.Separate added) :
    (compile (manifest.extend added) config).result =
      .ok ⟨manifest.extend added, compilation.graph, compilation.plan⟩ := by
  rcases compile_eq_ok hcompile with ⟨hierarchy, hresolve, hnone, _, hgraph, hplan⟩
  rcases Manifest.resolveHierarchy_eq_some hresolve with ⟨hentry, hroot, htree, _⟩
  simp only [compile_errors hresolve, List.append_eq_nil_iff] at hnone
  rcases hnone with
    ⟨⟨⟨⟨⟨⟨⟨hindex, hseveral, hdetached⟩, hscopes⟩, hdraft⟩, horphans⟩, hshadowing⟩,
      hdependencies⟩, hcycles⟩
  have hcomplete := Manifest.indexErrors_eq_nil_iff.1 hindex
  have hmembers : ∀ component ∈ hierarchy.components, manifest.isComponent component = true := by
    intro component hmem
    rw [htree, Manifest.mem_components_treeAt_iff hentry hroot,
      ← Manifest.mem_connected_iff hentry] at hmem
    exact Manifest.isComponent_of_mem_connected hmem.1
  -- The stages that look at all declarations find nothing in the part.
  have hindex' : (manifest.extend added).indexErrors = [] :=
    Manifest.indexErrors_eq_nil_iff.2 (hseparate.complete_extend hcomplete)
  have hdetached' : (manifest.extend added).detachedErrors hierarchy = [] := by
    simpa only [Manifest.detachedErrors, hseparate.detached hcomplete hentry] using hdetached
  -- The others are run on the same hierarchy and the same graph.
  have hresolve' := hseparate.resolveHierarchy hcomplete hresolve
  have hsameDraft := hseparate.draft hcomplete hmembers
  have hsameGraph : (manifest.extend added).graph hierarchy = manifest.graph hierarchy := by
    simp only [Manifest.graph, hsameDraft]
  have herrors : (compile (manifest.extend added) config).errors = [] := by
    simp only [compile_errors hresolve', hindex', hseparate.severalParents hcomplete hseveral,
      hdetached', hscopes, hsameDraft, hdraft, hseparate.orphans hcomplete horphans, hsameGraph,
      hshadowing, hdependencies, hcycles, List.append_nil]
  calc
    (compile (manifest.extend added) config).result =
        .ok ⟨manifest.extend added, (manifest.extend added).graph hierarchy,
          .ofGraph ((manifest.extend added).graph hierarchy)⟩ :=
      compile_eq_ok_of_errors hresolve' herrors
    _ = .ok ⟨manifest.extend added, compilation.graph, compilation.plan⟩ := by
      simp only [hsameGraph, hgraph, hplan]

/-- An office whose declarations are wrong in every way: keys that depend on each other, a key declared
twice, an unresolved type, a scope declared twice on one way up, a second root and a parent cycle. -/
def untidyOffice : Manifest where
  entryPoint := "Office"
  components :=
    [⟨"Office", some "Desk", .component, []⟩, ⟨"Room", some "Desk", .subcomponent, ["Office"]⟩,
      ⟨"Annex", none, .component, ["Office"]⟩, ⟨"Knot", none, .subcomponent, ["Loop"]⟩,
      ⟨"Loop", none, .subcomponent, ["Knot"]⟩]
  modules := [⟨"Paper", ["Office"]⟩]
  declarations :=
    [.provides ⟨"Paper", "pen", .resolved "Pen", none, none,
        [.regular "ink" (.resolved "Ink") none], false⟩,
      .provides ⟨"Paper", "ink", .resolved "Ink", none, none,
        [.regular "pen" (.resolved "Pen") none], false⟩,
      .provides ⟨"Paper", "pencil", .resolved "Pen", none, none, [], false⟩,
      .injectable
        { type := .unresolved "Lamp<"
          qualifier := none
          scope := none
          parameters := []
          supertypes := []
          bindsTo := []
          factory := none
          runtimeScoped := false
          contributesTo := ["Room"] }]

theorem separate_untidyOffice : shopManifest.Separate untidyOffice where
  distinctComponents := by decide +kernel
  freshComponents := by decide +kernel
  freshModules := by decide +kernel
  componentTargets := by decide +kernel
  moduleTargets := by decide +kernel
  injectableTargets := by simp [untidyOffice, Manifest.isComponent]
  singleParents := by decide +kernel
  functions := by simp [untidyOffice, Declaration.moduleId?, Manifest.isModule]
  hostedInjectables := by simp [untidyOffice]
  hostedFunctions := by decide +kernel

theorem office_does_not_disturb_the_shop :
    shopManifest.Separate untidyOffice ∧ (compile untidyOffice .default).errors ≠ [] ∧
      (compile (shopManifest.extend untidyOffice) .default).result =
        .ok ⟨shopManifest.extend untidyOffice, shopCompilation.graph, shopCompilation.plan⟩ :=
  ⟨separate_untidyOffice, by decide +kernel,
    separate_parts_do_not_interfere compile_shopManifest separate_untidyOffice⟩

end ObjectGraph
