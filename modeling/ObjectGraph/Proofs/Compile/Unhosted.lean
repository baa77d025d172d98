import ObjectGraph.Proofs.Compile.Stage
import ObjectGraph.Proofs.Conservation
import ObjectGraph.Proofs.KeyedList

/-!
# Unhosted declarations — every one of them is reported

A declaration without a host is a function of a module that nobody declares, or names targets that
nobody declares, or names no targets. The first two are found with the contributions and the last one
among the orphans, which are looked for in the first declaration of a module while its targets come from
all of them. So nothing falls between the two stages, and a hosted declaration is never an orphan.

* `Manifest.orphaned`, `filterMap_orphan?_orphans` — the declarations that orphan errors are about;
* `Manifest.Accounts`, `Manifest.exists_accounts` — the errors that account for a declaration;
* `Manifest.asksForNothing`, `Manifest.orphaned_eq_filter` — the orphans of modules declared once;
* `unhosted_declarations_are_reported` — both stages together.
-/

namespace ObjectGraph

/-- The name of a declaration that nobody hosts. -/
def GraphError.orphan? : GraphError → Option String
  | .orphanDeclaration declaration => some declaration
  | _ => none

namespace Manifest

variable (manifest : Manifest)

/-- The declarations that are reported as orphans, with their positions. -/
def orphaned : List (Declaration × Nat) :=
  manifest.declarations.zipIdx.filter fun entry =>
    (manifest.hostOf? entry.2).isNone && !manifest.namesTargets entry.1

/-- The errors by which the declaration at a position is accounted for. -/
inductive Accounts (declaration : Declaration) (position : Nat) : GraphError → Prop where
  | strayFunction {id : ModuleId} :
      declaration.moduleId? = some id → manifest.isModule id = false →
        Accounts declaration position (.unknownModule declaration.displayName id)
  | unknownTarget {entry : Contribution} :
      entry ∈ manifest.contributions → manifest.unitAt? position = some entry.unit →
        manifest.isComponent entry.target = false →
          Accounts declaration position (.unresolvedScopeReference entry.name entry.target)
  | orphan :
      (declaration, position) ∈ manifest.orphaned →
        Accounts declaration position (.orphanDeclaration declaration.displayName)

/-- A declaration whose target list is there and empty. Every declaration of its module counts. -/
def asksForNothing : Declaration → Bool
  | .injectable i => i.contributesTo.isEmpty
  | .provides f => manifest.modules.any fun m => m.id = f.moduleId ∧ m.contributesTo.isEmpty
  | .binds f => manifest.modules.any fun m => m.id = f.moduleId ∧ m.contributesTo.isEmpty

variable {manifest}

/-! ## Modules -/

theorem module?_eq_none_iff {id : ModuleId} :
    manifest.module? id = none ↔ manifest.isModule id = false := by
  simp [module?, isModule]

/-- With identities of their own, a declaration of a module is the first one of its identity. -/
theorem module?_eq_some_iff (hnodup : (manifest.modules.map (·.id)).Nodup) {id : ModuleId}
    {moduleDeclaration : ModuleDeclaration} :
    manifest.module? id = some moduleDeclaration ↔
      moduleDeclaration ∈ manifest.modules ∧ moduleDeclaration.id = id :=
  find?_eq_some_iff_of_nodup hnodup

/-- The first declaration of a module decides whether its functions name targets. -/
theorem namesTargets_of_moduleId? {declaration : Declaration} {id : ModuleId}
    (h : declaration.moduleId? = some id) :
    manifest.namesTargets declaration =
      (manifest.module? id).all fun m => !m.contributesTo.isEmpty := by
  cases declaration with
  | injectable i => simp [Declaration.moduleId?] at h
  | provides f =>
    cases h
    rfl
  | binds f =>
    cases h
    rfl

theorem asksForNothing_of_moduleId? {declaration : Declaration} {id : ModuleId}
    (h : declaration.moduleId? = some id) :
    manifest.asksForNothing declaration =
      manifest.modules.any fun m => m.id = id ∧ m.contributesTo.isEmpty := by
  cases declaration with
  | injectable i => simp [Declaration.moduleId?] at h
  | provides f =>
    cases h
    rfl
  | binds f =>
    cases h
    rfl

/-! ## Units -/

section Units

variable {declaration : Declaration} {position : Nat}
  (hfound : manifest.declarations[position]? = some declaration)

include hfound

theorem unitAt?_of_injectable (hid : declaration.moduleId? = none) :
    manifest.unitAt? position = some (.injectable position) := by
  simp [unitAt?, hfound, hid]

theorem unitAt?_of_function {id : ModuleId} (hid : declaration.moduleId? = some id) :
    manifest.unitAt? position = some (.moduleUnit id) := by
  simp [unitAt?, hfound, hid]

theorem injectable_of_moduleId?_eq_none (hid : declaration.moduleId? = none) :
    ∃ i, declaration = .injectable i := by
  cases declaration with
  | injectable i => exact ⟨i, rfl⟩
  | provides f => simp [Declaration.moduleId?] at hid
  | binds f => simp [Declaration.moduleId?] at hid

end Units

/-- A unit without a host has no entry whose target is declared. -/
theorem isComponent_of_unhosted {unit : ContributionUnit} (h : manifest.hostOfUnit? unit = none)
    {entry : Contribution} (hentry : entry ∈ manifest.contributions) (hunit : entry.unit = unit) :
    manifest.isComponent entry.target = false := by
  have hnone : manifest.targetsOf unit = [] :=
    List.head?_eq_none_iff.1 (hostOfUnit?_eq_head? unit ▸ h)
  by_contra hknown
  have hmem : entry.target ∈ manifest.targetsOf unit :=
    mem_targetsOf_iff.2 ⟨by simpa using hknown, entry, hentry, hunit, rfl⟩
  simp [hnone] at hmem

theorem hostOfUnit?_eq_none {unit : ContributionUnit}
    (h : ∀ entry ∈ manifest.contributions, entry.unit ≠ unit) :
    manifest.hostOfUnit? unit = none := by
  cases hhost : manifest.hostOfUnit? unit with
  | none => rfl
  | some host =>
    rcases (mem_targetsOf_iff.1 (mem_targetsOf_of_hostOfUnit? hhost)).2 with
      ⟨entry, hentry, hunit, _⟩
    exact absurd hunit (h entry hentry)

/-! ## Errors of the contributions -/

theorem unknownTargets_eq_map_filter :
    manifest.unknownTargets = (manifest.contributions.filter fun entry => !manifest.isKnown entry).map
      fun entry => (entry.name, entry.target) := by
  simp [contributions_eq_flatMap_entries, unknownTargets, List.filter_flatMap, List.map_flatMap,
    TargetList.entries, List.filter_map, Function.comp_def, isKnown]

theorem unresolvedScopeReference_mem_indexErrors {entry : Contribution}
    (hentry : entry ∈ manifest.contributions)
    (hunknown : manifest.isComponent entry.target = false) :
    .unresolvedScopeReference entry.name entry.target ∈ manifest.indexErrors := by
  have hmem : (entry.name, entry.target) ∈
      manifest.indexErrors.filterMap GraphError.unknownTarget? := by
    rw [filterMap_unknownTarget?_indexErrors, unknownTargets_eq_map_filter]
    exact List.mem_map.2 ⟨entry, List.mem_filter.2 ⟨hentry, by simp [isKnown, hunknown]⟩, rfl⟩
  rcases List.mem_filterMap.1 hmem with ⟨error, herror, hread⟩
  cases error <;> simp [GraphError.unknownTarget?] at hread
  rcases hread with ⟨rfl, rfl⟩
  exact herror

theorem unknownModule_mem_indexErrors {declaration : Declaration} {id : ModuleId}
    (hmem : declaration ∈ manifest.declarations) (hid : declaration.moduleId? = some id)
    (hunknown : manifest.isModule id = false) :
    .unknownModule declaration.displayName id ∈ manifest.indexErrors := by
  have hstray : (declaration.displayName, id) ∈
      manifest.indexErrors.filterMap GraphError.unknownModule? := by
    rw [filterMap_unknownModule?_indexErrors]
    exact List.mem_filterMap.2 ⟨declaration, hmem, by simp [hid, hunknown]⟩
  rcases List.mem_filterMap.1 hstray with ⟨error, herror, hread⟩
  cases error <;> simp [GraphError.unknownModule?] at hread
  rcases hread with ⟨rfl, rfl⟩
  exact herror

/-! ## Orphans -/

theorem mem_orphaned_iff {declaration : Declaration} {position : Nat} :
    (declaration, position) ∈ manifest.orphaned ↔
      manifest.declarations[position]? = some declaration ∧
        manifest.hostOf? position = none ∧ manifest.namesTargets declaration = false := by
  simp [orphaned, List.mem_zipIdx_iff_getElem?]

theorem filterMap_orphan?_orphans :
    manifest.orphans.filterMap GraphError.orphan? =
      manifest.orphaned.map fun entry => entry.1.displayName := by
  simp only [orphans, orphaned, List.filterMap_filterMap, ← List.filterMap_eq_map,
    List.filterMap_filter]
  apply List.filterMap_congr
  rintro ⟨declaration, position⟩ _
  cases hhost : manifest.hostOf? position <;>
    cases hnames : manifest.namesTargets declaration <;> simp [GraphError.orphan?]

/-- Which entries a declaration without a host has: none at all, or unknown ones, or those of a module
that nobody declares. -/
theorem exists_accounts {declaration : Declaration} {position : Nat}
    (hfound : manifest.declarations[position]? = some declaration)
    (hhost : manifest.hostOf? position = none) :
    ∃ error ∈ manifest.indexErrors ++ manifest.orphans,
      manifest.Accounts declaration position error := by
  have hmem : declaration ∈ manifest.declarations := List.mem_of_getElem? hfound
  -- An entry of the unit is an error of its own, because its target cannot be declared.
  have hentry : ∀ entry ∈ manifest.contributions, manifest.unitAt? position = some entry.unit →
      ∃ error ∈ manifest.indexErrors ++ manifest.orphans,
        manifest.Accounts declaration position error := by
    intro entry hentry hunit
    have hnone : manifest.hostOfUnit? entry.unit = none := by simpa [hostOf?, hunit] using hhost
    have hunknown := isComponent_of_unhosted hnone hentry rfl
    exact ⟨_, List.mem_append_left _ (unresolvedScopeReference_mem_indexErrors hentry hunknown),
      .unknownTarget hentry hunit hunknown⟩
  cases hnames : manifest.namesTargets declaration with
  | false =>
    have horphaned := mem_orphaned_iff.2 ⟨hfound, hhost, hnames⟩
    refine ⟨_, List.mem_append_right _ (List.mem_filterMap.2 ⟨(declaration, position), ?_, ?_⟩),
      .orphan horphaned⟩
    · exact (List.mem_filter.1 horphaned).1
    · simp [hhost, hnames]
  | true =>
    cases hid : declaration.moduleId? with
    | none =>
      rcases injectable_of_moduleId?_eq_none hfound hid with ⟨i, rfl⟩
      have hsome : i.contributesTo ≠ [] := by simpa [namesTargets] using hnames
      rcases List.exists_mem_of_ne_nil _ hsome with ⟨target, htarget⟩
      refine hentry ⟨.injectable position, i.type.text, target⟩ ?_
        (unitAt?_of_injectable hfound hid)
      refine List.mem_append_right _ (List.mem_flatMap.2 ⟨(.injectable i, position), ?_, ?_⟩)
      · exact List.mem_zipIdx_iff_getElem?.2 hfound
      · exact List.mem_map.2 ⟨target, htarget, rfl⟩
    | some id =>
      cases hmodule : manifest.module? id with
      | none =>
        have hunknown := module?_eq_none_iff.1 hmodule
        exact ⟨_, List.mem_append_left _ (unknownModule_mem_indexErrors hmem hid hunknown),
          .strayFunction hid hunknown⟩
      | some first =>
        -- The first declaration of the module names targets, all of them unknown.
        have hsome : first.contributesTo ≠ [] := by
          simpa [namesTargets_of_moduleId? hid, hmodule] using hnames
        have hfirst : first ∈ manifest.modules := List.mem_of_find?_eq_some hmodule
        have hsame : first.id = id := by simpa using List.find?_some hmodule
        rcases List.exists_mem_of_ne_nil _ hsome with ⟨target, htarget⟩
        refine hentry ⟨.moduleUnit first.id, first.id, target⟩ ?_ ?_
        · refine List.mem_append_left _ (List.mem_append_right _ ?_)
          exact List.mem_flatMap.2 ⟨first, hfirst, List.mem_map.2 ⟨target, htarget, rfl⟩⟩
        · simpa [hsame] using unitAt?_of_function hfound hid

/-- A unit of which every target list is empty has no host. -/
theorem hostOf?_of_asksForNothing (hnodup : (manifest.modules.map (·.id)).Nodup)
    {declaration : Declaration} {position : Nat}
    (hfound : manifest.declarations[position]? = some declaration)
    (hnothing : manifest.asksForNothing declaration = true) : manifest.hostOf? position = none := by
  cases hid : declaration.moduleId? with
  | none =>
    rcases injectable_of_moduleId?_eq_none hfound hid with ⟨i, rfl⟩
    simp only [hostOf?, unitAt?_of_injectable hfound hid, Option.bind_some]
    refine hostOfUnit?_eq_none fun entry hentry hunit => ?_
    have hcontributes : manifest.Contributes 0 entry := contributes_of_mem hentry
    cases hcontributes with
    | component _ _ => simp at hunit
    | moduleUnit _ _ => simp at hunit
    | injectable _ hother htarget =>
      simp only [ContributionUnit.injectable.injEq] at hunit
      simp only [hunit, Nat.sub_zero, hfound, Option.some.injEq, Declaration.injectable.injEq]
        at hother
      subst hother
      simp [asksForNothing] at hnothing
      simp [hnothing] at htarget
  | some id =>
    simp only [hostOf?, unitAt?_of_function hfound hid, Option.bind_some]
    rw [asksForNothing_of_moduleId? hid] at hnothing
    rcases List.any_eq_true.1 hnothing with ⟨empty, hempty, hnone⟩
    simp only [decide_eq_true_eq, List.isEmpty_iff] at hnone
    refine hostOfUnit?_eq_none fun entry hentry hunit => ?_
    have hcontributes : manifest.Contributes 0 entry := contributes_of_mem hentry
    cases hcontributes with
    | component _ _ => simp at hunit
    | injectable _ _ _ => simp at hunit
    | moduleUnit hother htarget =>
      -- There is no other declaration of the module that could name a target.
      simp only [ContributionUnit.moduleUnit.injEq] at hunit
      have hsame := List.inj_on_of_nodup_map hnodup hother hempty (hunit.trans hnone.1.symm)
      simp [hsame, hnone.2] at htarget

theorem namesTargets_eq_not_asksForNothing (hnodup : (manifest.modules.map (·.id)).Nodup)
    {declaration : Declaration} :
    manifest.namesTargets declaration = !manifest.asksForNothing declaration := by
  cases hid : declaration.moduleId? with
  | none =>
    cases declaration with
    | injectable i => rfl
    | provides f => simp [Declaration.moduleId?] at hid
    | binds f => simp [Declaration.moduleId?] at hid
  | some id =>
    rw [namesTargets_of_moduleId? hid, asksForNothing_of_moduleId? hid]
    cases hmodule : manifest.module? id with
    | none =>
      have hunknown := module?_eq_none_iff.1 hmodule
      simp only [isModule, List.any_eq_false, decide_eq_true_eq] at hunknown
      simpa using fun m hm hsame => absurd hsame (hunknown m hm)
    | some first =>
      have hfirst := (module?_eq_some_iff hnodup).1 hmodule
      have honly : ∀ other ∈ manifest.modules, other.id = id → other = first :=
        fun other hother hsame =>
          List.inj_on_of_nodup_map hnodup hother hfirst.1 (hsame.trans hfirst.2.symm)
      cases hempty : first.contributesTo.isEmpty with
      | false =>
        simp only [Option.all_some, hempty, Bool.not_false, Bool.true_eq, Bool.not_eq_true',
          List.any_eq_false, decide_eq_true_eq, not_and]
        intro other hother hsame
        simp [honly other hother hsame, hempty]
      | true =>
        simp only [Option.all_some, hempty, Bool.not_true, Bool.false_eq, Bool.not_eq_false',
          List.any_eq_true, decide_eq_true_eq]
        exact ⟨first, hfirst.1, hfirst.2, hempty⟩

/-- With modules declared once, the orphans are the declarations whose target lists are empty. -/
theorem orphaned_eq_filter (hnodup : (manifest.modules.map (·.id)).Nodup) :
    manifest.orphaned =
      manifest.declarations.zipIdx.filter fun entry => manifest.asksForNothing entry.1 := by
  apply List.filter_congr
  rintro ⟨declaration, position⟩ hentry
  have hfound := List.mem_zipIdx_iff_getElem?.1 hentry
  rw [namesTargets_eq_not_asksForNothing hnodup]
  cases hnothing : manifest.asksForNothing declaration with
  | false => simp
  | true => simp [hostOf?_of_asksForNothing hnodup hfound hnothing]

end Manifest

/-- Each declaration without a host has an error that accounts for it. The orphan errors stand for
unhosted declarations in their order, which are those with empty target lists if every module is declared
once. So a compilation that succeeds has a host for every declaration. -/
theorem unhosted_declarations_are_reported {manifest : Manifest} {config : Config}
    {hierarchy : Hierarchy} (h : (manifest.resolveHierarchy config).1 = some hierarchy) :
    (∀ position declaration, manifest.declarations[position]? = some declaration →
      manifest.hostOf? position = none →
        ∃ error ∈ (compile manifest config).errors,
          manifest.Accounts declaration position error) ∧
    (compile manifest config).errors.filterMap GraphError.orphan? =
      manifest.orphaned.map (fun entry => entry.1.displayName) ∧
    (∀ position declaration, (declaration, position) ∈ manifest.orphaned →
      manifest.declarations[position]? = some declaration ∧ manifest.hostOf? position = none) ∧
    ((manifest.modules.map (·.id)).Nodup →
      manifest.orphaned =
        manifest.declarations.zipIdx.filter fun entry => manifest.asksForNothing entry.1) ∧
    (∀ compilation, (compile manifest config).result = .ok compilation →
      ∀ position < manifest.declarations.length, ∃ component,
        manifest.hostOf? position = some component) := by
  have haccounted : ∀ position declaration, manifest.declarations[position]? = some declaration →
      manifest.hostOf? position = none →
        ∃ error ∈ (compile manifest config).errors,
          manifest.Accounts declaration position error := by
    intro position declaration hfound hhost
    rcases Manifest.exists_accounts hfound hhost with ⟨error, hmem, haccounts⟩
    refine ⟨error, ?_, haccounts⟩
    simp only [compile_errors h, List.mem_append] at hmem ⊢
    tauto
  refine ⟨haccounted, ?_, ?_, Manifest.orphaned_eq_filter, ?_⟩
  · have hstage : ∀ error, GraphError.orphan? error ≠ none → error.stage = .orphans := by
      intro error herror
      cases error <;> first | rfl | exact absurd rfl herror
    rw [filterMap_compile_errors h hstage]
    exact Manifest.filterMap_orphan?_orphans
  · intro position declaration hmem
    have horphaned := Manifest.mem_orphaned_iff.1 hmem
    exact ⟨horphaned.1, horphaned.2.1⟩
  · intro compilation hcompile position hposition
    cases hhost : manifest.hostOf? position with
    | some component => exact ⟨component, rfl⟩
    | none =>
      -- An unhosted declaration would have left an error behind.
      rcases haccounted position _ (List.getElem?_eq_getElem hposition) hhost with ⟨error, hmem, _⟩
      simp [(compile_eq_ok hcompile).choose_spec.2.1] at hmem

/-- A parcel that goes nowhere, a module without targets, one with an unknown target, a function of no
module and a letter that arrives. -/
def depotManifest : Manifest where
  entryPoint := "App"
  components := [⟨"App", none, .component, []⟩]
  modules := [⟨"Mail", []⟩, ⟨"Attic", ["Cellar"]⟩]
  declarations :=
    [.injectable ⟨.resolved "Parcel", none, none, [], [], [], none, false, []⟩,
      .provides ⟨"Mail", "stamp", .resolved "Stamp", none, none, [], false⟩,
      .provides ⟨"Attic", "box", .resolved "Box", none, none, [], false⟩,
      .provides ⟨"Nowhere", "key", .resolved "Key", none, none, [], false⟩,
      .injectable ⟨.resolved "Letter", none, none, [], [], [], none, false, ["App"]⟩]

def depotHierarchy : Hierarchy := ⟨"App", .ofList [("App", ⟨none, none, [], 0⟩)]⟩

/-- The depot with its letter only. -/
def letterManifest : Manifest :=
  { depotManifest with modules := [], declarations := depotManifest.declarations.drop 4 }

theorem lost_parcel_is_reported :
    (depotManifest.resolveHierarchy .default).1 = some depotHierarchy ∧
      (compile depotManifest .default).errors.filterMap GraphError.orphan? =
        ["Parcel", "Mail::stamp"] ∧
      depotManifest.hostOf? 2 = none ∧
      (∃ error ∈ (compile depotManifest .default).errors, depotManifest.Accounts
        (.provides ⟨"Attic", "box", .resolved "Box", none, none, [], false⟩) 2 error) ∧
      ∃ component, letterManifest.hostOf? 0 = some component := by
  have hresolve : (depotManifest.resolveHierarchy .default).1 = some depotHierarchy := by
    decide +kernel
  rcases unhosted_declarations_are_reported hresolve with ⟨haccounted, horphans, _, hempty, _⟩
  have hnames : depotManifest.orphaned.map (fun entry => entry.1.displayName) =
      ["Parcel", "Mail::stamp"] := by
    rw [hempty (by decide)]
    decide +kernel
  have hletter : (letterManifest.resolveHierarchy .default).1 = some depotHierarchy := by
    decide +kernel
  have hcompile := compile_eq_ok_of_errors hletter (by decide +kernel)
  exact ⟨hresolve, horphans.trans hnames, by decide +kernel,
    haccounted 2 _ rfl (by decide +kernel),
    (unhosted_declarations_are_reported hletter).2.2.2.2 _ hcompile 0 (by decide)⟩

end ObjectGraph
