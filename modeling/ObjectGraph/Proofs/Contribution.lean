import Mathlib.Data.List.Nodup
import ObjectGraph.Graph.Build
import ObjectGraph.Proofs.Index

/-!
# Contributions — entries, hosts and the declarations visited for a component

The entries of the target lists are read in both directions, so a unit is listed by its host. A
component is visited for exactly those declarations that it hosts.

* `Manifest.mem_unitsOf_iff`, `Manifest.mem_targetsOf_iff` — one entry, two directions;
* `Manifest.mem_unitsOf_of_hostOfUnit?` — a host lists the unit;
* `Manifest.Contributes`, `Manifest.contributes_of_mem` — where an entry comes from;
* `Manifest.mem_visitsOf_iff` — the declarations visited for a component.
-/

namespace ObjectGraph

namespace Manifest

variable {manifest : Manifest}

/-! ## Entries -/

theorem mem_componentIds_iff {id : ComponentId} :
    id ∈ manifest.componentIds ↔ manifest.isComponent id = true := by
  simp [componentIds, mem_sortedDistinct, isComponent]

theorem mem_unitsOf_iff {component : ComponentId} {unit : ContributionUnit} :
    unit ∈ manifest.unitsOf component ↔
      manifest.isComponent component = true ∧
        ∃ entry ∈ manifest.contributions, entry.unit = unit ∧ entry.target = component := by
  rw [unitsOf_eq]
  constructor
  · intro h
    rcases List.mem_map.1 h with ⟨entry, hentry, hunit⟩
    rcases List.mem_filter.1 hentry with ⟨hmem, hkept⟩
    simp only [Bool.and_eq_true, decide_eq_true_eq, isKnown] at hkept
    rcases hkept with ⟨htarget, hknown⟩
    exact ⟨htarget ▸ hknown, entry, hmem, hunit, htarget⟩
  · rintro ⟨hknown, entry, hmem, hunit, htarget⟩
    refine List.mem_map.2 ⟨entry, List.mem_filter.2 ⟨hmem, ?_⟩, hunit⟩
    simp [isKnown, htarget, hknown]

theorem mem_targetsOf_iff {unit : ContributionUnit} {component : ComponentId} :
    component ∈ manifest.targetsOf unit ↔
      manifest.isComponent component = true ∧
        ∃ entry ∈ manifest.contributions, entry.unit = unit ∧ entry.target = component := by
  rw [targetsOf_eq]
  constructor
  · intro h
    rcases List.mem_map.1 h with ⟨entry, hentry, htarget⟩
    rcases List.mem_filter.1 hentry with ⟨hmem, hkept⟩
    simp only [Bool.and_eq_true, decide_eq_true_eq, isKnown] at hkept
    rcases hkept with ⟨hunit, hknown⟩
    exact ⟨htarget ▸ hknown, entry, hmem, hunit, htarget⟩
  · rintro ⟨hknown, entry, hmem, hunit, htarget⟩
    refine List.mem_map.2 ⟨entry, List.mem_filter.2 ⟨hmem, ?_⟩, htarget⟩
    simp [isKnown, hunit, htarget, hknown]

theorem targetsOf_eq_filter (unit : ContributionUnit) :
    manifest.targetsOf unit =
      ((manifest.contributions.filter fun entry => entry.unit = unit).map (·.target)).filter
        manifest.isComponent := by
  simp only [targetsOf_eq, List.filter_map, List.filter_filter]
  congr 2
  funext entry
  exact Bool.and_comm _ _

theorem mem_targetsOf_of_hostOfUnit? {unit : ContributionUnit} {component : ComponentId}
    (h : manifest.hostOfUnit? unit = some component) : component ∈ manifest.targetsOf unit :=
  List.mem_of_mem_head? (hostOfUnit?_eq_head? unit ▸ h)

theorem mem_unitsOf_of_hostOfUnit? {unit : ContributionUnit} {component : ComponentId}
    (h : manifest.hostOfUnit? unit = some component) : unit ∈ manifest.unitsOf component :=
  mem_unitsOf_iff.2 (mem_targetsOf_iff.1 (mem_targetsOf_of_hostOfUnit? h))

theorem unit_of_mem_componentEntries (component : ComponentDeclaration) :
    ∀ entry ∈ component.contributesTo.map fun target =>
      (⟨.component component.id, component.id, target⟩ : Contribution),
    entry.unit = .component component.id := by
  intro entry h
  rcases List.mem_map.1 h with ⟨target, _, rfl⟩
  rfl

theorem unit_of_mem_moduleEntries (moduleDeclaration : ModuleDeclaration) :
    ∀ entry ∈ moduleDeclaration.contributesTo.map fun target =>
      (⟨.moduleUnit moduleDeclaration.id, moduleDeclaration.id, target⟩ : Contribution),
    entry.unit = .moduleUnit moduleDeclaration.id := by
  intro entry h
  rcases List.mem_map.1 h with ⟨target, _, rfl⟩
  rfl

theorem unit_of_mem_declarationContributions {declaration : Declaration} {position : Nat}
    {entry : Contribution} (h : entry ∈ declarationContributions declaration position) :
    entry.unit = .injectable position := by
  cases declaration with
  | injectable i =>
    rcases List.mem_map.1 h with ⟨target, _, rfl⟩
    rfl
  | provides f => simp [declarationContributions] at h
  | binds f => simp [declarationContributions] at h

/-- Components with identities of their own are units of their own. -/
theorem nodup_componentUnits {components : List ComponentDeclaration}
    (h : (components.map (·.id)).Nodup) :
    (components.map fun component => ContributionUnit.component component.id).Nodup := by
  simpa only [List.map_map, Function.comp_def] using
    h.map fun _ _ => ContributionUnit.component.inj

/-- The declaration that a unit stands for is there. -/
def Declares (manifest : Manifest) : ContributionUnit → Prop
  | .component id => manifest.isComponent id = true
  | .moduleUnit id => manifest.isModule id = true
  | .injectable position => ∃ i, manifest.declarations[position]? = some (.injectable i)

/-- The entries of the target lists, with the declarations counted from a position on. -/
def contributionsFrom (manifest : Manifest) (start : Nat) : List Contribution :=
  manifest.componentContributions ++ manifest.moduleContributions ++
    (manifest.declarations.zipIdx start).flatMap fun entry =>
      declarationContributions entry.1 entry.2

/-- An entry stands in the target list of a component, of a module or of an injectable. -/
inductive Contributes (manifest : Manifest) (start : Nat) : Contribution → Prop where
  | component {declaration : ComponentDeclaration} {target : ComponentId} :
      declaration ∈ manifest.components → target ∈ declaration.contributesTo →
        Contributes manifest start ⟨.component declaration.id, declaration.id, target⟩
  | moduleUnit {declaration : ModuleDeclaration} {target : ComponentId} :
      declaration ∈ manifest.modules → target ∈ declaration.contributesTo →
        Contributes manifest start ⟨.moduleUnit declaration.id, declaration.id, target⟩
  | injectable {declaration : Injectable} {position : Nat} {target : ComponentId} :
      start ≤ position → manifest.declarations[position - start]? = some (.injectable declaration) →
        target ∈ declaration.contributesTo →
          Contributes manifest start ⟨.injectable position, declaration.type.text, target⟩

theorem contributes_of_mem {start : Nat} {entry : Contribution}
    (h : entry ∈ manifest.contributionsFrom start) : manifest.Contributes start entry := by
  simp only [contributionsFrom] at h
  rcases List.mem_append.1 h with h | h
  · rcases List.mem_append.1 h with h | h
    · rcases List.mem_flatMap.1 h with ⟨component, hcomponent, h⟩
      rcases List.mem_map.1 h with ⟨target, htarget, rfl⟩
      exact .component hcomponent htarget
    · rcases List.mem_flatMap.1 h with ⟨moduleDeclaration, hmodule, h⟩
      rcases List.mem_map.1 h with ⟨target, htarget, rfl⟩
      exact .moduleUnit hmodule htarget
  · rcases List.mem_flatMap.1 h with ⟨⟨declaration, position⟩, hdeclaration, h⟩
    rcases List.mk_mem_zipIdx_iff_le_and_getElem?_sub.1 hdeclaration with ⟨hposition, hfound⟩
    cases declaration with
    | injectable i =>
      rcases List.mem_map.1 h with ⟨target, htarget, rfl⟩
      exact .injectable hposition hfound htarget
    | provides f => simp [declarationContributions] at h
    | binds f => simp [declarationContributions] at h

theorem declares_of_mem_contributions {entry : Contribution}
    (h : entry ∈ manifest.contributions) : manifest.Declares entry.unit := by
  have hentry : entry ∈ manifest.contributionsFrom 0 := h
  cases contributes_of_mem hentry with
  | component hcomponent _ => exact List.any_eq_true.2 ⟨_, hcomponent, by simp⟩
  | moduleUnit hmodule _ => exact List.any_eq_true.2 ⟨_, hmodule, by simp⟩
  | injectable _ hfound _ => exact ⟨_, hfound⟩

theorem declares_of_hostOfUnit? {unit : ContributionUnit} {component : ComponentId}
    (h : manifest.hostOfUnit? unit = some component) : manifest.Declares unit := by
  rcases (mem_targetsOf_iff.1 (mem_targetsOf_of_hostOfUnit? h)).2 with ⟨entry, hentry, rfl, _⟩
  exact declares_of_mem_contributions hentry

theorem lt_length_of_hostOf? {position : Nat} {component : ComponentId}
    (h : manifest.hostOf? position = some component) : position < manifest.declarations.length := by
  rcases Option.bind_eq_some_iff.1 h with ⟨unit, hunit, _⟩
  rcases Option.map_eq_some_iff.1 hunit with ⟨declaration, hdeclaration, _⟩
  exact (List.getElem?_eq_some_iff.1 hdeclaration).1

/-! ## Visits -/

/-- Positions of the declarations that a unit brings along. -/
def positionsOf (manifest : Manifest) : ContributionUnit → List Nat
  | .injectable position => [position]
  | .moduleUnit id => manifest.members id
  | .component _ => []

theorem visitsOf_eq (component : ComponentId) :
    manifest.visitsOf component = ((manifest.unitsOf component).filter fun unit =>
      manifest.hostOfUnit? unit = some component).flatMap manifest.positionsOf := by
  have hpositions : manifest.index.positionsOf = manifest.positionsOf := by
    funext unit
    cases unit <;> rfl
  simp only [visitsOf, ContributionIndex.visitsOf, hpositions]
  rfl

theorem mem_members_iff {id : ModuleId} {position : Nat} :
    position ∈ manifest.members id ↔ manifest.isModule id = true ∧
      ∃ declaration, manifest.declarations[position]? = some declaration ∧
        declaration.moduleId? = some id := by
  simp only [members_eq]
  split
  · rename_i hmodule
    constructor
    · intro h
      rcases List.mem_map.1 h with ⟨⟨declaration, other⟩, hentry, rfl⟩
      rcases List.mem_filter.1 hentry with ⟨hmem, hid⟩
      exact ⟨hmodule, declaration, List.mem_zipIdx_iff_getElem?.1 hmem, by simpa using hid⟩
    · rintro ⟨_, declaration, hfound, hid⟩
      refine List.mem_map.2
        ⟨(declaration, position), List.mem_filter.2 ⟨?_, by simpa using hid⟩, rfl⟩
      exact List.mem_zipIdx_iff_getElem?.2 hfound
  · rename_i hmodule
    simp [hmodule]

theorem visits_eq (hierarchy : Hierarchy) :
    manifest.visits hierarchy = hierarchy.components.flatMap fun component =>
      (manifest.visitsOf component).map fun position =>
        ⟨position, component, hierarchy.scope? component⟩ :=
  rfl

/-- A unit brings along the declarations that go with it. -/
theorem mem_positionsOf_iff {unit : ContributionUnit} {component : ComponentId} {position : Nat}
    (h : manifest.hostOfUnit? unit = some component) :
    position ∈ manifest.positionsOf unit ↔ manifest.unitAt? position = some unit := by
  have hdeclared := declares_of_hostOfUnit? h
  cases unit with
  | component id =>
    -- No declaration goes with a component: it stands for a module or for itself.
    simp only [positionsOf, List.not_mem_nil, false_iff, unitAt?]
    intro hunit
    rcases Option.map_eq_some_iff.1 hunit with ⟨declaration, _, hunit⟩
    split at hunit
    · simp at hunit
    · simp at hunit
  | moduleUnit id =>
    simp only [Declares] at hdeclared
    simp only [positionsOf, mem_members_iff, hdeclared, true_and, unitAt?,
      Option.map_eq_some_iff]
    constructor
    · rintro ⟨declaration, hfound, hid⟩
      exact ⟨declaration, hfound, by simp [hid]⟩
    · -- An injectable names no module and stands for itself.
      rintro ⟨declaration, hfound, hunit⟩
      refine ⟨declaration, hfound, ?_⟩
      cases hid : declaration.moduleId? with
      | none => simp [hid] at hunit
      | some other => simpa [hid] using hunit
  | injectable other =>
    simp only [Declares] at hdeclared
    rcases hdeclared with ⟨i, hfound⟩
    simp only [positionsOf, List.mem_singleton, unitAt?, Option.map_eq_some_iff]
    constructor
    · rintro rfl
      exact ⟨_, hfound, rfl⟩
    · rintro ⟨declaration, _, hunit⟩
      split at hunit
      · simpa using hunit
      · simp at hunit

/-- A component is visited for the declarations that it hosts and for no others. -/
theorem mem_visitsOf_iff {component : ComponentId} {position : Nat} :
    position ∈ manifest.visitsOf component ↔ manifest.hostOf? position = some component := by
  simp only [visitsOf_eq, hostOf?, List.mem_flatMap, Option.bind_eq_some_iff]
  -- A unit is listed by several components if it has several targets; its host alone visits it.
  constructor
  · rintro ⟨unit, hunit, hposition⟩
    have hhost : manifest.hostOfUnit? unit = some component := by
      simpa using (List.mem_filter.1 hunit).2
    exact ⟨unit, (mem_positionsOf_iff hhost).1 hposition, hhost⟩
  · rintro ⟨unit, hunit, hhost⟩
    refine ⟨unit, List.mem_filter.2 ⟨mem_unitsOf_of_hostOfUnit? hhost, by simpa using hhost⟩, ?_⟩
    exact (mem_positionsOf_iff hhost).2 hunit

end Manifest
end ObjectGraph
