import Mathlib.Logic.Equiv.Basic
import ObjectGraph.Graph.Check
import ObjectGraph.Proofs.Hierarchy.Resolve
import ObjectGraph.Proofs.KeyedList

/-!
# Reordered manifests — the same declarations in another order

Positions tell injectables apart, so a manifest in another order is read with other positions. Every
unit keeps its target list, hence its host; the components keep their parents, hence the tree.

* `Rearranges`, `exists_rearranges_of_perm` — where the elements of a list have gone;
* `Manifest.Reordered` — two orders of one manifest;
* `Manifest.Reordered.contributions_perm` — the entries of the target lists;
* `Manifest.Reordered.targetsOf`, `Manifest.Reordered.hostOf?` — targets and hosts;
* `Manifest.Reordered.resolveHierarchy` — the tree and what is found wrong with it;
* `Manifest.Reordered.indexErrors_perm`, `Manifest.Reordered.orphans_perm` — other diagnostics.
-/

namespace ObjectGraph

/-! ## Positions -/

/-- Positions behind a first one that stays. -/
def shifted (positions : Equiv.Perm Nat) : Equiv.Perm Nat where
  toFun
    | 0 => 0
    | position + 1 => positions position + 1
  invFun
    | 0 => 0
    | position + 1 => positions.symm position + 1
  left_inv position := by
    cases position with
    | zero => rfl
    | succ position => simp
  right_inv position := by
    cases position with
    | zero => rfl
    | succ position => simp

/-- The element at a position of the first list is in the second list at the position that
replaces it. -/
def Rearranges {α : Type} (positions : Equiv.Perm Nat) (first second : List α) : Prop :=
  ∀ position, second[positions position]? = first[position]?

theorem rearranges_swap {α : Type} (a b : α) (rest : List α) :
    Rearranges (Equiv.swap 0 1) (a :: b :: rest) (b :: a :: rest) := by
  intro position
  match position with
  | 0 => simp
  | 1 => simp
  | position + 2 =>
    have hkept : Equiv.swap 0 1 (position + 2) = position + 2 :=
      Equiv.swap_apply_of_ne_of_ne (by omega) (by omega)
    simp [hkept]

/-- Two orders of one list differ by a permutation of the positions. -/
theorem exists_rearranges_of_perm {α : Type} {first second : List α} (h : first.Perm second) :
    ∃ positions, Rearranges positions first second := by
  induction h with
  | nil => exact ⟨Equiv.refl Nat, fun _ => rfl⟩
  | cons head _ ih =>
    rcases ih with ⟨positions, hpositions⟩
    refine ⟨shifted positions, ?_⟩
    intro position
    cases position with
    | zero => rfl
    | succ position => simpa [shifted] using hpositions position
  | swap a b rest => exact ⟨Equiv.swap 0 1, rearranges_swap b a rest⟩
  | trans _ _ ihfirst ihsecond =>
    rcases ihfirst with ⟨before, hbefore⟩
    rcases ihsecond with ⟨after, hafter⟩
    refine ⟨before.trans after, ?_⟩
    intro position
    exact (hafter (before position)).trans (hbefore position)

def ContributionUnit.renumber (positions : Nat → Nat) : ContributionUnit → ContributionUnit
  | .injectable position => .injectable (positions position)
  | .moduleUnit id => .moduleUnit id
  | .component id => .component id

theorem ContributionUnit.renumber_inj {positions : Nat → Nat} (h : positions.Injective)
    {a b : ContributionUnit} : a.renumber positions = b.renumber positions ↔ a = b := by
  cases a <;> cases b <;> simp [ContributionUnit.renumber, h.eq_iff]

/-- An entry of the same target list, read with other positions. -/
def Contribution.renumber (positions : Nat → Nat) (entry : Contribution) : Contribution :=
  { entry with unit := entry.unit.renumber positions }

/-! ## Two orders -/

/-- The second manifest is the first one in another order, and identities of components and modules
do not repeat. -/
structure Manifest.Reordered (positions : Equiv.Perm Nat) (first second : Manifest) : Prop where
  entryPoint : second.entryPoint = first.entryPoint
  components : second.components.Perm first.components
  distinctComponents : (second.components.map (·.id)).Nodup
  modules : second.modules.Perm first.modules
  distinctModules : (second.modules.map (·.id)).Nodup
  declarations : Rearranges positions first.declarations second.declarations

namespace Manifest.Reordered

variable {positions : Equiv.Perm Nat} {first second : Manifest}

theorem symm (h : Reordered positions first second) : Reordered positions.symm second first where
  entryPoint := h.entryPoint.symm
  components := h.components.symm
  distinctComponents := (h.components.map _).nodup_iff.1 h.distinctComponents
  modules := h.modules.symm
  distinctModules := (h.modules.map _).nodup_iff.1 h.distinctModules
  declarations := by
    intro position
    have hback := h.declarations (positions.symm position)
    simpa only [Equiv.apply_symm_apply] using hback.symm

/-- The declarations with their positions. -/
theorem zipIdx_perm (h : Reordered positions first second) :
    second.declarations.zipIdx.Perm
      (first.declarations.zipIdx.map fun entry => (entry.1, positions entry.2)) := by
  have hnodup : ∀ manifest : Manifest, manifest.declarations.zipIdx.Nodup := by
    intro manifest
    apply List.Nodup.of_map Prod.snd
    simpa only [List.zipIdx_map_snd] using List.nodup_range'
  have hinjective : Function.Injective fun entry : Declaration × Nat =>
      (entry.1, positions entry.2) := by
    rintro ⟨a, i⟩ ⟨b, j⟩ heq
    simpa using heq
  refine (List.perm_ext_iff_of_nodup (hnodup second) ((hnodup first).map hinjective)).2 ?_
  rintro ⟨declaration, position⟩
  -- A position is looked up in the first list at the place that it replaces.
  have hplace := h.declarations (positions.symm position)
  simp only [Equiv.apply_symm_apply] at hplace
  simp only [List.mem_zipIdx_iff_getElem?, hplace, List.mem_map, Prod.exists, Prod.mk.injEq]
  constructor
  · intro hfound
    exact ⟨declaration, positions.symm position, hfound, rfl, positions.apply_symm_apply position⟩
  · rintro ⟨_, old, hfound, rfl, rfl⟩
    simpa using hfound

/-! ## Known identities -/

theorem isComponent (h : Reordered positions first second) (id : ComponentId) :
    second.isComponent id = first.isComponent id :=
  h.components.any_eq

theorem isModule (h : Reordered positions first second) (id : ModuleId) :
    second.isModule id = first.isModule id :=
  h.modules.any_eq

theorem module? (h : Reordered positions first second) (id : ModuleId) :
    second.module? id = first.module? id :=
  find?_eq_of_perm h.modules h.distinctModules id

/-- The last declaration of a component is the only one. -/
theorem effectiveComponent? (h : Reordered positions first second) (id : ComponentId) :
    second.effectiveComponent? id = first.effectiveComponent? id := by
  have hdistinct : (second.components.reverse.map (·.id)).Nodup := by
    simpa only [List.map_reverse, List.nodup_reverse] using h.distinctComponents
  have hperm : second.components.reverse.Perm first.components.reverse :=
    (second.components.reverse_perm.trans h.components).trans first.components.reverse_perm.symm
  simp only [Manifest.effectiveComponent?, List.findRev?_eq_find?_reverse]
  exact find?_eq_of_perm hperm hdistinct id

theorem componentIds (h : Reordered positions first second) :
    second.componentIds = first.componentIds := by
  apply sortedDistinct_congr
  intro id
  exact (h.components.map (·.id)).mem_iff

/-! ## Entries -/

theorem isKnown (h : Reordered positions first second) (entry : Contribution) :
    second.isKnown (entry.renumber positions) = first.isKnown entry :=
  h.isComponent entry.target

theorem declarationContributions_renumber (declaration : Declaration) (position : Nat) :
    declarationContributions declaration (positions position) =
      (declarationContributions declaration position).map (Contribution.renumber positions) := by
  cases declaration with
  | injectable i => simp [declarationContributions, Contribution.renumber,
      ContributionUnit.renumber, Declaration.displayName]
  | provides f => rfl
  | binds f => rfl

/-- Entries of components and modules are read alike; those of injectables with other positions. -/
theorem map_renumber_contributions (manifest : Manifest) :
    manifest.contributions.map (Contribution.renumber positions) =
      manifest.componentContributions ++ manifest.moduleContributions ++
        (manifest.declarations.zipIdx.map fun entry => (entry.1, positions entry.2)).flatMap
          fun entry => declarationContributions entry.1 entry.2 := by
  simp [contributions, componentContributions, moduleContributions, List.map_flatMap,
    List.flatMap_map, declarationContributions_renumber, Contribution.renumber,
    ContributionUnit.renumber, Function.comp_def]

theorem contributions_perm (h : Reordered positions first second) :
    second.contributions.Perm (first.contributions.map (Contribution.renumber positions)) := by
  simp only [map_renumber_contributions]
  refine List.Perm.append (List.Perm.append ?_ ?_) ?_
  · exact h.components.flatMap_right _
  · exact h.modules.flatMap_right _
  · exact h.zipIdx_perm.flatMap_right _

/-- The entries of one unit come from one declaration, so they stay in order. -/
theorem filter_contributions (h : Reordered positions first second) (unit : ContributionUnit) :
    (second.contributions.filter fun entry => entry.unit = unit) =
      (first.contributions.map (Contribution.renumber positions)).filter fun entry =>
        entry.unit = unit := by
  have hdeclaration : ∀ place : Declaration × Nat,
      ∀ entry ∈ declarationContributions place.1 place.2, entry.unit = .injectable place.2 := by
    intro place entry hentry
    exact unit_of_mem_declarationContributions hentry
  -- No two declarations of one kind stand for the same unit.
  have hmodules : (second.modules.map fun moduleDeclaration =>
      ContributionUnit.moduleUnit moduleDeclaration.id).Nodup := by
    simpa only [List.map_map, Function.comp_def] using
      h.distinctModules.map fun _ _ => ContributionUnit.moduleUnit.inj
  have hdeclarations : (second.declarations.zipIdx.map fun place =>
      ContributionUnit.injectable place.2).Nodup := by
    have hpositions : (second.declarations.zipIdx.map Prod.snd).Nodup := by
      simpa only [List.zipIdx_map_snd] using List.nodup_range'
    simpa only [List.map_map, Function.comp_def] using
      hpositions.map fun _ _ => ContributionUnit.injectable.inj
  rw [map_renumber_contributions]
  simp only [contributions, List.filter_append, componentContributions, moduleContributions]
  rw [filter_flatMap_eq_of_perm unit_of_mem_componentEntries h.components
      (nodup_componentUnits h.distinctComponents),
    filter_flatMap_eq_of_perm unit_of_mem_moduleEntries h.modules hmodules,
    filter_flatMap_eq_of_perm hdeclaration h.zipIdx_perm hdeclarations]

/-! ## Targets and hosts -/

theorem targetsOf (h : Reordered positions first second) (unit : ContributionUnit) :
    second.targetsOf (unit.renumber positions) = first.targetsOf unit := by
  have hunit : ∀ entry : Contribution,
      (entry.renumber positions).unit = unit.renumber positions ↔ entry.unit = unit := by
    intro entry
    exact ContributionUnit.renumber_inj positions.injective
  have hknown : second.isComponent = first.isComponent := funext h.isComponent
  simp only [targetsOf_eq_filter, h.filter_contributions, hknown, List.filter_map, List.map_map,
    Function.comp_def, hunit]
  rfl

theorem hostOfUnit? (h : Reordered positions first second) (unit : ContributionUnit) :
    second.hostOfUnit? (unit.renumber positions) = first.hostOfUnit? unit := by
  rw [hostOfUnit?_eq_head?, hostOfUnit?_eq_head?, h.targetsOf]

theorem unitAt? (h : Reordered positions first second) (position : Nat) :
    second.unitAt? (positions position) =
      (first.unitAt? position).map (ContributionUnit.renumber positions) := by
  simp only [Manifest.unitAt?, h.declarations position, Option.map_map]
  congr 1
  funext declaration
  cases declaration with
  | injectable i => rfl
  | provides f => rfl
  | binds f => rfl

theorem hostOf? (h : Reordered positions first second) (position : Nat) :
    second.hostOf? (positions position) = first.hostOf? position := by
  simp only [Manifest.hostOf?, h.unitAt?, Option.bind_map, Function.comp_def, h.hostOfUnit?]

/-! ## Hierarchies -/

theorem isSubcomponent (h : Reordered positions first second) (component : ComponentId) :
    second.isSubcomponent component = first.isSubcomponent component := by
  simp only [Manifest.isSubcomponent, h.effectiveComponent?]

theorem parent? (h : Reordered positions first second) (component : ComponentId) :
    second.parent? component = first.parent? component := by
  have hhost := h.hostOfUnit? (.component component)
  simp only [ContributionUnit.renumber] at hhost
  simp only [Manifest.parent?, h.isSubcomponent, hhost]

theorem parents (h : Reordered positions first second) : second.parents = first.parents := by
  apply Table.ext_find?
  intro component
  simp only [find?_parents, h.isComponent, h.parent?]

/-- Two components are linked whatever the order of their contributions is. -/
theorem connected (h : Reordered positions first second) :
    second.connected = first.connected := by
  have htargets : ∀ component,
      second.targetsOf (.component component) = first.targetsOf (.component component) :=
    fun component => h.targetsOf (.component component)
  have hlinked : second.Linked = first.Linked := by
    funext a b
    simp only [Linked, htargets]
  refine connected_congr (by rw [h.entryPoint, h.isComponent]) fun component => ?_
  rw [Connected, Connected, hlinked, h.entryPoint]

theorem severalParents (h : Reordered positions first second) :
    second.severalParents = first.severalParents := by
  have htargets : ∀ component,
      second.targetsOf (.component component) = first.targetsOf (.component component) := by
    intro component
    exact h.targetsOf (.component component)
  simp only [Manifest.severalParents, h.componentIds, h.isSubcomponent, htargets]

theorem detachedErrors (h : Reordered positions first second) (hierarchy : Hierarchy) :
    second.detachedErrors hierarchy = first.detachedErrors hierarchy := by
  simp only [Manifest.detachedErrors, Manifest.detached, h.connected]

theorem treeAt (h : Reordered positions first second) {root : ComponentId}
    (hroot : first.parent? root = none) : second.treeAt root = first.treeAt root := by
  refine treeAt_congr hroot ((h.parent? root).trans hroot) ?_ ?_
  · intro parent _ child
    rw [h.parent?]
  · intro component _
    rw [h.effectiveComponent?]

theorem resolveHierarchy (h : Reordered positions first second) (config : Config) :
    second.resolveHierarchy config = first.resolveHierarchy config := by
  have hroots : second.rootCandidates = first.rootCandidates := by
    simp only [Manifest.rootCandidates, h.connected, h.parents]
  simp only [Manifest.resolveHierarchy, h.entryPoint, h.isComponent, hroots, h.severalParents,
    h.detachedErrors]
  cases hfound : first.rootCandidates with
  | nil => rfl
  | cons root rest =>
    cases rest with
    | nil => simp only [h.treeAt (parent?_root hfound)]
    | cons other rest => rfl

/-! ## Diagnostics -/

theorem unresolvedTarget? (h : Reordered positions first second) :
    second.unresolvedTarget? = first.unresolvedTarget? := by
  funext entry
  have hknown : second.isKnown entry = first.isKnown entry := h.isComponent entry.target
  simp only [Manifest.unresolvedTarget?, hknown]

theorem declarationIndexErrors (h : Reordered positions first second) (declaration : Declaration)
    (position : Nat) :
    second.declarationIndexErrors declaration (positions position) =
      first.declarationIndexErrors declaration position := by
  have hentry : first.unresolvedTarget? ∘ Contribution.renumber positions =
      first.unresolvedTarget? := rfl
  simp only [Manifest.declarationIndexErrors, h.isModule, h.unresolvedTarget?,
    declarationContributions_renumber, List.filterMap_map, hentry]

theorem indexErrors_perm (h : Reordered positions first second) :
    second.indexErrors.Perm first.indexErrors := by
  simp only [Manifest.indexErrors, h.unresolvedTarget?]
  refine List.Perm.append ?_ ?_
  · refine List.Perm.filterMap _ (List.Perm.append ?_ ?_)
    · exact h.components.flatMap_right _
    · exact h.modules.flatMap_right _
  · simpa only [List.flatMap_map, h.declarationIndexErrors] using
      h.zipIdx_perm.flatMap_right fun entry => second.declarationIndexErrors entry.1 entry.2

theorem namesTargets (h : Reordered positions first second) (declaration : Declaration) :
    second.namesTargets declaration = first.namesTargets declaration := by
  cases declaration with
  | injectable i => rfl
  | provides f => simp only [Manifest.namesTargets, h.module?]
  | binds f => simp only [Manifest.namesTargets, h.module?]

theorem orphans_perm (h : Reordered positions first second) :
    second.orphans.Perm first.orphans := by
  have horphans := h.zipIdx_perm.filterMap fun entry =>
    if second.hostOf? entry.2 = none ∧ second.namesTargets entry.1 = false then
      some (GraphError.orphanDeclaration entry.1.displayName)
    else
      none
  simpa only [Manifest.orphans, List.filterMap_map, Function.comp_def, h.hostOf?,
    h.namesTargets] using horphans

end Manifest.Reordered
end ObjectGraph
