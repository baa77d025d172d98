import Mathlib.Data.List.Dedup
import Mathlib.Data.List.Induction
import Mathlib.Data.List.Perm.Basic
import ObjectGraph.Proofs.Contribution

/-!
# Conservation — the entries of the target lists are all accounted for

Every declaration of a manifest gives one target list, and the lists of several declarations may belong
to one unit. Each entry with a declared target is found once from its unit and once from its target;
each other entry is an error. Of the entries of one unit the first one names its host and each of the
others a component that is passed over with a warning.

* `TargetList`, `Manifest.targetLists` — the lists in the order of the manifest;
* `Manifest.declaredTargets`, `Manifest.unknownTargets` — what a unit asks for and what nobody declares;
* `Manifest.passedOver` — the warnings that a unit deserves;
* `Manifest.laterTargets_perm` — the warnings in the order of the units;
* `contributions_are_conserved` — the whole account.
-/

namespace ObjectGraph

/-- The components that one declaration contributes to. -/
structure TargetList where
  unit : ContributionUnit
  name : String
  targets : List ComponentId

def TargetList.entries (list : TargetList) : List Contribution :=
  list.targets.map fun target => ⟨list.unit, list.name, target⟩

def Declaration.targetList? (declaration : Declaration) (position : Nat) : Option TargetList :=
  match declaration with
  | .injectable i => some ⟨.injectable position, i.type.text, i.contributesTo⟩
  | .provides _ | .binds _ => none

/-- A target that nobody declares, with the name of the declaration that gives it. -/
def GraphError.unknownTarget? : GraphError → Option (String × ComponentId)
  | .unresolvedScopeReference declaration component => some (declaration, component)
  | _ => none

/-- A module that nobody declares, with the name of the function that is in it. -/
def GraphError.unknownModule? : GraphError → Option (String × ModuleId)
  | .unknownModule declaration moduleId => some (declaration, moduleId)
  | _ => none

/-- The warnings that the targets of one unit deserve: all but the first one are passed over. -/
def Warning.passedOver (name : String) : List ComponentId → List Warning
  | [] => []
  | host :: others => others.map (.severalHosts name host)

namespace Manifest

variable (manifest : Manifest)

/-! ## Target lists -/

/-- The target lists of the components, the modules and the injectables. A function has none. -/
def targetLists : List TargetList :=
  (manifest.components.map fun component =>
    ⟨.component component.id, component.id, component.contributesTo⟩) ++
  (manifest.modules.map fun moduleDeclaration =>
    ⟨.moduleUnit moduleDeclaration.id, moduleDeclaration.id, moduleDeclaration.contributesTo⟩) ++
  manifest.declarations.zipIdx.filterMap fun entry => entry.1.targetList? entry.2

/-- The units of the target lists, each of them once. -/
def units : List ContributionUnit :=
  (manifest.targetLists.map (·.unit)).dedup

/-- The target lists of a unit, one after the other. -/
def declaredTargets (unit : ContributionUnit) : List ComponentId :=
  (manifest.targetLists.filter fun list => list.unit = unit).flatMap (·.targets)

def unknownTargets : List (String × ComponentId) :=
  manifest.targetLists.flatMap fun list =>
    (list.targets.filter fun target => !manifest.isComponent target).map fun target =>
      (list.name, target)

/-- Functions whose module nobody declares. -/
def strayFunctions : List (String × ModuleId) :=
  manifest.declarations.filterMap fun declaration =>
    (declaration.moduleId?.filter fun id => !manifest.isModule id).map fun id =>
      (declaration.displayName, id)

/-- How a unit is called in a diagnostic. -/
def unitName : ContributionUnit → String
  | .component id => id
  | .moduleUnit id => id
  | .injectable position => (manifest.declarations[position]?.map Declaration.displayName).getD ""

/-- A warning for each known target of a unit after the first one, which hosts it. -/
def passedOver (unit : ContributionUnit) : List Warning :=
  Warning.passedOver (manifest.unitName unit) (manifest.targetsOf unit)

theorem contributions_eq_flatMap_entries :
    manifest.contributions = manifest.targetLists.flatMap TargetList.entries := by
  have hdeclaration : ∀ declaration position, declarationContributions declaration position =
      (declaration.targetList? position).toList.flatMap TargetList.entries := by
    intro declaration position
    cases declaration <;> simp [declarationContributions, Declaration.targetList?,
      Declaration.displayName, TargetList.entries]
  simp only [contributions, componentContributions, moduleContributions, targetLists, hdeclaration,
    List.flatMap_append, List.flatMap_map, List.filterMap_eq_flatMap_toList, List.flatMap_assoc,
    TargetList.entries]

variable {manifest}

theorem map_target_contributions (unit : ContributionUnit) :
    (manifest.contributions.filter fun entry => entry.unit = unit).map (·.target) =
      manifest.declaredTargets unit := by
  simp only [contributions_eq_flatMap_entries, declaredTargets]
  induction manifest.targetLists with
  | nil => rfl
  | cons list rest ih =>
    by_cases hunit : list.unit = unit
    · simp [TargetList.entries, hunit, ih, List.filter_map, Function.comp_def]
    · simp [TargetList.entries, hunit, ih, List.filter_map, Function.comp_def]

/-! ## Both directions -/

theorem targetsOf_eq_filter_declaredTargets (unit : ContributionUnit) :
    manifest.targetsOf unit = (manifest.declaredTargets unit).filter manifest.isComponent := by
  rw [targetsOf_eq_filter, map_target_contributions]

/-- The two directions read the same entries. -/
theorem count_unitsOf_eq_count_targetsOf (unit : ContributionUnit) (component : ComponentId) :
    (manifest.unitsOf component).count unit = (manifest.targetsOf unit).count component := by
  simp only [unitsOf_eq, targetsOf_eq, List.count_eq_countP, List.countP_map, List.countP_filter]
  apply List.countP_congr
  intro entry _
  simp only [Function.comp_apply, beq_iff_eq, Bool.and_eq_true, decide_eq_true_eq]
  tauto

theorem count_targetsOf (unit : ContributionUnit) (component : ComponentId) :
    (manifest.targetsOf unit).count component =
      if manifest.isComponent component then (manifest.declaredTargets unit).count component
      else 0 := by
  rw [targetsOf_eq_filter_declaredTargets]
  split
  · rename_i hdeclared
    exact List.count_filter hdeclared
  · rename_i hdeclared
    refine List.count_eq_zero.2 fun hmem => hdeclared ?_
    exact (List.mem_filter.1 hmem).2

/-! ## Errors -/

theorem filterMap_unknownTarget?_entries (entries : List Contribution) :
    (entries.filterMap manifest.unresolvedTarget?).filterMap GraphError.unknownTarget? =
      (entries.filter fun entry => !manifest.isKnown entry).map fun entry =>
        (entry.name, entry.target) := by
  simp only [List.filterMap_filterMap, ← List.filterMap_eq_map, List.filterMap_filter]
  apply List.filterMap_congr
  intro entry _
  cases hknown : manifest.isKnown entry <;> simp [unresolvedTarget?, hknown, GraphError.unknownTarget?]

theorem filterMap_unknownModule?_entries (entries : List Contribution) :
    (entries.filterMap manifest.unresolvedTarget?).filterMap GraphError.unknownModule? = [] := by
  simp only [List.filterMap_filterMap, List.filterMap_eq_nil_iff]
  intro entry _
  cases hknown : manifest.isKnown entry <;> simp [unresolvedTarget?, hknown, GraphError.unknownModule?]

/-- The unresolved references are the entries without a declared target, in their order. -/
theorem filterMap_unknownTarget?_indexErrors :
    manifest.indexErrors.filterMap GraphError.unknownTarget? = manifest.unknownTargets := by
  have hdeclaration : ∀ declaration position,
      (manifest.declarationIndexErrors declaration position).filterMap GraphError.unknownTarget? =
        ((declarationContributions declaration position).filter
          fun entry => !manifest.isKnown entry).map fun entry => (entry.name, entry.target) := by
    intro declaration position
    simp only [declarationIndexErrors]
    cases declaration with
    | injectable i => exact filterMap_unknownTarget?_entries _
    | provides f =>
      cases hmodule : manifest.isModule f.moduleId <;>
        simp [Declaration.moduleId?, hmodule, declarationContributions, GraphError.unknownTarget?]
    | binds f =>
      cases hmodule : manifest.isModule f.moduleId <;>
        simp [Declaration.moduleId?, hmodule, declarationContributions, GraphError.unknownTarget?]
  calc manifest.indexErrors.filterMap GraphError.unknownTarget?
      = (manifest.contributions.filter fun entry => !manifest.isKnown entry).map
          fun entry => (entry.name, entry.target) := by
        simp only [indexErrors, contributions, List.filterMap_append, List.filter_append,
          List.map_append, filterMap_unknownTarget?_entries, List.filterMap_flatMap, hdeclaration,
          List.filter_flatMap, List.map_flatMap]
    _ = manifest.unknownTargets := by
        simp [contributions_eq_flatMap_entries, unknownTargets, List.filter_flatMap,
          List.map_flatMap, TargetList.entries, List.filter_map, Function.comp_def, isKnown]

/-- The unknown modules are those of the stray functions, in their order. -/
theorem filterMap_unknownModule?_indexErrors :
    manifest.indexErrors.filterMap GraphError.unknownModule? = manifest.strayFunctions := by
  have hdeclaration : ∀ declaration position,
      (manifest.declarationIndexErrors declaration position).filterMap GraphError.unknownModule? =
        ((declaration.moduleId?.filter fun id => !manifest.isModule id).map fun id =>
          (declaration.displayName, id)).toList := by
    intro declaration position
    simp only [declarationIndexErrors]
    cases hid : declaration.moduleId? with
    | none => exact filterMap_unknownModule?_entries _
    | some id =>
      cases hmodule : manifest.isModule id <;>
        simp [hmodule, Option.filter, GraphError.unknownModule?]
  have hstray : manifest.strayFunctions = manifest.declarations.zipIdx.flatMap fun entry =>
      ((entry.1.moduleId?.filter fun id => !manifest.isModule id).map fun id =>
        (entry.1.displayName, id)).toList := by
    rw [strayFunctions, List.filterMap_eq_flatMap_toList]
    conv_lhs => rw [← List.zipIdx_map_fst 0 manifest.declarations, List.flatMap_map]
  simp only [hstray, indexErrors, List.filterMap_append, filterMap_unknownModule?_entries,
    List.nil_append, List.filterMap_flatMap, hdeclaration]

/-! ## Members -/

theorem increasing_members (id : ModuleId) : (manifest.members id).Pairwise (· < ·) := by
  simp only [members_eq]
  split
  · have hpositions : (manifest.declarations.zipIdx.map Prod.snd).Pairwise (· < ·) := by
      rw [List.zipIdx_map_snd]
      exact List.pairwise_lt_range'
    exact hpositions.sublist (List.filter_sublist.map Prod.snd)
  · exact List.Pairwise.nil

/-- The functions of a declared module are its members, each of them once. -/
theorem count_members (id : ModuleId) (position : Nat) :
    (manifest.members id).count position =
      if manifest.isModule id ∧
          (manifest.declarations[position]?.bind Declaration.moduleId?) = some id then 1 else 0 := by
  have hnodup : (manifest.members id).Nodup := (increasing_members id).imp Nat.ne_of_lt
  have hmem : position ∈ manifest.members id ↔ manifest.isModule id = true ∧
      (manifest.declarations[position]?.bind Declaration.moduleId?) = some id := by
    simp only [mem_members_iff, Option.bind_eq_some_iff]
  split
  · rename_i hmember
    exact List.count_eq_one_of_mem hnodup (hmem.2 hmember)
  · rename_i hmember
    exact List.count_eq_zero.2 fun hlisted => hmember (hmem.1 hlisted)

/-! ## Warnings -/

theorem Warning.passedOver_concat (name : String) (targets : List ComponentId)
    (target : ComponentId) :
    Warning.passedOver name (targets ++ [target]) = Warning.passedOver name targets ++
      (targets.head?.map fun host => Warning.severalHosts name host target).toList := by
  cases targets <;> simp [Warning.passedOver]

theorem flatMap_ite_eq {units : List ContributionUnit} (hnodup : units.Nodup)
    {unit : ContributionUnit} (hmem : unit ∈ units) (warnings : List Warning) :
    (units.flatMap fun other => if other = unit then warnings else []) = warnings := by
  induction units with
  | nil => simp at hmem
  | cons first rest ih =>
    rcases List.nodup_cons.1 hnodup with ⟨hfirst, hrest⟩
    by_cases hsame : first = unit
    · subst hsame
      have hnone : ∀ other ∈ rest, (if other = first then warnings else []) = [] := by
        intro other hother
        exact if_neg fun hequal : other = first => hfirst (hequal ▸ hother)
      simp [List.flatMap_eq_nil_iff.2 hnone]
    · have hlater : unit ∈ rest := (List.mem_cons.1 hmem).resolve_left (Ne.symm hsame)
      simp [hsame, ih hrest hlater]

/-- The warnings about a list of entries are those that its units deserve. -/
theorem laterTargets_perm {units : List ContributionUnit} (hnodup : units.Nodup)
    {name : ContributionUnit → String} (entries : List Contribution)
    (hunits : ∀ entry ∈ entries, entry.unit ∈ units ∧ entry.name = name entry.unit) :
    (laterTargets [] entries).Perm (units.flatMap fun unit =>
      Warning.passedOver (name unit)
        ((entries.filter fun entry => entry.unit = unit).map (·.target))) := by
  -- The last entry concerns one unit only, which gets one warning more if it had an entry before.
  induction entries using List.reverseRecOn with
  | nil => simp [laterTargets, Warning.passedOver]
  | append_singleton entries entry ih =>
    rcases hunits entry (by simp) with ⟨hunit, hname⟩
    have hearlier := ih fun other hother => hunits other (List.mem_append_left _ hother)
    have hstep : ∀ unit, Warning.passedOver (name unit)
          (((entries ++ [entry]).filter fun entry => entry.unit = unit).map (·.target)) =
        Warning.passedOver (name unit)
            ((entries.filter fun entry => entry.unit = unit).map (·.target)) ++
          if unit = entry.unit then
            ((entries.find? fun other => other.unit = entry.unit).map fun host =>
              Warning.severalHosts entry.name host.target entry.target).toList
          else [] := by
      intro unit
      by_cases hsame : unit = entry.unit
      · subst hsame
        simp [Warning.passedOver_concat, hname, Function.comp_def]
      · simp [hsame, Ne.symm hsame]
    simp only [laterTargets_concat, List.nil_append, hstep]
    refine (hearlier.append_right _).trans ?_
    have hsplit := List.flatMap_append_perm units
      (fun unit => Warning.passedOver (name unit)
        ((entries.filter fun entry => entry.unit = unit).map (·.target)))
      (fun unit => if unit = entry.unit then
        ((entries.find? fun other => other.unit = entry.unit).map fun host =>
          Warning.severalHosts entry.name host.target entry.target).toList else [])
    rwa [flatMap_ite_eq hnodup hunit] at hsplit

theorem name_of_mem_contributions {entry : Contribution}
    (h : entry ∈ manifest.contributions) : entry.name = manifest.unitName entry.unit := by
  have hentry : entry ∈ manifest.contributionsFrom 0 := h
  cases contributes_of_mem hentry with
  | component _ _ => rfl
  | moduleUnit _ _ => rfl
  | injectable _ hfound _ =>
    simp only [Nat.sub_zero] at hfound
    simp [unitName, hfound, Declaration.displayName]

theorem unit_mem_units_of_mem_contributions {entry : Contribution}
    (h : entry ∈ manifest.contributions) : entry.unit ∈ manifest.units := by
  rw [contributions_eq_flatMap_entries] at h
  rcases List.mem_flatMap.1 h with ⟨list, hlist, hentry⟩
  rcases List.mem_map.1 hentry with ⟨target, _, rfl⟩
  exact List.mem_dedup.2 (List.mem_map.2 ⟨list, hlist, rfl⟩)

theorem warnings_indexReport_perm :
    manifest.indexReport.warnings.Perm (manifest.units.flatMap manifest.passedOver) := by
  have htargets : ∀ unit, manifest.targetsOf unit =
      (manifest.knownContributions.filter fun entry => entry.unit = unit).map (·.target) := by
    intro unit
    simp only [targetsOf_eq, knownContributions, List.filter_filter]
  have hknown : ∀ entry ∈ manifest.knownContributions,
      entry.unit ∈ manifest.units ∧ entry.name = manifest.unitName entry.unit := by
    intro entry hentry
    have hmem : entry ∈ manifest.contributions := (List.mem_filter.1 hentry).1
    exact ⟨unit_mem_units_of_mem_contributions hmem, name_of_mem_contributions hmem⟩
  have hperm := laterTargets_perm (List.nodup_dedup _) manifest.knownContributions hknown
  simp only [← htargets] at hperm
  rw [indexReport_eq]
  exact hperm

end Manifest

/-- Every entry of a target list with a declared target is found once in either direction, in the order
of the manifest, and every other entry is an error. A function is a member of its module once if the
module is declared, and an error otherwise. A unit is warned about for each of its known targets but the
first one, which hosts it. -/
theorem contributions_are_conserved (manifest : Manifest) :
    (∀ unit component,
      (manifest.unitsOf component).count unit = (manifest.targetsOf unit).count component ∧
      (manifest.targetsOf unit).count component =
        if manifest.isComponent component then (manifest.declaredTargets unit).count component
        else 0) ∧
    (∀ unit,
      manifest.targetsOf unit = (manifest.declaredTargets unit).filter manifest.isComponent ∧
      manifest.hostOfUnit? unit = (manifest.targetsOf unit).head?) ∧
    manifest.indexReport.errors.filterMap GraphError.unknownTarget? = manifest.unknownTargets ∧
    (∀ id, (manifest.members id).Pairwise (· < ·) ∧
      ∀ position, (manifest.members id).count position =
        if manifest.isModule id ∧
          (manifest.declarations[position]?.bind Declaration.moduleId?) = some id then 1 else 0) ∧
    manifest.indexReport.errors.filterMap GraphError.unknownModule? = manifest.strayFunctions ∧
    manifest.indexReport.warnings.Perm (manifest.units.flatMap manifest.passedOver) := by
  have herrors : manifest.indexReport.errors = manifest.indexErrors := by
    rw [Manifest.indexReport_eq]
  rw [herrors]
  refine ⟨?_, ?_, Manifest.filterMap_unknownTarget?_indexErrors, ?_,
    Manifest.filterMap_unknownModule?_indexErrors, Manifest.warnings_indexReport_perm⟩
  · intro unit component
    exact ⟨Manifest.count_unitsOf_eq_count_targetsOf unit component,
      Manifest.count_targetsOf unit component⟩
  · intro unit
    exact ⟨Manifest.targetsOf_eq_filter_declaredTargets unit, Manifest.hostOfUnit?_eq_head? unit⟩
  · intro id
    exact ⟨Manifest.increasing_members id, Manifest.count_members id⟩

/-- The library is declared twice, and its second declaration repeats a target of the first one. -/
def libraryManifest : Manifest where
  entryPoint := "App"
  components := [⟨"App", none, .component, []⟩, ⟨"User", none, .subcomponent, ["App"]⟩]
  modules := [⟨"Library", ["User", "Missing"]⟩, ⟨"Library", ["App", "User"]⟩]
  declarations := [.provides ⟨"Library", "shelf", .resolved "Shelf", none, none, [], false⟩,
    .provides ⟨"Archive", "box", .resolved "Box", none, none, [], false⟩]

example : libraryManifest.indexReport =
    ⟨[.unresolvedScopeReference "Library" "Missing", .unknownModule "Archive::box" "Archive"],
      [.severalHosts "Library" "User" "App", .severalHosts "Library" "User" "User"]⟩ := by
  decide +kernel

end ObjectGraph
