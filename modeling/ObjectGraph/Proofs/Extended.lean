import ObjectGraph.Graph.Check
import ObjectGraph.Proofs.Hierarchy.Roots

/-!
# Extended manifests — a part that stands beside the rest

A part with components and modules of its own, which contributes to its own components only, can be
put behind the declarations of a manifest without being noticed by them. What the manifest declares
keeps its position, its targets and its host; its components keep their parents and are linked to no
component of the part, so they form the same tree and are visited for the same declarations.

* `Manifest.extend`, `Manifest.Separate` — two manifests in one, and when the second stands beside;
* `Manifest.Complete` — a manifest that names no unknown component and no unknown module;
* `Manifest.Separate.targetsOf`, `Manifest.Separate.unitsOf` — contributions in either direction;
* `Manifest.Separate.connected`, `Manifest.Separate.treeAt` — the connected components, the tree;
* `Manifest.Separate.draft` — the nodes and the errors of all visits.
-/

namespace ObjectGraph

namespace Manifest

/-- The declarations of two manifests, one after the other, with the first one's entry point. -/
def extend (manifest added : Manifest) : Manifest where
  entryPoint := manifest.entryPoint
  components := manifest.components ++ added.components
  modules := manifest.modules ++ added.modules
  declarations := manifest.declarations ++ added.declarations

/-- A part that can stand beside a manifest: its components and modules are its own, it names no others,
and everything in it has a place there. In any other way it may be as wrong as it likes. -/
structure Separate (manifest added : Manifest) : Prop where
  distinctComponents : (added.components.map (·.id)).Nodup
  freshComponents : ∀ component ∈ added.components, manifest.isComponent component.id = false
  freshModules : ∀ moduleDeclaration ∈ added.modules,
    manifest.isModule moduleDeclaration.id = false
  componentTargets : ∀ component ∈ added.components, ∀ target ∈ component.contributesTo,
    added.isComponent target = true
  moduleTargets : ∀ moduleDeclaration ∈ added.modules,
    ∀ target ∈ moduleDeclaration.contributesTo, added.isComponent target = true
  injectableTargets : ∀ injectable, .injectable injectable ∈ added.declarations →
    ∀ target ∈ injectable.contributesTo, added.isComponent target = true
  singleParents : ∀ component ∈ added.components, component.kind = .subcomponent →
    component.contributesTo.length ≤ 1
  functions : ∀ declaration ∈ added.declarations, ∀ id, declaration.moduleId? = some id →
    added.isModule id = true
  hostedInjectables : ∀ injectable, .injectable injectable ∈ added.declarations →
    injectable.contributesTo ≠ []
  hostedFunctions : ∀ declaration ∈ added.declarations, ∀ moduleDeclaration ∈ added.modules,
    declaration.moduleId? = some moduleDeclaration.id → moduleDeclaration.contributesTo ≠ []

variable {manifest added : Manifest}

/-! ## Complete manifests -/

/-- Every target is a declared component, and every function has a declared module. -/
structure Complete (manifest : Manifest) : Prop where
  known : ∀ entry ∈ manifest.contributions, manifest.isComponent entry.target = true
  modules : ∀ declaration ∈ manifest.declarations, ∀ id, declaration.moduleId? = some id →
    manifest.isModule id = true

theorem filterMap_unresolvedTarget?_eq_nil_iff {entries : List Contribution} :
    entries.filterMap manifest.unresolvedTarget? = [] ↔
      ∀ entry ∈ entries, manifest.isComponent entry.target = true := by
  simp only [List.filterMap_eq_nil_iff]
  refine forall₂_congr fun entry _ => ?_
  by_cases hknown : manifest.isComponent entry.target = true
  · simp [unresolvedTarget?, isKnown, hknown]
  · simp [unresolvedTarget?, isKnown, hknown]

theorem declarationIndexErrors_eq_nil_iff {declaration : Declaration} {position : Nat} :
    manifest.declarationIndexErrors declaration position = [] ↔
      (∀ entry ∈ declarationContributions declaration position,
        manifest.isComponent entry.target = true) ∧
      ∀ id, declaration.moduleId? = some id → manifest.isModule id = true := by
  cases declaration with
  | injectable i =>
    simp only [declarationIndexErrors, filterMap_unresolvedTarget?_eq_nil_iff,
      Declaration.moduleId?, reduceCtorEq, false_implies, implies_true, and_true]
  | provides f => simp [declarationIndexErrors, Declaration.moduleId?, declarationContributions]
  | binds f => simp [declarationIndexErrors, Declaration.moduleId?, declarationContributions]

theorem indexErrors_eq_nil_iff : manifest.indexErrors = [] ↔ manifest.Complete := by
  simp only [indexErrors, List.append_eq_nil_iff, filterMap_unresolvedTarget?_eq_nil_iff,
    List.flatMap_eq_nil_iff, declarationIndexErrors_eq_nil_iff]
  constructor
  · rintro ⟨hnamed, hdeclared⟩
    refine ⟨?_, ?_⟩
    · intro entry hentry
      rcases List.mem_append.1 hentry with hentry | hentry
      · exact hnamed entry hentry
      · rcases List.mem_flatMap.1 hentry with ⟨place, hplace, hentry⟩
        exact (hdeclared place hplace).1 entry hentry
    · intro declaration hmem
      rcases List.getElem?_of_mem hmem with ⟨position, hposition⟩
      exact (hdeclared (declaration, position) (List.mem_zipIdx_iff_getElem?.2 hposition)).2
  · intro h
    refine ⟨fun entry hentry => h.known entry (List.mem_append_left _ hentry), ?_⟩
    intro place hplace
    refine ⟨?_, h.modules place.1 (List.fst_mem_of_mem_zipIdx hplace)⟩
    intro entry hentry
    exact h.known entry (List.mem_append_right _ (List.mem_flatMap.2 ⟨place, hplace, hentry⟩))

/-! ## Entries -/

theorem contributions_extend : (manifest.extend added).contributions =
    manifest.componentContributions ++ added.componentContributions ++
      (manifest.moduleContributions ++ added.moduleContributions) ++
      ((manifest.declarations.zipIdx.flatMap fun entry =>
          declarationContributions entry.1 entry.2) ++
        (added.declarations.zipIdx manifest.declarations.length).flatMap fun entry =>
          declarationContributions entry.1 entry.2) := by
  simp only [contributions, extend, componentContributions, moduleContributions,
    List.flatMap_append, List.zipIdx_append, Nat.zero_add]

theorem mem_contributions_extend {entry : Contribution} :
    entry ∈ (manifest.extend added).contributions ↔
      entry ∈ manifest.contributions ∨
        entry ∈ added.contributionsFrom manifest.declarations.length := by
  rw [contributions_extend]
  simp only [contributions, contributionsFrom, List.mem_append]
  tauto

theorem isComponent_extend (id : ComponentId) :
    (manifest.extend added).isComponent id = (manifest.isComponent id || added.isComponent id) :=
  List.any_append

theorem isModule_extend (id : ModuleId) :
    (manifest.extend added).isModule id = (manifest.isModule id || added.isModule id) :=
  List.any_append

theorem isComponent_entryPoint (hentry : manifest.isComponent manifest.entryPoint = true) :
    (manifest.extend added).isComponent (manifest.extend added).entryPoint = true := by
  rw [isComponent_extend]
  exact Bool.or_eq_true_iff.2 (Or.inl hentry)

/-- Whatever is read off the entries is read off those of the first manifest, if the others do not
count. -/
theorem filter_contributions_extend {p p' : Contribution → Bool}
    (hkept : ∀ entry ∈ manifest.contributions, p' entry = p entry)
    (hdropped : ∀ entry ∈ added.contributionsFrom manifest.declarations.length, p' entry = false) :
    (manifest.extend added).contributions.filter p' = manifest.contributions.filter p := by
  simp only [contributions, List.mem_append, or_imp, forall_and] at hkept
  simp only [contributionsFrom, List.mem_append, or_imp, forall_and] at hdropped
  have hnone : ∀ entries : List Contribution, (∀ entry ∈ entries, p' entry = false) →
      entries.filter p' = [] := by
    intro entries hentries
    apply List.filter_eq_nil_iff.2
    simpa using hentries
  -- Components, modules and declarations, each with those of the part behind them.
  rw [contributions_extend]
  simp only [contributions, List.filter_append, List.filter_congr hkept.1.1,
    List.filter_congr hkept.1.2, List.filter_congr hkept.2, hnone _ hdropped.1.1,
    hnone _ hdropped.1.2, hnone _ hdropped.2, List.append_nil]

namespace Separate

theorem isComponent_eq_false (h : manifest.Separate added) {id : ComponentId}
    (hid : added.isComponent id = true) : manifest.isComponent id = false := by
  rcases List.any_eq_true.1 hid with ⟨component, hcomponent, hsame⟩
  simp only [decide_eq_true_eq] at hsame
  exact hsame ▸ h.freshComponents component hcomponent

theorem isModule_eq_false (h : manifest.Separate added) {id : ModuleId}
    (hid : added.isModule id = true) : manifest.isModule id = false := by
  rcases List.any_eq_true.1 hid with ⟨moduleDeclaration, hmodule, hsame⟩
  simp only [decide_eq_true_eq] at hsame
  exact hsame ▸ h.freshModules moduleDeclaration hmodule

/-- The part contributes to its own components, under names and positions of its own. -/
theorem of_mem_contributionsFrom (h : manifest.Separate added) {entry : Contribution}
    (hentry : entry ∈ added.contributionsFrom manifest.declarations.length) :
    added.isComponent entry.target = true ∧ ¬ manifest.Declares entry.unit := by
  cases contributes_of_mem hentry with
  | component hcomponent htarget =>
    refine ⟨h.componentTargets _ hcomponent _ htarget, ?_⟩
    simp [Declares, h.freshComponents _ hcomponent]
  | moduleUnit hmodule htarget =>
    refine ⟨h.moduleTargets _ hmodule _ htarget, ?_⟩
    simp [Declares, h.freshModules _ hmodule]
  | injectable hposition hfound htarget =>
    refine ⟨h.injectableTargets _ (List.mem_of_getElem? hfound) _ htarget, ?_⟩
    simp [Declares, List.getElem?_eq_none hposition]

/-! ## Targets and hosts -/

/-- What the manifest declares keeps its targets. -/
theorem targetsOf (h : manifest.Separate added) (hcomplete : manifest.Complete)
    {unit : ContributionUnit} (hunit : manifest.Declares unit) :
    (manifest.extend added).targetsOf unit = manifest.targetsOf unit := by
  rw [targetsOf_eq, targetsOf_eq]
  refine congrArg (List.map (·.target)) (filter_contributions_extend ?_ ?_)
  · intro entry hentry
    simp [Manifest.isKnown, isComponent_extend, hcomplete.known entry hentry]
  · intro entry hentry
    have hne : entry.unit ≠ unit := by
      rintro rfl
      exact (h.of_mem_contributionsFrom hentry).2 hunit
    simp [hne]

theorem targetsOf_component (h : manifest.Separate added) (hcomplete : manifest.Complete)
    {id : ComponentId} (hid : manifest.isComponent id = true) :
    (manifest.extend added).targetsOf (.component id) = manifest.targetsOf (.component id) :=
  h.targetsOf hcomplete hid

/-- What is contributed to a component of the manifest stays the same. -/
theorem unitsOf (h : manifest.Separate added) (hcomplete : manifest.Complete)
    {component : ComponentId} (hcomponent : manifest.isComponent component = true) :
    (manifest.extend added).unitsOf component = manifest.unitsOf component := by
  rw [unitsOf_eq, unitsOf_eq]
  refine congrArg (List.map (·.unit)) (filter_contributions_extend ?_ ?_)
  · intro entry hentry
    simp [Manifest.isKnown, isComponent_extend, hcomplete.known entry hentry]
  · intro entry hentry
    have hne : entry.target ≠ component := by
      rintro rfl
      simp [h.isComponent_eq_false (h.of_mem_contributionsFrom hentry).1] at hcomponent
    simp [hne]

theorem hostOfUnit? (h : manifest.Separate added) (hcomplete : manifest.Complete)
    {unit : ContributionUnit} (hunit : manifest.Declares unit) :
    (manifest.extend added).hostOfUnit? unit = manifest.hostOfUnit? unit := by
  rw [hostOfUnit?_eq_head?, hostOfUnit?_eq_head?, h.targetsOf hcomplete hunit]

/-- Components of the part contribute to components of the part. -/
theorem isComponent_of_mem_targetsOf (h : manifest.Separate added) {component target : ComponentId}
    (hcomponent : manifest.isComponent component = false)
    (htarget : target ∈ (manifest.extend added).targetsOf (.component component)) :
    added.isComponent target = true := by
  rcases mem_targetsOf_iff.1 htarget with ⟨_, entry, hentry, hunit, rfl⟩
  rcases mem_contributions_extend.1 hentry with hentry | hentry
  · have hdeclared := declares_of_mem_contributions hentry
    simp [hunit, Declares, hcomponent] at hdeclared
  · exact (h.of_mem_contributionsFrom hentry).1

/-! ## The tree -/

/-- The last declaration of a component of the manifest is not in the part. -/
theorem effectiveComponent? (h : manifest.Separate added) {id : ComponentId}
    (hid : manifest.isComponent id = true) :
    (manifest.extend added).effectiveComponent? id = manifest.effectiveComponent? id := by
  have hnone : added.components.reverse.find? (fun component => component.id = id) = none := by
    apply List.find?_eq_none.2
    intro component hcomponent
    have hfresh := h.freshComponents component (List.mem_reverse.1 hcomponent)
    simp only [decide_eq_true_eq]
    rintro rfl
    simp [hfresh] at hid
  simp only [Manifest.effectiveComponent?, List.findRev?_eq_find?_reverse, extend,
    List.reverse_append, List.find?_append, hnone, Option.none_or]

theorem isSubcomponent (h : manifest.Separate added) {id : ComponentId}
    (hid : manifest.isComponent id = true) :
    (manifest.extend added).isSubcomponent id = manifest.isSubcomponent id := by
  simp only [Manifest.isSubcomponent, h.effectiveComponent? hid]

theorem parent? (h : manifest.Separate added) (hcomplete : manifest.Complete) {id : ComponentId}
    (hid : manifest.isComponent id = true) :
    (manifest.extend added).parent? id = manifest.parent? id := by
  have hhost : (manifest.extend added).hostOfUnit? (.component id) =
      manifest.hostOfUnit? (.component id) :=
    h.hostOfUnit? hcomplete hid
  simp only [Manifest.parent?, h.isSubcomponent hid, hhost]

theorem linked_iff (h : manifest.Separate added) (hcomplete : manifest.Complete)
    {a b : ComponentId} (ha : manifest.isComponent a = true) :
    (manifest.extend added).Linked a b ↔ manifest.Linked a b := by
  have hforward : b ∈ (manifest.extend added).targetsOf (.component a) ↔
      b ∈ manifest.targetsOf (.component a) := by
    simp only [h.targetsOf_component hcomplete ha]
  have hbackward : a ∈ (manifest.extend added).targetsOf (.component b) ↔
      a ∈ manifest.targetsOf (.component b) := by
    cases hb : manifest.isComponent b with
    | true => simp only [h.targetsOf_component hcomplete hb]
    | false =>
      -- No component of the part contributes to the manifest.
      constructor
      · intro htarget
        have hadded := h.isComponent_of_mem_targetsOf hb htarget
        simp [h.isComponent_eq_false hadded] at ha
      · intro htarget
        have hlinked := isComponent_of_linked (Or.inl htarget)
        simp [hb] at hlinked
  exact or_congr hforward hbackward

/-- The same components are connected to the entry point. -/
theorem connected_iff (h : manifest.Separate added) (hcomplete : manifest.Complete)
    (hentry : manifest.isComponent manifest.entryPoint = true) {component : ComponentId} :
    (manifest.extend added).Connected component ↔ manifest.Connected component := by
  have hdeclared : ∀ {component : ComponentId}, manifest.Connected component →
      manifest.isComponent component = true := by
    intro component hconnected
    cases hconnected with
    | refl => exact hentry
    | tail _ hlinked => exact (isComponent_of_linked hlinked).2
  constructor
  · intro hconnected
    induction hconnected with
    | refl => exact .refl
    | tail _ hlinked ih => exact ih.tail ((h.linked_iff hcomplete (hdeclared ih)).1 hlinked)
  · intro hconnected
    induction hconnected with
    | refl => exact .refl
    | tail hbefore hlinked ih =>
      exact ih.tail ((h.linked_iff hcomplete (hdeclared hbefore)).2 hlinked)

theorem connected (h : manifest.Separate added) (hcomplete : manifest.Complete)
    (hentry : manifest.isComponent manifest.entryPoint = true) :
    (manifest.extend added).connected = manifest.connected :=
  connected_congr ((isComponent_entryPoint hentry).trans hentry.symm) fun _ =>
    h.connected_iff hcomplete hentry

theorem rootCandidates (h : manifest.Separate added) (hcomplete : manifest.Complete)
    (hentry : manifest.isComponent manifest.entryPoint = true) :
    (manifest.extend added).rootCandidates = manifest.rootCandidates := by
  simp only [Manifest.rootCandidates, h.connected hcomplete hentry]
  apply List.filter_congr
  intro component hmem
  have hcomponent := isComponent_of_mem_connected hmem
  rw [find?_parents, find?_parents, isComponent_extend, hcomponent, Bool.true_or,
    h.parent? hcomplete hcomponent]

/-- No component of the part hangs from a component of the manifest. -/
theorem parent?_eq_some_iff (h : manifest.Separate added) (hcomplete : manifest.Complete)
    {parent child : ComponentId} (hparent : manifest.isComponent parent = true) :
    (manifest.extend added).parent? child = some parent ↔ manifest.parent? child = some parent := by
  cases hchild : manifest.isComponent child with
  | true => rw [h.parent? hcomplete hchild]
  | false =>
    constructor
    · intro hup
      have hadded := h.isComponent_of_mem_targetsOf hchild (mem_targetsOf_of_parent? hup)
      simp [h.isComponent_eq_false hadded] at hparent
    · intro hup
      simp [(isComponent_of_linked (linked_of_parent? hup)).1] at hchild

theorem treeAt (h : manifest.Separate added) (hcomplete : manifest.Complete)
    {root : ComponentId} (hentry : manifest.isComponent manifest.entryPoint = true)
    (hroot : manifest.rootCandidates = [root]) :
    (manifest.extend added).treeAt root = manifest.treeAt root := by
  have hdeclared : ∀ component, LeadsUp manifest.parent? component root →
      manifest.isComponent component = true := by
    intro component hleads
    have hconnected := connected_of_leadsUp_to
      ((topmost_iff_eq_root hentry hroot root).2 rfl).1 hleads
    exact isComponent_of_mem_connected ((mem_connected_iff hentry).2 hconnected)
  have htop := parent?_root hroot
  refine treeAt_congr htop ((h.parent? hcomplete (hdeclared root .refl)).trans htop) ?_ ?_
  · intro parent hleads child
    exact h.parent?_eq_some_iff hcomplete (hdeclared parent hleads)
  · intro component hleads
    rw [h.effectiveComponent? (hdeclared component hleads)]

theorem detached (h : manifest.Separate added) (hcomplete : manifest.Complete)
    (hentry : manifest.isComponent manifest.entryPoint = true) (hierarchy : Hierarchy) :
    (manifest.extend added).detached hierarchy = manifest.detached hierarchy := by
  simp only [Manifest.detached, h.connected hcomplete hentry]

/-! ## Visits -/

/-- The functions of the part are not in modules of the manifest. -/
theorem members (h : manifest.Separate added) {id : ModuleId}
    (hid : manifest.isModule id = true) :
    (manifest.extend added).members id = manifest.members id := by
  have hnone : ((added.declarations.zipIdx manifest.declarations.length).filter fun entry =>
      entry.1.moduleId? = some id) = [] := by
    apply List.filter_eq_nil_iff.2
    intro entry hentry
    simp only [decide_eq_true_eq]
    intro hmodule
    have hadded := h.functions entry.1 (List.fst_mem_of_mem_zipIdx hentry) id hmodule
    simp [h.isModule_eq_false hadded] at hid
  simp only [members_eq, isModule_extend, hid, Bool.true_or, if_true]
  simp only [extend, List.zipIdx_append, Nat.zero_add, List.filter_append, hnone, List.append_nil]

theorem positionsOf (h : manifest.Separate added) {unit : ContributionUnit}
    (hunit : manifest.Declares unit) :
    (manifest.extend added).positionsOf unit = manifest.positionsOf unit := by
  cases unit with
  | injectable position => rfl
  | moduleUnit id => exact h.members hunit
  | component id => rfl

theorem visitsOf (h : manifest.Separate added) (hcomplete : manifest.Complete)
    {component : ComponentId} (hcomponent : manifest.isComponent component = true) :
    (manifest.extend added).visitsOf component = manifest.visitsOf component := by
  have hdeclared : ∀ unit ∈ manifest.unitsOf component, manifest.Declares unit := by
    intro unit hunit
    rcases (mem_unitsOf_iff.1 hunit).2 with ⟨entry, hentry, rfl, _⟩
    exact declares_of_mem_contributions hentry
  have hhosted : ((manifest.unitsOf component).filter fun unit =>
      (manifest.extend added).hostOfUnit? unit = some component) =
        (manifest.unitsOf component).filter fun unit =>
          manifest.hostOfUnit? unit = some component := by
    apply List.filter_congr
    intro unit hunit
    rw [h.hostOfUnit? hcomplete (hdeclared unit hunit)]
  simp only [visitsOf_eq, h.unitsOf hcomplete hcomponent, hhosted]
  apply List.flatMap_congr
  intro unit hunit
  exact h.positionsOf (hdeclared unit (List.mem_filter.1 hunit).1)

theorem classifyAt {place : Placement} (hposition : place.position < manifest.declarations.length) :
    (manifest.extend added).classifyAt place = manifest.classifyAt place := by
  simp only [Manifest.classifyAt, extend, List.getElem?_append_left hposition]

/-- A hierarchy of the manifest's components has the same nodes and the same errors. -/
theorem draft (h : manifest.Separate added) (hcomplete : manifest.Complete) {hierarchy : Hierarchy}
    (hmembers : ∀ component ∈ hierarchy.components, manifest.isComponent component = true) :
    (manifest.extend added).draft hierarchy = manifest.draft hierarchy := by
  have hvisits : (manifest.extend added).visits hierarchy = manifest.visits hierarchy := by
    rw [visits_eq, visits_eq]
    apply List.flatMap_congr
    intro component hcomponent
    rw [h.visitsOf hcomplete (hmembers component hcomponent)]
  simp only [Manifest.draft, hvisits]
  apply List.foldl_ext
  intro draft place hplace
  rcases List.mem_flatMap.1 hplace with ⟨component, _, hplace⟩
  rcases List.mem_map.1 hplace with ⟨position, hposition, rfl⟩
  have hhost : manifest.hostOf? position = some component := mem_visitsOf_iff.1 hposition
  -- A declaration that is visited has a host, so it is there.
  rw [classifyAt (lt_length_of_hostOf? hhost)]

end Separate
end Manifest
end ObjectGraph
