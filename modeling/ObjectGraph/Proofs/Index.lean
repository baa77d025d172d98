import ObjectGraph.Contribution
import ObjectGraph.Proofs.Table

/-!
# Index — the loops over the target lists against the entries of the lists

The index files every known target twice and grows member lists, errors and warnings on the way. After
any number of steps all of them are determined by the entries and the functions that have been read, and
that is what one more step preserves.

* `Manifest.contributions` — every entry of every target list, in the order of the manifest;
* `Manifest.indexErrors`, `Manifest.laterTargets` — what there is to report about entries;
* `ContributionIndex.Accounts` — the tables and the report against what has been read;
* `ContributionIndex.Accounts.contributeTo`, `ContributionIndex.Accounts.enroll` — one more step;
* `ContributionIndex.Accounts.foldl` — from a step to a loop;
* `Manifest.accounts_index` — the account of a whole manifest.
-/

namespace ObjectGraph

/-- One entry of a target list. The name is the contributing declaration's, for diagnostics. -/
structure Contribution where
  unit : ContributionUnit
  name : String
  target : ComponentId
  deriving DecidableEq, Repr

namespace Manifest

/-! ## Entries of the target lists -/

def componentContributions (manifest : Manifest) : List Contribution :=
  manifest.components.flatMap fun component =>
    component.contributesTo.map fun target => ⟨.component component.id, component.id, target⟩

def moduleContributions (manifest : Manifest) : List Contribution :=
  manifest.modules.flatMap fun moduleDeclaration =>
    moduleDeclaration.contributesTo.map fun target =>
      ⟨.moduleUnit moduleDeclaration.id, moduleDeclaration.id, target⟩

def declarationContributions (declaration : Declaration) (position : Nat) : List Contribution :=
  match declaration with
  | .injectable i =>
    i.contributesTo.map fun target => ⟨.injectable position, declaration.displayName, target⟩
  | .provides _ | .binds _ => []

def contributions (manifest : Manifest) : List Contribution :=
  manifest.componentContributions ++ manifest.moduleContributions ++
    manifest.declarations.zipIdx.flatMap fun entry => declarationContributions entry.1 entry.2

def isKnown (manifest : Manifest) (entry : Contribution) : Bool :=
  manifest.isComponent entry.target

/-- Entries whose target is declared. -/
def knownContributions (manifest : Manifest) : List Contribution :=
  manifest.contributions.filter manifest.isKnown

/-! ## Findings -/

def unresolvedTarget? (manifest : Manifest) (entry : Contribution) : Option GraphError :=
  if manifest.isKnown entry then none
  else some (.unresolvedScopeReference entry.name entry.target)

def declarationIndexErrors (manifest : Manifest) (declaration : Declaration) (position : Nat) :
    List GraphError :=
  match declaration.moduleId? with
  | none => (declarationContributions declaration position).filterMap manifest.unresolvedTarget?
  | some id => if manifest.isModule id then [] else [.unknownModule declaration.displayName id]

def indexErrors (manifest : Manifest) : List GraphError :=
  (manifest.componentContributions ++ manifest.moduleContributions).filterMap
      manifest.unresolvedTarget? ++
    manifest.declarations.zipIdx.flatMap fun entry =>
      manifest.declarationIndexErrors entry.1 entry.2

/-- A warning for every entry whose unit occurs in an earlier one. -/
def laterTargets (earlier : List Contribution) : List Contribution → List Warning
  | [] => []
  | entry :: rest =>
    match earlier.find? fun other => other.unit = entry.unit with
    | some host => .severalHosts entry.name host.target entry.target ::
        laterTargets (earlier ++ [entry]) rest
    | none => laterTargets (earlier ++ [entry]) rest

/-- An entry is judged by the entries before it. -/
theorem laterTargets_concat (earlier entries : List Contribution) (entry : Contribution) :
    laterTargets earlier (entries ++ [entry]) = laterTargets earlier entries ++
      (((earlier ++ entries).find? fun other => other.unit = entry.unit).map fun host =>
        Warning.severalHosts entry.name host.target entry.target).toList := by
  induction entries generalizing earlier with
  | nil =>
    cases hfound : earlier.find? fun other => other.unit = entry.unit <;>
      simp [laterTargets, hfound]
  | cons first rest ih =>
    have hrest := ih (earlier ++ [first])
    simp only [List.append_assoc, List.singleton_append] at hrest
    simp only [List.cons_append, laterTargets, hrest]
    split <;> rfl

end Manifest

/-! ## One step -/

namespace ContributionIndex

/-- The index holds what has been read so far: the known entries in both directions, the functions of
declared modules, the errors, and a warning for every known entry whose unit had a host already. -/
structure Accounts (manifest : Manifest) (entries : List Contribution)
    (functions : List (Declaration × Nat)) (errors : List GraphError) (index : ContributionIndex) :
    Prop where
  contributions : ∀ component, index.contributions.find? component =
    if manifest.isComponent component then
      some ((entries.filter fun entry =>
        entry.target = component && manifest.isKnown entry).map (·.unit))
    else none
  hosts : ∀ unit, index.hosts.group unit =
    (entries.filter fun entry => entry.unit = unit && manifest.isKnown entry).map (·.target)
  members : ∀ id, index.members.group id =
    if manifest.isModule id then
      (functions.filter fun entry => entry.1.moduleId? = some id).map (·.2)
    else []
  errors : index.report.errors = errors
  warnings : index.report.warnings = Manifest.laterTargets [] (entries.filter manifest.isKnown)

namespace Accounts

variable {manifest : Manifest} {entries : List Contribution}
  {functions : List (Declaration × Nat)} {errors : List GraphError} {index : ContributionIndex}

/-- Nothing has been read, and every declared component has an entry. -/
theorem start (manifest : Manifest) :
    Accounts manifest [] [] [] (.start manifest.componentIds) where
  contributions component := by
    simp [ContributionIndex.start, Table.find?_ofList_map, Manifest.componentIds,
      mem_sortedDistinct, Manifest.isComponent]
  hosts _ := rfl
  members _ := by simp [ContributionIndex.start, Table.group]
  errors := rfl
  warnings := rfl

theorem contains_contributions (h : Accounts manifest entries functions errors index)
    (component : ComponentId) :
    index.contributions.contains component = manifest.isComponent component := by
  simp only [Table.contains, h.contributions]
  split
  · rename_i hdeclared
    simp [hdeclared]
  · rename_i hdeclared
    simp [hdeclared]

/-- One more entry of a target list. -/
theorem contributeTo (h : Accounts manifest entries functions errors index)
    (entry : Contribution) :
    Accounts manifest (entries ++ [entry]) functions
      (errors ++ (manifest.unresolvedTarget? entry).toList)
      (index.contributeTo entry.unit entry.name entry.target) := by
  have hcontains := h.contains_contributions entry.target
  by_cases hentry : manifest.isKnown entry = true
  · have hknown : manifest.isComponent entry.target = true := hentry
    simp only [ContributionIndex.contributeTo, hcontains, hknown, if_true,
      Manifest.unresolvedTarget?, hentry, Option.toList_none, List.append_nil]
    refine ⟨?_, ?_, h.members, ?_, ?_⟩
    · intro component
      simp only [Table.find?_push]
      by_cases hsame : component = entry.target
      · subst hsame
        simp [Table.group, h.contributions, hknown, hentry]
      · simp [h.contributions, hsame, Ne.symm hsame]
    · intro unit
      simp only [Table.group_push]
      by_cases hsame : unit = entry.unit
      · subst hsame
        simp [h.hosts, hentry]
      · simp [h.hosts, hsame, Ne.symm hsame]
    · simp only
      split <;> simp [h.errors]
    · -- The unit has a host exactly if an earlier known entry is one of the same unit.
      have hhost : (index.hosts.group entry.unit).head? =
          ((entries.filter manifest.isKnown).find? fun other => other.unit = entry.unit).map
            (·.target) := by
        simp [h.hosts, List.head?_filter, List.find?_filter, Bool.and_comm]
      simp only [List.filter_append, List.filter_cons, hentry, if_true, List.filter_nil,
        Manifest.laterTargets_concat, List.nil_append]
      cases hfirst : (entries.filter manifest.isKnown).find? fun other =>
          other.unit = entry.unit with
      | none => simp [hhost, hfirst, h.warnings]
      | some first => simp [hhost, hfirst, h.warnings]
  · -- Nothing is filed under a target that nobody declares.
    have hknown : manifest.isComponent entry.target = false := Bool.eq_false_iff.2 hentry
    simp only [ContributionIndex.contributeTo, hcontains, hknown, Bool.false_eq_true, if_false,
      Manifest.unresolvedTarget?, hentry, Option.toList_some]
    refine ⟨?_, ?_, h.members, ?_, ?_⟩
    · intro component
      simp [h.contributions, hentry]
    · intro unit
      simp [h.hosts, hentry]
    · simp [h.errors, Report.ofErrors]
    · simp [h.warnings, Report.ofErrors, hentry]

/-- One more function, which has no target list. -/
theorem enroll (h : Accounts manifest entries functions errors index) {declaration : Declaration}
    {id : ModuleId} (hid : declaration.moduleId? = some id) (position : Nat) :
    Accounts manifest entries (functions ++ [(declaration, position)])
      (errors ++ manifest.declarationIndexErrors declaration position)
      (index.enroll manifest declaration.displayName id position) := by
  simp only [ContributionIndex.enroll, Manifest.declarationIndexErrors, hid]
  cases hmodule : manifest.isModule id with
  | false =>
    refine ⟨h.contributions, h.hosts, ?_, ?_, ?_⟩
    · intro other
      by_cases hsame : other = id
      · simp [h.members, hsame, hmodule]
      · simp [h.members, hid, Ne.symm hsame]
    · simp [h.errors, Report.ofErrors]
    · simp [h.warnings, Report.ofErrors]
  | true =>
    refine ⟨h.contributions, h.hosts, ?_, ?_, h.warnings⟩
    · intro other
      simp only [if_true, Table.group_push, h.members]
      by_cases hsame : other = id
      · simp [hsame, hmodule, hid]
      · simp [hsame, hid, Ne.symm hsame]
    · simp [h.errors]

/-! ## Loops -/

/-- Steps that read target lists: what they add adds up over a loop. -/
theorem foldl {α : Type} {step : ContributionIndex → α → ContributionIndex}
    {entriesOf : α → List Contribution}
    (hstep : ∀ item {entries errors index}, Accounts manifest entries functions errors index →
      Accounts manifest (entries ++ entriesOf item) functions
        (errors ++ (entriesOf item).filterMap manifest.unresolvedTarget?) (step index item))
    (h : Accounts manifest entries functions errors index) (items : List α) :
    Accounts manifest (entries ++ items.flatMap entriesOf) functions
      (errors ++ (items.flatMap entriesOf).filterMap manifest.unresolvedTarget?)
      (items.foldl step index) := by
  induction items generalizing entries errors index with
  | nil => simpa using h
  | cons item rest ih => simpa using ih (hstep item h)

/-- A whole target list. -/
theorem contribute (h : Accounts manifest entries functions errors index)
    (unit : ContributionUnit) (name : String) (targets : List ComponentId) :
    let added := targets.map fun target => (⟨unit, name, target⟩ : Contribution)
    Accounts manifest (entries ++ added) functions
      (errors ++ added.filterMap manifest.unresolvedTarget?)
      (index.contribute unit name targets) := by
  intro added
  have hstep : ∀ (target : ComponentId) {entries errors index},
      Accounts manifest entries functions errors index →
        Accounts manifest (entries ++ [⟨unit, name, target⟩]) functions
          (errors ++ [(⟨unit, name, target⟩ : Contribution)].filterMap manifest.unresolvedTarget?)
          (index.contributeTo unit name target) := by
    intro target entries errors index h
    simpa [List.filterMap_eq_flatMap_toList] using h.contributeTo ⟨unit, name, target⟩
  have hall := foldl hstep h targets
  simp only [← List.map_eq_flatMap] at hall
  exact hall

theorem addDeclaration (h : Accounts manifest entries functions errors index)
    (entry : Declaration × Nat) :
    Accounts manifest (entries ++ Manifest.declarationContributions entry.1 entry.2)
      (functions ++ [entry]) (errors ++ manifest.declarationIndexErrors entry.1 entry.2)
      (index.addDeclaration manifest entry) := by
  obtain ⟨declaration, position⟩ := entry
  cases declaration with
  | injectable i =>
    -- An injectable is in no module, so it is in no list of members.
    have hread := h.contribute (.injectable position) i.type.text i.contributesTo
    refine ⟨hread.contributions, hread.hosts, fun id => ?_, hread.errors, hread.warnings⟩
    refine (hread.members id).trans ?_
    simp [Declaration.moduleId?]
  | provides f =>
    have hid : (Declaration.provides f).moduleId? = some f.moduleId := rfl
    simp only [Manifest.declarationContributions, List.append_nil]
    exact h.enroll hid position
  | binds f =>
    have hid : (Declaration.binds f).moduleId? = some f.moduleId := rfl
    simp only [Manifest.declarationContributions, List.append_nil]
    exact h.enroll hid position

theorem addDeclarations (h : Accounts manifest entries functions errors index)
    (items : List (Declaration × Nat)) :
    Accounts manifest
      (entries ++ items.flatMap fun entry => Manifest.declarationContributions entry.1 entry.2)
      (functions ++ items)
      (errors ++ items.flatMap fun entry => manifest.declarationIndexErrors entry.1 entry.2)
      (items.foldl (ContributionIndex.addDeclaration manifest) index) := by
  induction items generalizing entries functions errors index with
  | nil => simpa using h
  | cons entry rest ih => simpa using ih (h.addDeclaration entry)

end Accounts
end ContributionIndex

namespace Manifest

/-- Everything that a manifest contributes is filed, and everything wrong with it is reported. -/
theorem accounts_index (manifest : Manifest) :
    ContributionIndex.Accounts manifest manifest.contributions manifest.declarations.zipIdx
      manifest.indexErrors manifest.index := by
  have hcomponents := ContributionIndex.Accounts.foldl
    (fun component _ _ _ h => h.contribute (.component component.id) component.id
      component.contributesTo) (ContributionIndex.Accounts.start manifest) manifest.components
  have hmodules := ContributionIndex.Accounts.foldl
    (fun moduleDeclaration _ _ _ h => h.contribute (.moduleUnit moduleDeclaration.id)
      moduleDeclaration.id moduleDeclaration.contributesTo) hcomponents manifest.modules
  have hall := hmodules.addDeclarations manifest.declarations.zipIdx
  simp only [List.nil_append, ← List.filterMap_append] at hall
  exact hall

/-! ## Reading the index -/

variable {manifest : Manifest}

theorem unitsOf_eq (component : ComponentId) :
    manifest.unitsOf component = (manifest.contributions.filter fun entry =>
      entry.target = component && manifest.isKnown entry).map (·.unit) := by
  simp only [unitsOf, Table.group, manifest.accounts_index.contributions]
  split
  · rfl
  · rename_i hdeclared
    -- An entry of a component that nobody declares is not known.
    have hnone : (manifest.contributions.filter fun entry =>
        entry.target = component && manifest.isKnown entry) = [] := by
      refine List.filter_eq_nil_iff.2 fun entry _ => ?_
      simp only [isKnown, Bool.and_eq_true, decide_eq_true_eq]
      rintro ⟨rfl, hknown⟩
      exact hdeclared hknown
    simp [hnone]

theorem targetsOf_eq (unit : ContributionUnit) :
    manifest.targetsOf unit = (manifest.contributions.filter fun entry =>
      entry.unit = unit && manifest.isKnown entry).map (·.target) :=
  manifest.accounts_index.hosts unit

/-- A unit that nothing is filed under has no host. -/
theorem hostOfUnit?_eq_head? (unit : ContributionUnit) :
    manifest.hostOfUnit? unit = (manifest.targetsOf unit).head? := by
  simp only [hostOfUnit?, ContributionIndex.host?, targetsOf, Table.group]
  cases manifest.index.hosts.find? unit <;> rfl

theorem members_eq (id : ModuleId) :
    manifest.members id = if manifest.isModule id then
      (manifest.declarations.zipIdx.filter fun entry => entry.1.moduleId? = some id).map (·.2)
    else [] :=
  manifest.accounts_index.members id

theorem indexReport_eq :
    manifest.indexReport = ⟨manifest.indexErrors, laterTargets [] manifest.knownContributions⟩ := by
  rw [← manifest.accounts_index.errors, knownContributions, ← manifest.accounts_index.warnings]
  rfl

end Manifest
end ObjectGraph
