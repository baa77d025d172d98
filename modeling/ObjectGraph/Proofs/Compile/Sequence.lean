import ObjectGraph.Proofs.Compile.Duplicates
import ObjectGraph.Proofs.Hierarchy.WellFormed

/-!
# Sequence — the order in which declarations are reported

The errors of the classification come visit by visit, and a component is visited for one unit after the
other: for its modules, in the order of the manifest, and only then for its injectables. So the errors of
one module come in the order of its functions and those of the injectables in the order of the manifest,
but a function is reported before an injectable that is declared earlier.

* `Draft.reports` — what one more declaration is reported with;
* `Manifest.attributed` — the errors of the classification, each with the visit that reports it;
* `Manifest.Before`, `Manifest.pairwise_unitsOf` — the order of the units of a component;
* `Manifest.Precedes`, `Manifest.pairwise_visits` — the order of the visits;
* `errors_follow_the_visits` — compilations.
-/

namespace ObjectGraph

/-! ## Errors of one declaration -/

namespace Draft

/-- The errors that one more declaration is reported with. -/
def reports (draft : Draft) (classified : Classified) : List GraphError :=
  (draft.add classified).errors.drop draft.errors.length

/-- A node that comes too late is reported, and nothing else is. -/
theorem errors_foldl_insert_eq (nodes : List Node) (draft : Draft) :
    ∃ refused : List Node, refused.Sublist nodes ∧ (nodes.foldl insert draft).errors =
      draft.errors ++ refused.map fun node => .duplicateBinding node.key node.host := by
  induction nodes generalizing draft with
  | nil => exact ⟨[], .refl [], by simp⟩
  | cons node rest ih =>
    rcases ih (draft.insert node) with ⟨refused, hsublist, herrors⟩
    rw [List.foldl_cons, herrors]
    by_cases hknown : draft.table.contains node.id = true
    · exact ⟨node :: refused, hsublist.cons_cons node, by simp [insert, hknown]⟩
    · exact ⟨refused, hsublist.cons node, by simp [insert, hknown]⟩

theorem errors_add_eq (draft : Draft) (classified : Classified) :
    ∃ refused : List Node, refused.Sublist classified.nodes ∧ (draft.add classified).errors =
      draft.errors ++ (classified.errors ++
        refused.map fun node => .duplicateBinding node.key node.host) := by
  rcases errors_foldl_insert_eq classified.nodes
    { draft with errors := draft.errors ++ classified.errors } with ⟨refused, hsublist, herrors⟩
  exact ⟨refused, hsublist, by rw [add, herrors, List.append_assoc]⟩

theorem errors_add (draft : Draft) (classified : Classified) :
    (draft.add classified).errors = draft.errors ++ draft.reports classified := by
  rcases draft.errors_add_eq classified with ⟨_, _, herrors⟩
  rw [reports, herrors, List.drop_left]

/-- The faults of a declaration are reported first, then those of its nodes that come too late. -/
theorem reports_eq (draft : Draft) (classified : Classified) :
    ∃ refused : List Node, refused.Sublist classified.nodes ∧ draft.reports classified =
      classified.errors ++ refused.map fun node => .duplicateBinding node.key node.host := by
  rcases draft.errors_add_eq classified with ⟨refused, hsublist, herrors⟩
  exact ⟨refused, hsublist, by rw [reports, herrors, List.drop_left]⟩

end Draft

/-- In the order of the hosts and, on each of them, of the declarations. -/
def Placement.NoLater (first second : Placement) : Prop :=
  first.host < second.host ∨ first.host = second.host ∧ first.position ≤ second.position

instance (first second : Placement) : Decidable (first.NoLater second) :=
  inferInstanceAs (Decidable
    (first.host < second.host ∨ first.host = second.host ∧ first.position ≤ second.position))

namespace Manifest

/-! ## Errors of the visits -/

/-- The errors that some visits are reported with, each with its visit. -/
def findings (manifest : Manifest) : Draft → List Placement → List (Placement × GraphError)
  | _, [] => []
  | draft, place :: rest =>
    ((draft.reports (manifest.classifyAt place)).map fun error => (place, error)) ++
      manifest.findings (draft.add (manifest.classifyAt place)) rest

/-- The errors of the classification, each with the visit that reports it. -/
def attributed (manifest : Manifest) (hierarchy : Hierarchy) : List (Placement × GraphError) :=
  manifest.findings Draft.empty (manifest.visits hierarchy)

variable {manifest : Manifest} {hierarchy : Hierarchy}

theorem errors_foldl_add (places : List Placement) (draft : Draft) :
    (places.foldl (fun draft place => draft.add (manifest.classifyAt place)) draft).errors =
      draft.errors ++ (manifest.findings draft places).map (·.2) := by
  induction places generalizing draft with
  | nil => simp [findings]
  | cons place rest ih =>
    rw [List.foldl_cons, ih, draft.errors_add]
    simp [findings, Function.comp_def]

theorem map_snd_attributed :
    (manifest.attributed hierarchy).map (·.2) = (manifest.draft hierarchy).errors := by
  rw [draft, errors_foldl_add]
  rfl

/-- The cause of a finding: a fault of the declaration, or a node of it that comes too late. -/
theorem mem_findings {places : List Placement} {draft : Draft} {finding : Placement × GraphError}
    (h : finding ∈ manifest.findings draft places) :
    finding.1 ∈ places ∧ (finding.2 ∈ (manifest.classifyAt finding.1).errors ∨
      ∃ node ∈ (manifest.classifyAt finding.1).nodes,
        finding.2 = .duplicateBinding node.key node.host) := by
  induction places generalizing draft with
  | nil => simp [findings] at h
  | cons place rest ih =>
    rcases List.mem_append.1 h with h | h
    · rcases List.mem_map.1 h with ⟨error, herror, rfl⟩
      refine ⟨List.mem_cons_self, ?_⟩
      rcases draft.reports_eq (manifest.classifyAt place) with ⟨refused, hsublist, hreports⟩
      rw [hreports] at herror
      rcases List.mem_append.1 herror with hfault | hrefused
      · exact Or.inl hfault
      · rcases List.mem_map.1 hrefused with ⟨node, hnode, rfl⟩
        exact Or.inr ⟨node, hsublist.subset hnode, rfl⟩
    · exact ⟨List.mem_cons_of_mem place (ih h).1, (ih h).2⟩

/-- No fault of a visited declaration is lost. -/
theorem mem_findings_of_mem_errors {places : List Placement} {place : Placement}
    (hplace : place ∈ places) {error : GraphError}
    (herror : error ∈ (manifest.classifyAt place).errors) (draft : Draft) :
    (place, error) ∈ manifest.findings draft places := by
  induction places generalizing draft with
  | nil => simp at hplace
  | cons other rest ih =>
    rcases List.mem_cons.1 hplace with rfl | hplace
    · rcases draft.reports_eq (manifest.classifyAt place) with ⟨refused, _, hreports⟩
      refine List.mem_append_left _ (List.mem_map.2 ⟨error, ?_, rfl⟩)
      rw [hreports]
      exact List.mem_append_left _ herror
    · exact List.mem_append_right _ (ih hplace _)

/-- Findings are ordered as their visits are. -/
theorem pairwise_findings {R : Placement → Placement → Prop} {places : List Placement}
    (hself : ∀ place ∈ places, R place place) (h : places.Pairwise R) (draft : Draft) :
    (manifest.findings draft places).Pairwise fun first second => R first.1 second.1 := by
  induction places generalizing draft with
  | nil => exact List.Pairwise.nil
  | cons place rest ih =>
    rcases List.pairwise_cons.1 h with ⟨hplace, hrest⟩
    rcases List.forall_mem_cons.1 hself with ⟨hsame, hself⟩
    refine List.pairwise_append.2 ⟨?_, ih hself hrest _, ?_⟩
    · -- The errors of one visit may come in any order.
      exact List.pairwise_map.2 (List.pairwise_of_forall fun _ _ => hsame)
    · intro first hfirst second hsecond
      rcases List.mem_map.1 hfirst with ⟨error, _, rfl⟩
      exact hplace second.1 (mem_findings hsecond).1

/-! ## Units of a component -/

/-- Modules come before injectables. Modules come in the order of their declarations, each of which may
stand for the module if there are several, and injectables in the order of their own. -/
def Before (manifest : Manifest) : ContributionUnit → ContributionUnit → Prop
  | .component _, _ => True
  | .moduleUnit id, .moduleUnit other =>
    id ≠ other ∧ [id, other].Sublist (manifest.modules.map (·.id))
  | .moduleUnit _, .injectable _ => True
  | .injectable position, .injectable other => position < other
  | .moduleUnit _, .component _ => False
  | .injectable _, .component _ => False
  | .injectable _, .moduleUnit _ => False

instance (unit other : ContributionUnit) : Decidable (manifest.Before unit other) :=
  match unit, other with
  | .component _, _ => .isTrue trivial
  | .moduleUnit id, .moduleUnit other =>
    inferInstanceAs (Decidable (id ≠ other ∧ [id, other].Sublist (manifest.modules.map (·.id))))
  | .moduleUnit _, .injectable _ => .isTrue trivial
  | .injectable position, .injectable other => inferInstanceAs (Decidable (position < other))
  | .moduleUnit _, .component _ => .isFalse not_false
  | .injectable _, .component _ => .isFalse not_false
  | .injectable _, .moduleUnit _ => .isFalse not_false

theorem unit_of_targetList? {declaration : Declaration} {position : Nat} {list : TargetList}
    (h : declaration.targetList? position = some list) : list.unit = .injectable position := by
  cases declaration with
  | injectable i =>
    cases h
    rfl
  | provides f => simp [Declaration.targetList?] at h
  | binds f => simp [Declaration.targetList?] at h

theorem pairwise_targetLists : manifest.targetLists.Pairwise fun first second =>
    first.unit = second.unit ∨ manifest.Before first.unit second.unit := by
  refine List.pairwise_append.2 ⟨List.pairwise_append.2 ⟨?_, ?_, ?_⟩, ?_, ?_⟩
  · exact List.pairwise_map.2 (List.pairwise_of_forall fun _ _ => Or.inr trivial)
  · refine List.pairwise_map.2 (List.pairwise_iff_forall_sublist.2 ?_)
    intro first second hsublist
    by_cases hsame : first.id = second.id
    · exact Or.inl (congrArg ContributionUnit.moduleUnit hsame)
    · exact Or.inr ⟨hsame, hsublist.map ModuleDeclaration.id⟩
  · intro first hfirst second _
    rcases List.mem_map.1 hfirst with ⟨component, _, rfl⟩
    exact Or.inr trivial
  · have hpositions : (manifest.declarations.zipIdx.map Prod.snd).Pairwise (· < ·) := by
      rw [List.zipIdx_map_snd]
      exact List.pairwise_lt_range'
    refine List.pairwise_filterMap.2 ((List.pairwise_map.1 hpositions).imp ?_)
    intro first second hlt list hlist other hother
    have hunit : list.unit = .injectable first.2 := unit_of_targetList? hlist
    have hotherUnit : other.unit = .injectable second.2 := unit_of_targetList? hother
    rw [hunit, hotherUnit]
    exact Or.inr hlt
  · intro first hfirst second hsecond
    rcases List.mem_filterMap.1 hsecond with ⟨entry, _, hlist⟩
    rw [unit_of_targetList? hlist]
    rcases List.mem_append.1 hfirst with hfirst | hfirst
    · rcases List.mem_map.1 hfirst with ⟨component, _, rfl⟩
      exact Or.inr trivial
    · rcases List.mem_map.1 hfirst with ⟨moduleDeclaration, _, rfl⟩
      exact Or.inr trivial

/-- A unit that occurs among those of a component again has the component in its target lists again. -/
theorem pairwise_unitsOf (component : ComponentId) :
    (manifest.unitsOf component).Pairwise fun unit other => manifest.Before unit other ∨
      unit = other ∧ 2 ≤ (manifest.targetsOf unit).count component := by
  have hcontributions : manifest.contributions.Pairwise fun first second =>
      first.unit = second.unit ∨ manifest.Before first.unit second.unit := by
    rw [contributions_eq_flatMap_entries]
    refine List.pairwise_flatMap.2 ⟨?_, pairwise_targetLists.imp ?_⟩
    · intro list _
      exact List.pairwise_map.2 (List.pairwise_of_forall fun _ _ => Or.inl rfl)
    · intro first second hunits entry hentry other hother
      rcases List.mem_map.1 hentry with ⟨_, _, rfl⟩
      rcases List.mem_map.1 hother with ⟨_, _, rfl⟩
      exact hunits
  have hunits : (manifest.unitsOf component).Pairwise fun unit other =>
      unit = other ∨ manifest.Before unit other := by
    rw [unitsOf_eq]
    exact List.pairwise_map.2 (hcontributions.filter _)
  refine List.pairwise_iff_forall_sublist.2 ?_
  intro unit other hsublist
  rcases List.pairwise_iff_forall_sublist.1 hunits hsublist with rfl | hbefore
  · -- A unit that stands before itself occurs twice.
    have hcount : 2 ≤ (manifest.unitsOf component).count unit :=
      List.replicate_sublist_iff.1 hsublist
    rw [count_unitsOf_eq_count_targetsOf] at hcount
    exact Or.inr ⟨rfl, hcount⟩
  · exact Or.inl hbefore

/-! ## Visits -/

/-- Why one visit comes before another: for an earlier host, for an earlier unit of the same host, for an
earlier declaration of the same unit, or because the host is named by that unit again. -/
inductive Precedes (manifest : Manifest) (first second : Placement) : Prop where
  | host : first.host < second.host → Precedes manifest first second
  | unit {unit other : ContributionUnit} : first.host = second.host →
      manifest.unitAt? first.position = some unit → manifest.unitAt? second.position = some other →
        manifest.Before unit other → Precedes manifest first second
  | position : first.host = second.host →
      manifest.unitAt? first.position = manifest.unitAt? second.position →
        first.position ≤ second.position → Precedes manifest first second
  | again {unit : ContributionUnit} : first.host = second.host →
      manifest.unitAt? first.position = some unit → manifest.unitAt? second.position = some unit →
        2 ≤ (manifest.targetsOf unit).count first.host → Precedes manifest first second

theorem increasing_positionsOf (unit : ContributionUnit) :
    (manifest.positionsOf unit).Pairwise (· < ·) := by
  cases unit with
  | injectable position => exact List.pairwise_singleton _ position
  | moduleUnit id => exact increasing_members id
  | component id => exact List.Pairwise.nil

theorem pairwise_visitsOf (component : ComponentId) :
    (manifest.visitsOf component).Pairwise fun position other => manifest.Precedes
      (placeAt hierarchy component position) (placeAt hierarchy component other) := by
  have hunitAt : ∀ unit ∈ (manifest.unitsOf component).filter fun unit =>
      manifest.hostOfUnit? unit = some component, ∀ position ∈ manifest.positionsOf unit,
        manifest.unitAt? position = some unit := by
    intro unit hunit position hposition
    have hhost : manifest.hostOfUnit? unit = some component := by
      simpa using (List.mem_filter.1 hunit).2
    exact (mem_positionsOf_iff hhost).1 hposition
  refine List.pairwise_flatMap.2 ⟨?_, ?_⟩
  · intro unit hunit
    refine (increasing_positionsOf unit).imp_of_mem ?_
    intro position other hposition hother hlt
    have hsame : manifest.unitAt? position = manifest.unitAt? other :=
      (hunitAt unit hunit position hposition).trans (hunitAt unit hunit other hother).symm
    exact .position rfl hsame (Nat.le_of_lt hlt)
  · refine ((pairwise_unitsOf component).filter _).imp_of_mem ?_
    intro unit other hunit hother hordered position hposition second hsecond
    have hfirstUnit := hunitAt unit hunit position hposition
    have hsecondUnit := hunitAt other hother second hsecond
    rcases hordered with hbefore | ⟨rfl, hcount⟩
    · exact .unit rfl hfirstUnit hsecondUnit hbefore
    · exact .again rfl hfirstUnit hsecondUnit hcount

theorem pairwise_visits (hincreasing : hierarchy.components.Pairwise (· < ·)) :
    (manifest.visits hierarchy).Pairwise manifest.Precedes := by
  refine List.pairwise_flatMap.2 ⟨?_, hincreasing.imp ?_⟩
  · intro component _
    exact List.pairwise_map.2 (pairwise_visitsOf component)
  · intro component other hlt first hfirst second hsecond
    rcases List.mem_map.1 hfirst with ⟨_, _, rfl⟩
    rcases List.mem_map.1 hsecond with ⟨_, _, rfl⟩
    exact .host hlt

/-- The units of each host come in the order in which the declarations of the host do. -/
def InInputOrder (manifest : Manifest) : Prop :=
  ∀ first second host unit other, manifest.hostOf? first = some host →
    manifest.hostOf? second = some host → manifest.unitAt? first = some unit →
      manifest.unitAt? second = some other → manifest.Before unit other → first ≤ second

/-- Only positions of declarations have hosts. -/
theorem inInputOrder_of_range (h : ∀ first ∈ List.range manifest.declarations.length,
    ∀ second ∈ List.range manifest.declarations.length,
      manifest.hostOf? first = manifest.hostOf? second →
        ∀ unit ∈ manifest.unitAt? first, ∀ other ∈ manifest.unitAt? second,
          manifest.Before unit other → first ≤ second) : manifest.InInputOrder := by
  intro first second host unit other hfirst hsecond hunit hother hbefore
  exact h first (List.mem_range.2 (lt_length_of_hostOf? hfirst)) second
    (List.mem_range.2 (lt_length_of_hostOf? hsecond)) (hfirst.trans hsecond.symm) unit hunit other
    hother hbefore

theorem Precedes.noLater {first second : Placement} (h : manifest.Precedes first second)
    (hfirst : manifest.hostOf? first.position = some first.host)
    (hsecond : manifest.hostOf? second.position = some second.host)
    (honce : manifest.NamesHostsOnce) (hinput : manifest.InInputOrder) : first.NoLater second := by
  cases h with
  | host hlt => exact Or.inl hlt
  | unit hhost hunit hother hbefore =>
    exact Or.inr ⟨hhost, hinput _ _ _ _ _ hfirst (hhost ▸ hsecond) hunit hother hbefore⟩
  | position hhost _ hle => exact Or.inr ⟨hhost, hle⟩
  | @again unit hhost hunit _ hcount =>
    have hunitHost : manifest.hostOfUnit? unit = some first.host := by
      simpa [hostOf?, hunit] using hfirst
    have hone := honce unit first.host hunitHost
    omega

end Manifest

/-- The errors of the classification are those of the visits: the faults of each declaration that is
visited, and its nodes that come too late. They come by host and, on each host, unit by unit, modules
before injectables, and for each unit by position. Where the units are in the order of the declarations
that go with them, and name their hosts once, the errors are in the order of the declarations too. -/
theorem errors_follow_the_visits {manifest : Manifest} {config : Config} {hierarchy : Hierarchy}
    (h : (manifest.resolveHierarchy config).1 = some hierarchy) :
    let found := manifest.attributed hierarchy
    (compile manifest config).errors.filter (fun error => error.stage = .classification) =
      found.map (·.2) ∧
    (∀ finding ∈ found, manifest.hostOf? finding.1.position = some finding.1.host ∧
      (finding.2 ∈ (manifest.classifyAt finding.1).errors ∨
        ∃ node ∈ (manifest.classifyAt finding.1).nodes,
          finding.2 = .duplicateBinding node.key node.host)) ∧
    (∀ component ∈ hierarchy.components, ∀ position,
      manifest.hostOf? position = some component →
        let place := Manifest.placeAt hierarchy component position
        ∀ error ∈ (manifest.classifyAt place).errors, (place, error) ∈ found) ∧
    (found.Pairwise fun first second => manifest.Precedes first.1 second.1) ∧
    (manifest.NamesHostsOnce → manifest.InInputOrder →
      found.Pairwise fun first second => first.1.NoLater second.1) := by
  intro found
  have hincreasing := hierarchy.increasing_components
  have hfound : ∀ finding ∈ found, manifest.hostOf? finding.1.position = some finding.1.host ∧
      (finding.2 ∈ (manifest.classifyAt finding.1).errors ∨
        ∃ node ∈ (manifest.classifyAt finding.1).nodes,
          finding.2 = .duplicateBinding node.key node.host) := by
    intro finding hfinding
    rcases Manifest.mem_findings hfinding with ⟨hplace, hcause⟩
    rcases Manifest.mem_visits_iff.1 hplace with ⟨component, _, position, hhost, hsame⟩
    rw [hsame] at hcause ⊢
    exact ⟨hhost, hcause⟩
  have hordered : found.Pairwise fun first second => manifest.Precedes first.1 second.1 :=
    Manifest.pairwise_findings (fun place _ => .position rfl rfl (Nat.le_refl place.position))
      (Manifest.pairwise_visits hincreasing) Draft.empty
  refine ⟨?_, hfound, ?_, hordered, ?_⟩
  · calc (compile manifest config).errors.filter (fun error => error.stage = .classification)
        = manifest.stageErrors config hierarchy .classification := filter_stage_compile h _
      _ = (manifest.draft hierarchy).errors := rfl
      _ = found.map (·.2) := Manifest.map_snd_attributed.symm
  · intro component hcomponent position hhost place error herror
    have hplace : place ∈ manifest.visits hierarchy :=
      Manifest.mem_visits_iff.2 ⟨component, hcomponent, position, hhost, rfl⟩
    exact Manifest.mem_findings_of_mem_errors hplace herror Draft.empty
  · intro honce hinput
    refine hordered.imp_of_mem ?_
    intro first second hfirst hsecond hprecedes
    exact hprecedes.noLater (hfound first hfirst).1 (hfound second hsecond).1 honce hinput

/-- Two functions of one module before an injectable of the same host, and one of another host before
all of them; none of the types is known. -/
def marketManifest : Manifest where
  entryPoint := "App"
  components := [⟨"App", none, .component, []⟩, ⟨"Cart", none, .subcomponent, ["App"]⟩]
  modules := [⟨"Net", ["App"]⟩]
  declarations :=
    [.injectable ⟨.unresolved "Basket", none, none, [], [], [], none, false, ["Cart"]⟩,
      .provides ⟨"Net", "client", .unresolved "Client", none, none, [], false⟩,
      .provides ⟨"Net", "server", .unresolved "Server", none, none, [], false⟩,
      .injectable ⟨.unresolved "Api", none, none, [], [], [], none, false, ["App"]⟩]

def marketHierarchy : Hierarchy := ⟨"App", .ofList [("App", ⟨none, none, ["Cart"], 0⟩), ("Cart", ⟨some "App", none, [], 1⟩)]⟩

/-- The basket is declared first and reported last, because its host comes last. -/
theorem market_errors_come_in_order :
    (marketManifest.resolveHierarchy .default).1 = some marketHierarchy ∧
      marketManifest.NamesHostsOnce ∧ marketManifest.InInputOrder ∧
      (compile marketManifest .default).errors.filter (fun error => error.stage = .classification) =
        [.unresolvedType "Net::client" "Client", .unresolvedType "Net::server" "Server",
          .unresolvedType "Api" "Api", .unresolvedType "Basket" "Basket"] ∧
      (marketManifest.attributed marketHierarchy).Pairwise fun first second =>
        first.1.NoLater second.1 := by
  have hresolve : (marketManifest.resolveHierarchy .default).1 = some marketHierarchy := by
    decide +kernel
  have honce : marketManifest.NamesHostsOnce :=
    Manifest.namesHostsOnce_of_units (by decide +kernel)
  have hinput : marketManifest.InInputOrder :=
    Manifest.inInputOrder_of_range (by decide +kernel)
  rcases errors_follow_the_visits hresolve with ⟨herrors, _, _, _, hordered⟩
  exact ⟨hresolve, honce, hinput, herrors.trans (by decide +kernel), hordered honce hinput⟩

/-- An injectable that is declared before a function of the same host. -/
def stationManifest : Manifest where
  entryPoint := "App"
  components := [⟨"App", none, .component, []⟩]
  modules := [⟨"Net", ["App"]⟩]
  declarations :=
    [.injectable ⟨.resolved "Api", none, none,
        [⟨"token", .unresolved "Token", none, .regular, .direct⟩], [], [], none, false, ["App"]⟩,
      .provides ⟨"Net", "client", .unresolved "Client", none, none, [], false⟩]

/-- The function is reported first. -/
theorem client_is_reported_before_the_api :
    (stationManifest.resolveHierarchy .default).1 = some clockHierarchy ∧
      stationManifest.hostOf? 0 = some "App" ∧ stationManifest.hostOf? 1 = some "App" ∧
      (compile stationManifest .default).errors =
        [.unresolvedType "Net::client" "Client", .unresolvedType "Api" "Token"] ∧
      (stationManifest.attributed clockHierarchy).map (fun finding => finding.1.position) = [1, 0] ∧
      ¬ (stationManifest.attributed clockHierarchy).Pairwise fun first second =>
        first.1.NoLater second.1 := by
  decide +kernel

end ObjectGraph
