import ObjectGraph.Proofs.Graph.Generated
import ObjectGraph.Proofs.Graph.Renumber
import ObjectGraph.Proofs.Reordered

/-!
# Order — what a compilation does not depend on

In another order of a manifest the same declarations are visited for the same components, each at
its other position. The nodes of all visits are then the same up to their positions. If their
identities differ, no visit order refuses one of them, and the table sorts them.

* `Declaration.classify_renumber` — classification does not read positions;
* `Manifest.Reordered.visits_perm` — the same visits in another order;
* `Manifest.errors_draft_eq_nil` — visits of distinct nodes leave no errors, in any order;
* `Manifest.Reordered.graph` — the same graph up to positions;
* `compile_ignores_order` — one verdict, one plan and one graph for all orders of a manifest.
-/

namespace ObjectGraph

/-! ## Classification -/

/-- The same place, with the declaration read at another position. -/
def Placement.renumber (positions : Nat → Nat) (place : Placement) : Placement :=
  { place with position := positions place.position }

def Classified.renumber (positions : Nat → Nat) (classified : Classified) : Classified :=
  ⟨classified.nodes.map (Node.renumber positions), classified.errors⟩

section Classification

variable (positions : Nat → Nat) (place : Placement)

theorem Injectable.factory?_renumber (injectable : Injectable) (type : TypeName)
    (supply : Supply) :
    injectable.factory? (place.renumber positions) type supply =
      (injectable.factory? place type supply).renumber positions := by
  simp only [factory?]
  split
  · rfl
  · split
    · rfl
    · rfl

theorem Injectable.classify_renumber (injectable : Injectable) :
    injectable.classify (place.renumber positions) =
      (injectable.classify place).renumber positions := by
  simp only [classify]
  split
  · rfl
  · split
    · rfl
    · -- The node, its factory and its aliases all come from the one position.
      simp only [factory?_renumber, Classified.renumber, List.map_append, List.map_cons,
        List.map_map]
      rfl

theorem ProvidesFunction.classify_renumber (function : ProvidesFunction) :
    function.classify (place.renumber positions) =
      (function.classify place).renumber positions := by
  simp only [classify]
  split
  · rfl
  · split
    · rfl
    · split
      · rfl
      · rfl

theorem BindsFunction.classify_renumber (function : BindsFunction) :
    function.classify (place.renumber positions) =
      (function.classify place).renumber positions := by
  simp only [classify]
  split
  · split
    · split
      · rfl
      · rfl
      · rfl
    · rfl
  · rfl

theorem Declaration.classify_renumber (declaration : Declaration) :
    declaration.classify (place.renumber positions) =
      (declaration.classify place).renumber positions := by
  cases declaration with
  | injectable i => exact i.classify_renumber positions place
  | provides f => exact f.classify_renumber positions place
  | binds f => exact f.classify_renumber positions place

end Classification

/-! ## Visits -/

namespace Manifest.Reordered

variable {positions : Equiv.Perm Nat} {first second : Manifest}

theorem classifyAt (h : Reordered positions first second) (place : Placement) :
    second.classifyAt (place.renumber positions) =
      (first.classifyAt place).renumber positions := by
  have hfound := h.declarations place.position
  simp only [Manifest.classifyAt, Placement.renumber, hfound]
  cases first.declarations[place.position]? with
  | none => rfl
  | some declaration => exact declaration.classify_renumber positions place

theorem unitsOf_perm (h : Reordered positions first second) (component : ComponentId) :
    (second.unitsOf component).Perm
      ((first.unitsOf component).map (ContributionUnit.renumber positions)) := by
  have hunits := (h.contributions_perm.filter fun entry =>
    entry.target = component && second.isKnown entry).map (·.unit)
  simp only [List.filter_map, List.map_map, Function.comp_def, h.isKnown] at hunits
  simp only [unitsOf_eq, List.map_map]
  exact hunits

theorem members_perm (h : Reordered positions first second) (id : ModuleId) :
    (second.members id).Perm ((first.members id).map positions) := by
  have hmembers := (h.zipIdx_perm.filter fun entry => entry.1.moduleId? = some id).map (·.2)
  simp only [List.filter_map, List.map_map] at hmembers
  simp only [members_eq, h.isModule]
  split
  · simp only [List.map_map]
    exact hmembers
  · exact List.Perm.refl _

theorem positionsOf_perm (h : Reordered positions first second) (unit : ContributionUnit) :
    (second.positionsOf (unit.renumber positions)).Perm
      ((first.positionsOf unit).map positions) := by
  cases unit with
  | injectable position => exact List.Perm.refl _
  | moduleUnit id => exact h.members_perm id
  | component id => exact List.Perm.refl _

theorem visitsOf_perm (h : Reordered positions first second) (component : ComponentId) :
    (second.visitsOf component).Perm ((first.visitsOf component).map positions) := by
  let hosted (manifest : Manifest) : List ContributionUnit :=
    (manifest.unitsOf component).filter fun unit => manifest.hostOfUnit? unit = some component
  have hhosted :
      (hosted second).Perm ((hosted first).map (ContributionUnit.renumber positions)) := by
    simpa only [List.filter_map, Function.comp_def, h.hostOfUnit?] using
      (h.unitsOf_perm component).filter fun unit => second.hostOfUnit? unit = some component
  rw [visitsOf_eq, visitsOf_eq]
  calc
    ((hosted second).flatMap second.positionsOf).Perm
        (((hosted first).map (ContributionUnit.renumber positions)).flatMap second.positionsOf) :=
      hhosted.flatMap_right _
    List.Perm _ ((hosted first).flatMap fun unit => (first.positionsOf unit).map positions) := by
      rw [List.flatMap_map]
      exact List.Perm.flatMap_left _ fun unit _ => h.positionsOf_perm unit
    List.Perm _ (((hosted first).flatMap first.positionsOf).map positions) := by
      rw [List.map_flatMap]

theorem visits_perm (h : Reordered positions first second) (hierarchy : Hierarchy) :
    (second.visits hierarchy).Perm
      ((first.visits hierarchy).map (Placement.renumber positions)) := by
  simp only [visits_eq, List.map_flatMap]
  apply List.Perm.flatMap_left
  intro component _
  have hplaces := (h.visitsOf_perm component).map fun position =>
    (⟨position, component, hierarchy.scope? component⟩ : Placement)
  simp only [List.map_map] at hplaces ⊢
  exact hplaces

/-- The nodes of all visits are the same up to their positions. -/
theorem nodes_perm (h : Reordered positions first second) (hierarchy : Hierarchy) :
    ((second.visits hierarchy).flatMap fun place => (second.classifyAt place).nodes).Perm
      (((first.visits hierarchy).flatMap fun place => (first.classifyAt place).nodes).map
        (Node.renumber positions)) := by
  have hnodes := (h.visits_perm hierarchy).flatMap_right fun place =>
    (second.classifyAt place).nodes
  simpa only [List.flatMap_map, List.map_flatMap, h.classifyAt, Classified.renumber] using hnodes

end Manifest.Reordered

/-! ## Drafts of distinct nodes -/

namespace Draft

/-- Nodes with new and distinct identities are all accepted. -/
theorem errors_foldl_insert {nodes : List Node} {draft : Draft}
    (hfresh : ∀ node ∈ nodes, draft.table.find? node.id = none)
    (hdistinct : (nodes.map Node.id).Nodup) :
    (nodes.foldl insert draft).errors = draft.errors := by
  induction nodes generalizing draft with
  | nil => rfl
  | cons node rest ih =>
    rcases List.nodup_cons.1 hdistinct with ⟨hnew, hrest⟩
    have hinsert : draft.insert node =
        { draft with table := draft.table.insertNew node.id node } := by
      simp [Draft.insert, Table.contains, hfresh node List.mem_cons_self]
    -- The rest is as new after the first node, whose identity is not among theirs.
    have hlater : ∀ other ∈ rest, (draft.insert node).table.find? other.id = none := by
      intro other hother
      have hne : other.id ≠ node.id := by
        intro heq
        exact hnew (heq ▸ List.mem_map_of_mem hother)
      simp [hinsert, Table.find?_insertNew, hne, hfresh other (List.mem_cons_of_mem _ hother)]
    calc
      ((node :: rest).foldl insert draft).errors = (draft.insert node).errors := ih hlater hrest
      _ = draft.errors := by rw [hinsert]

theorem add_of_errors {classified : Classified} (h : classified.errors = []) (draft : Draft) :
    draft.add classified = classified.nodes.foldl insert draft := by
  simp only [add, h, List.append_nil]

end Draft

namespace Manifest

variable {manifest : Manifest} {hierarchy : Hierarchy}

/-- Visits that are classified without errors and leave distinct nodes leave no errors. -/
theorem errors_draft_eq_nil
    (hclassified : ∀ place ∈ manifest.visits hierarchy, (manifest.classifyAt place).errors = [])
    (hdistinct : (((manifest.visits hierarchy).flatMap fun place =>
      (manifest.classifyAt place).nodes).map Node.id).Nodup) :
    (manifest.draft hierarchy).errors = [] := by
  have hdraft : manifest.draft hierarchy =
      ((manifest.visits hierarchy).flatMap fun place =>
        (manifest.classifyAt place).nodes).foldl Draft.insert Draft.empty := by
    rw [List.foldl_flatMap]
    apply List.foldl_ext
    intro draft place hplace
    exact Draft.add_of_errors (hclassified place hplace) draft
  rw [hdraft, Draft.errors_foldl_insert (fun _ _ => rfl) hdistinct]
  rfl

end Manifest

/-! ## Graphs -/

theorem Graph.Keyed.renumber {graph : Graph} (h : graph.Keyed) (positions : Nat → Nat) :
    (graph.renumber positions).Keyed := by
  intro id node hfound
  simp only [Graph.renumber, Table.find?_map] at hfound
  rcases Option.map_eq_some_iff.1 hfound with ⟨original, horiginal, rfl⟩
  exact h id original horiginal

namespace Manifest.Reordered

variable {positions : Equiv.Perm Nat} {first second : Manifest} {hierarchy : Hierarchy}

theorem errors_draft (h : Reordered positions first second)
    (hfirst : (first.draft hierarchy).errors = []) : (second.draft hierarchy).errors = [] := by
  rcases values_draft_perm hfirst with ⟨hclassified, hvalues⟩
  apply errors_draft_eq_nil
  · intro place hplace
    rcases List.mem_map.1 ((h.visits_perm hierarchy).subset hplace) with ⟨original, horiginal, rfl⟩
    rw [h.classifyAt]
    exact hclassified original horiginal
  · -- The identities are those in the table of the first graph.
    have hids : (((first.visits hierarchy).flatMap fun place =>
        (first.classifyAt place).nodes).map Node.id).Nodup :=
      (hvalues.map Node.id).nodup_iff.1 (first.keyed_graph hierarchy).nodup_map_id
    refine ((h.nodes_perm hierarchy).map Node.id).nodup_iff.2 ?_
    simp only [List.map_map]
    exact hids

theorem graph (h : Reordered positions first second)
    (hfirst : (first.draft hierarchy).errors = []) :
    second.graph hierarchy = (first.graph hierarchy).renumber positions := by
  have hnodes : (second.graph hierarchy).nodes.Perm
      ((first.graph hierarchy).renumber positions).nodes := by
    simp only [Graph.nodes_renumber]
    calc
      (second.graph hierarchy).nodes.Perm
          ((second.visits hierarchy).flatMap fun place => (second.classifyAt place).nodes) :=
        (values_draft_perm (h.errors_draft hfirst)).2
      List.Perm _ (((first.visits hierarchy).flatMap fun place =>
          (first.classifyAt place).nodes).map (Node.renumber positions)) :=
        h.nodes_perm hierarchy
      List.Perm _ ((first.graph hierarchy).nodes.map (Node.renumber positions)) :=
        ((values_draft_perm hfirst).2.map _).symm
  have htable := Graph.Keyed.table_eq_of_perm (second.keyed_graph hierarchy)
    ((first.keyed_graph hierarchy).renumber positions) hnodes
  exact congrArg (Graph.mk hierarchy) htable

/-! ## Compilations -/

/-- A success in one order is a success in the other, with the same plan and the same graph up to
positions. -/
theorem compile_eq_ok (h : Reordered positions first second) {config : Config}
    {compilation : Compilation} (hfirst : (compile first config).result = .ok compilation) :
    (compile second config).result =
      .ok ⟨second, compilation.graph.renumber positions, compilation.plan⟩ := by
  rcases ObjectGraph.compile_eq_ok hfirst with ⟨hierarchy, hresolve, hnone, _, hgraph, hplan⟩
  simp only [compile_errors hresolve, List.append_eq_nil_iff] at hnone
  rcases hnone with
    ⟨⟨⟨⟨⟨⟨⟨hindex, hparents, hdetached⟩, hscopes⟩, hdraft⟩, horphans⟩, hshadowing⟩,
      hdependencies⟩, hcycles⟩
  have hsecond : (second.resolveHierarchy config).1 = some hierarchy := by
    rw [h.resolveHierarchy]
    exact hresolve
  have hgraphs := h.graph hdraft
  have herrors : (compile second config).errors = [] := by
    have hsecondIndex : second.indexErrors = [] := (hindex ▸ h.indexErrors_perm).eq_nil
    have hsecondOrphans : second.orphans = [] := (horphans ▸ h.orphans_perm).eq_nil
    -- The stages after the drafts read the graphs alike.
    simp only [compile_errors hsecond, hgraphs, hsecondIndex, hsecondOrphans, hparents, hdetached,
      hscopes, hshadowing, hdependencies, hcycles, h.severalParents, h.detachedErrors,
      h.errors_draft hdraft, Graph.shadowingReport_renumber, Graph.dependencyErrors_renumber,
      Graph.cycleErrors_renumber, List.append_nil]
  rw [compile_eq_ok_of_errors hsecond herrors, hgraphs, Plan.ofGraph_renumber, hgraph, hplan]

end Manifest.Reordered

/-- Two orders of one manifest compile alike: to the same plan, and to graphs whose nodes differ in
their positions only, however the declarations have been rearranged. -/
theorem compile_ignores_order {first second : Manifest} (config : Config)
    (hentry : first.entryPoint = second.entryPoint)
    (hcomponents : first.components.Perm second.components)
    (hcomponentIds : (first.components.map (·.id)).Nodup)
    (hmodules : first.modules.Perm second.modules)
    (hmoduleIds : (first.modules.map (·.id)).Nodup)
    (hdeclarations : first.declarations.Perm second.declarations) :
    ((∃ compilation, (compile first config).result = .ok compilation) ↔
      ∃ compilation, (compile second config).result = .ok compilation) ∧
    ∀ one other, (compile first config).result = .ok one →
      (compile second config).result = .ok other →
      other.plan = one.plan ∧
        (∃ positions, Rearranges positions first.declarations second.declarations) ∧
        ∀ positions, Rearranges positions first.declarations second.declarations →
          other.graph = one.graph.renumber positions := by
  have hreordered : ∀ positions, Rearranges positions first.declarations second.declarations →
      Manifest.Reordered positions first second := by
    intro positions hpositions
    exact
      { entryPoint := hentry.symm
        components := hcomponents.symm
        distinctComponents := (hcomponents.map (·.id)).nodup_iff.1 hcomponentIds
        modules := hmodules.symm
        distinctModules := (hmodules.map (·.id)).nodup_iff.1 hmoduleIds
        declarations := hpositions }
  rcases exists_rearranges_of_perm hdeclarations with ⟨positions, hpositions⟩
  refine ⟨⟨?_, ?_⟩, ?_⟩
  · rintro ⟨one, hone⟩
    exact ⟨_, (hreordered positions hpositions).compile_eq_ok hone⟩
  · rintro ⟨other, hother⟩
    exact ⟨_, (hreordered positions hpositions).symm.compile_eq_ok hother⟩
  · intro one other hone hother
    have hall : ∀ positions, Rearranges positions first.declarations second.declarations →
        other = ⟨second, one.graph.renumber positions, one.plan⟩ := by
      intro positions hpositions
      exact Except.ok.inj (hother.symm.trans ((hreordered positions hpositions).compile_eq_ok hone))
    refine ⟨?_, ⟨positions, hpositions⟩, ?_⟩
    · rw [hall positions hpositions]
    · intro others hothers
      rw [hall others hothers]

/-- The shop with its components in the opposite order and its first two declarations exchanged. -/
def exchangedShop : Manifest :=
  { shopManifest with
    components := shopManifest.components.reverse
    declarations :=
      (shopManifest.declarations.take 2).reverse ++ shopManifest.declarations.drop 2 }

theorem exchanged_shop_has_the_same_plan :
    ∃ compilation, (compile exchangedShop .default).result = .ok compilation ∧
      compilation.plan = shopCompilation.plan ∧
      compilation.graph = shopCompilation.graph.renumber (Equiv.swap 0 1) := by
  have hcomponents : shopManifest.components.Perm exchangedShop.components :=
    (List.reverse_perm _).symm
  have hdeclarations : shopManifest.declarations.Perm exchangedShop.declarations :=
    List.Perm.swap _ _ _
  have hexchanged : Rearranges (Equiv.swap 0 1) shopManifest.declarations
      exchangedShop.declarations := rearranges_swap _ _ _
  have horder := @compile_ignores_order shopManifest exchangedShop .default rfl hcomponents
    (by decide) (List.Perm.refl _) (by decide) hdeclarations
  rcases horder.1.1 ⟨shopCompilation, compile_shopManifest⟩ with ⟨compilation, hcompile⟩
  rcases horder.2 shopCompilation compilation compile_shopManifest hcompile with ⟨hplan, _, hgraph⟩
  exact ⟨compilation, hcompile, hplan, hgraph _ hexchanged⟩

end ObjectGraph
