import Mathlib.Algebra.GroupWithZero.Nat
import Mathlib.Data.List.Nodup
import Mathlib.Data.List.Perm.Basic
import ObjectGraph.Proofs.Contribution
import ObjectGraph.Proofs.Graph.Classify
import ObjectGraph.Proofs.Graph.Nodes
import ObjectGraph.Proofs.Hierarchy.Resolve
import ObjectGraph.Proofs.KeyedList

/-!
# Generated nodes — what the declarations of a hierarchy leave in its graph

A draft without errors has refused no node and classified every visited declaration, so its table
lists the nodes of all visits. Their identities differ, hence no declaration is visited twice.

* `Manifest.generated` — the outlines of the declarations that a component hosts;
* `Manifest.values_draft_perm` — without errors every visit adds its nodes;
* `Manifest.outlines_nodesOf_perm_visited` — the nodes of a component, visit by visit;
* `Manifest.nodup_visitsOf` — no declaration is visited twice;
* `nodes_are_generated_once` — no declaration is lost, duplicated or invented.
-/

namespace ObjectGraph

/-! ## Drafts without errors -/

namespace Draft

theorem values_insert_perm {draft : Draft} {node : Node} (h : (draft.insert node).errors = []) :
    draft.errors = [] ∧ (draft.insert node).table.values.Perm (node :: draft.table.values) := by
  simp only [Draft.insert] at h ⊢
  split at h
  · -- A refused node is an error.
    simp at h
  · rename_i hnew
    have hfresh : draft.table.find? node.id = none := by
      simpa [Table.contains] using hnew
    refine ⟨h, ?_⟩
    simpa [hnew] using Table.values_insertNew_perm hfresh

theorem values_foldl_insert_perm {nodes : List Node} {draft : Draft}
    (h : (nodes.foldl insert draft).errors = []) :
    draft.errors = [] ∧
      (nodes.foldl insert draft).table.values.Perm (nodes ++ draft.table.values) := by
  induction nodes generalizing draft with
  | nil => exact ⟨h, List.Perm.refl _⟩
  | cons node rest ih =>
    rcases ih h with ⟨hrest, hvalues⟩
    rcases values_insert_perm hrest with ⟨hdraft, hnode⟩
    refine ⟨hdraft, ?_⟩
    calc
      ((node :: rest).foldl insert draft).table.values.Perm
          (rest ++ (draft.insert node).table.values) := hvalues
      (rest ++ (draft.insert node).table.values).Perm (rest ++ node :: draft.table.values) :=
          hnode.append_left rest
      (rest ++ node :: draft.table.values).Perm (node :: rest ++ draft.table.values) :=
          List.perm_middle

theorem values_add_perm {draft : Draft} {classified : Classified}
    (h : (draft.add classified).errors = []) :
    draft.errors = [] ∧ classified.errors = [] ∧
      (draft.add classified).table.values.Perm (classified.nodes ++ draft.table.values) := by
  rcases values_foldl_insert_perm h with ⟨herrors, hvalues⟩
  rcases List.append_eq_nil_iff.1 herrors with ⟨hdraft, hclassified⟩
  exact ⟨hdraft, hclassified, hvalues⟩

end Draft

namespace Manifest

variable {manifest : Manifest} {hierarchy : Hierarchy}

/-- Without errors every visit has been classified without errors and has added its nodes. -/
theorem values_draft_perm (h : (manifest.draft hierarchy).errors = []) :
    (∀ place ∈ manifest.visits hierarchy, (manifest.classifyAt place).errors = []) ∧
      (manifest.draft hierarchy).table.values.Perm
        ((manifest.visits hierarchy).flatMap fun place => (manifest.classifyAt place).nodes) := by
  have hfold : ∀ (places : List Placement) (draft : Draft),
      (places.foldl (fun draft place => draft.add (manifest.classifyAt place)) draft).errors =
          [] →
        draft.errors = [] ∧ (∀ place ∈ places, (manifest.classifyAt place).errors = []) ∧
          (places.foldl (fun draft place => draft.add (manifest.classifyAt place))
            draft).table.values.Perm
              ((places.flatMap fun place => (manifest.classifyAt place).nodes) ++
                draft.table.values) := by
    intro places
    induction places with
    | nil =>
      intro draft herrors
      exact ⟨herrors, by simp, List.Perm.refl _⟩
    | cons place rest ih =>
      -- The rest is visited after the first place, and its errors come on top.
      intro draft herrors
      rcases ih _ herrors with ⟨hadd, hrest, hvalues⟩
      rcases Draft.values_add_perm hadd with ⟨hdraft, hclassified, hplace⟩
      refine ⟨hdraft, ?_, ?_⟩
      · intro other hother
        rcases List.mem_cons.1 hother with rfl | hother
        · exact hclassified
        · exact hrest other hother
      · let nodesOf (places : List Placement) :=
          places.flatMap fun place => (manifest.classifyAt place).nodes
        have hswap : (nodesOf rest ++ (manifest.classifyAt place).nodes).Perm
            (nodesOf (place :: rest)) := List.perm_append_comm
        refine hvalues.trans ((hplace.append_left _).trans ?_)
        simpa only [List.append_assoc] using hswap.append_right draft.table.values
  rcases hfold (manifest.visits hierarchy) Draft.empty h with ⟨_, hclassified, hvalues⟩
  have hnil : Draft.empty.table.values = [] := rfl
  simp only [hnil, List.append_nil] at hvalues
  exact ⟨hclassified, hvalues⟩

/-! ## Hosted declarations -/

/-- Positions of the declarations that a component hosts. -/
def hostedBy (manifest : Manifest) (component : ComponentId) : List Nat :=
  (List.range manifest.declarations.length).filter fun position =>
    manifest.hostOf? position = some component

/-- Positions of the declarations that some component of a hierarchy hosts. -/
def hostedWithin (manifest : Manifest) (hierarchy : Hierarchy) : List Nat :=
  (List.range manifest.declarations.length).filter fun position =>
    (manifest.hostOf? position).any hierarchy.components.contains

def outlinesAt (manifest : Manifest) (component : ComponentId) (position : Nat) : List Outline :=
  (manifest.declarations[position]?.map (Declaration.outlines position component)).getD []

def outlineCountAt (manifest : Manifest) (position : Nat) : Nat :=
  (manifest.declarations[position]?.map Declaration.outlineCount).getD 0

/-- What the declarations that a component hosts ask for. -/
def generated (manifest : Manifest) (component : ComponentId) : List Outline :=
  (manifest.hostedBy component).flatMap (manifest.outlinesAt component)

theorem mem_hostedBy_iff {component : ComponentId} {position : Nat} :
    position ∈ manifest.hostedBy component ↔ manifest.hostOf? position = some component := by
  simp only [hostedBy, List.mem_filter, List.mem_range, decide_eq_true_eq, and_iff_right_iff_imp]
  exact lt_length_of_hostOf?

theorem mem_hostedWithin_iff {position : Nat} :
    position ∈ manifest.hostedWithin hierarchy ↔
      ∃ component ∈ hierarchy.components, manifest.hostOf? position = some component := by
  simp only [hostedWithin, List.mem_filter, List.mem_range, Option.any_eq_true,
    List.contains_iff_mem]
  constructor
  · rintro ⟨_, component, hhost, hmem⟩
    exact ⟨component, hmem, hhost⟩
  · rintro ⟨component, hmem, hhost⟩
    exact ⟨lt_length_of_hostOf? hhost, component, hhost, hmem⟩

theorem nodup_hostedBy (component : ComponentId) : (manifest.hostedBy component).Nodup :=
  List.nodup_range.filter _

/-- A declaration has one host, so the components divide the declarations among them. -/
theorem hostedWithin_perm (h : hierarchy.components.Nodup) :
    (manifest.hostedWithin hierarchy).Perm
      (hierarchy.components.flatMap manifest.hostedBy) := by
  have hnodup : (hierarchy.components.flatMap manifest.hostedBy).Nodup := by
    refine List.nodup_flatMap.2 ⟨fun component _ => nodup_hostedBy component, h.imp ?_⟩
    intro a b hne position ha hb
    have hhosts : some a = some b :=
      (mem_hostedBy_iff.1 ha).symm.trans (mem_hostedBy_iff.1 hb)
    exact hne (Option.some.inj hhosts)
  have hwithin : (manifest.hostedWithin hierarchy).Nodup := List.nodup_range.filter _
  apply (List.perm_ext_iff_of_nodup hwithin hnodup).2
  intro position
  simp only [mem_hostedWithin_iff, List.mem_flatMap, mem_hostedBy_iff]

/-! ## Nodes by component -/

/-- What the visits of a component leave, in their order. -/
def visited (manifest : Manifest) (component : ComponentId) : List Outline :=
  (manifest.visitsOf component).flatMap (manifest.outlinesAt component)

theorem mem_outlinesAt {component : ComponentId} {position : Nat} {outline : Outline}
    (h : outline ∈ manifest.outlinesAt component position) :
    outline.source = position ∧ outline.host = component := by
  simp only [outlinesAt] at h
  cases hfound : manifest.declarations[position]? with
  | none => simp [hfound] at h
  | some declaration =>
    simp only [hfound, Option.map_some, Option.getD_some] at h
    exact Declaration.mem_outlines h

theorem host_of_mem_visited {component : ComponentId} {outline : Outline}
    (h : outline ∈ manifest.visited component) : outline.host = component := by
  rcases List.mem_flatMap.1 h with ⟨position, _, houtline⟩
  exact (mem_outlinesAt houtline).2

theorem outline_classifyAt {place : Placement} (h : (manifest.classifyAt place).errors = []) :
    (manifest.classifyAt place).nodes.map Node.outline =
        manifest.outlinesAt place.host place.position ∧
      (manifest.outlinesAt place.host place.position).length =
        manifest.outlineCountAt place.position := by
  simp only [classifyAt, outlinesAt, outlineCountAt] at *
  cases hfound : manifest.declarations[place.position]? with
  | none => simp
  | some declaration =>
    simp only [hfound, Option.map_some, Option.getD_some] at h ⊢
    rcases Declaration.map_outline_classify h with ⟨houtlines, hcount⟩
    refine ⟨houtlines, ?_⟩
    simp only [← houtlines, List.length_map, hcount]

theorem outlines_nodes_perm (h : (manifest.draft hierarchy).errors = []) :
    ((manifest.graph hierarchy).nodes.map Node.outline).Perm
      (hierarchy.components.flatMap manifest.visited) := by
  rcases values_draft_perm h with ⟨hclassified, hvalues⟩
  have houtlines : ((manifest.graph hierarchy).nodes.map Node.outline).Perm
      (((manifest.visits hierarchy).flatMap fun place =>
        (manifest.classifyAt place).nodes).map Node.outline) :=
    hvalues.map Node.outline
  -- The visits of one component follow one another.
  have hvisits : (((manifest.visits hierarchy).flatMap fun place =>
      (manifest.classifyAt place).nodes).map Node.outline) =
        hierarchy.components.flatMap manifest.visited := by
    calc
      (((manifest.visits hierarchy).flatMap fun place =>
          (manifest.classifyAt place).nodes).map Node.outline) =
          (manifest.visits hierarchy).flatMap fun place =>
            (manifest.classifyAt place).nodes.map Node.outline := List.map_flatMap
      _ = (manifest.visits hierarchy).flatMap fun place =>
            manifest.outlinesAt place.host place.position := by
        apply List.flatMap_congr
        intro place hplace
        exact (outline_classifyAt (hclassified place hplace)).1
      _ = hierarchy.components.flatMap manifest.visited := by
        simp only [visits_eq, List.flatMap_assoc, List.flatMap_map]
        rfl
  simpa only [hvisits] using houtlines

/-- What the visits of different components leave differs in its host. -/
theorem filter_flatMap_visited {components : List ComponentId} (h : components.Nodup)
    {component : ComponentId} (hmem : component ∈ components) :
    ((components.flatMap manifest.visited).filter fun outline => outline.host = component) =
      manifest.visited component := by
  have hhost : ∀ other, ∀ outline ∈ manifest.visited other, outline.host = other := by
    intro other outline houtline
    exact host_of_mem_visited houtline
  have hids : (components.map fun component => component).Nodup := by
    simpa only [List.map_id'] using h
  have hfound : (components.find? fun other => other = component) = some component := by
    simp [find?_eq_some_iff_of_nodup hids, hmem]
  simpa only [hfound, Option.map_some, Option.getD_some] using
    filter_flatMap_of_nodup hhost hids component

theorem outlines_nodesOf_perm_visited (h : (manifest.draft hierarchy).errors = [])
    (hnodup : hierarchy.components.Nodup) {component : ComponentId}
    (hmem : component ∈ hierarchy.components) :
    (((manifest.graph hierarchy).nodesOf component).map Node.outline).Perm
      (manifest.visited component) := by
  have hfilter := (outlines_nodes_perm h).filter fun outline => outline.host = component
  simp only [filter_flatMap_visited hnodup hmem, List.filter_map] at hfilter
  exact hfilter

/-! ## Each declaration once -/

/-- A declaration visited twice would leave one identity twice. -/
theorem nodup_visitsOf (h : (manifest.draft hierarchy).errors = [])
    {component : ComponentId} (hmem : component ∈ hierarchy.components) :
    (manifest.visitsOf component).Nodup := by
  -- The identities in the table differ, and so do those of what the visits leave.
  have hids : ((hierarchy.components.flatMap manifest.visited).map Outline.id).Nodup := by
    have hkeyed := (manifest.keyed_graph hierarchy).nodup_map_id
    have hperm := (outlines_nodes_perm h).map Outline.id
    simp only [List.map_map] at hperm
    exact hperm.nodup_iff.1 hkeyed
  have hblock : (manifest.visited component).Nodup :=
    (List.nodup_flatMap.1 (List.Nodup.of_map _ hids)).1 component hmem
  apply (List.nodup_flatMap.1 hblock).2.imp_of_mem
  rintro a b ha - hdisjoint rfl
  -- Every visited declaration leaves something, which two visits would leave twice.
  have hplace : ⟨a, component, hierarchy.scope? component⟩ ∈ manifest.visits hierarchy :=
    List.mem_flatMap.2 ⟨component, hmem, List.mem_map.2 ⟨a, ha, rfl⟩⟩
  have hcount := (outline_classifyAt ((values_draft_perm h).1 _ hplace)).2
  have hlt := lt_length_of_hostOf? (mem_visitsOf_iff.1 ha)
  have hpos : 0 < (manifest.outlinesAt component a).length := by
    simp only [hcount, outlineCountAt, List.getElem?_eq_getElem hlt]
    exact Declaration.outlineCount_pos _
  exact hdisjoint (List.getElem_mem hpos) (List.getElem_mem hpos)

theorem visited_perm_generated (h : (manifest.draft hierarchy).errors = [])
    {component : ComponentId} (hmem : component ∈ hierarchy.components) :
    (manifest.visited component).Perm (manifest.generated component) := by
  apply List.Perm.flatMap_right _
  apply (List.perm_ext_iff_of_nodup (nodup_visitsOf h hmem) (nodup_hostedBy component)).2
  intro position
  simp only [mem_visitsOf_iff, mem_hostedBy_iff]

/-- The nodes of the graph, component by component and declaration by declaration. -/
theorem outlines_nodes_perm_generated (h : (manifest.draft hierarchy).errors = []) :
    ((manifest.graph hierarchy).nodes.map Node.outline).Perm
      (hierarchy.components.flatMap manifest.generated) := by
  refine (outlines_nodes_perm h).trans (List.Perm.flatMap_left _ ?_)
  intro component hmem
  exact visited_perm_generated h hmem

theorem length_outlinesAt_of_hostOf? (h : (manifest.draft hierarchy).errors = [])
    {component : ComponentId} (hmem : component ∈ hierarchy.components) {position : Nat}
    (hhost : manifest.hostOf? position = some component) :
    (manifest.outlinesAt component position).length = manifest.outlineCountAt position := by
  have hplace : ⟨position, component, hierarchy.scope? component⟩ ∈ manifest.visits hierarchy :=
    List.mem_flatMap.2
      ⟨component, hmem, List.mem_map.2 ⟨position, mem_visitsOf_iff.2 hhost, rfl⟩⟩
  exact (outline_classifyAt ((values_draft_perm h).1 _ hplace)).2

theorem length_generated {component : ComponentId}
    (h : ∀ position, manifest.hostOf? position = some component →
      (manifest.outlinesAt component position).length = manifest.outlineCountAt position) :
    (manifest.generated component).length =
      ((manifest.hostedBy component).map manifest.outlineCountAt).sum := by
  have hmap : (manifest.hostedBy component).map
      (fun position => (manifest.outlinesAt component position).length) =
        (manifest.hostedBy component).map manifest.outlineCountAt := by
    apply List.map_congr_left
    intro position hposition
    exact h position (mem_hostedBy_iff.1 hposition)
  simp only [generated, List.length_flatMap, hmap]

theorem length_flatMap_generated {components : List ComponentId}
    (h : ∀ component ∈ components, ∀ position, manifest.hostOf? position = some component →
      (manifest.outlinesAt component position).length = manifest.outlineCountAt position) :
    (components.flatMap manifest.generated).length =
      ((components.flatMap manifest.hostedBy).map manifest.outlineCountAt).sum := by
  induction components with
  | nil => rfl
  | cons component rest ih =>
    have hfirst := length_generated (h component (by simp))
    have hrest := ih fun other hother => h other (List.mem_cons_of_mem _ hother)
    simp only [List.flatMap_cons, List.length_append, List.map_append, List.sum_append, hfirst,
      hrest]

end Manifest

/-! ## Compilations -/

theorem nodes_are_generated_once {manifest : Manifest} {config : Config}
    {compilation : Compilation} (h : (compile manifest config).result = .ok compilation) :
    let graph := compilation.graph
    let components := graph.hierarchy.components
    (∀ component ∈ components,
      ((graph.nodesOf component).map Node.outline).Perm (manifest.generated component)) ∧
    (∀ component ∈ components, ∀ position, manifest.hostOf? position = some component →
      (manifest.outlinesAt component position).length = manifest.outlineCountAt position) ∧
    ((components.flatMap manifest.generated).map Outline.id).Nodup ∧
    graph.size = ((manifest.hostedWithin graph.hierarchy).map manifest.outlineCountAt).sum ∧
    (∀ node ∈ graph.nodes,
      node.host ∈ components ∧ manifest.hostOf? node.source = some node.host) := by
  intro graph components
  rcases compile_eq_ok h with ⟨hierarchy, hresolve, hnone, _, hgraph, _⟩
  have hdraft : (manifest.draft hierarchy).errors = [] := by
    simp only [compile_errors hresolve] at hnone
    simp only [List.append_eq_nil_iff] at hnone
    exact hnone.1.1.1.1.2
  have hrooted : hierarchy.Rooted := Manifest.rooted_of_resolveHierarchy hresolve
  have hall := Manifest.outlines_nodes_perm_generated hdraft
  have hcounts : ∀ component ∈ hierarchy.components, ∀ position,
      manifest.hostOf? position = some component →
        (manifest.outlinesAt component position).length = manifest.outlineCountAt position := by
    intro component hmem position hhost
    exact Manifest.length_outlinesAt_of_hostOf? hdraft hmem hhost
  have hgraph : graph = manifest.graph hierarchy := hgraph
  have hcomponents : components = hierarchy.components := by
    simp only [components, hgraph, Manifest.graph]
  simp only [hcomponents, hgraph]
  refine ⟨?_, hcounts, ?_, ?_, ?_⟩
  · intro component hmem
    exact (Manifest.outlines_nodesOf_perm_visited hdraft Hierarchy.nodup_components hmem).trans
      (Manifest.visited_perm_generated hdraft hmem)
  · have hids := hall.map Outline.id
    simp only [List.map_map] at hids
    exact hids.nodup_iff.1 (manifest.keyed_graph hierarchy).nodup_map_id
  · have hsum : ((manifest.hostedWithin hierarchy).map manifest.outlineCountAt).sum =
        ((hierarchy.components.flatMap manifest.hostedBy).map manifest.outlineCountAt).sum :=
      ((Manifest.hostedWithin_perm Hierarchy.nodup_components).map manifest.outlineCountAt).sum_nat
    calc
      (manifest.graph hierarchy).size =
          ((manifest.graph hierarchy).nodes.map Node.outline).length := by
        simp [Graph.size, Table.size, Graph.nodes, Table.values]
      _ = (hierarchy.components.flatMap manifest.generated).length := hall.length_eq
      _ = ((hierarchy.components.flatMap manifest.hostedBy).map manifest.outlineCountAt).sum :=
        Manifest.length_flatMap_generated hcounts
      _ = ((manifest.hostedWithin hierarchy).map manifest.outlineCountAt).sum := hsum.symm
  · intro node hnode
    have hmem := hall.subset (List.mem_map_of_mem hnode)
    rcases List.mem_flatMap.1 hmem with ⟨component, hcomponent, hgenerated⟩
    rcases List.mem_flatMap.1 hgenerated with ⟨position, hposition, houtline⟩
    rcases Manifest.mem_outlinesAt houtline with ⟨hsource, hhost⟩
    have hsource : node.source = position := hsource
    have hhost : node.host = component := hhost
    simp only [hsource, hhost]
    exact ⟨hcomponent, Manifest.mem_hostedBy_iff.1 hposition⟩

/-- Every kind of declaration below the root, and one next to the hierarchy. -/
def shopManifest : Manifest where
  entryPoint := "App"
  components :=
    [⟨"App", some "Singleton", .component, []⟩, ⟨"Cart", some "Visit", .subcomponent, ["App"]⟩,
      ⟨"Elsewhere", none, .component, []⟩]
  modules := [⟨"Stock", ["Cart", "App"]⟩]
  declarations :=
    [.injectable
        { type := .resolved "Order"
          qualifier := none
          scope := none
          parameters :=
            [.regular "clock" (.resolved "Clock") none,
              ⟨"number", .resolved "Number", none, .assisted, .direct⟩]
          supertypes := ["Document"]
          bindsTo := []
          factory := some ⟨"OrderFactory", [("number", .resolved "Number")], .resolved "Order"⟩
          runtimeScoped := false
          contributesTo := ["App"] },
      .injectable
        { type := .resolved "SystemClock"
          qualifier := none
          scope := some "Singleton"
          parameters := []
          supertypes := ["Clock"]
          bindsTo := [.resolved "Clock"]
          factory := none
          runtimeScoped := false
          contributesTo := ["App"] },
      .provides ⟨"Stock", "shelf", .resolved "Shelf", none, none, [], false⟩,
      .binds ⟨"Stock", "store", .resolved "Store", none,
        [.regular "shelf" (.resolved "Shelf") none], true⟩,
      .injectable
        { type := .resolved "Stranger"
          qualifier := none
          scope := none
          parameters := []
          supertypes := []
          bindsTo := []
          factory := none
          runtimeScoped := false
          contributesTo := ["Elsewhere"] }]

def shopHierarchy : Hierarchy :=
  ⟨"App", .ofList [("App", ⟨none, some "Singleton", ["Cart"], 0⟩),
    ("Cart", ⟨some "App", some "Visit", [], 1⟩)]⟩

def shopCompilation : Compilation :=
  ⟨shopManifest, shopManifest.graph shopHierarchy, .ofGraph (shopManifest.graph shopHierarchy)⟩

theorem compile_shopManifest : (compile shopManifest .default).result = .ok shopCompilation := by
  have hresolve : (shopManifest.resolveHierarchy .default).1 = some shopHierarchy := by
    decide +kernel
  exact compile_eq_ok_of_errors hresolve (by decide +kernel)

theorem shop_has_six_nodes :
    (compile shopManifest .default).result = .ok shopCompilation ∧
      shopCompilation.graph.size = 6 := by
  have hsize := (nodes_are_generated_once compile_shopManifest).2.2.2.1
  have hcount : ((shopManifest.hostedWithin shopHierarchy).map shopManifest.outlineCountAt).sum =
      6 := by
    decide +kernel
  exact ⟨compile_shopManifest, hsize.trans hcount⟩

end ObjectGraph
