import Mathlib.Data.List.Nodup
import Mathlib.Data.List.Perm.Subperm
import ObjectGraph.Hierarchy.Basic
import ObjectGraph.Proofs.Hierarchy.Ascent
import ObjectGraph.Proofs.Table

/-!
# Trees — members below one root

Every member but the root hangs one level below its parent, which is a member too. Going up from a
member therefore takes as many steps as it is deep, never meets a component twice and ends at the root.

* `Hierarchy.Rooted` — the shape of a tree, one step upwards at a time;
* `Hierarchy.Rooted.exists_ascends` — a way up for each member, as long as the member is deep;
* `Hierarchy.Rooted.ascends` — the ancestors are passed on the way from parent to parent;
* `Hierarchy.Rooted.nodup_lineage`, `Hierarchy.Rooted.length_ancestors_lt` — no way up repeats;
* `Hierarchy.Rooted.mem_lineage_trans`, `Hierarchy.Rooted.eq_of_mem_lineage` — lineages are an order;
* `Hierarchy.Rooted.getLast?_ancestors` — every way up ends at the root.
-/

namespace ObjectGraph

namespace Hierarchy

variable {hierarchy : Hierarchy} {component : ComponentId}

/-! ## Members -/

theorem mem_components_iff :
    component ∈ hierarchy.components ↔
      ∃ member, hierarchy.members.find? component = some member :=
  hierarchy.members.mem_keys_iff

theorem contains_iff_mem :
    hierarchy.contains component = true ↔ component ∈ hierarchy.components := by
  rw [mem_components_iff]
  exact Option.isSome_iff_exists

theorem find?_eq_none (hmem : component ∉ hierarchy.components) :
    hierarchy.members.find? component = none :=
  Option.eq_none_iff_forall_ne_some.2 fun member hfound =>
    hmem (mem_components_iff.2 ⟨member, hfound⟩)

theorem nodup_components : hierarchy.components.Nodup :=
  hierarchy.members.nodup_keys

theorem increasing_components (hierarchy : Hierarchy) :
    hierarchy.components.Pairwise (· < ·) := by
  refine List.pairwise_map.2 (hierarchy.members.increasing.imp ?_)
  intro a b hlt
  exact compareOfLessAndEq_eq_lt.1 hlt

theorem length_components : hierarchy.components.length = hierarchy.members.size := by
  simp [components, Table.keys, Table.size]

theorem mem_components_of_parent? {parent : ComponentId}
    (hparent : hierarchy.parent? component = some parent) : component ∈ hierarchy.components := by
  rcases Option.bind_eq_some_iff.1 hparent with ⟨member, hfound, _⟩
  exact mem_components_iff.2 ⟨member, hfound⟩

theorem parent?_of_not_mem (hmem : component ∉ hierarchy.components) :
    hierarchy.parent? component = none := by
  simp [parent?, find?_eq_none hmem]

theorem mem_components_of_depth? {depth : Nat} (hdepth : hierarchy.depth? component = some depth) :
    component ∈ hierarchy.components := by
  rcases Option.map_eq_some_iff.1 hdepth with ⟨member, hfound, _⟩
  exact mem_components_iff.2 ⟨member, hfound⟩

/-! ## Ways up -/

/-- A way up that is no longer than the bound is followed to its end. -/
theorem successors_of_ascends {list : List ComponentId}
    (h : Ascends hierarchy.parent? component list) {bound : Nat} (hbound : list.length ≤ bound) :
    hierarchy.successors bound (hierarchy.parent? component) = list := by
  induction h generalizing bound with
  | top hnone =>
    rw [hnone]
    cases bound <;> rfl
  | step hparent _ ih =>
    rw [hparent]
    cases bound with
    | zero => simp at hbound
    | succ bound =>
      rw [successors, ih (Nat.le_of_succ_le_succ hbound)]

theorem ancestors_of_not_mem (hmem : component ∉ hierarchy.components) :
    hierarchy.ancestors component = [] :=
  successors_of_ascends (.top (parent?_of_not_mem hmem)) (Nat.zero_le _)

theorem lineage_of_not_mem (hmem : component ∉ hierarchy.components) :
    hierarchy.lineage component = [] := by
  have hcontains : hierarchy.contains component = false :=
    Bool.eq_false_iff.2 fun h => hmem (contains_iff_mem.1 h)
  simp only [lineage, hcontains, Bool.false_eq_true, if_false]
  cases hierarchy.members.size <;> rfl

/-- The root is no deeper than nothing and has no parent, and every other member hangs one level below
another one. Children are the members that have a component for their parent. -/
structure Rooted (hierarchy : Hierarchy) : Prop where
  depth?_root : hierarchy.depth? hierarchy.root = some 0
  parent?_root : hierarchy.parent? hierarchy.root = none
  above : ∀ component ∈ hierarchy.components, component ≠ hierarchy.root →
    ∃ parent depth, hierarchy.parent? component = some parent ∧
      hierarchy.depth? parent = some depth ∧ hierarchy.depth? component = some (depth + 1)
  mem_children_iff : ∀ {component child},
    child ∈ hierarchy.children component ↔ hierarchy.parent? child = some component
  increasing_children : ∀ component, (hierarchy.children component).Pairwise (· < ·)

namespace Rooted

theorem nodup_children (h : hierarchy.Rooted) : (hierarchy.children component).Nodup := by
  refine (h.increasing_children component).imp ?_
  rintro child _ hlt rfl
  exact String.lt_irrefl child hlt

theorem root_mem (h : hierarchy.Rooted) : hierarchy.root ∈ hierarchy.components :=
  mem_components_of_depth? h.depth?_root

theorem parent?_eq_none_iff (h : hierarchy.Rooted) (hmem : component ∈ hierarchy.components) :
    hierarchy.parent? component = none ↔ component = hierarchy.root := by
  constructor
  · intro hnone
    by_contra hne
    rcases h.above component hmem hne with ⟨parent, depth, hparent, _⟩
    simp [hnone] at hparent
  · rintro rfl
    exact h.parent?_root

theorem mem_of_parent? (h : hierarchy.Rooted) {parent : ComponentId}
    (hparent : hierarchy.parent? component = some parent) : parent ∈ hierarchy.components := by
  have hne : component ≠ hierarchy.root := by
    rintro rfl
    simp [h.parent?_root] at hparent
  rcases h.above component (mem_components_of_parent? hparent) hne with
    ⟨other, depth, hother, hdepth, _⟩
  rw [hparent, Option.some_inj] at hother
  exact hother ▸ mem_components_of_depth? hdepth

/-- The way up from a member has as many steps as the member is deep. -/
theorem exists_ascends (h : hierarchy.Rooted) {depth : Nat}
    (hdepth : hierarchy.depth? component = some depth) :
    ∃ list, Ascends hierarchy.parent? component list ∧ list.length = depth := by
  induction depth generalizing component with
  | zero =>
    refine ⟨[], .top ?_, rfl⟩
    by_cases hroot : component = hierarchy.root
    · exact hroot ▸ h.parent?_root
    · -- Any other member is one level below something.
      rcases h.above component (mem_components_of_depth? hdepth) hroot with
        ⟨parent, depth, _, _, hsucc⟩
      simp [hdepth] at hsucc
  | succ depth ih =>
    have hne : component ≠ hierarchy.root := by
      rintro rfl
      simp [h.depth?_root] at hdepth
    rcases h.above component (mem_components_of_depth? hdepth) hne with
      ⟨parent, upper, hparent, hupper, hsucc⟩
    rw [hdepth, Option.some_inj, Nat.add_right_cancel_iff] at hsucc
    rcases ih (hsucc ▸ hupper) with ⟨list, hlist, hlength⟩
    exact ⟨parent :: list, .step hparent hlist, by simp [hlength]⟩

theorem mem_of_mem_ascends (h : hierarchy.Rooted) {list : List ComponentId}
    (hlist : Ascends hierarchy.parent? component list) :
    ∀ upper ∈ list, upper ∈ hierarchy.components := by
  induction hlist with
  | top => simp
  | step hparent _ ih =>
    intro upper hupper
    rcases List.mem_cons.1 hupper with rfl | hupper
    · exact h.mem_of_parent? hparent
    · exact ih upper hupper

/-- No way up from a member passes as many components as there are. -/
theorem length_lt_of_ascends (h : hierarchy.Rooted) (hmem : component ∈ hierarchy.components)
    {list : List ComponentId} (hlist : Ascends hierarchy.parent? component list) :
    list.length < hierarchy.members.size := by
  have hnodup : (component :: list).Nodup :=
    List.nodup_cons.2 ⟨hlist.not_mem_self, hlist.nodup⟩
  have hsubset : component :: list ⊆ hierarchy.components :=
    List.cons_subset.2 ⟨hmem, h.mem_of_mem_ascends hlist⟩
  have hlength := (hnodup.subperm hsubset).length_le
  rw [length_components] at hlength
  exact Nat.lt_of_succ_le hlength

/-- The ancestors are the components passed on the way from parent to parent. -/
theorem ascends (h : hierarchy.Rooted) :
    Ascends hierarchy.parent? component (hierarchy.ancestors component) := by
  by_cases hmem : component ∈ hierarchy.components
  · rcases mem_components_iff.1 hmem with ⟨member, hfound⟩
    have hdepth : hierarchy.depth? component = some member.depth := by simp [depth?, hfound]
    rcases h.exists_ascends hdepth with ⟨list, hlist, _⟩
    have hshort := h.length_lt_of_ascends hmem hlist
    rw [ancestors, successors_of_ascends hlist (Nat.le_of_lt hshort)]
    exact hlist
  · rw [ancestors_of_not_mem hmem]
    exact .top (parent?_of_not_mem hmem)

theorem parent?_eq_head? (h : hierarchy.Rooted) :
    hierarchy.parent? component = (hierarchy.ancestors component).head? :=
  h.ascends.parent?_eq_head?

theorem depth?_eq_length (h : hierarchy.Rooted) (hmem : component ∈ hierarchy.components) :
    hierarchy.depth? component = some (hierarchy.ancestors component).length := by
  rcases mem_components_iff.1 hmem with ⟨member, hfound⟩
  have hdepth : hierarchy.depth? component = some member.depth := by simp [depth?, hfound]
  rcases h.exists_ascends hdepth with ⟨list, hlist, hlength⟩
  rw [hdepth, ← hlength, hlist.unique h.ascends]

/-- A tree is not as deep as it has members. -/
theorem length_ancestors_lt (h : hierarchy.Rooted) (hmem : component ∈ hierarchy.components) :
    (hierarchy.ancestors component).length < hierarchy.members.size :=
  h.length_lt_of_ascends hmem h.ascends

theorem lineage_eq_cons (h : hierarchy.Rooted) (hmem : component ∈ hierarchy.components) :
    hierarchy.lineage component = component :: hierarchy.ancestors component := by
  have hshort := h.length_ancestors_lt hmem
  simp only [lineage, contains_iff_mem.2 hmem, if_true]
  -- The bound leaves room for the component itself.
  cases hsize : hierarchy.members.size with
  | zero => omega
  | succ bound =>
    rw [successors, successors_of_ascends h.ascends]
    omega

theorem ancestors_root (h : hierarchy.Rooted) : hierarchy.ancestors hierarchy.root = [] :=
  h.ascends.unique (.top h.parent?_root)

theorem eq_root_of_ancestors_eq_nil (h : hierarchy.Rooted)
    (hmem : component ∈ hierarchy.components) (hnil : hierarchy.ancestors component = []) :
    component = hierarchy.root := by
  have htop : Ascends hierarchy.parent? component (hierarchy.ancestors component) := h.ascends
  rw [hnil, Ascends.nil_iff] at htop
  exact (h.parent?_eq_none_iff hmem).1 htop

theorem ancestors_eq_cons_of_parent? (h : hierarchy.Rooted) {parent : ComponentId}
    (hparent : hierarchy.parent? component = some parent) :
    hierarchy.ancestors component = parent :: hierarchy.ancestors parent :=
  h.ascends.unique (.step hparent h.ascends)

/-- The ancestors of a parent are those of the child without the parent itself. -/
theorem ancestors_of_eq_cons (h : hierarchy.Rooted) {parent : ComponentId}
    {rest : List ComponentId} (hcons : hierarchy.ancestors component = parent :: rest) :
    parent ∈ hierarchy.components ∧ hierarchy.ancestors parent = rest := by
  have hup : Ascends hierarchy.parent? component (hierarchy.ancestors component) := h.ascends
  rw [hcons, Ascends.cons_iff] at hup
  exact ⟨h.mem_of_parent? hup.1, h.ascends.unique hup.2⟩

/-- What is left of a way up is the way up from where it was left. -/
theorem ancestors_of_eq_append (h : hierarchy.Rooted) {front rest : List ComponentId}
    {ancestor : ComponentId}
    (happend : hierarchy.ancestors component = front ++ ancestor :: rest) :
    ancestor ∈ hierarchy.components ∧ hierarchy.ancestors ancestor = rest := by
  induction front generalizing component with
  | nil => exact h.ancestors_of_eq_cons happend
  | cons first front ih => exact ih (h.ancestors_of_eq_cons happend).2

theorem mem_of_mem_ancestors (h : hierarchy.Rooted) {ancestor : ComponentId}
    (hmem : ancestor ∈ hierarchy.ancestors component) :
    ancestor ∈ hierarchy.components ∧
      (hierarchy.ancestors ancestor).length < (hierarchy.ancestors component).length := by
  rcases List.append_of_mem hmem with ⟨front, rest, happend⟩
  rcases h.ancestors_of_eq_append happend with ⟨hcomponent, hrest⟩
  refine ⟨hcomponent, ?_⟩
  calc
    (hierarchy.ancestors ancestor).length = rest.length := by simp [hrest]
    _ < (front ++ ancestor :: rest).length := by
      simp only [List.length_append, List.length_cons]
      omega
    _ = (hierarchy.ancestors component).length := by simp [happend]

theorem not_mem_ancestors_self (h : hierarchy.Rooted) :
    component ∉ hierarchy.ancestors component :=
  h.ascends.not_mem_self

theorem nodup_ancestors (h : hierarchy.Rooted) : (hierarchy.ancestors component).Nodup :=
  h.ascends.nodup

theorem nodup_lineage (h : hierarchy.Rooted) :
    (component :: hierarchy.ancestors component).Nodup :=
  List.nodup_cons.2 ⟨h.not_mem_ancestors_self, h.nodup_ancestors⟩

/-- A lineage goes from a member upwards. -/
theorem mem_lineage_iff (h : hierarchy.Rooted) {other : ComponentId} :
    other ∈ hierarchy.lineage component ↔
      component ∈ hierarchy.components ∧
        (other = component ∨ other ∈ hierarchy.ancestors component) := by
  constructor
  · intro hmem
    have hmember : component ∈ hierarchy.components := by
      by_contra hnot
      simp [lineage_of_not_mem hnot] at hmem
    exact ⟨hmember, by simpa [h.lineage_eq_cons hmember] using hmem⟩
  · rintro ⟨hmember, hmem⟩
    simpa [h.lineage_eq_cons hmember] using hmem

/-- What is above something above is above. -/
theorem mem_lineage_trans (h : hierarchy.Rooted) {middle upper : ComponentId}
    (hmiddle : middle ∈ hierarchy.lineage component) (hupper : upper ∈ hierarchy.lineage middle) :
    upper ∈ hierarchy.lineage component := by
  rcases h.mem_lineage_iff.1 hmiddle with ⟨hmember, rfl | habove⟩
  · exact hupper
  · rcases h.mem_lineage_iff.1 hupper with ⟨_, rfl | hhigher⟩
    · exact hmiddle
    · rcases List.append_of_mem habove with ⟨front, rest, happend⟩
      have hrest := (h.ancestors_of_eq_append happend).2
      refine h.mem_lineage_iff.2 ⟨hmember, Or.inr ?_⟩
      simp only [happend, List.mem_append, List.mem_cons]
      exact Or.inr (Or.inr (hrest ▸ hhigher))

/-- No two components are above one another. -/
theorem eq_of_mem_lineage (h : hierarchy.Rooted) {other : ComponentId}
    (hother : other ∈ hierarchy.lineage component) (hback : component ∈ hierarchy.lineage other) :
    other = component := by
  rcases h.mem_lineage_iff.1 hother with ⟨_, heq | habove⟩
  · exact heq
  · rcases h.mem_lineage_iff.1 hback with ⟨_, heq | hbelow⟩
    · exact heq.symm
    · have hlt := (h.mem_of_mem_ancestors habove).2
      have hgt := (h.mem_of_mem_ancestors hbelow).2
      omega

/-- A way up that cannot be continued has arrived at the root. -/
theorem getLast?_ancestors (h : hierarchy.Rooted) (hne : hierarchy.ancestors component ≠ []) :
    (hierarchy.ancestors component).getLast? = some hierarchy.root := by
  rcases List.eq_nil_or_concat (hierarchy.ancestors component) with hnil | ⟨front, last, hlast⟩
  · exact absurd hnil hne
  · simp only [List.concat_eq_append] at hlast
    -- Nothing is above the last one.
    rcases h.ancestors_of_eq_append hlast with ⟨hmem, hrest⟩
    have hroot : last = hierarchy.root := h.eq_root_of_ancestors_eq_nil hmem hrest
    simp [hlast, hroot]

end Rooted
end Hierarchy
end ObjectGraph
