import ObjectGraph.Proofs.Compile.Stage
import ObjectGraph.Proofs.Table

/-!
# Drafts — what becomes of the nodes that a draft is offered

A draft keeps the first node of an identity and reports each later one. So whatever errors there are,
its table holds offered nodes only, one for each offered identity, and an identity is reported once less
than it was offered.

* `Draft.Received` — a draft after the nodes that it was offered, with what `insert` and `add` do to it;
* `Manifest.received_draft` — the draft of a hierarchy and the nodes of all visits;
* `Manifest.mem_classifyAt_of_mem_nodes` — a node of the graph comes from a visit.
-/

namespace ObjectGraph

namespace Draft

/-- What a draft has made of the nodes that it was offered, one after the other. -/
structure Received (draft : Draft) (nodes : List Node) : Prop where
  contains_iff : ∀ id, draft.table.contains id = true ↔ id ∈ nodes.map Node.id
  mem_of_mem_values : ∀ node ∈ draft.table.values, node ∈ nodes
  count_duplicates : ∀ id : NodeId,
    draft.errors.count (.duplicateBinding id.key id.host) = (nodes.map Node.id).count id - 1

theorem Received.empty : Draft.empty.Received [] where
  contains_iff := by
    intro id
    simp [Draft.empty, Table.contains]
  mem_of_mem_values := by
    intro node hnode
    simp [Draft.empty, Table.values, Table.empty] at hnode
  count_duplicates := by
    intro id
    rfl

variable {draft : Draft} {nodes : List Node}

/-- An identity that is there already is offered once more and reported once more. -/
theorem Received.refuse (h : draft.Received nodes) {node : Node}
    (hknown : draft.table.contains node.id = true) :
    (draft.insert node).Received (nodes ++ [node]) := by
  have hmem : node.id ∈ nodes.map Node.id := (h.contains_iff node.id).1 hknown
  rw [Draft.insert, if_pos hknown]
  refine ⟨?_, ?_, ?_⟩
  · intro id
    simp only [h.contains_iff, List.map_append, List.mem_append, List.map_cons, List.map_nil,
      List.mem_singleton, iff_self_or]
    rintro rfl
    exact hmem
  · intro other hother
    exact List.mem_append_left _ (h.mem_of_mem_values other hother)
  · intro id
    simp only [List.count_append, List.map_append, List.map_cons, List.map_nil, h.count_duplicates,
      List.count_singleton, beq_iff_eq, GraphError.duplicateBinding.injEq]
    by_cases hsame : node.id = id
    · subst hsame
      have hcount : 0 < (nodes.map Node.id).count node.id := List.count_pos_iff.2 hmem
      simp only [Node.id, and_self, if_true] at hcount ⊢
      omega
    · -- The report is about another key or another component.
      have hother : ¬ (node.key = id.key ∧ node.host = id.host) := fun hparts =>
        hsame (by cases id; simp_all [Node.id])
      simp [hsame, hother]

/-- A fresh identity is offered for the first time and reported not at all. -/
theorem Received.keep (h : draft.Received nodes) {node : Node}
    (hfresh : ¬ draft.table.contains node.id = true) :
    (draft.insert node).Received (nodes ++ [node]) := by
  have hmem : node.id ∉ nodes.map Node.id := fun hmem => hfresh ((h.contains_iff node.id).2 hmem)
  have hnone : draft.table.find? node.id = none := by simpa [Table.contains] using hfresh
  rw [Draft.insert, if_neg hfresh]
  refine ⟨?_, ?_, ?_⟩
  · intro id
    have hcontains := h.contains_iff id
    simp only [Table.contains] at hcontains
    simp only [Table.contains, Table.find?_insertNew, List.map_append, List.mem_append, List.map_cons,
      List.map_nil, List.mem_singleton]
    by_cases hsame : id = node.id
    · simp [hsame]
    · simp [hsame, hcontains]
  · intro other hother
    have hperm : (draft.table.insertNew node.id node).values.Perm (node :: draft.table.values) :=
      Table.values_insertNew_perm hnone
    rcases List.mem_cons.1 (hperm.mem_iff.1 hother) with rfl | hother
    · simp
    · exact List.mem_append_left _ (h.mem_of_mem_values other hother)
  · intro id
    simp only [List.map_append, List.count_append, List.map_cons, List.map_nil,
      List.count_singleton, h.count_duplicates, beq_iff_eq]
    by_cases hsame : node.id = id
    · subst hsame
      simp [List.count_eq_zero.2 hmem]
    · simp [hsame]

theorem Received.insert (h : draft.Received nodes) (node : Node) :
    (draft.insert node).Received (nodes ++ [node]) := by
  by_cases hknown : draft.table.contains node.id = true
  · exact h.refuse hknown
  · exact h.keep hknown

theorem Received.foldl_insert (h : draft.Received nodes) (offered : List Node) :
    (offered.foldl Draft.insert draft).Received (nodes ++ offered) := by
  induction offered generalizing draft nodes with
  | nil => simpa using h
  | cons node rest ih => simpa using ih (h.insert node)

/-- The faults of a declaration are recorded before its nodes; none of them is a duplicate. -/
theorem Received.add (h : draft.Received nodes) {classified : Classified}
    (hfaults : Faults classified.errors) :
    (draft.add classified).Received (nodes ++ classified.nodes) := by
  have hrecorded : ({ draft with errors := draft.errors ++ classified.errors } : Draft).Received
      nodes := by
    refine ⟨h.contains_iff, h.mem_of_mem_values, ?_⟩
    intro id
    have hnone : classified.errors.count (.duplicateBinding id.key id.host) = 0 :=
      List.count_eq_zero.2 fun hmem => Bool.false_ne_true (hfaults _ hmem)
    simp only [List.count_append, hnone, Nat.add_zero, h.count_duplicates]
  exact hrecorded.foldl_insert classified.nodes

end Draft

namespace Manifest

variable {manifest : Manifest} {hierarchy : Hierarchy}

theorem received_draft (manifest : Manifest) (hierarchy : Hierarchy) : (manifest.draft hierarchy).Received
    ((manifest.visits hierarchy).flatMap fun place => (manifest.classifyAt place).nodes) := by
  have hfold : ∀ (places : List Placement) (draft : Draft) (nodes : List Node),
      draft.Received nodes →
        (places.foldl (fun draft place => draft.add (manifest.classifyAt place)) draft).Received
          (nodes ++ places.flatMap fun place => (manifest.classifyAt place).nodes) := by
    intro places
    induction places with
    | nil =>
      intro draft nodes h
      simpa using h
    | cons place rest ih =>
      intro draft nodes h
      simpa using ih _ _ (h.add (manifest.faults_classifyAt place))
  exact hfold (manifest.visits hierarchy) Draft.empty [] .empty

theorem mem_classifyAt_of_mem_nodes {node : Node} (h : node ∈ (manifest.graph hierarchy).nodes) :
    ∃ place ∈ manifest.visits hierarchy, node ∈ (manifest.classifyAt place).nodes :=
  List.mem_flatMap.1 ((received_draft manifest hierarchy).mem_of_mem_values node h)

end Manifest
end ObjectGraph
