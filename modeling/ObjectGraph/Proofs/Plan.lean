import ObjectGraph.Plan
import ObjectGraph.Proofs.Hierarchy.Tree

/-!
# Plans — the tree of the components and the kinds of their entries

The plan of a graph lists the members of its hierarchy, each with its parent and its children. What
is below a component is what has that component among its ancestors.

* `Plan.kind?` — how the provider of a key is wired in a component;
* `Plan.component?_ofGraph` — the members of the hierarchy and no others;
* `Plan.mem_below_iff`, `Plan.mem_descendants_iff` — downwards against upwards.
-/

namespace ObjectGraph

namespace Plan

/-- The kind of the entry that a component has for a key. -/
def kind? (plan : Plan) (component : ComponentId) (key : Key) : Option ProviderKind :=
  ((plan.component? component).bind fun found => found.provider? key).map Entry.kind

variable {graph : Graph} {component : ComponentId}

/-! ## Components -/

theorem component?_ofGraph :
    (ofGraph graph).component? component =
      if component ∈ graph.hierarchy.components then some (.ofGraph graph component)
      else none := by
  have hfind : ∀ components : List ComponentId,
      (components.map (ComponentPlan.ofGraph graph)).find? (fun plan => plan.id = component) =
        if component ∈ components then some (.ofGraph graph component) else none := by
    intro components
    induction components with
    | nil => rfl
    | cons first rest ih =>
      simp only [List.map_cons, List.find?_cons]
      by_cases hfirst : first = component
      · subst hfirst
        simp [ComponentPlan.ofGraph]
      · have hne : component ≠ first := Ne.symm hfirst
        simp [ComponentPlan.ofGraph, hfirst, hne, ih]
  exact hfind graph.hierarchy.components

theorem component?_eq_some {plan : ComponentPlan}
    (h : (ofGraph graph).component? component = some plan) :
    component ∈ graph.hierarchy.components ∧ plan = .ofGraph graph component := by
  simp only [component?_ofGraph] at h
  split at h
  · rename_i hmem
    exact ⟨hmem, (Option.some.inj h).symm⟩
  · simp at h

theorem length_components_ofGraph :
    (ofGraph graph).components.length = graph.hierarchy.members.size := by
  simp [ofGraph, Hierarchy.length_components]

/-! ## Downwards -/

theorem mem_children_iff (h : graph.hierarchy.Rooted) {child : ComponentId} :
    child ∈ (ofGraph graph).children component ↔
      graph.hierarchy.parent? child = some component := by
  simp only [children, component?_ofGraph, ← h.mem_children_iff]
  by_cases hmem : component ∈ graph.hierarchy.components
  · simp [hmem, ComponentPlan.ofGraph]
  · -- Only members have children.
    have hnone : child ∉ graph.hierarchy.children component := by
      intro hchild
      have hparent := h.ancestors_eq_cons_of_parent? (h.mem_children_iff.1 hchild)
      exact hmem (h.ancestors_of_eq_cons hparent).1
    simp [hmem, hnone]

/-- What is found below a component by going down is what leads there by going up. -/
theorem mem_below_iff (h : graph.hierarchy.Rooted) {depth : Nat} {descendant : ComponentId} :
    descendant ∈ (ofGraph graph).below depth component ↔
      ∃ front rest, graph.hierarchy.ancestors descendant = front ++ component :: rest ∧
        front.length < depth := by
  -- By induction on the depth: one step down is the last step of the way up.
  induction depth generalizing component with
  | zero => simp [below]
  | succ depth ih =>
    simp only [below, List.mem_flatMap]
    constructor
    · rintro ⟨child, hchild, hmem⟩
      have hparent := h.ancestors_eq_cons_of_parent? ((mem_children_iff h).1 hchild)
      rcases List.mem_cons.1 hmem with rfl | hbelow
      · exact ⟨[], _, hparent, Nat.succ_pos _⟩
      · rcases ih.1 hbelow with ⟨front, rest, happend, hlt⟩
        have hrest := (h.ancestors_of_eq_append happend).2
        refine ⟨front ++ [child], graph.hierarchy.ancestors component, ?_, ?_⟩
        · calc
            graph.hierarchy.ancestors descendant = front ++ child :: rest := happend
            _ = front ++ child :: component :: graph.hierarchy.ancestors component := by
              simp only [← hrest, hparent]
            _ = front ++ [child] ++ component :: graph.hierarchy.ancestors component := by
              simp
        · simp only [List.length_append, List.length_singleton]
          exact Nat.succ_lt_succ hlt
    · rintro ⟨front, rest, happend, hlt⟩
      rcases List.eq_nil_or_concat front with rfl | ⟨before, child, rfl⟩
      · have hchild : graph.hierarchy.parent? descendant = some component := by
          simp [h.parent?_eq_head?, happend]
        exact ⟨descendant, (mem_children_iff h).2 hchild, List.mem_cons_self⟩
      · have hsplit : graph.hierarchy.ancestors descendant =
            before ++ child :: component :: rest := by
          simp [happend]
        have hchild : graph.hierarchy.parent? child = some component := by
          simp [h.parent?_eq_head?, (h.ancestors_of_eq_append hsplit).2]
        refine ⟨child, (mem_children_iff h).2 hchild, List.mem_cons_of_mem _ ?_⟩
        refine ih.2 ⟨before, component :: rest, hsplit, ?_⟩
        simp only [List.concat_eq_append, List.length_append, List.length_singleton] at hlt
        omega

/-- The descendants of a component are all that have it among their ancestors. -/
theorem mem_descendants_iff (h : graph.hierarchy.Rooted) {descendant : ComponentId} :
    descendant ∈ (ofGraph graph).descendants component ↔
      component ∈ graph.hierarchy.ancestors descendant := by
  simp only [descendants, mem_below_iff h, length_components_ofGraph]
  constructor
  · rintro ⟨front, rest, happend, _⟩
    simp [happend]
  · intro hmem
    rcases List.append_of_mem hmem with ⟨front, rest, happend⟩
    -- Ancestors are members and differ, so the way up is shorter than the list of components.
    refine ⟨front, rest, happend, ?_⟩
    have hmember : descendant ∈ graph.hierarchy.components := by
      by_contra hnot
      simp [Hierarchy.ancestors_of_not_mem hnot] at hmem
    have hlength := h.length_ancestors_lt hmember
    simp only [happend, List.length_append] at hlength
    omega

/-- What is below a component includes what hangs below any part of it. -/
theorem mem_descendants_of_parent? (h : graph.hierarchy.Rooted) {child parent : ComponentId}
    (hparent : graph.hierarchy.parent? child = some parent)
    (hmem : parent ∈ component :: (ofGraph graph).descendants component) :
    child ∈ (ofGraph graph).descendants component := by
  simp only [mem_descendants_iff h, h.ancestors_eq_cons_of_parent? hparent]
  rcases List.mem_cons.1 hmem with rfl | hbelow
  · exact List.mem_cons_self
  · exact List.mem_cons_of_mem _ ((mem_descendants_iff h).1 hbelow)

end Plan
end ObjectGraph
