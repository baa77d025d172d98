import ObjectGraph.Proofs.Live.Located

/-!
# Activation — exactly what is missing of a lineage

On its way back from the root an activation makes an instance wherever the lineage of the component
has none. It makes no other, and what is active stays.

* `LiveGraph.Completes` — a live graph with the missing instances of a lineage;
* `LiveGraph.made_of_activateWithin` — new instances belong to the lineage;
* `LiveGraph.activate_unknown` — what is no member is refused;
* `LiveGraph.completes_of_activate` — what any activation leads to;
* `LiveGraph.loses_destroy` — what is destroyed with a component;
* `LiveGraph.inst?_of_destroy_above` — instances that a destruction leaves alone.
-/

namespace ObjectGraph

namespace LiveGraph

/-- The activation has the instance of the component, with the active ones of the ancestors above it.
Compared with the graph before, it has instances for the whole lineage and is the same elsewhere. -/
structure Completes (hierarchy : Hierarchy) (component : ComponentId) (graph : LiveGraph)
    (activation : Activation) : Prop where
  belongs : activation.inst.component = component
  found : activation.graph.inst? component = some activation.inst
  root : activation.graph.root = graph.root
  kept : ∀ other inst, graph.inst? other = some inst → activation.graph.inst? other = some inst
  active : ∀ other, activation.graph.active.contains other = true ↔
    graph.active.contains other = true ∨
      (other ∈ hierarchy.lineage component ∧ other ≠ hierarchy.root)
  parents : activation.inst.parents.map some =
    (hierarchy.ancestors component).map activation.graph.inst?
  top : (activation.inst :: activation.inst.parents).getLast? = some graph.root

variable {built : Graph} {graph : LiveGraph} {component other : ComponentId} {nextStamp : Nat}
  {inst : Instance} {activation : Activation}

/-! ## What is made -/

theorem active_of_activateBelow {parent : Instance}
    (h : (activateBelow parent component graph nextStamp).graph.active.find? other = some inst) :
    graph.active.find? other = some inst ∨ other = component := by
  -- Only the entry of the component may differ.
  by_cases heq : other = component
  · exact Or.inr heq
  · left
    simp only [activateBelow] at h
    split at h
    · simpa [Table.find?_insert, heq] using h
    · split at h
      · exact h
      · simpa [Table.find?_insert, heq] using h

/-- Whatever an activation makes is part of the lineage. -/
theorem made_of_activateWithin (hrooted : built.hierarchy.Rooted)
    (hplan : graph.wiring.plan = .ofGraph built) {bound : Nat}
    (hok : activateWithin bound component graph nextStamp = .ok activation)
    (hinst : activation.graph.active.find? other = some inst) :
    graph.active.find? other = some inst ∨ other ∈ built.hierarchy.lineage component := by
  induction bound generalizing component activation inst with
  | zero =>
    rcases activateWithin_eq_ok hok with ⟨_, rfl⟩ | ⟨_, fewer, _, hbound, _⟩
    · exact Or.inl hinst
    · simp at hbound
  | succ bound ih =>
    rcases activateWithin_eq_ok hok with ⟨_, rfl⟩ | ⟨plan, fewer, _, hbound, hfound, hcase⟩
    · exact Or.inl hinst
    · cases hbound
      simp only [hplan] at hfound
      rcases Plan.component?_eq_some hfound with ⟨hmem, rfl⟩
      have hself : component ∈ built.hierarchy.lineage component :=
        hrooted.mem_lineage_iff.2 ⟨hmem, Or.inl rfl⟩
      rcases hcase with ⟨_, rfl⟩ | ⟨parent, above, hparent, habove, rfl⟩
      · rcases active_of_activateBelow hinst with hold | rfl
        · exact Or.inl hold
        · exact Or.inr hself
      · rcases active_of_activateBelow hinst with hbefore | rfl
        · rcases ih habove hbefore with hold | hline
          · exact Or.inl hold
          · -- The lineage of the parent is part of that of the component.
            have hancestors := hrooted.ancestors_eq_cons_of_parent? hparent
            have hparentLine : parent ∈ built.hierarchy.lineage component :=
              hrooted.mem_lineage_iff.2 ⟨hmem, Or.inr (by simp [hancestors])⟩
            exact Or.inr (hrooted.mem_lineage_trans hparentLine hline)
        · exact Or.inr hself

/-! ## Activation of a component -/

theorem activate_unknown (h : graph.Linked built.hierarchy nextStamp)
    (hrooted : built.hierarchy.Rooted) (hplan : graph.wiring.plan = .ofGraph built)
    (hnot : component ∉ built.hierarchy.components) (stamp : Nat) :
    graph.activate component stamp = .error (.unknownComponent component) := by
  have hne : component ≠ graph.root.component := by
    rintro rfl
    exact hnot (h.root ▸ hrooted.root_mem)
  have hnone : (Plan.ofGraph built).component? component = none := by
    simp [Plan.component?_ofGraph, hnot]
  unfold activate activateWithin
  simp [hne, hplan, hnone]

theorem completes_of_activate (h : graph.Linked built.hierarchy nextStamp)
    (hrooted : built.hierarchy.Rooted) (hplan : graph.wiring.plan = .ofGraph built)
    (hok : graph.activate component nextStamp = .ok activation) :
    graph.Completes built.hierarchy component activation := by
  rcases linked_activate h hrooted hplan hok with ⟨hlinked, hfound, hcontinues⟩
  have hkept : ∀ other inst, graph.inst? other = some inst →
      activation.graph.inst? other = some inst := by
    intro other inst hinst
    rcases root_or_active hinst with ⟨rfl, rfl⟩ | hactive
    · simp [inst?, hcontinues.root]
    · exact hlinked.inst?_of_active hrooted (hcontinues.kept other inst hactive)
  have hparents := hlinked.parents_eq hrooted hfound
  refine ⟨hlinked.component_of_inst? hfound, hfound, hcontinues.root, hkept, ?_, hparents, ?_⟩
  · intro other
    simp only [Table.contains, Option.isSome_iff_exists]
    constructor
    · rintro ⟨inst, hinst⟩
      have hne : other ≠ built.hierarchy.root :=
        hlinked.root ▸ hlinked.ne_root_of_active hrooted hinst
      rcases made_of_activateWithin hrooted hplan hok hinst with hold | hline
      · exact Or.inl ⟨inst, hold⟩
      · exact Or.inr ⟨hline, hne⟩
    · rintro (⟨inst, hinst⟩ | ⟨hline, hne⟩)
      · exact ⟨inst, hcontinues.kept other inst hinst⟩
      · -- The component has an instance, and so has every ancestor.
        have hsome : ∃ inst, activation.graph.inst? other = some inst := by
          rcases (hrooted.mem_lineage_iff.1 hline).2 with rfl | habove
          · exact ⟨_, hfound⟩
          · have hlisted : activation.graph.inst? other ∈ activation.inst.parents.map some := by
              simp only [hparents]
              exact List.mem_map_of_mem habove
            rcases List.mem_map.1 hlisted with ⟨inst, _, hinst⟩
            exact ⟨inst, hinst.symm⟩
        rcases hsome with ⟨inst, hinst⟩
        rcases root_or_active hinst with ⟨hroot, _⟩ | hactive
        · exact absurd (hroot.trans hlinked.root) hne
        · exact ⟨inst, hactive⟩
  · rcases root_or_active hfound with ⟨_, hroot⟩ | hactive
    · have hnil : graph.root.parents = [] := Instance.parents_eq_nil h.top
      simp [hroot, hcontinues.root, hnil]
    · have hlast := hlinked.getLast?_parents hrooted hactive
      simp only [hcontinues.root] at hlast
      simp [List.getLast?_cons, hlast]

/-! ## Destruction -/

/-- A live graph without the instances of a component and of all that is below it. -/
structure Loses (hierarchy : Hierarchy) (component : ComponentId) (graph left : LiveGraph) :
    Prop where
  wiring : left.wiring = graph.wiring
  root : left.root = graph.root
  active : ∀ other, left.active.find? other =
    if component ∈ hierarchy.lineage other then none else graph.active.find? other

/-- If an active instance is destroyed, exactly those below it go with it. -/
theorem loses_destroy (h : graph.Linked built.hierarchy nextStamp)
    (hrooted : built.hierarchy.Rooted) (hplan : graph.wiring.plan = .ofGraph built)
    (hactive : graph.active.contains component = true) :
    graph.Loses built.hierarchy component (graph.destroy component).2 where
  wiring := (graph.destroy_keeps component).1
  root := (graph.destroy_keeps component).2
  active := by
    intro other
    simp only [find?_destroy, hactive, true_and, hplan, List.mem_cons,
      Plan.mem_descendants_iff hrooted]
    by_cases hmem : other ∈ built.hierarchy.components
    · simp only [hrooted.mem_lineage_iff, hmem, true_and, eq_comm]
    · -- What is no member is not active in the first place.
      have hnone : graph.active.find? other = none := by
        cases hfind : graph.active.find? other with
        | none => rfl
        | some inst =>
          exact absurd (h.mem_components hrooted (h.inst?_of_active hrooted hfind)) hmem
      simp [hnone]

/-- No instance is left of what is destroyed. -/
theorem Loses.inst?_eq_none {left : LiveGraph} (hloses : graph.Loses built.hierarchy component left)
    (h : graph.Linked built.hierarchy nextStamp) (hrooted : built.hierarchy.Rooted)
    (hactive : graph.active.contains component = true)
    (hbelow : component ∈ built.hierarchy.lineage other) : left.inst? other = none := by
  have hne : other ≠ left.root.component := by
    rintro rfl
    rcases Option.isSome_iff_exists.1 hactive with ⟨inst, hinst⟩
    have hroot : component = built.hierarchy.root := by
      simpa [hloses.root, h.root, hrooted.mem_lineage_iff, hrooted.root_mem,
        hrooted.ancestors_root] using hbelow
    exact h.ne_root_of_active hrooted hinst (hroot.trans h.root.symm)
  simp [inst?, hne, hloses.active, hbelow]

/-- Instances stay unless something of their lineage is destroyed. -/
theorem inst?_of_destroy_above (hrooted : built.hierarchy.Rooted)
    (hplan : graph.wiring.plan = .ofGraph built) (hinst : graph.inst? other = some inst)
    (hspared : component ≠ other ∧ component ∉ built.hierarchy.ancestors other) :
    (graph.destroy component).2.inst? other = some inst := by
  have hroot : (graph.destroy component).2.root = graph.root := (graph.destroy_keeps component).2
  by_cases heq : other = graph.root.component
  · simpa [inst?, hroot, heq] using hinst
  · have hstays : other ∉ component :: (Plan.ofGraph built).descendants component := by
      simpa [Plan.mem_descendants_iff hrooted] using ⟨hspared.1.symm, hspared.2⟩
    simpa [inst?, hroot, heq, find?_destroy, hplan, hstays] using hinst

end LiveGraph
end ObjectGraph
