import ObjectGraph.Live.Scopes
import ObjectGraph.Proofs.Live.Instance
import ObjectGraph.Proofs.Plan
import ObjectGraph.Proofs.Table

/-!
# Live graphs — every active instance hangs below an active one

The active instances follow the tree of the components: the parent of an instance is the instance
that is active for the parent component. Activation makes what is missing on the way down from the
root, and destruction takes everything below along.

* `LiveGraph.inst?` — the instance that a component has, the root included;
* `LiveGraph.Linked` — active instances and the tree of the components;
* `Activation.Continues` — what an activation leaves as it was;
* `LiveGraph.linked_activate`, `LiveGraph.linked_destroy` — both operations keep the links;
* `LiveGraph.Linked.parents_eq` — above an instance are the active ones of the ancestors;
* `LiveGraph.Linked.follows`, `LiveGraph.Linked.rootStamp_eq` — the way up, by components and stamps;
* `LiveGraph.Linked.census` — the instances of a linked graph join a census.
-/

namespace ObjectGraph

namespace LiveGraph

def inst? (graph : LiveGraph) (component : ComponentId) : Option Instance :=
  if component = graph.root.component then some graph.root else graph.active.find? component

/-- Each active instance belongs to its component and hangs below the instance that is active for the
parent component. Stamps tell the instances of the graph apart and are all below the next one. -/
structure Linked (hierarchy : Hierarchy) (nextStamp : Nat) (graph : LiveGraph) : Prop where
  root : graph.root.component = hierarchy.root
  top : graph.root.above = []
  component : ∀ component inst, graph.active.find? component = some inst →
    inst.component = component
  parent : ∀ component inst, graph.active.find? component = some inst →
    ∃ parent above, hierarchy.parent? component = some parent ∧
      graph.inst? parent = some above ∧ inst.parent? = some above
  distinct : ∀ a b first second, graph.inst? a = some first → graph.inst? b = some second →
    first.stamp = second.stamp → a = b
  below : ∀ component inst, graph.inst? component = some inst → inst.stamp < nextStamp

/-- The active instances stay, and those that are new have new stamps. -/
structure Activation.Continues (graph : LiveGraph) (nextStamp : Nat) (activation : Activation) :
    Prop where
  wiring : activation.graph.wiring = graph.wiring
  root : activation.graph.root = graph.root
  kept : ∀ component inst, graph.active.find? component = some inst →
    activation.graph.active.find? component = some inst
  made : ∀ component inst, activation.graph.active.find? component = some inst →
    graph.active.find? component = some inst ∨ nextStamp ≤ inst.stamp
  stamps : nextStamp ≤ activation.nextStamp

variable {graph : LiveGraph} {hierarchy : Hierarchy} {nextStamp : Nat} {component : ComponentId}

/-! ## Lookups -/

theorem inst?_root : graph.inst? graph.root.component = some graph.root := by
  simp [inst?]

theorem inst?_of_ne (h : component ≠ graph.root.component) :
    graph.inst? component = graph.active.find? component := by
  simp [inst?, h]

/-- An instance is the root or an active one. -/
theorem root_or_active {inst : Instance} (h : graph.inst? component = some inst) :
    (component = graph.root.component ∧ inst = graph.root) ∨
      graph.active.find? component = some inst := by
  by_cases hroot : component = graph.root.component
  · have hsame : graph.root = inst := by
      simpa [inst?, hroot] using h
    exact Or.inl ⟨hroot, hsame.symm⟩
  · exact Or.inr (by simpa [inst?, hroot] using h)

theorem inst?_insert (h : component ≠ graph.root.component) (fresh : Instance)
    (other : ComponentId) :
    LiveGraph.inst? { graph with active := graph.active.insert component fresh } other =
      if other = component then some fresh else graph.inst? other := by
  by_cases hroot : other = graph.root.component
  · have hother : other ≠ component := by
      rintro rfl
      exact h hroot
    simp [inst?, hroot, h.symm]
  · simp [inst?, hroot, Table.find?_insert]

namespace Linked

theorem mono (h : graph.Linked hierarchy nextStamp) {later : Nat} (hle : nextStamp ≤ later) :
    graph.Linked hierarchy later where
  root := h.root
  top := h.top
  component := h.component
  parent := h.parent
  distinct := h.distinct
  below := by
    intro component inst hinst
    exact Nat.lt_of_lt_of_le (h.below component inst hinst) hle

/-- The component of an active instance has a parent, so it is not the root. -/
theorem ne_root (h : graph.Linked hierarchy nextStamp) (hrooted : hierarchy.Rooted)
    {parent : ComponentId} (hparent : hierarchy.parent? component = some parent) :
    component ≠ graph.root.component := by
  intro heq
  have hnone : hierarchy.parent? component = none := by
    rw [heq, h.root, hrooted.parent?_root]
  simp [hnone] at hparent

theorem ne_root_of_active (h : graph.Linked hierarchy nextStamp) (hrooted : hierarchy.Rooted)
    {inst : Instance} (hinst : graph.active.find? component = some inst) :
    component ≠ graph.root.component := by
  rcases h.parent component inst hinst with ⟨parent, above, hparent, _, _⟩
  exact h.ne_root hrooted hparent

theorem inst?_of_active (h : graph.Linked hierarchy nextStamp) (hrooted : hierarchy.Rooted)
    {inst : Instance} (hinst : graph.active.find? component = some inst) :
    graph.inst? component = some inst := by
  have hne : component ≠ graph.root.component := h.ne_root_of_active hrooted hinst
  simpa [inst?_of_ne hne] using hinst

end Linked

/-- A new live graph has nothing but its root. -/
theorem eq_root_of_start {wiring : Wiring} {inst : Instance}
    (h : (start wiring nextStamp).inst? component = some inst) :
    component = wiring.plan.root ∧ inst = (start wiring nextStamp).root := by
  by_cases hroot : component = wiring.plan.root
  · have hinst : (start wiring nextStamp).root = inst := by
      simpa [inst?, start, Instance.component, hroot] using h
    exact ⟨hroot, hinst.symm⟩
  · simp [inst?, start, Instance.component, hroot] at h

theorem linked_start (wiring : Wiring) (hplan : wiring.plan.root = hierarchy.root) :
    (start wiring nextStamp).Linked hierarchy (nextStamp + 1) := by
  constructor
  · exact hplan
  · rfl
  · intro component inst hactive
    simp [start] at hactive
  · intro component inst hactive
    simp [start] at hactive
  · intro a b first second ha hb _
    exact (eq_root_of_start ha).1.trans (eq_root_of_start hb).1.symm
  · intro component inst hfound
    have hroot : inst = (start wiring nextStamp).root := (eq_root_of_start hfound).2
    simp [hroot, start, Instance.stamp]

/-! ## Activation -/

namespace Activation.Continues

theorem refl (inst : Instance) : Continues graph nextStamp ⟨inst, graph, nextStamp⟩ where
  wiring := rfl
  root := rfl
  kept := fun _ _ h => h
  made := fun _ _ h => Or.inl h
  stamps := Nat.le_refl _

theorem trans {first second : Activation} (h : Continues graph nextStamp first)
    (hnext : Continues first.graph first.nextStamp second) : Continues graph nextStamp second where
  wiring := hnext.wiring.trans h.wiring
  root := hnext.root.trans h.root
  kept := fun component inst hinst => hnext.kept component inst (h.kept component inst hinst)
  made := by
    intro component inst hinst
    rcases hnext.made component inst hinst with hfirst | hnew
    · exact h.made component inst hfirst
    · exact Or.inr (Nat.le_trans h.stamps hnew)
  stamps := Nat.le_trans h.stamps hnext.stamps

end Activation.Continues

/-- An instance made below the one that is active for the parent component. -/
theorem linked_insert (h : graph.Linked hierarchy nextStamp) (hrooted : hierarchy.Rooted)
    {parent : ComponentId} {above : Instance} (hparent : hierarchy.parent? component = some parent)
    (habove : graph.inst? parent = some above) (hnone : graph.active.find? component = none) :
    let fresh : Instance := ⟨⟨nextStamp, component⟩, above.lineage⟩
    let later := { graph with active := graph.active.insert component fresh }
    later.Linked hierarchy (nextStamp + 1) ∧ later.inst? component = some fresh := by
  intro fresh later
  have hne : component ≠ graph.root.component := h.ne_root hrooted hparent
  have hinst : ∀ other, later.inst? other =
      if other = component then some fresh else graph.inst? other :=
    inst?_insert hne fresh
  have hfresh : later.inst? component = some fresh := by
    simp [hinst]
  -- The component was missing, so no lookup that succeeded before finds something else now.
  have hkept : ∀ other inst, graph.inst? other = some inst → later.inst? other = some inst := by
    intro other inst hother
    have hdifferent : other ≠ component := by
      rintro rfl
      simp [inst?_of_ne hne, hnone] at hother
    simpa [hinst, hdifferent] using hother
  have hactive : ∀ other inst, later.active.find? other = some inst →
      (other = component ∧ inst = fresh) ∨ graph.active.find? other = some inst := by
    intro other inst hother
    simp only [later, Table.find?_insert] at hother
    split at hother
    · rename_i heq
      exact Or.inl ⟨heq, (Option.some.inj hother).symm⟩
    · exact Or.inr hother
  -- Every older stamp is below the one that the new instance takes.
  have hstamps : ∀ other inst, later.inst? other = some inst →
      (other = component ∧ inst.stamp = nextStamp) ∨
        (graph.inst? other = some inst ∧ inst.stamp < nextStamp) := by
    intro other inst hother
    simp only [hinst] at hother
    split at hother
    · rename_i heq
      cases hother
      exact Or.inl ⟨heq, rfl⟩
    · exact Or.inr ⟨hother, h.below other inst hother⟩
  refine ⟨⟨h.root, h.top, ?_, ?_, ?_, ?_⟩, hfresh⟩
  · intro other inst hother
    rcases hactive other inst hother with ⟨rfl, rfl⟩ | hold
    · rfl
    · exact h.component other inst hold
  · intro other inst hother
    rcases hactive other inst hother with ⟨rfl, rfl⟩ | hold
    · exact ⟨parent, above, hparent, hkept parent above habove,
        Instance.parent?_eq_some_iff.2 rfl⟩
    · rcases h.parent other inst hold with ⟨up, upper, hup, hupper, hlink⟩
      exact ⟨up, upper, hup, hkept up upper hupper, hlink⟩
  · intro a b first second ha hb hstamp
    rcases hstamps a first ha with ⟨hnewa, hfirst⟩ | ⟨holda, hfirst⟩
    · rcases hstamps b second hb with ⟨hnewb, _⟩ | ⟨_, hsecond⟩
      · exact hnewa.trans hnewb.symm
      · omega
    · rcases hstamps b second hb with ⟨_, hsecond⟩ | ⟨holdb, _⟩
      · omega
      · exact h.distinct a b first second holda holdb hstamp
  · intro other inst hother
    rcases hstamps other inst hother with ⟨_, hnew⟩ | ⟨_, hold⟩
    · omega
    · omega

theorem linked_activateBelow (h : graph.Linked hierarchy nextStamp) (hrooted : hierarchy.Rooted)
    {parent : ComponentId} {above : Instance} (hparent : hierarchy.parent? component = some parent)
    (habove : graph.inst? parent = some above) :
    let activation := activateBelow above component graph nextStamp
    activation.graph.Linked hierarchy activation.nextStamp ∧
      activation.graph.inst? component = some activation.inst ∧
        activation.Continues graph nextStamp := by
  intro activation
  cases hfind : graph.active.find? component with
  | none =>
    let fresh : Instance := ⟨⟨nextStamp, component⟩, above.lineage⟩
    have hactivation : activation =
        ⟨fresh, { graph with active := graph.active.insert component fresh }, nextStamp + 1⟩ := by
      simp [activation, activateBelow, hfind, fresh]
    rcases linked_insert h hrooted hparent habove hfind with ⟨hlinked, hinst⟩
    simp only [hactivation]
    refine ⟨hlinked, hinst, ⟨rfl, rfl, ?_, ?_, Nat.le_succ nextStamp⟩⟩
    · intro other inst hother
      have hne : other ≠ component := by
        rintro rfl
        simp [hfind] at hother
      simpa [Table.find?_insert, hne] using hother
    · intro other inst hother
      simp only [Table.find?_insert] at hother
      split at hother
      · cases hother
        exact Or.inr (Nat.le_refl nextStamp)
      · exact Or.inl hother
  | some inst =>
    -- The instance found hangs below the one that is active for the parent component.
    have hlink : inst.parent? = some above := by
      rcases h.parent component inst hfind with ⟨up, upper, hup, hupper, hlink⟩
      have hsame : up = parent := Option.some.inj (hup.symm.trans hparent)
      subst hsame
      calc
        inst.parent? = some upper := hlink
        _ = graph.inst? up := hupper.symm
        _ = some above := habove
    have hactivation : activation = ⟨inst, graph, nextStamp⟩ := by
      simp [activation, activateBelow, hfind, hlink]
    simp only [hactivation]
    exact ⟨h, h.inst?_of_active hrooted hfind, Activation.Continues.refl inst⟩

/-- An activation ends at the root, or goes on below the instance that the parent component has. -/
theorem activateWithin_eq_ok {bound : Nat} {activation : Activation}
    (hok : activateWithin bound component graph nextStamp = .ok activation) :
    (component = graph.root.component ∧ activation = ⟨graph.root, graph, nextStamp⟩) ∨
      ∃ plan fewer, component ≠ graph.root.component ∧ bound = fewer + 1 ∧
        graph.wiring.plan.component? component = some plan ∧
        ((plan.parent = none ∧ activation = activateBelow graph.root component graph nextStamp) ∨
          ∃ parent above, plan.parent = some parent ∧
            activateWithin fewer parent graph nextStamp = .ok above ∧
              activation = activateBelow above.inst component above.graph above.nextStamp) := by
  unfold activateWithin at hok
  split at hok
  · rename_i hroot
    cases hok
    exact Or.inl ⟨hroot, rfl⟩
  · rename_i hroot
    split at hok
    · simp at hok
    · simp at hok
    · rename_i plan fewer hfound
      refine Or.inr ⟨plan, fewer, hroot, rfl, hfound, ?_⟩
      split at hok
      · rename_i hparent
        cases hok
        exact Or.inl ⟨hparent, rfl⟩
      · rename_i parent hparent
        split at hok
        · simp at hok
        · rename_i above habove
          cases hok
          exact Or.inr ⟨parent, above, hparent, habove, rfl⟩

theorem linked_activateWithin {bound : Nat} {built : Graph} {activation : Activation}
    (h : graph.Linked built.hierarchy nextStamp) (hrooted : built.hierarchy.Rooted)
    (hplan : graph.wiring.plan = .ofGraph built)
    (hok : activateWithin bound component graph nextStamp = .ok activation) :
    activation.graph.Linked built.hierarchy activation.nextStamp ∧
      activation.graph.inst? component = some activation.inst ∧
        activation.Continues graph nextStamp := by
  induction bound generalizing component activation with
  | zero =>
    rcases activateWithin_eq_ok hok with ⟨rfl, rfl⟩ | ⟨_, fewer, _, hbound, _⟩
    · exact ⟨h, inst?_root, Activation.Continues.refl graph.root⟩
    · simp at hbound
  | succ bound ih =>
    rcases activateWithin_eq_ok hok with ⟨rfl, rfl⟩ | ⟨plan, fewer, hroot, hbound, hfound, hcase⟩
    · exact ⟨h, inst?_root, Activation.Continues.refl graph.root⟩
    · cases hbound
      simp only [hplan] at hfound
      rcases Plan.component?_eq_some hfound with ⟨hmem, rfl⟩
      rcases hcase with ⟨hparent, _⟩ | ⟨parent, above, hparent, habove, rfl⟩
      · -- Only the root has no parent.
        have hcomponent := (hrooted.parent?_eq_none_iff hmem).1 hparent
        exact absurd (hcomponent.trans h.root.symm) hroot
      · rcases ih habove with ⟨hlinked, hinst, hcontinues⟩
        rcases linked_activateBelow hlinked hrooted hparent hinst with ⟨hbelow, hnew, hnext⟩
        exact ⟨hbelow, hnew, hcontinues.trans hnext⟩

/-- Activation links what it makes and keeps what is active. -/
theorem linked_activate {built : Graph} {activation : Activation}
    (h : graph.Linked built.hierarchy nextStamp) (hrooted : built.hierarchy.Rooted)
    (hplan : graph.wiring.plan = .ofGraph built)
    (hok : graph.activate component nextStamp = .ok activation) :
    activation.graph.Linked built.hierarchy activation.nextStamp ∧
      activation.graph.inst? component = some activation.inst ∧
        activation.Continues graph nextStamp :=
  linked_activateWithin h hrooted hplan hok

theorem wiring_activateBelow (parent : Instance) (component : ComponentId) (graph : LiveGraph)
    (nextStamp : Nat) :
    (activateBelow parent component graph nextStamp).graph.wiring = graph.wiring := by
  simp only [activateBelow]
  split
  · rfl
  · split <;> rfl

theorem wiring_of_activateWithin {bound : Nat} {activation : Activation}
    (hok : activateWithin bound component graph nextStamp = .ok activation) :
    activation.graph.wiring = graph.wiring := by
  induction bound generalizing component activation with
  | zero =>
    rcases activateWithin_eq_ok hok with ⟨_, rfl⟩ | ⟨_, fewer, _, hbound, _⟩
    · rfl
    · simp at hbound
  | succ bound ih =>
    rcases activateWithin_eq_ok hok with ⟨_, rfl⟩ | ⟨_, fewer, _, hbound, _, hcase⟩
    · rfl
    · cases hbound
      rcases hcase with ⟨_, rfl⟩ | ⟨parent, above, _, habove, rfl⟩
      · exact wiring_activateBelow _ _ _ _
      · exact (wiring_activateBelow _ _ _ _).trans (ih habove)

/-- Activation changes instances only, linked or not. -/
theorem wiring_of_activate {activation : Activation}
    (hok : graph.activate component nextStamp = .ok activation) :
    activation.graph.wiring = graph.wiring :=
  wiring_of_activateWithin hok

/-! ## Destruction -/

theorem find?_destroy (other : ComponentId) :
    (graph.destroy component).2.active.find? other =
      if graph.active.contains component = true ∧
          other ∈ component :: graph.wiring.plan.descendants component then none
      else graph.active.find? other := by
  simp only [destroy]
  split
  · rename_i hactive
    simp only [hactive, true_and]
    exact Table.find?_foldl_erase _ _ _
  · rename_i hactive
    simp [hactive]

theorem destroy_keeps (graph : LiveGraph) (component : ComponentId) :
    (graph.destroy component).2.wiring = graph.wiring ∧
      (graph.destroy component).2.root = graph.root := by
  simp only [destroy]
  split
  · exact ⟨rfl, rfl⟩
  · exact ⟨rfl, rfl⟩

theorem active_of_destroy {other : ComponentId} {inst : Instance}
    (h : (graph.destroy component).2.active.find? other = some inst) :
    graph.active.find? other = some inst := by
  simp only [find?_destroy] at h
  split at h
  · simp at h
  · exact h

theorem inst?_of_destroy {other : ComponentId} {inst : Instance}
    (h : (graph.destroy component).2.inst? other = some inst) :
    graph.inst? other = some inst := by
  have hroot : (graph.destroy component).2.root = graph.root :=
    (graph.destroy_keeps component).2
  by_cases heq : other = graph.root.component
  · simpa [inst?, hroot, heq] using h
  · have hactive : (graph.destroy component).2.active.find? other = some inst := by
      simpa [inst?, hroot, heq] using h
    simpa [inst?, heq] using active_of_destroy hactive

/-- Whatever hangs below a destroyed instance is destroyed with it. -/
theorem linked_destroy {built : Graph} (h : graph.Linked built.hierarchy nextStamp)
    (hrooted : built.hierarchy.Rooted) (hplan : graph.wiring.plan = .ofGraph built)
    (component : ComponentId) :
    (graph.destroy component).2.Linked built.hierarchy nextStamp := by
  have hroot : (graph.destroy component).2.root = graph.root :=
    (graph.destroy_keeps component).2
  refine ⟨by simpa [hroot] using h.root, by simpa [hroot] using h.top, ?_, ?_, ?_, ?_⟩
  · intro other inst hother
    exact h.component other inst (active_of_destroy hother)
  · intro other inst hother
    rcases h.parent other inst (active_of_destroy hother) with
      ⟨parent, above, hparent, habove, hlink⟩
    refine ⟨parent, above, hparent, ?_, hlink⟩
    by_cases heq : parent = graph.root.component
    · simpa [inst?, hroot, heq] using habove
    · -- If the parent were removed, so would be what is below it.
      have hstays : ¬ (graph.active.contains component = true ∧
          parent ∈ component :: graph.wiring.plan.descendants component) := by
        rintro ⟨hcontains, hremoved⟩
        simp only [hplan] at hremoved
        have hbelow : other ∈ (Plan.ofGraph built).descendants component :=
          Plan.mem_descendants_of_parent? hrooted hparent hremoved
        simp [find?_destroy, hplan, hcontains, hbelow] at hother
      have hfound : (graph.destroy component).2.active.find? parent = some above := by
        simpa only [find?_destroy, if_neg hstays, inst?_of_ne heq] using habove
      simpa [inst?, hroot, heq] using hfound
  · intro a b first second ha hb hstamp
    exact h.distinct a b first second (inst?_of_destroy ha) (inst?_of_destroy hb) hstamp
  · intro other inst hother
    exact h.below other inst (inst?_of_destroy hother)

/-! ## The way up -/

/-- Above an instance are the instances that are active for the ancestors of its component. -/
theorem Linked.parents_eq (h : graph.Linked hierarchy nextStamp) (hrooted : hierarchy.Rooted)
    {inst : Instance} (hinst : graph.inst? component = some inst) :
    inst.parents.map some = (hierarchy.ancestors component).map graph.inst? := by
  generalize hancestors : hierarchy.ancestors component = ancestors
  induction ancestors generalizing component inst with
  | nil =>
    have hroot : component = graph.root.component := by
      by_contra hne
      have hactive : graph.active.find? component = some inst := by
        simpa [inst?_of_ne hne] using hinst
      rcases h.parent component inst hactive with ⟨parent, above, hparent, _, _⟩
      simp [hrooted.parent?_eq_head?, hancestors] at hparent
    have hinst : graph.root = inst := by
      simpa [inst?, hroot] using hinst
    simp [← hinst, Instance.parents_eq_nil h.top]
  | cons parent rest ih =>
    have hparent : hierarchy.parent? component = some parent := by
      simp [hrooted.parent?_eq_head?, hancestors]
    have hactive : graph.active.find? component = some inst := by
      simpa [inst?_of_ne (h.ne_root hrooted hparent)] using hinst
    rcases h.parent component inst hactive with ⟨up, above, hup, habove, hlink⟩
    have hsame : up = parent := Option.some.inj (hup.symm.trans hparent)
    subst hsame
    have hrest : hierarchy.ancestors up = rest := (hrooted.ancestors_of_eq_cons hancestors).2
    calc
      inst.parents.map some = (above :: above.parents).map some := by
        simp [Instance.parents_eq_cons hlink]
      _ = some above :: above.parents.map some := rfl
      _ = graph.inst? up :: rest.map graph.inst? := by
        simp [habove, ih habove hrest]
      _ = (up :: rest).map graph.inst? := rfl

/-- The way up from an instance ends at the root instance. -/
theorem Linked.getLast?_parents (h : graph.Linked hierarchy nextStamp)
    (hrooted : hierarchy.Rooted) {inst : Instance}
    (hinst : graph.active.find? component = some inst) :
    inst.parents.getLast? = some graph.root := by
  rcases h.parent component inst hinst with ⟨parent, above, hparent, _, _⟩
  have hne : hierarchy.ancestors component ≠ [] := by
    intro hnil
    simp [hrooted.parent?_eq_head?, hnil] at hparent
  have hparents : inst.parents.map some = (hierarchy.ancestors component).map graph.inst? :=
    h.parents_eq hrooted (h.inst?_of_active hrooted hinst)
  have hlast : (inst.parents.map some).getLast? = some (some graph.root) := by
    calc
      (inst.parents.map some).getLast? =
          (hierarchy.ancestors component).getLast?.map graph.inst? := by
        simp [hparents]
      _ = some (graph.inst? hierarchy.root) := by
        simp [hrooted.getLast?_ancestors hne]
      _ = some (some graph.root) := by
        simp [inst?, h.root]
  simpa using hlast

theorem Linked.component_of_inst? (h : graph.Linked hierarchy nextStamp) {inst : Instance}
    (hinst : graph.inst? component = some inst) : inst.component = component := by
  rcases root_or_active hinst with ⟨hroot, rfl⟩ | hactive
  · exact hroot.symm
  · exact h.component component inst hactive

/-- Whatever is above an instance of the graph is active in it. -/
theorem Linked.inst?_of_mem_upwards (h : graph.Linked hierarchy nextStamp)
    (hrooted : hierarchy.Rooted) {inst other : Instance}
    (hinst : graph.inst? component = some inst) (hother : other ∈ inst :: inst.parents) :
    graph.inst? other.component = some other := by
  have hactive : ∃ upper, graph.inst? upper = some other := by
    rcases List.mem_cons.1 hother with rfl | habove
    · exact ⟨component, hinst⟩
    · have hlisted : some other ∈ (hierarchy.ancestors component).map graph.inst? := by
        rw [← h.parents_eq hrooted hinst]
        exact List.mem_map_of_mem habove
      rcases List.mem_map.1 hlisted with ⟨upper, _, hupper⟩
      exact ⟨upper, hupper⟩
  rcases hactive with ⟨upper, hupper⟩
  rwa [h.component_of_inst? hupper]

/-- Whatever has an instance is a member: the root, or what has a parent. -/
theorem Linked.mem_components (h : graph.Linked hierarchy nextStamp) (hrooted : hierarchy.Rooted)
    {inst : Instance} (hinst : graph.inst? component = some inst) :
    component ∈ hierarchy.components := by
  rcases root_or_active hinst with ⟨hroot, _⟩ | hactive
  · simp only [hroot, h.root]
    exact hrooted.root_mem
  · rcases h.parent component inst hactive with ⟨parent, above, hparent, _, _⟩
    exact Hierarchy.mem_components_of_parent? hparent

/-- The instances of a linked graph follow the tree of the components. -/
theorem Linked.follows (h : graph.Linked hierarchy nextStamp) (hrooted : hierarchy.Rooted)
    {inst : Instance} (hinst : graph.inst? component = some inst) : inst.Follows hierarchy := by
  have hcomponent : inst.component = component := h.component_of_inst? hinst
  have hparents := h.parents_eq hrooted hinst
  -- Every instance above has the component that it is active for.
  have habove : inst.parents.map Instance.component = hierarchy.ancestors component := by
    have hactive : ∀ (parents : List Instance) (ancestors : List ComponentId),
        parents.map some = ancestors.map graph.inst? →
          parents.map Instance.component = ancestors := by
      intro parents
      induction parents with
      | nil =>
        intro ancestors heq
        exact (List.map_eq_nil_iff.1 heq.symm).symm
      | cons parent rest ih =>
        intro ancestors heq
        cases ancestors with
        | nil => simp at heq
        | cons ancestor others =>
          simp only [List.map_cons, List.cons.injEq] at heq ⊢
          exact ⟨h.component_of_inst? heq.1.symm, ih others heq.2⟩
    exact hactive _ _ hparents
  calc
    (inst :: inst.parents).map Instance.component =
        component :: hierarchy.ancestors component := by
      simp [hcomponent, habove]
    _ = hierarchy.lineage inst.component := by
      simp [hcomponent, hrooted.lineage_eq_cons (h.mem_components hrooted hinst)]

/-- The instances of a linked graph share the stamp of its root. -/
theorem Linked.rootStamp_eq (h : graph.Linked hierarchy nextStamp) (hrooted : hierarchy.Rooted)
    {inst : Instance} (hinst : graph.inst? component = some inst) : inst.rootStamp = graph.id := by
  rcases root_or_active hinst with ⟨_, rfl⟩ | hactive
  · simp [Instance.rootStamp, h.top, LiveGraph.id, Instance.stamp]
  · exact Instance.rootStamp_of_getLast?_parents (h.getLast?_parents hrooted hactive)

/-! ## Instances of a census -/

/-- Instances known before, and those of a live graph. -/
def Joined (graph : LiveGraph) (known : Instance → Prop) (inst : Instance) : Prop :=
  known inst ∨ ∃ component, graph.inst? component = some inst

/-- The instances of a linked graph join a census if those that are new have new stamps. -/
theorem Linked.census {later : Nat} (h : graph.Linked hierarchy later) {known : Instance → Prop}
    (hcensus : Census known nextStamp) (hle : nextStamp ≤ later)
    (hnew : ∀ component inst, graph.inst? component = some inst →
      known inst ∨ nextStamp ≤ inst.stamp) :
    Census (graph.Joined known) later := by
  -- A known instance has an old stamp, so it shares none with an instance that is new.
  have happart : ∀ a b, known a → (∃ component, graph.inst? component = some b) →
      a.stamp = b.stamp → a = b := by
    intro a b ha hb hstamp
    rcases hb with ⟨component, hfound⟩
    rcases hnew component b hfound with hb | hlater
    · exact hcensus.distinct a b ha hb hstamp
    · have hlt : a.stamp < nextStamp := hcensus.below a ha
      omega
  constructor
  · intro inst parent hjoined hparent
    rcases hjoined with hknown | ⟨component, hfound⟩
    · exact Or.inl (hcensus.parents inst parent hknown hparent)
    · by_cases hroot : component = graph.root.component
      · have hinst : graph.root = inst := by
          simpa [inst?, hroot] using hfound
        simp [← hinst, Instance.parent?, h.top] at hparent
      · have hactive : graph.active.find? component = some inst := by
          simpa [inst?, hroot] using hfound
        rcases h.parent component inst hactive with ⟨up, above, _, habove, hlink⟩
        have hsame : above = parent := Option.some.inj (hlink.symm.trans hparent)
        exact Or.inr ⟨up, hsame ▸ habove⟩
  · intro a b ha hb hstamp
    rcases ha with ha | ⟨first, hfirst⟩
    · rcases hb with hb | hb
      · exact hcensus.distinct a b ha hb hstamp
      · exact happart a b ha hb hstamp
    · rcases hb with hb | ⟨second, hsecond⟩
      · exact (happart b a hb ⟨first, hfirst⟩ hstamp.symm).symm
      · have hsame : first = second := h.distinct first second a b hfirst hsecond hstamp
        subst hsame
        exact Option.some.inj (hfirst.symm.trans hsecond)
  · intro inst hjoined
    rcases hjoined with hknown | ⟨component, hfound⟩
    · exact Nat.lt_of_lt_of_le (hcensus.below inst hknown) hle
    · exact h.below component inst hfound

end LiveGraph
end ObjectGraph
