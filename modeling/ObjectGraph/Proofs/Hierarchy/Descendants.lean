import Mathlib.Data.List.Flatten
import Mathlib.Data.List.Nodup
import ObjectGraph.Proofs.Compile.Sound
import ObjectGraph.Proofs.Hierarchy.WellFormed

/-!
# Descendants — everything below a component, level by level and branch by branch

What is below a component can be listed by a loop that keeps what is still to be listed in a queue, or
in a stack. In a tree either loop ends and lists everything that has the component among its ancestors,
once: the queue lists a level after the one above it, the stack a component before its whole branch.

* `Drains` — a loop over pending elements, with its result;
* `Drains.row`, `Drains.branches` — what a queue and a stack make of a level and of branches;
* `Hierarchy.Rooted.mem_levelBelow_iff`, `Hierarchy.Rooted.ranked_levelsBelow` — levels against ways up;
* `Plan.descendants_eq_flatMap`, `Plan.exists_branch` — branches, and branches within a branch;
* `descendants_are_listed_alike` — the two lists.
-/

namespace ObjectGraph

/-! ## Loops -/

section Loops

variable {α : Type} {children : α → List α}

/-- A loop that takes the first pending element off, lists it and makes its children pending, until
nothing is. Where the children go is up to `arrange`. -/
inductive Drains (children : α → List α) (arrange : List α → List α → List α) :
    List α → List α → Prop where
  | done : Drains children arrange [] []
  | take {element : α} {pending listed : List α} :
      Drains children arrange (arrange pending (children element)) listed →
        Drains children arrange (element :: pending) (element :: listed)

/-- New elements wait behind the pending ones. -/
def queued (pending added : List α) : List α := pending ++ added

/-- New elements come before the pending ones. -/
def stacked (pending added : List α) : List α := added ++ pending

namespace Drains

/-- A loop that ends does so with one result. -/
theorem unique {arrange : List α → List α → List α} {pending listed other : List α}
    (h : Drains children arrange pending listed)
    (hother : Drains children arrange pending other) : other = listed := by
  induction h generalizing other with
  | done =>
    cases hother with
    | done => rfl
  | take _ ih =>
    cases hother with
    | take hrest => rw [ih hrest]

theorem of_cons {arrange : List α → List α → List α} {element : α} {pending listed : List α}
    (h : Drains children arrange (element :: pending) (element :: listed)) :
    Drains children arrange (arrange pending (children element)) listed := by
  cases h with
  | take hrest => exact hrest

/-- A queue lists all that it holds of a level before anything of the next one. -/
theorem row {level next listed : List α}
    (h : Drains children queued (next ++ level.flatMap children) listed) :
    Drains children queued (level ++ next) (level ++ listed) := by
  -- Each element of the level moves its children to the end of what is known of the next one.
  induction level generalizing next with
  | nil => simpa using h
  | cons element level ih =>
    refine take ?_
    have hnext : Drains children queued ((next ++ children element) ++ level.flatMap children)
        listed := by
      simpa using h
    simpa [queued] using ih hnext

/-- A stack lists whole branches, one after the other. -/
theorem branches {branch : α → List α}
    (hbranch : ∀ element, branch element = element :: (children element).flatMap branch)
    (pending : List α) : Drains children stacked pending (pending.flatMap branch) := by
  -- By induction on what is still to be listed: each round lists one element of it.
  generalize hlength : (pending.flatMap branch).length = length
  induction length generalizing pending with
  | zero =>
    cases pending with
    | nil => exact done
    | cons element pending => simp [hbranch element] at hlength
  | succ length ih =>
    cases pending with
    | nil => exact done
    | cons element pending =>
      have hsplit : (element :: pending).flatMap branch =
          element :: (stacked pending (children element)).flatMap branch := by
        rw [List.flatMap_cons, hbranch element, stacked, List.flatMap_append, List.cons_append]
      rw [hsplit] at hlength ⊢
      exact take (ih _ (Nat.succ.inj hlength))

end Drains

/-- What lies so many levels below a list of elements. -/
def levelBelow (children : α → List α) : Nat → List α → List α
  | 0, level => level
  | depth + 1, level => levelBelow children depth (level.flatMap children)

end Loops

/-! ## Levels -/

namespace Hierarchy

variable {hierarchy : Hierarchy}

theorem mem_levelsBelow_iff {levels : Nat} {level : List ComponentId} {component : ComponentId} :
    component ∈ hierarchy.levelsBelow levels level ↔
      ∃ depth < levels, component ∈ levelBelow hierarchy.children (depth + 1) level := by
  induction levels generalizing level with
  | zero => simp [levelsBelow]
  | succ levels ih =>
    simp only [levelsBelow, List.mem_append, ih]
    constructor
    · rintro (hnext | ⟨depth, hdepth, hmem⟩)
      · exact ⟨0, Nat.succ_pos levels, hnext⟩
      · exact ⟨depth + 1, Nat.succ_lt_succ hdepth, hmem⟩
    · rintro ⟨depth, hdepth, hmem⟩
      cases depth with
      | zero => exact Or.inl hmem
      | succ depth => exact Or.inr ⟨depth, Nat.lt_of_succ_lt_succ hdepth, hmem⟩

/-- A queue lists level after level, if it comes to a level without elements. -/
theorem drains_levelsBelow {levels : Nat} {level : List ComponentId}
    (hlast : levelBelow hierarchy.children levels level = []) :
    Drains hierarchy.children queued level (level ++ hierarchy.levelsBelow levels level) := by
  induction levels generalizing level with
  | zero =>
    have hnone : level = [] := hlast
    subst hnone
    exact .done
  | succ levels ih =>
    have hrest : Drains hierarchy.children queued ([] ++ level.flatMap hierarchy.children)
        (hierarchy.levelsBelow (levels + 1) level) := ih hlast
    simpa using hrest.row

namespace Rooted

variable {component upper : ComponentId}

/-- What has a way up is in the tree. -/
theorem mem_components_of_above (h : upper ∈ hierarchy.ancestors component) :
    component ∈ hierarchy.components := by
  by_contra hnot
  simp [ancestors_of_not_mem hnot] at h

/-- Each step upwards is one level. -/
theorem length_ancestors_of_climb? (h : hierarchy.Rooted) {steps : Nat}
    (hclimb : climb? hierarchy.parent? steps component = some upper) :
    (hierarchy.ancestors component).length = (hierarchy.ancestors upper).length + steps := by
  induction steps generalizing component with
  | zero =>
    have hsame : component = upper := Option.some.inj hclimb
    simp [hsame]
  | succ steps ih =>
    rcases Option.bind_eq_some_iff.1 hclimb with ⟨parent, hparent, hrest⟩
    calc (hierarchy.ancestors component).length
        = (hierarchy.ancestors parent).length + 1 := by
          simp [h.ancestors_eq_cons_of_parent? hparent]
      _ = (hierarchy.ancestors upper).length + (steps + 1) := by
          rw [ih hrest, Nat.add_assoc]

/-- What lies on a level is what leads to its top in as many steps. -/
theorem mem_levelBelow_iff (h : hierarchy.Rooted) {depth : Nat} {level : List ComponentId} :
    component ∈ levelBelow hierarchy.children depth level ↔
      ∃ upper ∈ level, climb? hierarchy.parent? depth component = some upper := by
  induction depth generalizing level with
  | zero => simp [levelBelow, climb?]
  | succ depth ih =>
    simp only [levelBelow, ih, List.mem_flatMap, h.mem_children_iff, climb?_succ_eq_bind,
      Option.bind_eq_some_iff]
    constructor
    · rintro ⟨child, ⟨upper, hupper, hparent⟩, hclimb⟩
      exact ⟨upper, hupper, child, hclimb, hparent⟩
    · rintro ⟨upper, hupper, child, hclimb, hparent⟩
      exact ⟨child, ⟨upper, hupper, hparent⟩, hclimb⟩

/-- As many levels below a component as there are members there is nothing left. -/
theorem levelBelow_members (h : hierarchy.Rooted) (component : ComponentId) :
    levelBelow hierarchy.children hierarchy.members.size [component] = [] := by
  refine List.eq_nil_iff_forall_not_mem.2 fun other hother => ?_
  rcases h.mem_levelBelow_iff.1 hother with ⟨upper, _, hclimb⟩
  have hlength := h.length_ancestors_of_climb? hclimb
  by_cases hmem : other ∈ hierarchy.components
  · have hlt := h.length_ancestors_lt hmem
    omega
  · -- A component next to the tree has no way up, and a tree has members.
    have hroot := h.length_ancestors_lt h.root_mem
    simp only [ancestors_of_not_mem hmem, List.length_nil] at hlength
    omega

theorem mem_descendants_iff (h : hierarchy.Rooted) {other : ComponentId} :
    other ∈ hierarchy.descendants component ↔ component ∈ hierarchy.ancestors other := by
  simp only [descendants, mem_levelsBelow_iff, h.mem_levelBelow_iff, List.mem_singleton,
    exists_eq_left, ← h.ascends.getElem?_eq_climb?]
  constructor
  · rintro ⟨depth, _, hfound⟩
    exact List.mem_of_getElem? hfound
  · intro hmem
    rcases List.mem_iff_getElem?.1 hmem with ⟨depth, hfound⟩
    have hdepth : depth < (hierarchy.ancestors other).length :=
      (List.getElem?_eq_some_iff.1 hfound).1
    have hlt := h.length_ancestors_lt (mem_components_of_above hmem)
    exact ⟨depth, Nat.lt_trans hdepth hlt, hfound⟩

/-- Within a level nothing repeats, and each level is deeper than those above it. -/
theorem ranked_levelsBelow (h : hierarchy.Rooted) {levels depth : Nat} {level : List ComponentId}
    (hnodup : level.Nodup)
    (hdepth : ∀ upper ∈ level, (hierarchy.ancestors upper).length = depth) :
    (hierarchy.levelsBelow levels level).Pairwise fun first second =>
      first ≠ second ∧
        (hierarchy.ancestors first).length ≤ (hierarchy.ancestors second).length := by
  induction levels generalizing level depth with
  | zero => exact List.Pairwise.nil
  | succ levels ih =>
    have hnextDepth : ∀ child ∈ level.flatMap hierarchy.children,
        (hierarchy.ancestors child).length = depth + 1 := by
      intro child hchild
      rcases List.mem_flatMap.1 hchild with ⟨upper, hupper, hchild⟩
      have hcons := h.ancestors_eq_cons_of_parent? (h.mem_children_iff.1 hchild)
      simp [hcons, hdepth upper hupper]
    have hnextNodup : (level.flatMap hierarchy.children).Nodup := by
      refine List.nodup_flatMap.2 ⟨fun _ _ => h.nodup_children, ?_⟩
      -- A child has one parent only.
      refine hnodup.imp fun {first second} hne child hfirst hsecond => hne ?_
      exact Option.some.inj
        ((h.mem_children_iff.1 hfirst).symm.trans (h.mem_children_iff.1 hsecond))
    simp only [levelsBelow]
    refine List.pairwise_append.2 ⟨?_, ih hnextNodup hnextDepth, ?_⟩
    · refine hnextNodup.imp_of_mem fun {first second} hfirst hsecond hne => ⟨hne, ?_⟩
      exact Nat.le_of_eq ((hnextDepth first hfirst).trans (hnextDepth second hsecond).symm)
    · intro first hfirst second hsecond
      rcases mem_levelsBelow_iff.1 hsecond with ⟨further, _, hmem⟩
      rcases h.mem_levelBelow_iff.1 hmem with ⟨upper, hupper, hclimb⟩
      have hlength := h.length_ancestors_of_climb? hclimb
      rw [hnextDepth upper hupper] at hlength
      have hfirstLength := hnextDepth first hfirst
      refine ⟨?_, by omega⟩
      rintro rfl
      omega

theorem ranked_descendants (h : hierarchy.Rooted) (component : ComponentId) :
    (hierarchy.descendants component).Pairwise fun first second =>
      first ≠ second ∧
        (hierarchy.ancestors first).length ≤ (hierarchy.ancestors second).length := by
  have hdepth : ∀ upper ∈ [component],
      (hierarchy.ancestors upper).length = (hierarchy.ancestors component).length := by
    intro upper hupper
    rw [List.mem_singleton.1 hupper]
  exact h.ranked_levelsBelow (List.nodup_singleton component) hdepth

theorem drains_descendants (h : hierarchy.Rooted) (component : ComponentId) :
    Drains hierarchy.children queued (hierarchy.children component)
      (hierarchy.descendants component) := by
  have hstart : Drains hierarchy.children queued [component]
      (component :: hierarchy.descendants component) :=
    drains_levelsBelow (h.levelBelow_members component)
  exact hstart.of_cons

end Rooted
end Hierarchy

/-! ## Branches -/

namespace Plan

variable {graph : Graph} {component : ComponentId}

theorem children_ofGraph (h : graph.hierarchy.Rooted) :
    (ofGraph graph).children component = graph.hierarchy.children component := by
  by_cases hmem : component ∈ graph.hierarchy.components
  · simp [children, component?_ofGraph, hmem, ComponentPlan.ofGraph]
  · -- Only members have children.
    have hnone : graph.hierarchy.children component = [] := by
      refine List.eq_nil_iff_forall_not_mem.2 fun child hchild => hmem ?_
      have hparent := h.ancestors_eq_cons_of_parent? (h.mem_children_iff.1 hchild)
      exact (h.ancestors_of_eq_cons hparent).1
    simp [children, component?_ofGraph, hmem, hnone]

/-- Going deeper than the tree is finds nothing more. -/
theorem below_succ (h : graph.hierarchy.Rooted) {depth : Nat}
    (hdeep : graph.hierarchy.members.size ≤
      depth + (graph.hierarchy.ancestors component).length) :
    (ofGraph graph).below (depth + 1) component = (ofGraph graph).below depth component := by
  induction depth generalizing component with
  | zero =>
    -- Such a component is not in the tree, so it has no children.
    have hmem : component ∉ graph.hierarchy.components := by
      intro hmem
      have hlt := h.length_ancestors_lt hmem
      omega
    simp [below, children, component?_ofGraph, hmem]
  | succ depth ih =>
    rw [below, below]
    refine List.flatMap_congr fun child hchild => ?_
    have hparent := h.ancestors_eq_cons_of_parent? ((mem_children_iff h).1 hchild)
    rw [ih]
    rw [hparent, List.length_cons]
    omega

/-- The descendants of a component are its children, each followed by its own descendants. -/
theorem descendants_eq_flatMap (h : graph.hierarchy.Rooted) (component : ComponentId) :
    (ofGraph graph).descendants component =
      ((ofGraph graph).children component).flatMap fun child =>
        child :: (ofGraph graph).descendants child := by
  have hdeep : graph.hierarchy.members.size ≤
      (ofGraph graph).components.length + (graph.hierarchy.ancestors component).length := by
    rw [length_components_ofGraph]
    exact Nat.le_add_right _ _
  calc (ofGraph graph).descendants component
      = (ofGraph graph).below ((ofGraph graph).components.length + 1) component :=
        (below_succ h hdeep).symm
    _ = ((ofGraph graph).children component).flatMap fun child =>
          child :: (ofGraph graph).descendants child := rfl

theorem drains_descendants (h : graph.hierarchy.Rooted) (component : ComponentId) :
    Drains (ofGraph graph).children stacked ((ofGraph graph).children component)
      ((ofGraph graph).descendants component) := by
  rw [descendants_eq_flatMap h]
  refine Drains.branches (fun child => ?_) _
  rw [← descendants_eq_flatMap h]

/-- Different children of a component have nothing below them in common. -/
theorem nodup_below (h : graph.hierarchy.Rooted) (depth : Nat) (component : ComponentId) :
    ((ofGraph graph).below depth component).Nodup := by
  have hclimb : ∀ {depth child other}, other ∈ child :: (ofGraph graph).below depth child →
      ∃ steps, climb? graph.hierarchy.parent? steps other = some child := by
    intro depth child other hother
    rcases List.mem_cons.1 hother with rfl | hbelow
    · exact ⟨0, rfl⟩
    · rcases (mem_below_iff h).1 hbelow with ⟨front, rest, happend, _⟩
      refine ⟨front.length + 1, ?_⟩
      rw [← h.ascends.getElem?_eq_climb?, happend]
      simp
  induction depth generalizing component with
  | zero => exact List.nodup_nil
  | succ depth ih =>
    rw [below, children_ofGraph h]
    refine List.nodup_flatMap.2 ⟨?_, ?_⟩
    · intro child _
      refine List.nodup_cons.2 ⟨fun hself => ?_, ih child⟩
      rcases (mem_below_iff h).1 hself with ⟨front, rest, happend, _⟩
      have habove : child ∈ graph.hierarchy.ancestors child := by simp [happend]
      exact h.not_mem_ancestors_self habove
    · refine h.nodup_children.imp_of_mem fun {first second} hfirst hsecond hne other hin hout => hne ?_
      have hfirst := h.ancestors_eq_cons_of_parent? (h.mem_children_iff.1 hfirst)
      have hsecond := h.ancestors_eq_cons_of_parent? (h.mem_children_iff.1 hsecond)
      rcases hclimb hin with ⟨steps, hsteps⟩
      rcases hclimb hout with ⟨others, hothers⟩
      -- The two children are as deep, so either is met after as many steps.
      have hlength := h.length_ancestors_of_climb? hsteps
      have hsame : steps = others := by
        rw [h.length_ancestors_of_climb? hothers, hfirst, hsecond] at hlength
        simpa using hlength.symm
      subst hsame
      exact Option.some.inj (hsteps.symm.trans hothers)

theorem nodup_descendants (h : graph.hierarchy.Rooted) (component : ComponentId) :
    ((ofGraph graph).descendants component).Nodup :=
  nodup_below h _ component

/-- Whatever is below a component is followed by everything that is below itself. -/
theorem exists_branch (h : graph.hierarchy.Rooted) {other : ComponentId}
    (hmem : component ∈ graph.hierarchy.ancestors other) :
    ∃ front rest, (ofGraph graph).descendants component =
      front ++ other :: ((ofGraph graph).descendants other ++ rest) := by
  have hchild : ∀ {parent child}, graph.hierarchy.parent? child = some parent →
      ∃ front rest, (ofGraph graph).descendants parent =
        front ++ child :: ((ofGraph graph).descendants child ++ rest) := by
    intro parent child hparent
    rcases List.append_of_mem ((mem_children_iff h).2 hparent) with ⟨before, after, hchildren⟩
    refine ⟨before.flatMap fun child => child :: (ofGraph graph).descendants child,
      after.flatMap fun child => child :: (ofGraph graph).descendants child, ?_⟩
    rw [descendants_eq_flatMap h, hchildren]
    simp
  rcases List.append_of_mem hmem with ⟨way, rest, happend⟩
  -- By induction on the way up: the branch of the parent holds the one of the child.
  clear hmem
  induction way generalizing other with
  | nil => exact hchild (by simp [h.parent?_eq_head?, happend])
  | cons parent way ih =>
    have hparent : graph.hierarchy.parent? other = some parent := by
      simp [h.parent?_eq_head?, happend]
    rcases ih (h.ancestors_of_eq_cons happend).2 with ⟨front, back, hupper⟩
    rcases hchild hparent with ⟨inner, outer, hlower⟩
    refine ⟨front ++ parent :: inner, outer ++ back, ?_⟩
    rw [hupper, hlower]
    simp

/-- The children of a component stay in their order. -/
theorem children_sublist_descendants (h : graph.hierarchy.Rooted) (component : ComponentId) :
    ((ofGraph graph).children component).Sublist ((ofGraph graph).descendants component) := by
  rw [descendants_eq_flatMap h]
  induction (ofGraph graph).children component with
  | nil => exact List.Sublist.slnil
  | cons child rest ih =>
    exact List.Sublist.cons_cons child (ih.trans (List.sublist_append_right _ _))

/-- A listed parent comes before its children. -/
theorem parent_before_child (h : graph.hierarchy.Rooted) {child parent : ComponentId}
    (hlisted : parent ∈ (ofGraph graph).descendants component)
    (hparent : graph.hierarchy.parent? child = some parent) :
    [parent, child].Sublist ((ofGraph graph).descendants component) := by
  rcases exists_branch h ((mem_descendants_iff h).1 hlisted) with ⟨front, rest, hsplit⟩
  have hmem : child ∈ (ofGraph graph).descendants parent :=
    (children_sublist_descendants h parent).subset ((mem_children_iff h).2 hparent)
  rw [hsplit]
  exact (List.Sublist.cons_cons parent
    (List.singleton_sublist.2 (List.mem_append_left rest hmem))).trans
      (List.sublist_append_right front _)

end Plan

/-! ## Both lists -/

/-- In a list that goes down level by level a parent comes before its children. -/
theorem Hierarchy.Rooted.parent_before_child {hierarchy : Hierarchy} (h : hierarchy.Rooted)
    {listed : List ComponentId} (hranked : listed.Pairwise fun first second =>
      first ≠ second ∧
        (hierarchy.ancestors first).length ≤ (hierarchy.ancestors second).length)
    {child parent : ComponentId} (hchild : child ∈ listed) (hlisted : parent ∈ listed)
    (hparent : hierarchy.parent? child = some parent) : [parent, child].Sublist listed := by
  have hlength := congrArg List.length (h.ancestors_eq_cons_of_parent? hparent)
  simp only [List.length_cons] at hlength
  rcases List.append_of_mem hlisted with ⟨front, rest, rfl⟩
  have hrest : child ∈ rest := by
    rcases List.mem_append.1 hchild with hfront | hback
    · -- What stands before the parent is no deeper than the parent.
      have hle := ((List.pairwise_append.1 hranked).2.2 child hfront parent List.mem_cons_self).2
      omega
    · rcases List.mem_cons.1 hback with rfl | hrest
      · omega
      · exact hrest
  exact (List.Sublist.cons_cons parent (List.singleton_sublist.2 hrest)).trans
    (List.sublist_append_right front _)

/-- The loop with the queue and the loop with the stack both end, and they list the same components:
all that have the given one among their ancestors, each once and after its parent. The queue goes down
level by level. The stack lists a component, then all that is below it, and children in their order. -/
theorem descendants_are_listed_alike {manifest : Manifest} {config : Config}
    {compilation : Compilation} (hcompile : (compile manifest config).result = .ok compilation)
    (component : ComponentId) :
    let tree := compilation.hierarchy
    let plan := compilation.plan
    let levels := tree.descendants component
    let branches := plan.descendants component
    (∀ listed, Drains tree.children queued (tree.children component) listed ↔ listed = levels) ∧
    (∀ listed, Drains plan.children stacked (plan.children component) listed ↔
      listed = branches) ∧
    levels.Perm branches ∧
    (∀ other, levels.count other = if component ∈ tree.ancestors other then 1 else 0) ∧
    (∀ child parent, child ∈ levels → parent ∈ levels → tree.parent? child = some parent →
      [parent, child].Sublist levels ∧ [parent, child].Sublist branches) ∧
    (levels.Pairwise fun first second => ∃ upper lower, tree.depth? first = some upper ∧
      tree.depth? second = some lower ∧ upper ≤ lower) ∧
    (∀ other ∈ branches, ∃ front rest,
      branches = front ++ other :: (plan.descendants other ++ rest)) ∧
    ∀ other ∈ component :: branches, plan.children other = tree.children other ∧
      (tree.children other).Sublist branches := by
  intro tree plan levels branches
  have htree : compilation.graph.hierarchy.Rooted := (Compilation.sound hcompile).1.rooted
  have hplan : plan = .ofGraph compilation.graph := (Compilation.sound hcompile).2.1
  have hlevels : ∀ other, other ∈ levels ↔ component ∈ tree.ancestors other :=
    fun other => htree.mem_descendants_iff
  have hbranches : ∀ other, other ∈ branches ↔ component ∈ tree.ancestors other := by
    intro other
    simp only [branches, hplan, Plan.mem_descendants_iff htree]
    rfl
  have hranked := htree.ranked_descendants component
  have hnodup : levels.Nodup := hranked.imp fun hpair => hpair.1
  have hbranchesNodup : branches.Nodup := by
    simp only [branches, hplan]
    exact Plan.nodup_descendants htree component
  have hperm : levels.Perm branches := by
    refine (List.perm_ext_iff_of_nodup hnodup hbranchesNodup).2 fun other => ?_
    rw [hlevels, hbranches]
  have hbranch : ∀ other ∈ branches, ∃ front rest,
      branches = front ++ other :: (plan.descendants other ++ rest) := by
    intro other hother
    simp only [branches, hplan]
    exact Plan.exists_branch htree ((hbranches other).1 hother)
  have hchildren : ∀ other, plan.children other = tree.children other := by
    intro other
    rw [hplan]
    exact Plan.children_ofGraph htree
  have hbelow : ∀ other, (tree.children other).Sublist (plan.descendants other) := by
    intro other
    rw [← hchildren other, hplan]
    exact Plan.children_sublist_descendants htree other
  refine ⟨?_, ?_, hperm, ?_, ?_, ?_, hbranch, ?_⟩
  · intro listed
    have hdrains := htree.drains_descendants component
    exact ⟨fun hlisted => hdrains.unique hlisted, fun hsame => hsame ▸ hdrains⟩
  · intro listed
    have hdrains : Drains plan.children stacked (plan.children component) branches := by
      simp only [branches, hplan]
      exact Plan.drains_descendants htree component
    exact ⟨fun hlisted => hdrains.unique hlisted, fun hsame => hsame ▸ hdrains⟩
  · intro other
    rw [hnodup.count, if_congr (hlevels other) rfl rfl]
  · intro child parent hchild hparent hup
    refine ⟨htree.parent_before_child hranked hchild hparent hup, ?_⟩
    have hlisted : parent ∈ (Plan.ofGraph compilation.graph).descendants component :=
      (Plan.mem_descendants_iff htree).2 ((hlevels parent).1 hparent)
    simp only [branches, hplan]
    exact Plan.parent_before_child htree hlisted hup
  · refine hranked.imp_of_mem fun {first second} hfirst hsecond hpair => ?_
    have hmember : ∀ other ∈ levels, other ∈ compilation.graph.hierarchy.components :=
      fun other hother => Hierarchy.Rooted.mem_components_of_above ((hlevels other).1 hother)
    exact ⟨_, _, htree.depth?_eq_length (hmember first hfirst),
      htree.depth?_eq_length (hmember second hsecond), hpair.2⟩
  · intro other hother
    refine ⟨hchildren other, ?_⟩
    rcases List.mem_cons.1 hother with rfl | hmem
    · exact hbelow other
    · -- The branch of a listed component is part of the list.
      rcases hbranch other hmem with ⟨front, rest, hsplit⟩
      rw [hsplit]
      exact (hbelow other).trans ((List.sublist_append_left _ rest).trans
        ((List.sublist_cons_self other _).trans (List.sublist_append_right front _)))

/-- A museum with two wings; the east wing has a hall, and the hall a niche. -/
def museumManifest : Manifest where
  entryPoint := "Museum"
  components :=
    [⟨"Museum", none, .component, []⟩, ⟨"West", none, .subcomponent, ["Museum"]⟩,
      ⟨"East", none, .subcomponent, ["Museum"]⟩, ⟨"Hall", none, .subcomponent, ["East"]⟩,
      ⟨"Niche", none, .subcomponent, ["Hall"]⟩]
  modules := []
  declarations := []

def museumHierarchy : Hierarchy :=
  ⟨"Museum", .ofList [("Museum", ⟨none, none, ["East", "West"], 0⟩),
    ("East", ⟨some "Museum", none, ["Hall"], 1⟩), ("West", ⟨some "Museum", none, [], 1⟩),
    ("Hall", ⟨some "East", none, ["Niche"], 2⟩), ("Niche", ⟨some "Hall", none, [], 3⟩)]⟩

def museumCompilation : Compilation :=
  ⟨museumManifest, museumManifest.graph museumHierarchy,
    .ofGraph (museumManifest.graph museumHierarchy)⟩

theorem compile_museumManifest :
    (compile museumManifest .default).result = .ok museumCompilation :=
  compile_eq_ok_of_errors (by decide +kernel) (by decide +kernel)

/-- By levels the west wing comes second, by branches it comes last. -/
theorem hall_follows_the_east_wing :
    (compile museumManifest .default).result = .ok museumCompilation ∧
      Drains museumCompilation.hierarchy.children queued ["East", "West"]
        ["East", "West", "Hall", "Niche"] ∧
      Drains museumCompilation.plan.children stacked ["East", "West"]
        ["East", "Hall", "Niche", "West"] ∧
      ["East", "West", "Hall", "Niche"].Perm ["East", "Hall", "Niche", "West"] := by
  have hlevels : museumCompilation.hierarchy.descendants "Museum" =
      ["East", "West", "Hall", "Niche"] := by
    decide +kernel
  have hbranches : museumCompilation.plan.descendants "Museum" =
      ["East", "Hall", "Niche", "West"] := by
    decide +kernel
  have hwings : museumCompilation.hierarchy.children "Museum" = ["East", "West"] := by
    decide +kernel
  have hhooks : museumCompilation.plan.children "Museum" = ["East", "West"] := by
    decide +kernel
  rcases descendants_are_listed_alike compile_museumManifest "Museum" with
    ⟨hqueue, hstack, hperm, _⟩
  rw [hlevels, hbranches] at hperm
  rw [hwings, hlevels] at hqueue
  rw [hhooks, hbranches] at hstack
  exact ⟨compile_museumManifest, (hqueue _).2 rfl, (hstack _).2 rfl, hperm⟩

end ObjectGraph
