import ObjectGraph.Proofs.Hierarchy.Reach
import ObjectGraph.Proofs.Hierarchy.Tree

/-!
# Hanging the tree — the queue against the parents that it goes by

The queue starts with the root. What is taken off it becomes a member and takes its children out of the
table into the queue. Components that wait have a member for their parent and are no members themselves,
so every component comes up once; components that never lead up to the root never come up.

* `Manifest.childrenOf`, `Manifest.mem_childrenOf_iff` — the table of children against the parents;
* `Manifest.Placed` — the right place for a component;
* `Manifest.Hung` — members, waiting components and the children left in the table;
* `Manifest.Hung.take`, `Manifest.hung_hang` — from a step to the end of the queue;
* `Manifest.mem_components_treeAt_iff_leadsUp`, `Manifest.find?_treeAt` — the members and their records;
* `Manifest.treeAt_congr` — parents and scopes decide the tree.
-/

namespace ObjectGraph

namespace Manifest

variable {manifest : Manifest} {root : ComponentId}

/-! ## Parents and children -/

/-- The parent of a subcomponent is the first of its known targets. -/
theorem parent?_eq_some_iff {component parent : ComponentId} :
    manifest.parent? component = some parent ↔
      manifest.isSubcomponent component = true ∧
        (manifest.targetsOf (.component component)).head? = some parent := by
  simp only [parent?, hostOfUnit?_eq_head?]
  split
  · rename_i hsub
    simp [hsub]
  · rename_i hsub
    simp [hsub]

theorem mem_targetsOf_of_parent? {component parent : ComponentId}
    (h : manifest.parent? component = some parent) :
    parent ∈ manifest.targetsOf (.component component) :=
  List.mem_of_mem_head? (parent?_eq_some_iff.1 h).2

/-- A component with a parent is linked to it, so both are declared. -/
theorem linked_of_parent? {component parent : ComponentId}
    (h : manifest.parent? component = some parent) : manifest.Linked component parent :=
  Or.inl (mem_targetsOf_of_parent? h)

theorem find?_parents (component : ComponentId) :
    manifest.parents.find? component =
      if manifest.isComponent component then some (manifest.parent? component) else none := by
  have hfound := Table.find?_ofList_map manifest.componentIds manifest.parent? component
  simp only [mem_componentIds_iff] at hfound
  exact hfound

/-- The components that have a given one for their parent, as they are filed before the tree grows. -/
def childrenOf (manifest : Manifest) (parent : ComponentId) : List ComponentId :=
  (childTable manifest.parents).group parent

theorem childrenOf_eq (parent : ComponentId) :
    manifest.childrenOf parent =
      (manifest.parents.entries.filter fun entry => entry.2 = some parent).map (·.1) := by
  have hfold : ∀ (entries : List (ComponentId × Option ComponentId))
      (children : Table ComponentId (List ComponentId)),
      (entries.foldl fileChild children).group parent = children.group parent ++
        (entries.filter fun entry => entry.2 = some parent).map (·.1) := by
    intro entries
    induction entries with
    | nil => simp
    | cons entry rest ih =>
      obtain ⟨component, other⟩ := entry
      intro children
      rw [List.foldl_cons, ih]
      cases other with
      | none => simp [fileChild]
      | some other =>
        by_cases hsame : other = parent
        · simp [fileChild, Table.group_push, hsame]
        · simp [fileChild, Table.group_push, hsame, Ne.symm hsame]
  exact hfold manifest.parents.entries .empty

theorem mem_childrenOf_iff {parent child : ComponentId} :
    child ∈ manifest.childrenOf parent ↔ manifest.parent? child = some parent := by
  have hdeclared : manifest.parent? child = some parent → manifest.isComponent child = true :=
    fun h => (isComponent_of_linked (linked_of_parent? h)).1
  have hentry : child ∈ manifest.childrenOf parent ↔
      manifest.parents.find? child = some (some parent) := by
    rw [childrenOf_eq, Table.find?_eq_some_iff]
    simp
  rw [hentry, find?_parents]
  split
  · simp
  · rename_i hunknown
    simpa using fun h => hunknown (hdeclared h)

theorem increasing_childrenOf (parent : ComponentId) :
    (manifest.childrenOf parent).Pairwise (· < ·) := by
  rw [childrenOf_eq, List.pairwise_map]
  refine (manifest.parents.increasing.imp ?_).filter _
  intro a b hlt
  exact compareOfLessAndEq_eq_lt.1 hlt

theorem nodup_childrenOf (parent : ComponentId) : (manifest.childrenOf parent).Nodup := by
  refine (increasing_childrenOf parent).imp ?_
  rintro child _ hlt rfl
  exact String.lt_irrefl child hlt

theorem childrenOf_congr {other : Manifest} {parent : ComponentId}
    (h : ∀ child, other.parent? child = some parent ↔ manifest.parent? child = some parent) :
    other.childrenOf parent = manifest.childrenOf parent := by
  have hcompare : ∀ manifest : Manifest,
      (manifest.childrenOf parent).Pairwise fun a b => compare a b = .lt :=
    fun manifest => (increasing_childrenOf parent).imp fun hlt => compareOfLessAndEq_eq_lt.2 hlt
  apply Table.eq_of_increasing (hcompare other) (hcompare manifest)
  intro child
  rw [mem_childrenOf_iff, mem_childrenOf_iff, h]

/-! ## One step -/

/-- The way up from a component leads over its parent to the root, and is as long as it is deep. -/
structure Placed (manifest : Manifest) (root component : ComponentId) (parent : Option ComponentId)
    (depth : Nat) : Prop where
  parent : manifest.parent? component = parent
  leads : LeadsUp manifest.parent? component root
  depth : ∃ list, Ascends manifest.parent? component list ∧ list.length = depth

/-- The tree while it grows: the root is a member or waits, and so does every child of a member. All of
these are in their right places. What waits is not a member yet, its parent is, and what is not a member
has its children in the table still. -/
structure Hung (manifest : Manifest) (root : ComponentId)
    (children : Table ComponentId (List ComponentId)) (members : Table ComponentId Member)
    (queue : List Hanging) : Prop where
  begun : members.contains root = true ∨ root ∈ queue.map (·.component)
  left : ∀ component, children.group component =
    if members.contains component then [] else manifest.childrenOf component
  placed : ∀ component member, members.find? component = some member →
    manifest.Placed root component member.parent member.depth ∧
      member.scope = (manifest.effectiveComponent? component).bind (·.scope) ∧
      member.children = manifest.childrenOf component
  waits : ∀ next ∈ queue, manifest.Placed root next.component next.parent next.depth
  closed : ∀ component, members.contains component = true →
    ∀ child ∈ manifest.childrenOf component,
      members.contains child = true ∨ child ∈ queue.map (·.component)
  above : ∀ component, members.contains component = true ∨ component ∈ queue.map (·.component) →
    ∀ parent, manifest.parent? component = some parent → members.contains parent = true
  fresh : ∀ component ∈ queue.map (·.component), members.contains component = false
  once : (queue.map (·.component)).Nodup

theorem Hung.start (hroot : manifest.parent? root = none) :
    manifest.Hung root (childTable manifest.parents) .empty [⟨root, none, 0⟩] where
  begun := by simp
  left _ := rfl
  placed _ _ h := by simp at h
  waits next h := by
    rw [List.mem_singleton.1 h]
    exact ⟨hroot, .refl, [], .top hroot, rfl⟩
  closed _ h := by simp [Table.contains] at h
  above component h parent hparent := by
    rcases h with h | h
    · simp [Table.contains] at h
    · rw [List.map_singleton, List.mem_singleton] at h
      simp [h, hroot] at hparent
  fresh _ _ := rfl
  once := List.nodup_singleton _

namespace Hung

variable {children : Table ComponentId (List ComponentId)} {members : Table ComponentId Member}
  {next : Hanging} {queue : List Hanging}

/-- A child of the first component that waits has not come up before. -/
theorem not_met (h : manifest.Hung root children members (next :: queue)) {child : ComponentId}
    (hchild : child ∈ manifest.childrenOf next.component) :
    members.contains child = false ∧ child ∉ (next :: queue).map (·.component) := by
  -- Its parent would be a member, which it is not as long as it waits.
  have hwaits : members.contains next.component = false := h.fresh _ (by simp)
  have hnot : ¬(members.contains child = true ∨ child ∈ (next :: queue).map (·.component)) := by
    intro hmet
    have hparent := h.above child hmet next.component (mem_childrenOf_iff.1 hchild)
    simp [hwaits] at hparent
  rw [not_or, Bool.not_eq_true] at hnot
  exact hnot

/-- The first component that waits becomes a member, and its children wait behind the others. -/
theorem take (h : manifest.Hung root children members (next :: queue)) :
    manifest.Hung root (children.erase next.component)
      (members.insert next.component ⟨next.parent,
        (manifest.effectiveComponent? next.component).bind (·.scope),
        manifest.childrenOf next.component, next.depth⟩)
      (queue ++ (manifest.childrenOf next.component).map fun child =>
        ⟨child, some next.component, next.depth + 1⟩) := by
  have hplaced := h.waits next List.mem_cons_self
  have hnodup : (next.component :: queue.map (·.component)).Nodup := h.once
  rcases List.nodup_cons.1 hnodup with ⟨hnext, honce⟩
  have hmove : ∀ component, members.contains component = true ∨
      component ∈ (next :: queue).map (·.component) →
        component = next.component ∨ members.contains component = true ∨
          component ∈ queue.map (·.component) := by
    intro component hcomponent
    simp only [List.map_cons, List.mem_cons] at hcomponent
    tauto
  have hwaiting : ((queue ++ (manifest.childrenOf next.component).map fun child =>
      (⟨child, some next.component, next.depth + 1⟩ : Hanging)).map (·.component)) =
        queue.map (·.component) ++ manifest.childrenOf next.component := by
    simp [Function.comp_def]
  refine ⟨?_, ?_, ?_, ?_, ?_, ?_, ?_, ?_⟩
  · rw [hwaiting, Table.contains_insert, List.mem_append]
    have hroot := hmove root h.begun
    simp only [Bool.or_eq_true, decide_eq_true_eq]
    tauto
  · intro component
    rw [Table.group_erase, Table.contains_insert, h.left]
    by_cases hsame : component = next.component
    · simp [hsame]
    · simp [hsame]
  · intro component member hfound
    rw [Table.find?_insert] at hfound
    by_cases hsame : component = next.component
    · subst hsame
      rw [if_pos rfl, Option.some_inj] at hfound
      subst hfound
      exact ⟨hplaced, rfl, rfl⟩
    · rw [if_neg hsame] at hfound
      exact h.placed component member hfound
  · intro other hother
    rcases List.mem_append.1 hother with hother | hother
    · exact h.waits other (List.mem_cons_of_mem _ hother)
    · -- One step down from the component is one step more on the way up.
      rcases List.mem_map.1 hother with ⟨child, hchild, rfl⟩
      have hparent := mem_childrenOf_iff.1 hchild
      rcases hplaced.depth with ⟨list, hlist, hlength⟩
      exact ⟨hparent, .head hparent hplaced.leads, next.component :: list, .step hparent hlist,
        by simp [hlength]⟩
  · intro component hcomponent child hchild
    rw [hwaiting, Table.contains_insert, List.mem_append]
    simp only [Table.contains_insert, Bool.or_eq_true, decide_eq_true_eq] at hcomponent ⊢
    rcases hcomponent with rfl | hcomponent
    · exact Or.inr (Or.inr hchild)
    · have hmet := hmove child (h.closed component hcomponent child hchild)
      tauto
  · intro component hcomponent parent hparent
    rw [hwaiting, Table.contains_insert, List.mem_append] at hcomponent
    simp only [Table.contains_insert, Bool.or_eq_true, decide_eq_true_eq] at hcomponent ⊢
    rcases hcomponent with (rfl | hcomponent) | (hcomponent | hcomponent)
    · exact Or.inr (h.above _ (Or.inr (by simp)) parent hparent)
    · exact Or.inr (h.above _ (Or.inl hcomponent) parent hparent)
    · exact Or.inr (h.above _ (Or.inr (by simp [hcomponent])) parent hparent)
    · left
      exact Option.some.inj (hparent.symm.trans (mem_childrenOf_iff.1 hcomponent))
  · intro component hcomponent
    rw [hwaiting, List.mem_append] at hcomponent
    rw [Table.contains_insert, Bool.or_eq_false_iff, decide_eq_false_iff_not]
    rcases hcomponent with hcomponent | hcomponent
    · exact ⟨fun hsame => hnext (hsame ▸ hcomponent), h.fresh component (by simp [hcomponent])⟩
    · rcases h.not_met hcomponent with ⟨hmember, hqueue⟩
      exact ⟨fun hsame => hqueue (by simp [hsame]), hmember⟩
  · rw [hwaiting]
    refine List.nodup_append.2 ⟨honce, nodup_childrenOf _, ?_⟩
    rintro waiting hwaiting child hchild rfl
    exact (h.not_met hchild).2 (List.mem_cons_of_mem _ hwaiting)

end Hung

/-! ## The loop -/

theorem hung_hang {children : Table ComponentId (List ComponentId)}
    {members : Table ComponentId Member} {queue : List Hanging}
    (h : manifest.Hung root children members queue) :
    ∃ left, manifest.Hung root left (hang manifest manifest.parents children members queue) [] := by
  induction children, members, queue using hang.induct manifest manifest.parents with
  | case1 children members => exact ⟨children, by simpa only [hang] using h⟩
  | case2 children members next queue below added member ih =>
    -- The table still holds the children of what waits, and all of them are declared.
    have hbelow : below = manifest.childrenOf next.component := by
      have hwaits : members.contains next.component = false := h.fresh _ (by simp)
      simp only [below, h.left, hwaits, Bool.false_eq_true, if_false]
    have hadded : added = (manifest.childrenOf next.component).map fun child =>
        ⟨child, some next.component, next.depth + 1⟩ := by
      have hall : ∀ child ∈ manifest.childrenOf next.component,
          manifest.parents.contains child = true := by
        intro child hchild
        have hlinked := linked_of_parent? (mem_childrenOf_iff.1 hchild)
        simp [Table.contains, find?_parents, (isComponent_of_linked hlinked).1]
      simp only [added, hbelow, List.filter_eq_self.2 hall]
    have htaken := h.take
    rw [← hadded, ← hbelow] at htaken
    rw [hang]
    exact ih htaken

/-! ## Members -/

variable {component : ComponentId}

/-- The members are the components that lead up to the root. -/
theorem mem_components_treeAt_iff_leadsUp (hroot : manifest.parent? root = none) :
    component ∈ (manifest.treeAt root).components ↔ LeadsUp manifest.parent? component root := by
  rcases hung_hang (Hung.start hroot) with ⟨left, h⟩
  rw [← Hierarchy.contains_iff_mem]
  constructor
  · intro hmember
    rcases Option.isSome_iff_exists.1 hmember with ⟨member, hfound⟩
    exact (h.placed component member hfound).1.leads
  · intro hleads
    induction hleads using Relation.ReflTransGen.head_induction_on with
    | refl => exact h.begun.resolve_right List.not_mem_nil
    | head hparent _ ih =>
      exact (h.closed _ ih _ (mem_childrenOf_iff.2 hparent)).resolve_right List.not_mem_nil

/-- A member has its parent, its scope, its children and its depth on record. -/
theorem find?_treeAt (hroot : manifest.parent? root = none) {member : Member}
    (hfound : (manifest.treeAt root).members.find? component = some member) :
    manifest.Placed root component member.parent member.depth ∧
      member.scope = (manifest.effectiveComponent? component).bind (·.scope) ∧
      member.children = manifest.childrenOf component := by
  rcases hung_hang (Hung.start hroot) with ⟨left, h⟩
  exact h.placed component member hfound

theorem parent?_treeAt (hroot : manifest.parent? root = none)
    (hmem : component ∈ (manifest.treeAt root).components) :
    (manifest.treeAt root).parent? component = manifest.parent? component := by
  rcases Hierarchy.mem_components_iff.1 hmem with ⟨member, hfound⟩
  simp [Hierarchy.parent?, hfound, (find?_treeAt hroot hfound).1.parent]

theorem scope?_treeAt (hroot : manifest.parent? root = none)
    (hmem : component ∈ (manifest.treeAt root).components) :
    (manifest.treeAt root).scope? component =
      (manifest.effectiveComponent? component).bind (·.scope) := by
  rcases Hierarchy.mem_components_iff.1 hmem with ⟨member, hfound⟩
  simp [Hierarchy.scope?, hfound, (find?_treeAt hroot hfound).2.1]

theorem children_treeAt (hroot : manifest.parent? root = none)
    (hmem : component ∈ (manifest.treeAt root).components) :
    (manifest.treeAt root).children component = manifest.childrenOf component := by
  rcases Hierarchy.mem_components_iff.1 hmem with ⟨member, hfound⟩
  simp [Hierarchy.children, hfound, (find?_treeAt hroot hfound).2.2]

/-- What something below the root has for a parent is below the root. -/
theorem leadsUp_of_parent? (hroot : manifest.parent? root = none) {parent : ComponentId}
    (h : LeadsUp manifest.parent? component root)
    (hparent : manifest.parent? component = some parent) : LeadsUp manifest.parent? parent root := by
  cases h using Relation.ReflTransGen.head_induction_on with
  | refl => simp [hroot] at hparent
  | head hother hrest =>
    rw [hparent, Option.some_inj] at hother
    exact hother ▸ hrest

/-- A child of a member is a member. -/
theorem mem_components_of_parent?_eq (hroot : manifest.parent? root = none) {parent : ComponentId}
    (hmem : parent ∈ (manifest.treeAt root).components)
    (hparent : manifest.parent? component = some parent) :
    component ∈ (manifest.treeAt root).components := by
  rw [mem_components_treeAt_iff_leadsUp hroot] at hmem ⊢
  exact .head hparent hmem

/-- What is not the root leads up to it over its parent. -/
theorem exists_parent_of_mem (hroot : manifest.parent? root = none)
    (hmem : component ∈ (manifest.treeAt root).components) (hne : component ≠ root) :
    ∃ parent ∈ (manifest.treeAt root).components, manifest.parent? component = some parent := by
  rw [mem_components_treeAt_iff_leadsUp hroot] at hmem
  cases hmem using Relation.ReflTransGen.head_induction_on with
  | refl => exact absurd rfl hne
  | head hparent hleads =>
    exact ⟨_, (mem_components_treeAt_iff_leadsUp hroot).2 hleads, hparent⟩

theorem rooted_treeAt (hroot : manifest.parent? root = none) : (manifest.treeAt root).Rooted := by
  have hdepth : ∀ {component list}, component ∈ (manifest.treeAt root).components →
      Ascends manifest.parent? component list →
        (manifest.treeAt root).depth? component = some list.length := by
    intro component list hmem hlist
    rcases Hierarchy.mem_components_iff.1 hmem with ⟨member, hfound⟩
    rcases (find?_treeAt hroot hfound).1.depth with ⟨other, hother, hlength⟩
    simp [Hierarchy.depth?, hfound, ← hlength, hother.unique hlist]
  have hrootMem : root ∈ (manifest.treeAt root).components :=
    (mem_components_treeAt_iff_leadsUp hroot).2 .refl
  refine ⟨hdepth hrootMem (.top hroot), (parent?_treeAt hroot hrootMem).trans hroot, ?_, ?_, ?_⟩
  · intro component hmem hne
    rcases exists_parent_of_mem hroot hmem hne with ⟨parent, hparentMem, hparent⟩
    rcases Ascends.exists_of_leadsUp
      ((mem_components_treeAt_iff_leadsUp hroot).1 hparentMem) hroot with ⟨list, hlist⟩
    exact ⟨parent, list.length, (parent?_treeAt hroot hmem).trans hparent, hdepth hparentMem hlist,
      hdepth hmem (.step hparent hlist)⟩
  · intro component child
    constructor
    · intro hchild
      have hmem : component ∈ (manifest.treeAt root).components := by
        by_contra hnot
        simp [Hierarchy.children, Hierarchy.find?_eq_none hnot] at hchild
      rw [children_treeAt hroot hmem, mem_childrenOf_iff] at hchild
      rw [parent?_treeAt hroot (mem_components_of_parent?_eq hroot hmem hchild), hchild]
    · intro hparent
      have hmem := Hierarchy.mem_components_of_parent? hparent
      rw [parent?_treeAt hroot hmem] at hparent
      have hne : child ≠ root := by
        rintro rfl
        simp [hroot] at hparent
      rcases exists_parent_of_mem hroot hmem hne with ⟨other, hother, hsame⟩
      rw [hparent, Option.some_inj] at hsame
      rw [children_treeAt hroot (hsame ▸ hother)]
      exact mem_childrenOf_iff.2 hparent
  · intro component
    by_cases hmem : component ∈ (manifest.treeAt root).components
    · rw [children_treeAt hroot hmem]
      exact increasing_childrenOf component
    · simp [Hierarchy.children, Hierarchy.find?_eq_none hmem]

/-! ## Other manifests -/

section Congruence

variable {other : Manifest}

/-- Two manifests with the same children below a root lead up to it from the same components. -/
theorem leadsUp_congr
    (hchildren : ∀ parent, LeadsUp manifest.parent? parent root → ∀ child,
      other.parent? child = some parent ↔ manifest.parent? child = some parent) :
    LeadsUp other.parent? component root ↔ LeadsUp manifest.parent? component root := by
  constructor
  · intro h
    induction h using Relation.ReflTransGen.head_induction_on with
    | refl => exact .refl
    | head hparent _ ih => exact .head ((hchildren _ ih _).1 hparent) ih
  · intro h
    induction h using Relation.ReflTransGen.head_induction_on with
    | refl => exact .refl
    | head hparent hrest ih => exact .head ((hchildren _ hrest _).2 hparent) ih

theorem ascends_congr (hroot : manifest.parent? root = none)
    (hotherRoot : other.parent? root = none)
    (hchildren : ∀ parent, LeadsUp manifest.parent? parent root → ∀ child,
      other.parent? child = some parent ↔ manifest.parent? child = some parent)
    (hleads : LeadsUp manifest.parent? component root) {list : List ComponentId}
    (hlist : Ascends manifest.parent? component list) : Ascends other.parent? component list := by
  refine hlist.congr ?_ (fun _ _ h hparent => leadsUp_of_parent? hroot h hparent) hleads
  intro component h
  cases h using Relation.ReflTransGen.head_induction_on with
  | refl => rw [hroot, hotherRoot]
  | head hparent hrest => rw [hparent, (hchildren _ hrest _).2 hparent]

/-- Manifests with the same children and scopes below a root have the same tree there. -/
theorem treeAt_congr (hroot : manifest.parent? root = none) (hotherRoot : other.parent? root = none)
    (hchildren : ∀ parent, LeadsUp manifest.parent? parent root → ∀ child,
      other.parent? child = some parent ↔ manifest.parent? child = some parent)
    (hscope : ∀ component, LeadsUp manifest.parent? component root →
      (other.effectiveComponent? component).bind (·.scope) =
        (manifest.effectiveComponent? component).bind (·.scope)) :
    other.treeAt root = manifest.treeAt root := by
  have hmem : ∀ component, component ∈ (other.treeAt root).components ↔
      component ∈ (manifest.treeAt root).components := by
    intro component
    rw [mem_components_treeAt_iff_leadsUp hroot, mem_components_treeAt_iff_leadsUp hotherRoot,
      leadsUp_congr hchildren]
  -- What is on record about a member is its way up, its children and its scope.
  have hrecord : ∀ component record member,
      (other.treeAt root).members.find? component = some record →
        (manifest.treeAt root).members.find? component = some member → record = member := by
    intro component record member hrecord hmember
    have hup := (mem_components_treeAt_iff_leadsUp hroot).1
      (Hierarchy.mem_components_iff.2 ⟨member, hmember⟩)
    rcases find?_treeAt hotherRoot hrecord with ⟨hother, hrecordScope, hrecordChildren⟩
    rcases find?_treeAt hroot hmember with ⟨hplaced, hmemberScope, hmemberChildren⟩
    rcases hplaced.depth with ⟨list, hlist, hlength⟩
    rcases hother.depth with ⟨way, hway, hwayLength⟩
    have hsame := hway.unique (ascends_congr hroot hotherRoot hchildren hup hlist)
    have hparent : record.parent = member.parent := by
      rw [← hother.parent, ← hplaced.parent, hway.parent?_eq_head?, hlist.parent?_eq_head?, hsame]
    have hdepth : record.depth = member.depth := by rw [← hwayLength, ← hlength, hsame]
    have hbelow : record.children = member.children := by
      rw [hrecordChildren, hmemberChildren, childrenOf_congr (hchildren component hup)]
    have hscopes : record.scope = member.scope := by
      rw [hrecordScope, hmemberScope, hscope component hup]
    cases record
    cases member
    simp_all
  have hmembers : (other.treeAt root).members = (manifest.treeAt root).members := by
    apply Table.ext_find?
    intro component
    by_cases hin : component ∈ (manifest.treeAt root).components
    · rcases Hierarchy.mem_components_iff.1 hin with ⟨member, hmember⟩
      rcases Hierarchy.mem_components_iff.1 ((hmem component).2 hin) with ⟨record, hfound⟩
      rw [hfound, hmember, hrecord component record member hfound hmember]
    · rw [Hierarchy.find?_eq_none hin, Hierarchy.find?_eq_none (mt (hmem component).1 hin)]
  exact congrArg (Hierarchy.mk root) hmembers

end Congruence

end Manifest
end ObjectGraph
