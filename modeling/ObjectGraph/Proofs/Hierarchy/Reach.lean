import Mathlib.Logic.Relation
import ObjectGraph.Hierarchy.Resolve
import ObjectGraph.Proofs.Contribution

/-!
# Connected components — the worklist against the contributions that it follows

The worklist starts with the entry point. A component that is taken up for the first time brings its
neighbours along, so the neighbours of what is reached are reached themselves or wait; when nothing waits
any more, everything that links lead to has been reached.

* `Manifest.Linked`, `Manifest.Connected` — contributions in either direction, one and any number;
* `Manifest.mem_componentEdges_iff` — the neighbours on file are the linked components;
* `Manifest.Spreads` — what is reached, what waits and where it all comes from;
* `Manifest.spreads_reach`, `Manifest.contains_reach_iff` — from a step to the end of the list;
* `Manifest.mem_connected_iff` — the connected components.
-/

namespace ObjectGraph

namespace Manifest

variable {manifest : Manifest}

/-! ## Links -/

/-- Two components one of which contributes to the other one. -/
def Linked (manifest : Manifest) (a b : ComponentId) : Prop :=
  b ∈ manifest.targetsOf (.component a) ∨ a ∈ manifest.targetsOf (.component b)

/-- Reached from the entry point along contributions, followed in either direction. -/
def Connected (manifest : Manifest) : ComponentId → Prop :=
  Relation.ReflTransGen manifest.Linked manifest.entryPoint

/-- The contributing component and its target are both declared. -/
theorem isComponent_of_linked {a b : ComponentId} (h : manifest.Linked a b) :
    manifest.isComponent a = true ∧ manifest.isComponent b = true := by
  have hboth : ∀ {component target : ComponentId},
      target ∈ manifest.targetsOf (.component component) →
        manifest.isComponent component = true ∧ manifest.isComponent target = true := by
    intro component target htarget
    rcases mem_targetsOf_iff.1 htarget with ⟨hknown, entry, hentry, hunit, _⟩
    have hdeclared := declares_of_mem_contributions hentry
    rw [hunit] at hdeclared
    exact ⟨hdeclared, hknown⟩
  rcases h with h | h
  · exact hboth h
  · exact (hboth h).symm

/-- The contributions to a component link two components, one of which it is. -/
def Files (component : ComponentId) (units : List ContributionUnit) (a b : ComponentId) : Prop :=
  (a = component ∧ .component b ∈ units) ∨ (b = component ∧ .component a ∈ units)

theorem mem_group_fileEdge {component : ComponentId} {edges : Table ComponentId (List ComponentId)}
    {unit : ContributionUnit} {a b : ComponentId} :
    b ∈ (fileEdge component edges unit).group a ↔ b ∈ edges.group a ∨ Files component [unit] a b := by
  cases unit with
  | injectable position => simp [fileEdge, Files]
  | moduleUnit id => simp [fileEdge, Files]
  | component child =>
    simp only [fileEdge, Table.group_push, Files, List.mem_singleton,
      ContributionUnit.component.injEq]
    -- A component may contribute to itself.
    by_cases hchild : a = child <;> by_cases hcomponent : a = component <;>
      simp only [hchild, hcomponent, if_true, if_false, List.mem_append, List.mem_singleton] <;>
      grind

theorem mem_group_fileEdges {component : ComponentId} {units : List ContributionUnit}
    {edges : Table ComponentId (List ComponentId)} {a b : ComponentId} :
    b ∈ (units.foldl (fileEdge component) edges).group a ↔
      b ∈ edges.group a ∨ Files component units a b := by
  induction units generalizing edges with
  | nil => simp [Files]
  | cons unit rest ih =>
    simp only [List.foldl_cons, ih, mem_group_fileEdge, Files, List.mem_cons, List.not_mem_nil,
      or_false]
    tauto

/-- The neighbours on file are the linked components. -/
theorem mem_componentEdges_iff {a b : ComponentId} :
    b ∈ manifest.componentEdges.group a ↔ manifest.Linked a b := by
  have hfold : ∀ (entries : List (ComponentId × List ContributionUnit))
      (edges : Table ComponentId (List ComponentId)),
      b ∈ (entries.foldl (fun edges entry => entry.2.foldl (fileEdge entry.1) edges) edges).group a ↔
        b ∈ edges.group a ∨ ∃ entry ∈ entries, Files entry.1 entry.2 a b := by
    intro entries
    induction entries with
    | nil => simp
    | cons entry rest ih =>
      intro edges
      simp only [List.foldl_cons, ih, mem_group_fileEdges, List.exists_mem_cons_iff, or_assoc]
  have hlisted : ∀ component unit, component ∈ manifest.targetsOf unit ↔
      ∃ entry ∈ manifest.index.contributions.entries, entry.1 = component ∧ unit ∈ entry.2 := by
    intro component unit
    rw [mem_targetsOf_iff, ← mem_unitsOf_iff, unitsOf, Table.mem_group_iff]
    constructor
    · rintro ⟨units, hfound, hunit⟩
      exact ⟨(component, units), (Table.find?_eq_some_iff _).1 hfound, rfl, hunit⟩
    · rintro ⟨⟨component, units⟩, hmem, rfl, hunit⟩
      exact ⟨units, (Table.find?_eq_some_iff _).2 hmem, hunit⟩
  rw [componentEdges, hfold, Table.group_empty, Linked, hlisted, hlisted]
  simp only [List.not_mem_nil, false_or, Files]
  constructor
  · rintro ⟨entry, hmem, ⟨rfl, hunit⟩ | ⟨rfl, hunit⟩⟩
    · exact Or.inr ⟨entry, hmem, rfl, hunit⟩
    · exact Or.inl ⟨entry, hmem, rfl, hunit⟩
  · rintro (⟨entry, hmem, rfl, hunit⟩ | ⟨entry, hmem, rfl, hunit⟩)
    · exact ⟨entry, hmem, Or.inr ⟨rfl, hunit⟩⟩
    · exact ⟨entry, hmem, Or.inl ⟨rfl, hunit⟩⟩

/-! ## The worklist -/

/-- The start is reached or waits, so do the neighbours of everything reached, and nothing is or does
that neighbours do not lead to from there. -/
structure Spreads (edges : Table ComponentId (List ComponentId)) (start : ComponentId)
    (reached : Table ComponentId Unit) (waiting : List ComponentId) : Prop where
  begun : reached.contains start = true ∨ start ∈ waiting
  closed : ∀ component, reached.contains component = true →
    ∀ neighbour ∈ edges.group component, reached.contains neighbour = true ∨ neighbour ∈ waiting
  led : ∀ component, reached.contains component = true ∨ component ∈ waiting →
    Relation.ReflTransGen (fun a b => b ∈ edges.group a) start component

namespace Spreads

variable {edges : Table ComponentId (List ComponentId)} {start component : ComponentId}
  {reached : Table ComponentId Unit} {waiting : List ComponentId}

/-- A component that is reached already does not have to wait. -/
theorem skip (h : Spreads edges start reached (component :: waiting))
    (hreached : reached.contains component = true) : Spreads edges start reached waiting := by
  have hdrop : ∀ other, reached.contains other = true ∨ other ∈ component :: waiting →
      reached.contains other = true ∨ other ∈ waiting := by
    rintro other (hother | hother)
    · exact Or.inl hother
    · rcases List.mem_cons.1 hother with rfl | hother
      · exact Or.inl hreached
      · exact Or.inr hother
  refine ⟨hdrop _ h.begun, ?_, ?_⟩
  · intro other hother neighbour hneighbour
    exact hdrop _ (h.closed other hother neighbour hneighbour)
  · rintro other (hother | hother)
    · exact h.led other (Or.inl hother)
    · exact h.led other (Or.inr (List.mem_cons_of_mem _ hother))

/-- A component is taken up, and its neighbours come to wait. -/
theorem take (h : Spreads edges start reached (component :: waiting)) :
    Spreads edges start (reached.insert component ()) (waiting ++ edges.group component) := by
  have hmove : ∀ other, reached.contains other = true ∨ other ∈ component :: waiting →
      (reached.insert component ()).contains other = true ∨
        other ∈ waiting ++ edges.group component := by
    intro other hother
    simp only [Table.contains_insert, Bool.or_eq_true, decide_eq_true_eq, List.mem_append]
    rcases hother with hother | hother
    · exact Or.inl (Or.inr hother)
    · rcases List.mem_cons.1 hother with rfl | hother
      · exact Or.inl (Or.inl rfl)
      · exact Or.inr (Or.inl hother)
  have hcomponent := h.led component (Or.inr List.mem_cons_self)
  refine ⟨hmove _ h.begun, ?_, ?_⟩
  · intro other hother neighbour hneighbour
    simp only [Table.contains_insert, Bool.or_eq_true, decide_eq_true_eq] at hother
    rcases hother with rfl | hother
    · exact Or.inr (List.mem_append_right _ hneighbour)
    · exact hmove _ (h.closed other hother neighbour hneighbour)
  · intro other hother
    simp only [Table.contains_insert, Bool.or_eq_true, decide_eq_true_eq, List.mem_append] at hother
    rcases hother with (rfl | hother) | (hother | hother)
    · exact hcomponent
    · exact h.led other (Or.inl hother)
    · exact h.led other (Or.inr (List.mem_cons_of_mem _ hother))
    · exact hcomponent.tail hother

end Spreads

/-- The worklist is worked off, and nothing is left to wait. -/
theorem spreads_reach {edges : Table ComponentId (List ComponentId)} {start : ComponentId}
    {reached : Table ComponentId Unit} {waiting : List ComponentId}
    (h : Spreads edges start reached waiting) : Spreads edges start (reach edges reached waiting) [] := by
  induction reached, waiting using reach.induct edges with
  | case1 reached => simpa only [reach] using h
  | case2 reached component waiting hreached ih =>
    rw [reach, if_pos hreached]
    exact ih (h.skip hreached)
  | case3 reached component waiting hreached ih =>
    rw [reach, if_neg hreached]
    exact ih h.take

theorem contains_reach_iff {edges : Table ComponentId (List ComponentId)}
    {start component : ComponentId} :
    (reach edges .empty [start]).contains component = true ↔
      Relation.ReflTransGen (fun a b => b ∈ edges.group a) start component := by
  have hfirst : Spreads edges start .empty [start] := by
    refine ⟨by simp, by simp [Table.contains], ?_⟩
    rintro other (hother | hother)
    · simp [Table.contains] at hother
    · exact List.mem_singleton.1 hother ▸ .refl
  have hlast := spreads_reach hfirst
  constructor
  · exact fun h => hlast.led component (Or.inl h)
  · intro h
    induction h with
    | refl => exact hlast.begun.resolve_right List.not_mem_nil
    | tail _ hstep ih => exact (hlast.closed _ ih _ hstep).resolve_right List.not_mem_nil

/-! ## Connected components -/

theorem mem_connected_iff (hentry : manifest.isComponent manifest.entryPoint = true)
    {component : ComponentId} :
    component ∈ manifest.connected ↔ manifest.Connected component := by
  have hedges : (fun a b => b ∈ manifest.componentEdges.group a) = manifest.Linked := by
    funext a b
    exact propext mem_componentEdges_iff
  rw [connected, if_pos hentry, Table.mem_keys_iff, ← Option.isSome_iff_exists, Connected, ← hedges]
  exact contains_reach_iff

theorem isComponent_entryPoint_of_mem_connected {component : ComponentId}
    (hmem : component ∈ manifest.connected) : manifest.isComponent manifest.entryPoint = true := by
  by_contra hentry
  simp [connected, hentry] at hmem

theorem isComponent_of_mem_connected {component : ComponentId}
    (hmem : component ∈ manifest.connected) : manifest.isComponent component = true := by
  have hentry := isComponent_entryPoint_of_mem_connected hmem
  rw [mem_connected_iff hentry] at hmem
  cases hmem with
  | refl => exact hentry
  | tail _ hlinked => exact (isComponent_of_linked hlinked).2

theorem increasing_connected : manifest.connected.Pairwise (· < ·) := by
  rw [connected]
  split
  · refine List.pairwise_map.2 ((Table.increasing _).imp ?_)
    intro a b hlt
    exact compareOfLessAndEq_eq_lt.1 hlt
  · exact List.Pairwise.nil

/-- What is connected is decided by the entry point and the links. -/
theorem connected_congr {other : Manifest}
    (hentry : other.isComponent other.entryPoint = manifest.isComponent manifest.entryPoint)
    (h : ∀ component, other.Connected component ↔ manifest.Connected component) :
    other.connected = manifest.connected := by
  have hcompare : ∀ manifest : Manifest,
      manifest.connected.Pairwise fun a b => compare a b = .lt :=
    fun manifest => increasing_connected.imp fun hlt => compareOfLessAndEq_eq_lt.2 hlt
  by_cases hdeclared : manifest.isComponent manifest.entryPoint = true
  · apply Table.eq_of_increasing (hcompare other) (hcompare manifest)
    intro component
    rw [mem_connected_iff (hentry.trans hdeclared), mem_connected_iff hdeclared, h]
  · rw [connected, connected, hentry, if_neg hdeclared, if_neg hdeclared]

end Manifest
end ObjectGraph
