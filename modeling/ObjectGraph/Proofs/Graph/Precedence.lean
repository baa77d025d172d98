import ObjectGraph.Proofs.Graph.Order

/-!
# Precedence — local dependencies come first

A visit ends a key only after the local keys that its node depends on. Where those dependencies lead
to smaller ranks, no visit meets a key that is still under way, and the bound on the depth of the
visits is never used up. The construction order of a component is then one in which everything stands
behind what it needs.

* `InOrder` — whatever an item of a list needs stands before it;
* `Graph.NeedsLocally` — dependencies among the keys of one component;
* `Graph.visitKey_ordered` — what a visit ends, and in which order;
* `Graph.topologicalOrder_ordered` — the keys of a component, each once and in order;
* `ComponentPlan.nodup_keys_providers`, `ComponentPlan.inOrder_providers` — the same for its entries.
-/

namespace ObjectGraph

/-! ## Orders -/

/-- Whatever an item of the list needs stands before it. -/
def InOrder {α : Type} (needs : α → α → Prop) (items : List α) : Prop :=
  ∀ front item back, items = front ++ item :: back → ∀ other, needs item other → other ∈ front

namespace InOrder

variable {α β : Type} {needs : α → α → Prop}

theorem nil : InOrder needs [] := by
  intro front item back h
  simp at h

/-- Items may need what stands before them in their own list or anywhere in the one before it. -/
theorem append {first second : List α} (hfirst : InOrder needs first)
    (hsecond : ∀ front item back, second = front ++ item :: back → ∀ other, needs item other →
      other ∈ first ∨ other ∈ front) : InOrder needs (first ++ second) := by
  intro front item back hsplit other hneeds
  rcases List.append_eq_append_iff.1 hsplit with
    ⟨inner, rfl, hsecondSplit⟩ | ⟨inner, hfirstSplit, hrest⟩
  · exact List.mem_append.2 (hsecond inner item back hsecondSplit other hneeds)
  · rcases List.cons_eq_append_iff.1 hrest with ⟨rfl, hsecondSplit⟩ | ⟨after, rfl, _⟩
    · -- The item is the first one of the second list.
      rcases hsecond [] item back hsecondSplit other hneeds with hmem | hnone
      · simpa [hfirstSplit] using hmem
      · simp at hnone
    · exact hfirst front item after hfirstSplit other hneeds

/-- What is kept and renamed stays in order, if what a kept item needs is kept too. -/
theorem filterMap {items : List α} {f : α → Option β} {needs' : β → β → Prop}
    (h : InOrder needs items)
    (hneeds : ∀ item kept, f item = some kept → ∀ other, needs' kept other →
      ∃ needed, needs item needed ∧ f needed = some other) :
    InOrder needs' (items.filterMap f) := by
  intro front kept back hsplit other hother
  rcases List.filterMap_eq_append_iff.1 hsplit with ⟨before, rest, rfl, rfl, hrest⟩
  rcases List.filterMap_eq_cons_iff.1 hrest with ⟨dropped, item, after, rfl, hdropped, hkept, _⟩
  rcases hneeds item kept hkept other hother with ⟨needed, hneeded, hfound⟩
  have hmem : needed ∈ before ++ dropped :=
    h (before ++ dropped) item after (by simp) needed hneeded
  rcases List.mem_append.1 hmem with hbefore | hdrop
  · exact List.mem_filterMap.2 ⟨needed, hbefore, hfound⟩
  · simp [hdropped needed hdrop] at hfound

theorem map {items : List α} {f : α → β} {needs' : β → β → Prop} (h : InOrder needs items)
    (hneeds : ∀ item other, needs' (f item) other → ∃ needed, needs item needed ∧ f needed = other) :
    InOrder needs' (items.map f) := by
  simp only [← List.filterMap_eq_map]
  refine h.filterMap ?_
  intro item kept hkept other hother
  cases hkept
  simpa using hneeds item other hother

end InOrder

/-- Fewer items rank below a listed item than below one that ranks higher. -/
theorem countP_rank_lt {α : Type} (rank : α → Nat) {items : List α} {low high : α}
    (hlow : low ∈ items) (hlt : rank low < rank high) :
    items.countP (fun other => rank other < rank low) <
      items.countP (fun other => rank other < rank high) := by
  have hmono : ∀ items : List α, items.countP (fun other => rank other < rank low) ≤
      items.countP (fun other => rank other < rank high) := by
    intro items
    apply List.countP_mono_left
    intro other _ hother
    simp only [decide_eq_true_eq] at hother ⊢
    exact Nat.lt_trans hother hlt
  rcases List.append_of_mem hlow with ⟨front, back, rfl⟩
  have hfront := hmono front
  have hback := hmono back
  -- The lower item ranks below the higher one, and not below itself.
  simp only [List.countP_append, List.countP_cons, Nat.lt_irrefl, hlt, decide_true, decide_false]
  simp only [Bool.false_eq_true, if_false, if_true]
  omega

/-! ## Visits -/

namespace Graph

variable {graph : Graph} {component : ComponentId}

/-- A component hosts a key whose node depends on another key that it hosts. -/
def NeedsLocally (graph : Graph) (component : ComponentId) (key dependency : Key) : Prop :=
  ∃ node, graph.local? component key = some node ∧ dependency ∈ node.dependencies ∧
    (graph.local? component dependency).isSome = true

/-- Hosted keys have ended, each once and after those that its node depends on. -/
structure Visits.Ordered (graph : Graph) (component : ComponentId) (state : Visits) : Prop where
  visited : state.finished ⊆ state.visited
  hosted : ∀ key ∈ state.finished, (graph.local? component key).isSome = true
  nodup : state.finished.Nodup
  inOrder : InOrder (graph.NeedsLocally component) state.finished

/-- Whatever is visited but has not ended has a property. -/
def Visits.UnderWay (property : Key → Prop) (state : Visits) : Prop :=
  ∀ key ∈ state.visited, key ∉ state.finished → property key

namespace Visits

variable {property : Key → Prop}

theorem UnderWay.of_grows {earlier later : Visits} (h : earlier.UnderWay property)
    (hgrows : earlier.Grows later) : later.UnderWay property := by
  intro key hvisited hopen
  rcases hgrows.ended key hvisited with hearlier | hended
  · exact h key hearlier fun hfinished => hopen (hgrows.finished hfinished)
  · exact absurd hended hopen

theorem UnderWay.mono {weaker : Key → Prop} {state : Visits} (h : state.UnderWay property)
    (hweaker : ∀ key, property key → weaker key) : state.UnderWay weaker := by
  intro key hvisited hopen
  exact hweaker key (h key hvisited hopen)

/-- A key ends after all the keys that it needs. -/
theorem Ordered.finish {state : Visits} {key : Key} (h : state.Ordered graph component)
    (hvisited : key ∈ state.visited) (hunder : key ∉ state.finished)
    (hhosted : (graph.local? component key).isSome = true)
    (hneeds : ∀ dependency, graph.NeedsLocally component key dependency →
      dependency ∈ state.finished) :
    ({ state with finished := state.finished ++ [key] } : Visits).Ordered graph component where
  visited := List.append_subset.2 ⟨h.visited, by simpa using hvisited⟩
  hosted := by
    intro other hother
    rcases List.mem_append.1 hother with hbefore | hlast
    · exact h.hosted other hbefore
    · rcases List.mem_singleton.1 hlast with rfl
      exact hhosted
  nodup := h.nodup.append (List.nodup_singleton key) (by simpa using hunder)
  inOrder := by
    refine h.inOrder.append ?_
    intro front item back hsplit dependency hneeded
    rcases List.cons_eq_append_iff.1 hsplit with ⟨_, hitem⟩ | ⟨_, _, hnone⟩
    · cases hitem
      exact Or.inl (hneeds dependency hneeded)
    · simp at hnone

/-- Steps that each end one hosted key end all of them. -/
theorem Ordered.foldl {step : Visits → Key → Visits}
    (hgrows : ∀ (state : Visits) (key : Key), state.Grows (step state key)) {keys : List Key}
    (hstep : ∀ key ∈ keys, ∀ state : Visits, state.Ordered graph component →
      state.UnderWay property → (step state key).Ordered graph component ∧
        ((graph.local? component key).isSome = true → key ∈ (step state key).finished))
    {state : Visits} (h : state.Ordered graph component) (hunder : state.UnderWay property) :
    (keys.foldl step state).Ordered graph component ∧
      ∀ key ∈ keys, (graph.local? component key).isSome = true →
        key ∈ (keys.foldl step state).finished := by
  induction keys generalizing state with
  | nil => exact ⟨h, by simp⟩
  | cons first rest ih =>
    rcases hstep first List.mem_cons_self state h hunder with ⟨hfirst, hended⟩
    have hrest := ih (fun key hkey => hstep key (List.mem_cons_of_mem _ hkey)) hfirst
      (hunder.of_grows (hgrows state first))
    refine ⟨hrest.1, ?_⟩
    intro key hkey hhosted
    rcases List.mem_cons.1 hkey with rfl | hkey
    · -- What has ended stays so during the visits of the rest.
      exact (Grows.foldl hgrows rest (step state key)).finished (hended hhosted)
    · exact hrest.2 key hkey hhosted

end Visits

/-- The visits of the local keys among some dependencies end all of these. -/
theorem visitLocal_ordered {property : Key → Prop} {visit : Key → Visits → Visits}
    (hgrows : ∀ (key : Key) (state : Visits), state.Grows (visit key state))
    {dependencies : List Key}
    (hvisit : ∀ dependency ∈ dependencies, (graph.local? component dependency).isSome = true →
      ∀ state : Visits, state.Ordered graph component → state.UnderWay property →
        (visit dependency state).Ordered graph component ∧
          dependency ∈ (visit dependency state).finished)
    {state : Visits} (h : state.Ordered graph component) (hunder : state.UnderWay property) :
    let visited := dependencies.foldl
      (fun state dependency =>
        if (graph.local? component dependency).isSome then visit dependency state else state)
      state
    visited.Ordered graph component ∧ ∀ dependency ∈ dependencies,
      (graph.local? component dependency).isSome = true → dependency ∈ visited.finished := by
  refine Visits.Ordered.foldl ?_ ?_ h hunder
  · intro state dependency
    exact visitLocal_grows graph component hgrows [dependency] state
  · intro dependency hdependency state hstate hstateUnder
    cases hlocally : (graph.local? component dependency).isSome with
    | false => simpa using hstate
    | true => simpa using hvisit dependency hdependency hlocally state hstate hstateUnder

theorem mem_keys_of_local? (hkeyed : graph.Keyed) {key : Key}
    (h : (graph.local? component key).isSome = true) :
    key ∈ (graph.nodesOf component).map (·.key) := by
  rcases Option.isSome_iff_exists.1 h with ⟨node, hlocal⟩
  exact List.mem_map.2 ⟨node, hkeyed.mem_nodesOf hlocal, (hkeyed.of_local? hlocal).2.2⟩

/-- A visit ends its key, after everything that the key needs. -/
theorem visitKey_ordered (hkeyed : graph.Keyed) {rank : Key → Nat}
    (hrank : ∀ key dependency, graph.NeedsLocally component key dependency →
      rank dependency < rank key) {bound : Nat} {key : Key} {state : Visits}
    (hhosted : (graph.local? component key).isSome = true)
    (hbound : ((graph.nodesOf component).map (·.key)).countP (fun other => rank other < rank key) <
      bound)
    (h : state.Ordered graph component)
    (hunder : state.UnderWay fun other => rank key < rank other) :
    (graph.visitKey component bound key state).Ordered graph component ∧
      key ∈ (graph.visitKey component bound key state).finished := by
  induction bound generalizing key state with
  | zero => exact absurd hbound (Nat.not_lt_zero _)
  | succ bound ih =>
    by_cases hvisited : key ∈ state.visited
    · -- The key cannot be under way, so its visit has ended.
      have hended : key ∈ state.finished := by
        by_contra hopen
        exact Nat.lt_irrefl _ (hunder key hvisited hopen)
      simpa [visitKey, hvisited] using ⟨h, hended⟩
    · rcases Option.isSome_iff_exists.1 hhosted with ⟨node, hlocal⟩
      simp only [visitKey, List.contains_iff_mem, hvisited, if_false, hlocal, Option.map_some,
        Option.getD_some]
      have hstart : (⟨key :: state.visited, state.finished⟩ : Visits).Ordered graph component :=
        ⟨List.subset_cons_of_subset key h.visited, h.hosted, h.nodup, h.inOrder⟩
      have hstartUnder : (⟨key :: state.visited, state.finished⟩ : Visits).UnderWay
          fun other => rank key ≤ rank other := by
        intro other hother hopen
        rcases List.mem_cons.1 hother with rfl | hother
        · exact Nat.le_refl _
        · exact Nat.le_of_lt (hunder other hother hopen)
      have hvisit : ∀ dependency ∈ node.dependencies,
          (graph.local? component dependency).isSome = true → ∀ state : Visits,
            state.Ordered graph component → (state.UnderWay fun other => rank key ≤ rank other) →
              (graph.visitKey component bound dependency state).Ordered graph component ∧
                dependency ∈ (graph.visitKey component bound dependency state).finished := by
        intro dependency hdependency hlocally state hstate hstateUnder
        -- A dependency ranks lower, so fewer keys rank below it.
        have hlt := hrank key dependency ⟨node, hlocal, hdependency, hlocally⟩
        have hfewer := Nat.lt_of_lt_of_le
          (countP_rank_lt rank (mem_keys_of_local? hkeyed hlocally) hlt) (Nat.le_of_lt_succ hbound)
        exact ih hlocally hfewer hstate
          (hstateUnder.mono fun _ hle => Nat.lt_of_lt_of_le hlt hle)
      have hgrows := visitLocal_grows graph component (visitKey_grows graph component bound)
        node.dependencies ⟨key :: state.visited, state.finished⟩
      rcases visitLocal_ordered (visitKey_grows graph component bound) hvisit hstart hstartUnder with
        ⟨hinner, hended⟩
      refine ⟨hinner.finish (hgrows.visited List.mem_cons_self) ?_ hhosted ?_, by simp⟩
      · -- The key is under way during the visits of its dependencies.
        intro hfinished
        exact hvisited (h.visited (hgrows.underWay key List.mem_cons_self hfinished))
      · rintro dependency ⟨other, hother, hdependency, hlocally⟩
        cases hlocal.symm.trans hother
        exact hended dependency hdependency hlocally

/-- The construction order of a component is made by visits that have all ended. -/
theorem topologicalOrder_ordered (hkeyed : graph.Keyed) {rank : Key → Nat}
    (hrank : ∀ key dependency, graph.NeedsLocally component key dependency →
      rank dependency < rank key) :
    (graph.topologicalOrder component).Nodup ∧
      (∀ key, key ∈ graph.topologicalOrder component ↔
        (graph.local? component key).isSome = true) ∧
      InOrder (graph.NeedsLocally component) (graph.topologicalOrder component) := by
  let keys := (graph.nodesOf component).map (·.key)
  have hgrows : ∀ (state : Visits) (key : Key),
      state.Grows (graph.visitKey component (keys.length + 1) key state) :=
    fun state key => visitKey_grows graph component (keys.length + 1) key state
  have hempty : (⟨[], []⟩ : Visits).Ordered graph component :=
    ⟨List.Subset.refl _, by simp, List.nodup_nil, .nil⟩
  have hnone : (⟨[], []⟩ : Visits).UnderWay fun _ => False := by
    simp [Visits.UnderWay]
  have hstep : ∀ key ∈ keys, ∀ state : Visits, state.Ordered graph component →
      (state.UnderWay fun _ => False) →
        (graph.visitKey component (keys.length + 1) key state).Ordered graph component ∧
          ((graph.local? component key).isSome = true →
            key ∈ (graph.visitKey component (keys.length + 1) key state).finished) := by
    intro key hkey state hstate hunder
    rcases List.mem_map.1 hkey with ⟨node, hnode, rfl⟩
    have hlocal := hkeyed.local?_of_mem_nodesOf hnode
    have hbound := Nat.lt_succ_of_le (List.countP_le_length
      (p := fun other => decide (rank other < rank node.key)) (l := keys))
    have hvisit := visitKey_ordered hkeyed hrank (by simp [hlocal]) hbound hstate
      (hunder.mono fun _ => False.elim)
    exact ⟨hvisit.1, fun _ => hvisit.2⟩
  rcases Visits.Ordered.foldl hgrows hstep hempty hnone with ⟨hordered, hended⟩
  refine ⟨hordered.nodup, ?_, hordered.inOrder⟩
  intro key
  constructor
  · exact hordered.hosted key
  · intro hhosted
    exact hended key (mem_keys_of_local? hkeyed hhosted) hhosted

end Graph

/-! ## Entries -/

namespace ComponentPlan

variable {graph : Graph} {component : ComponentId}

/-- Entries of one component differ in their keys. -/
theorem nodup_keys_providers (hkeyed : graph.Keyed)
    (hnodup : (graph.topologicalOrder component).Nodup) :
    ((ofGraph graph component).providers.map (·.key)).Nodup := by
  have hkeys : (ofGraph graph component).providers.map (·.key) =
      (graph.topologicalOrder component).filter fun key => (graph.local? component key).isSome := by
    simp only [ofGraph, List.map_filterMap, ← List.filterMap_eq_filter]
    apply List.filterMap_congr
    intro key _
    cases hlocal : graph.local? component key with
    | none => simp [Option.guard, hlocal]
    | some node => simp [Option.guard, hlocal, Entry.ofNode, (hkeyed.of_local? hlocal).2.2]
  simp only [hkeys]
  exact hnodup.filter _

/-- The entry of a local dependency stands before the entries that depend on it. -/
theorem inOrder_providers
    (hordered : InOrder (graph.NeedsLocally component) (graph.topologicalOrder component)) :
    InOrder (fun entry other => ∃ key ∈ entry.dependencies,
        (graph.local? component key).map (Entry.ofNode graph) = some other)
      (ofGraph graph component).providers := by
  refine hordered.filterMap ?_
  rintro key entry hmade other ⟨dependency, hdependency, hother⟩
  rcases Option.map_eq_some_iff.1 hmade with ⟨node, hlocal, rfl⟩
  refine ⟨dependency, ⟨node, hlocal, hdependency, ?_⟩, hother⟩
  simpa using congrArg Option.isSome hother

end ComponentPlan
end ObjectGraph
