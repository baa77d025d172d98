import Mathlib.Data.List.Perm.Subperm
import ObjectGraph.Proofs.Graph.Nodes
import ObjectGraph.Proofs.Plan

/-!
# Construction order — a plan has one entry for each hosted node

A visit that starts with nothing under way finishes every key that it visits, whatever the bound on its
depth. The order of a component therefore lists all of its keys, and the entry that a plan has for a
key is the one made of the node.

* `Graph.Visits.Grows` — what a visit keeps;
* `Graph.mem_topologicalOrder` — every hosted key is listed;
* `ComponentPlan.mem_providers_iff`, `ComponentPlan.provider?_ofGraph` — entries against nodes;
* `Graph.size_le_planSize` — a plan has no fewer entries than the graph has nodes.
-/

namespace ObjectGraph

namespace Graph

/-! ## Visits -/

/-- A visit ends the keys that it visits; those under way before it stay under way. -/
structure Visits.Grows (earlier later : Visits) : Prop where
  visited : earlier.visited ⊆ later.visited
  finished : earlier.finished ⊆ later.finished
  ended : ∀ key ∈ later.visited, key ∈ earlier.visited ∨ key ∈ later.finished
  underWay : ∀ key ∈ earlier.visited, key ∈ later.finished → key ∈ earlier.finished

namespace Visits.Grows

theorem refl (state : Visits) : state.Grows state where
  visited := List.Subset.refl _
  finished := List.Subset.refl _
  ended := fun _ hkey => Or.inl hkey
  underWay := fun _ _ hfinished => hfinished

theorem trans {first second third : Visits} (h : first.Grows second) (hnext : second.Grows third) :
    first.Grows third where
  visited := List.Subset.trans h.visited hnext.visited
  finished := List.Subset.trans h.finished hnext.finished
  ended := by
    intro key hkey
    rcases hnext.ended key hkey with hsecond | hthird
    · rcases h.ended key hsecond with hfirst | hfinished
      · exact Or.inl hfirst
      · exact Or.inr (hnext.finished hfinished)
    · exact Or.inr hthird
  underWay := by
    intro key hkey hthird
    exact h.underWay key hkey (hnext.underWay key (h.visited hkey) hthird)

/-- Visits one after the other. -/
theorem foldl {visit : Visits → Key → Visits}
    (h : ∀ (state : Visits) (key : Key), state.Grows (visit state key)) (keys : List Key)
    (state : Visits) : state.Grows (keys.foldl visit state) := by
  refine List.foldlRecOn keys visit (refl state) ?_
  intro earlier hearlier key _
  exact hearlier.trans (h earlier key)

end Visits.Grows

variable (graph : Graph) (component : ComponentId)

/-- The visits of the local keys among some dependencies. -/
theorem visitLocal_grows {visit : Key → Visits → Visits}
    (h : ∀ (key : Key) (state : Visits), state.Grows (visit key state))
    (dependencies : List Key) (state : Visits) :
    state.Grows (dependencies.foldl
      (fun state dependency =>
        if (graph.local? component dependency).isSome then visit dependency state else state)
      state) := by
  refine Visits.Grows.foldl ?_ dependencies state
  intro state dependency
  split
  · exact h dependency state
  · exact .refl state

theorem visitKey_grows (bound : Nat) (key : Key) (state : Visits) :
    state.Grows (graph.visitKey component bound key state) := by
  induction bound generalizing key state with
  | zero => exact .refl state
  | succ bound ih =>
    simp only [visitKey]
    split
    · exact .refl state
    · rename_i hfresh
      -- The key is under way while its dependencies are visited, and ends after them.
      have hgrows := visitLocal_grows graph component ih
        (((graph.local? component key).map (·.dependencies)).getD [])
        { state with visited := key :: state.visited }
      refine ⟨?_, ?_, ?_, ?_⟩
      · exact List.Subset.trans (List.subset_cons_self key state.visited) hgrows.visited
      · exact List.Subset.trans hgrows.finished (List.subset_append_left _ _)
      · intro other hother
        rcases hgrows.ended other hother with hstart | hfinished
        · rcases List.mem_cons.1 hstart with rfl | hbefore
          · exact Or.inr (by simp)
          · exact Or.inl hbefore
        · exact Or.inr (List.mem_append_left _ hfinished)
      · intro other hother hended
        rcases List.mem_append.1 hended with hended | hlast
        · exact hgrows.underWay other (List.mem_cons_of_mem _ hother) hended
        · -- A key that ends now was not visited before.
          rcases List.mem_singleton.1 hlast with rfl
          exact absurd (List.contains_iff_mem.2 hother) hfresh

theorem mem_visited_visitKey (bound : Nat) (key : Key) (state : Visits) :
    key ∈ (graph.visitKey component (bound + 1) key state).visited := by
  by_cases hvisited : key ∈ state.visited
  · exact (visitKey_grows graph component (bound + 1) key state).visited hvisited
  · simp only [visitKey, List.contains_iff_mem, hvisited, if_false]
    -- The key is marked before its dependencies are visited, and stays marked.
    exact (visitLocal_grows graph component (visitKey_grows graph component bound) _ _).visited
      List.mem_cons_self

variable {graph : Graph} {component : ComponentId}

/-- Every key that a component hosts has its place in the construction order. -/
theorem mem_topologicalOrder {node : Node} (hnode : node ∈ graph.nodesOf component) :
    node.key ∈ graph.topologicalOrder component := by
  have hfold : ∀ (bound : Nat) (keys : List Key) (state : Visits), ∀ key ∈ keys,
      key ∈ (keys.foldl
        (fun state key => graph.visitKey component (bound + 1) key state) state).visited := by
    intro bound keys
    induction keys with
    | nil => simp
    | cons first rest ih =>
      intro state key hkey
      rcases List.mem_cons.1 hkey with rfl | hkey
      · have hrest := Visits.Grows.foldl
          (fun state key => visitKey_grows graph component (bound + 1) key state) rest
          (graph.visitKey component (bound + 1) key state)
        exact hrest.visited (mem_visited_visitKey graph component bound key state)
      · exact ih _ key hkey
  let keys := (graph.nodesOf component).map (·.key)
  have hkey : node.key ∈ keys := List.mem_map_of_mem hnode
  have hgrows := Visits.Grows.foldl
    (fun state key => visitKey_grows graph component (keys.length + 1) key state) keys ⟨[], []⟩
  -- Nothing was under way at the start, so what was visited has ended.
  rcases hgrows.ended node.key (hfold keys.length keys ⟨[], []⟩ node.key hkey) with
    hnone | hfinished
  · simp at hnone
  · exact hfinished

end Graph

/-! ## Entries -/

section Entries

variable {graph : Graph}

theorem Graph.Keyed.mem_nodesOf (h : graph.Keyed) {component : ComponentId} {key : Key}
    {node : Node}
    (hlocal : graph.local? component key = some node) : node ∈ graph.nodesOf component := by
  rcases h.of_local? hlocal with ⟨hnode, hhost, _⟩
  exact List.mem_filter.2 ⟨hnode, by simpa using hhost⟩

theorem Graph.Keyed.local?_of_mem_nodesOf (h : graph.Keyed) {component : ComponentId} {node : Node}
    (hnode : node ∈ graph.nodesOf component) : graph.local? component node.key = some node := by
  rcases List.mem_filter.1 hnode with ⟨hmem, hhost⟩
  simp only [decide_eq_true_eq] at hhost
  simpa only [Graph.local?, Node.id, hhost] using h.mem_nodes_iff.1 hmem

/-- The providers of a component are the entries of the nodes that it hosts. -/
theorem ComponentPlan.mem_providers_iff (h : graph.Keyed) {component : ComponentId}
    {entry : Entry} : entry ∈ (ComponentPlan.ofGraph graph component).providers ↔
      (graph.local? component entry.key).map (Entry.ofNode graph) = some entry := by
  constructor
  · intro hentry
    rcases List.mem_filterMap.1 hentry with ⟨listed, _, hmade⟩
    rcases Option.map_eq_some_iff.1 hmade with ⟨node, hlocal, rfl⟩
    have hkey : node.key = listed := (h.of_local? hlocal).2.2
    simp only [Entry.ofNode, hkey, hlocal, Option.map_some]
  · intro hmade
    rcases Option.map_eq_some_iff.1 hmade with ⟨node, hlocal, hentry⟩
    have hlisted := Graph.mem_topologicalOrder (h.mem_nodesOf hlocal)
    simp only [(h.of_local? hlocal).2.2] at hlisted
    exact List.mem_filterMap.2 ⟨entry.key, hlisted, hmade⟩

/-- The entry of a key is made of the node that the component hosts for it. -/
theorem ComponentPlan.provider?_ofGraph (h : graph.Keyed) (component : ComponentId) (key : Key) :
    (ComponentPlan.ofGraph graph component).provider? key =
      (graph.local? component key).map (Entry.ofNode graph) := by
  cases hfound : (ComponentPlan.ofGraph graph component).provider? key with
  | none =>
    -- An entry made of a local node would have been found.
    apply Eq.symm
    apply Option.map_eq_none_iff.2
    apply Option.eq_none_iff_forall_ne_some.2
    intro node hlocal
    have hkey : node.key = key := (h.of_local? hlocal).2.2
    have hlisted : Entry.ofNode graph node ∈ (ComponentPlan.ofGraph graph component).providers :=
      (mem_providers_iff h).2 (by simp [Entry.ofNode, hkey, hlocal])
    have hother := List.find?_eq_none.1 hfound _ hlisted
    simp [Entry.ofNode, hkey] at hother
  | some entry =>
    have hkey : entry.key = key := by
      simpa using List.find?_some hfound
    have hmade := (mem_providers_iff h).1 (List.mem_of_find?_eq_some hfound)
    simpa only [hkey, eq_comm] using hmade

/-- Identities of the entries, component by component. -/
def Plan.entryIds (plan : Plan) : List NodeId :=
  plan.components.flatMap fun component => component.providers.map fun entry =>
    ⟨component.id, entry.key⟩

theorem Plan.length_entryIds (plan : Plan) : plan.entryIds.length = plan.size := by
  have hfold : ∀ (components : List ComponentPlan) (count : Nat),
      components.foldl (fun count component => count + component.providers.length) count =
        count + (components.flatMap fun component => component.providers.map fun entry =>
          (⟨component.id, entry.key⟩ : NodeId)).length := by
    intro components
    induction components with
    | nil => simp
    | cons first rest ih =>
      intro count
      simp only [List.foldl_cons, ih, List.flatMap_cons, List.length_append, List.length_map]
      omega
  simp only [Plan.entryIds, Plan.size, hfold, Nat.zero_add]

theorem Graph.size_le_planSize (h : graph.Keyed)
    (hhosted : ∀ node ∈ graph.nodes, node.host ∈ graph.hierarchy.components) :
    graph.size ≤ (Plan.ofGraph graph).size := by
  have hsubset : graph.nodes.map Node.id ⊆ (Plan.ofGraph graph).entryIds := by
    intro id hid
    rcases List.mem_map.1 hid with ⟨node, hnode, rfl⟩
    have hlocal : graph.local? node.host node.key = some node := h.mem_nodes_iff.1 hnode
    refine List.mem_flatMap.2
      ⟨.ofGraph graph node.host, List.mem_map_of_mem (hhosted node hnode), ?_⟩
    refine List.mem_map.2 ⟨Entry.ofNode graph node, ?_, by simp [Entry.ofNode, Node.id,
      ComponentPlan.ofGraph]⟩
    exact (ComponentPlan.mem_providers_iff h).2 (by simp [Entry.ofNode, hlocal])
  -- The identities of the nodes differ, and each one has its entry.
  have hlength := (h.nodup_map_id.subperm hsubset).length_le
  simpa [Plan.length_entryIds, Graph.nodes, Graph.size, Table.values, Table.size] using hlength

end Entries
end ObjectGraph
