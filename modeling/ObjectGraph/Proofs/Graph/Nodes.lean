import ObjectGraph.Compile
import ObjectGraph.Proofs.Hierarchy.Tree
import ObjectGraph.Proofs.Table

/-!
# Nodes — the table of a graph and what is read off it

The graph of a manifest files every node under its own component and key. A node is then known by
its identity, and the lookups of a component agree with the listing.

* `Graph.Keyed` — nodes filed under their own identities;
* `Graph.Keyed.mem_nodes_iff`, `Graph.Keyed.eq_of_id_eq` — listing, lookup and identity;
* `Graph.Keyed.increasing_nodes` — the order of the listing;
* `Graph.Keyed.table_eq_of_perm` — the listed nodes decide the table;
* `Graph.Keyed.of_resolve?` — what a component sees is a node of its lineage;
* `Graph.resolve?_of_local?` — its own nodes come first;
* `Manifest.keyed_graph` — the graph of a manifest is keyed.
-/

namespace ObjectGraph

/-- Every node of the table is filed under its own identity. -/
def Draft.Keyed (draft : Draft) : Prop :=
  ∀ id node, draft.table.find? id = some node → node.id = id

/-- Every node of the graph is filed under its own identity. -/
def Graph.Keyed (graph : Graph) : Prop :=
  ∀ id node, graph.table.find? id = some node → node.id = id

/-! ## Drafts -/

namespace Draft

theorem keyed_empty : empty.Keyed := by
  intro id node h
  simp [empty] at h

theorem Keyed.insert {draft : Draft} (h : draft.Keyed) (node : Node) :
    (draft.insert node).Keyed := by
  intro id other hfound
  simp only [Draft.insert] at hfound
  split at hfound
  · exact h id other hfound
  · simp only [Table.find?_insertNew] at hfound
    split at hfound
    · -- The entry is the new one: its identity was not there before.
      rename_i hnew hid
      have hfresh : draft.table.find? node.id = none := by
        simpa [Table.contains] using hnew
      simp only [hfresh, Option.getD_none, Option.some_inj] at hfound
      simp only [← hfound, hid]
    · exact h id other hfound

theorem Keyed.add {draft : Draft} (h : draft.Keyed) (classified : Classified) :
    (draft.add classified).Keyed := by
  refine List.foldlRecOn classified.nodes Draft.insert ?_ ?_
  · exact h
  · intro draft hdraft node _
    exact hdraft.insert node

end Draft

theorem Manifest.keyed_draft (manifest : Manifest) (hierarchy : Hierarchy) :
    (manifest.draft hierarchy).Keyed := by
  apply List.foldlRecOn (manifest.visits hierarchy) _ Draft.keyed_empty
  intro draft hdraft place _
  exact hdraft.add (manifest.classifyAt place)

theorem Manifest.keyed_graph (manifest : Manifest) (hierarchy : Hierarchy) :
    (manifest.graph hierarchy).Keyed :=
  manifest.keyed_draft hierarchy

/-! ## Graphs -/

namespace Graph.Keyed

variable {graph : Graph}

theorem mem_nodes_iff (h : graph.Keyed) {node : Node} :
    node ∈ graph.nodes ↔ graph.table.find? node.id = some node := by
  simp only [Graph.nodes, Table.mem_values_iff]
  constructor
  · rintro ⟨id, hfound⟩
    have hid : node.id = id := h id node hfound
    simpa only [hid] using hfound
  · intro hfound
    exact ⟨node.id, hfound⟩

theorem eq_of_id_eq (h : graph.Keyed) {a b : Node} (ha : a ∈ graph.nodes) (hb : b ∈ graph.nodes)
    (hid : a.id = b.id) : a = b := by
  have hfound : graph.table.find? b.id = some a := by
    simpa only [hid] using h.mem_nodes_iff.1 ha
  exact Option.some.inj (hfound.symm.trans (h.mem_nodes_iff.1 hb))

theorem find?_eq_some_iff (h : graph.Keyed) {id : NodeId} {node : Node} :
    graph.table.find? id = some node ↔ node ∈ graph.nodes ∧ node.id = id := by
  constructor
  · intro hfound
    have hid : node.id = id := h id node hfound
    exact ⟨h.mem_nodes_iff.2 (hid ▸ hfound), hid⟩
  · rintro ⟨hnode, rfl⟩
    exact h.mem_nodes_iff.1 hnode

/-- A table files the same nodes in the same way, whatever the order of their insertion. -/
theorem table_eq_of_perm {other : Graph} (h : graph.Keyed) (hother : other.Keyed)
    (hperm : graph.nodes.Perm other.nodes) : graph.table = other.table := by
  apply Table.ext_find?
  intro id
  apply Option.ext
  intro node
  simp only [h.find?_eq_some_iff, hother.find?_eq_some_iff, hperm.mem_iff]

theorem of_local? (h : graph.Keyed) {component : ComponentId} {key : Key} {node : Node}
    (hlocal : graph.local? component key = some node) :
    node ∈ graph.nodes ∧ node.host = component ∧ node.key = key := by
  have hid : node.id = ⟨component, key⟩ := h _ _ hlocal
  refine ⟨?_, congrArg NodeId.host hid, congrArg NodeId.key hid⟩
  simp only [h.mem_nodes_iff, hid]
  exact hlocal

theorem of_resolve? (h : graph.Keyed) {component : ComponentId} {key : Key} {node : Node}
    (hresolve : graph.resolve? component key = some node) :
    node ∈ graph.nodes ∧ node.host ∈ graph.hierarchy.lineage component ∧ node.key = key := by
  obtain ⟨host, hhost, hlocal⟩ := List.exists_of_findSome?_eq_some hresolve
  obtain ⟨hmem, rfl, hkey⟩ := h.of_local? hlocal
  exact ⟨hmem, hhost, hkey⟩

/-- The identities of the listed nodes are the keys of the table. -/
theorem map_id_nodes (h : graph.Keyed) : graph.nodes.map Node.id = graph.table.keys := by
  simp only [Graph.nodes, Table.values, Table.keys, List.map_map]
  apply List.map_congr_left
  intro entry hentry
  exact h entry.1 entry.2 (graph.table.find?_eq_some_iff.2 hentry)

theorem nodup_map_id (h : graph.Keyed) : (graph.nodes.map Node.id).Nodup := by
  rw [h.map_id_nodes]
  exact Table.nodup_keys _

/-- Nodes are listed by component and key. -/
theorem increasing_nodes (h : graph.Keyed) :
    graph.nodes.Pairwise fun first second => compare first.id second.id = .lt := by
  have hids : (graph.nodes.map Node.id).Pairwise fun first second => compare first second = .lt := by
    rw [h.map_id_nodes]
    exact List.pairwise_map.2 graph.table.increasing
  exact List.pairwise_map.1 hids

end Graph.Keyed

/-- A component sees its own nodes first. -/
theorem Graph.resolve?_of_local? {graph : Graph} (hrooted : graph.hierarchy.Rooted)
    {component : ComponentId} (hmem : component ∈ graph.hierarchy.components) {key : Key}
    {node : Node} (hlocal : graph.local? component key = some node) :
    graph.resolve? component key = some node := by
  simp [resolve?, hrooted.lineage_eq_cons hmem, hlocal]

end ObjectGraph
