import ObjectGraph.Proofs.Compile.Sound
import ObjectGraph.Proofs.Live.Instance

/-!
# Lookups — the way up over instances against the lineage of a component

A component sees a key in the nearest component of its lineage that hosts it; an instance finds it in
the nearest instance upwards whose table has an entry. Instances that follow the tree of the
components have the same lineages, and the tables are those of a plan, so both end at one node.

* `Instance.search_eq_some`, `Instance.map_snd_search` — where a search ends;
* `Wiring.entry?_ofGraph`, `Plan.exists_local?_of_kind?` — table entries against hosted nodes;
* `Graph.seenFrom?`, `Wiring.host?_eq` — the node behind the entry that a lookup finds;
* `Instance.Follows.seenFrom?_of_resolve?` — the static resolution finds the same node.
-/

namespace ObjectGraph

/-! ## Searches -/

namespace Instance

variable {α β : Type} {find : ComponentId → Option α} {frame : Frame} {above : List Frame}

theorem search_map (g : α → β) :
    search (fun component => (find component).map g) frame above =
      (search find frame above).map fun result => (result.1, g result.2) := by
  induction above generalizing frame with
  | nil =>
    unfold search
    cases find frame.component <;> rfl
  | cons next rest ih =>
    unfold search
    cases find frame.component with
    | none => exact ih
    | some value => rfl

/-- A search finds what the components of the way up have first. -/
theorem map_snd_search :
    (search find frame above).map Prod.snd =
      ((⟨frame, above⟩ :: parentsOf above).map component).findSome? find := by
  induction above generalizing frame with
  | nil =>
    unfold search
    cases hfind : find frame.component <;> simp [component, parentsOf, hfind]
  | cons next rest ih =>
    unfold search
    cases hfind : find frame.component with
    | none =>
      calc
        (search find next rest).map Prod.snd =
            ((⟨next, rest⟩ :: parentsOf rest).map component).findSome? find := ih
        _ = ((⟨frame, next :: rest⟩ :: parentsOf (next :: rest)).map component).findSome?
            find := by
          simp [parentsOf, component, hfind]
    | some value => simp [component, hfind]

/-- Where a search ends it would end at once. -/
theorem search_eq_some {host : Instance} {found : α}
    (h : search find frame above = some (host, found)) :
    host ∈ (⟨frame, above⟩ : Instance) :: parentsOf above ∧ find host.component = some found ∧
      search find host.frame host.above = some (host, found) := by
  induction above generalizing frame with
  | nil =>
    unfold search at h
    cases hfind : find frame.component with
    | none => simp [hfind] at h
    | some value =>
      simp only [hfind, Option.some.injEq, Prod.mk.injEq] at h
      rcases h with ⟨rfl, rfl⟩
      exact ⟨List.mem_cons_self, hfind, by simp [search, hfind]⟩
  | cons next rest ih =>
    unfold search at h
    cases hfind : find frame.component with
    | none =>
      simp only [hfind] at h
      rcases ih h with ⟨hmem, hfound, hagain⟩
      exact ⟨List.mem_cons_of_mem _ hmem, hfound, hagain⟩
    | some value =>
      simp only [hfind, Option.some.injEq, Prod.mk.injEq] at h
      rcases h with ⟨rfl, rfl⟩
      exact ⟨List.mem_cons_self, hfind, by simp [search, hfind]⟩

/-! ## The way up -/

namespace Follows

variable {hierarchy : Hierarchy} {inst host : Instance}

theorem mem_components (h : inst.Follows hierarchy) :
    inst.component ∈ hierarchy.components := by
  by_contra hnot
  simp [Follows, Hierarchy.lineage_of_not_mem hnot] at h

theorem ancestors_eq (h : inst.Follows hierarchy) (hrooted : hierarchy.Rooted) :
    hierarchy.ancestors inst.component = inst.parents.map component := by
  have hlineage := hrooted.lineage_eq_cons h.mem_components
  simp only [Follows, hlineage, List.map_cons, List.cons.injEq, true_and] at h
  exact h.symm

theorem parent (h : inst.Follows hierarchy) (hrooted : hierarchy.Rooted) {parent : Instance}
    (hparent : inst.parent? = some parent) : parent.Follows hierarchy := by
  have hancestors : hierarchy.ancestors inst.component =
      parent.component :: parent.parents.map component := by
    simp [h.ancestors_eq hrooted, parents_eq_cons hparent]
  rcases hrooted.ancestors_of_eq_cons hancestors with ⟨hmem, hrest⟩
  calc
    (parent :: parent.parents).map component =
        parent.component :: hierarchy.ancestors parent.component := by
      simp [hrest]
    _ = hierarchy.lineage parent.component := (hrooted.lineage_eq_cons hmem).symm

theorem of_mem (h : inst.Follows hierarchy) (hrooted : hierarchy.Rooted)
    (hhost : host ∈ inst :: inst.parents) : host.Follows hierarchy := by
  rcases inst with ⟨frame, above⟩
  induction above generalizing frame with
  | nil =>
    have hsame : host = ⟨frame, []⟩ := by
      simpa [parents, parentsOf] using hhost
    simpa only [hsame] using h
  | cons next rest ih =>
    rcases List.mem_cons.1 hhost with rfl | habove
    · exact h
    · exact ih next (h.parent hrooted rfl) habove

/-- Of the instances on a way up no two belong to one component. -/
theorem eq_of_component_eq (h : inst.Follows hierarchy) (hrooted : hierarchy.Rooted)
    {a b : Instance} (ha : a ∈ inst :: inst.parents) (hb : b ∈ inst :: inst.parents)
    (heq : a.component = b.component) : a = b := by
  have hnodup : ((inst :: inst.parents).map component).Nodup := by
    simp only [List.map_cons, ← h.ancestors_eq hrooted]
    exact hrooted.nodup_lineage
  exact List.inj_on_of_nodup_map hnodup ha hb heq

end Follows
end Instance

/-! ## Nodes -/

section Nodes

variable {graph : Graph} {wiring : Wiring} {inst : Instance} {key : Key}

/-- The tables of a plan have an entry for each hosted node, and no others. -/
theorem Wiring.entry?_ofGraph (hsound : graph.Sound) (hplan : wiring.plan = .ofGraph graph)
    (component : ComponentId) (key : Key) :
    wiring.entry? component key = (graph.local? component key).map (Entry.ofNode graph) := by
  by_cases hmem : component ∈ graph.hierarchy.components
  · simp [hplan, entry?, Plan.component?_ofGraph, hmem,
      ComponentPlan.provider?_ofGraph hsound.keyed]
  · -- Nothing is hosted outside the tree.
    have hnone : graph.local? component key = none := by
      cases hlocal : graph.local? component key with
      | none => rfl
      | some node =>
        rcases hsound.keyed.of_local? hlocal with ⟨hnode, hhost, _⟩
        exact absurd (hhost ▸ hsound.hosted node hnode) hmem
    simp [hplan, entry?, Plan.component?_ofGraph, hmem, hnone]

/-- The kind of an entry is that of the hosted node. -/
theorem Plan.exists_local?_of_kind? (hsound : graph.Sound) {component : ComponentId}
    {kind : ProviderKind} (hkind : (ofGraph graph).kind? component key = some kind) :
    ∃ node, graph.local? component key = some node ∧ ProviderKind.ofNode graph node = kind := by
  rcases Option.map_eq_some_iff.1 hkind with ⟨entry, hentry, hentryKind⟩
  have hmade := (Wiring.mk (ofGraph graph) .empty).entry?_ofGraph hsound rfl component key
  rcases Option.map_eq_some_iff.1 (hmade.symm.trans hentry) with ⟨node, hlocal, rfl⟩
  exact ⟨node, hlocal, hentryKind⟩

/-- The nearest instance upwards whose component hosts a key, and the node hosted there. -/
def Graph.seenFrom? (graph : Graph) (inst : Instance) (key : Key) : Option (Instance × Node) :=
  Instance.search (fun component => graph.local? component key) inst.frame inst.above

theorem Wiring.host?_eq (hsound : graph.Sound) (hplan : wiring.plan = .ofGraph graph)
    (inst : Instance) (key : Key) :
    wiring.host? inst key =
      (graph.seenFrom? inst key).map fun seen => (seen.1, Entry.ofNode graph seen.2) := by
  simp only [host?, wiring.entry?_ofGraph hsound hplan, Instance.search_map]
  rfl

theorem Graph.seenFrom?_eq_some {host : Instance} {node : Node}
    (h : graph.seenFrom? inst key = some (host, node)) :
    host ∈ inst :: inst.parents ∧ graph.local? host.component key = some node ∧
      graph.seenFrom? host key = some (host, node) :=
  Instance.search_eq_some h

namespace Instance.Follows

variable (h : inst.Follows graph.hierarchy)

include h

theorem map_snd_seenFrom? (key : Key) :
    (graph.seenFrom? inst key).map Prod.snd = graph.resolve? inst.component key := by
  calc
    (graph.seenFrom? inst key).map Prod.snd =
        ((inst :: inst.parents).map Instance.component).findSome? fun host =>
          graph.local? host key := map_snd_search
    _ = graph.resolve? inst.component key := by
      rw [h]
      rfl

theorem seenFrom?_eq_none (hresolve : graph.resolve? inst.component key = none) :
    graph.seenFrom? inst key = none := by
  simpa [hresolve] using h.map_snd_seenFrom? key

/-- What a component resolves statically is found from each of its instances, in the instance of the
host on the way up. -/
theorem seenFrom?_of_resolve? (hkeyed : graph.Keyed) {node : Node}
    (hresolve : graph.resolve? inst.component key = some node) :
    ∃ host ∈ inst :: inst.parents, host.component = node.host ∧
      graph.local? host.component key = some node ∧
        graph.seenFrom? inst key = some (host, node) := by
  have hmap := h.map_snd_seenFrom? key
  rw [hresolve] at hmap
  rcases Option.map_eq_some_iff.1 hmap with ⟨⟨host, found⟩, hseen, rfl⟩
  rcases Graph.seenFrom?_eq_some hseen with ⟨hmem, hlocal, _⟩
  exact ⟨host, hmem, (hkeyed.of_local? hlocal).2.1.symm, hlocal, hseen⟩

end Instance.Follows

end Nodes
end ObjectGraph
