import Mathlib.Data.List.Chain
import Mathlib.Data.List.Infix
import Mathlib.Data.List.Nodup
import Mathlib.Data.List.Perm.Subperm
import ObjectGraph.Proofs.Compile.Stage
import ObjectGraph.Proofs.Graph.Nodes

/-!
# Cycles — the search finds every one

Nodes whose visits have ended are kept in the order of their ends. Every construction edge leads
from a node to one that ended earlier, except for those that close a reported cycle. So a walk that
avoids the closing edges goes down that order and never returns.

* `Graph.Edge`, `ClosedWalk`, `Graph.Acyclic` — construction edges and walks along them;
* `Closes` — the edge that closes a reported cycle;
* `Graph.Settled` — the order of the ends, which every visit keeps;
* `Graph.visit_keeps` — what one visit preserves and achieves;
* `cycle_detection_complete` — every closed walk has a closing edge.
-/

namespace ObjectGraph

/-! ## Walks -/

/-- A walk along edges that ends where it starts. -/
def ClosedWalk {α : Type} (edge : α → α → Prop) (walk : List α) : Prop :=
  ∃ start middle, walk = start :: (middle ++ [start]) ∧ walk.IsChain edge

/-- A walk has no closed part if every edge leads to a smaller number. -/
theorem not_closedWalk_of_lt {α : Type} {edge : α → α → Prop} (rank : α → Nat)
    (h : ∀ u v, edge u v → rank v < rank u) (walk : List α) : ¬ ClosedWalk edge walk := by
  rintro ⟨start, middle, rfl, hchain⟩
  have hranks : ((start :: (middle ++ [start])).map rank).IsChain (· > ·) := by
    refine List.isChain_map_of_isChain rank ?_ hchain
    intro u v huv
    exact h u v huv
  -- The numbers fall along the walk, so the one at its end is below itself.
  have hpairwise := List.isChain_iff_pairwise.1 hranks
  have hlt : rank start > rank start := by
    apply (List.pairwise_cons.1 hpairwise).1 (rank start)
    simp
  exact Nat.lt_irrefl _ hlt

/-- A walk without a marked edge is a walk along the unmarked ones. -/
theorem ClosedWalk.exists_infix {α : Type} {edge marked : α → α → Prop} {walk : List α}
    (hwalk : ClosedWalk edge walk)
    (hunmarked : ¬ ClosedWalk (fun u v => edge u v ∧ ¬ marked u v) walk) :
    ∃ u v, [u, v] <:+: walk ∧ marked u v := by
  by_contra hnone
  rcases hwalk with ⟨start, middle, rfl, hchain⟩
  refine hunmarked ⟨start, middle, rfl, ?_⟩
  rw [List.isChain_iff_forall_rel_of_append_cons_cons] at hchain ⊢
  intro u v front back heq
  refine ⟨hchain heq, ?_⟩
  intro hmarked
  exact hnone ⟨u, v, ⟨front, back, by simp [heq]⟩, hmarked⟩

namespace Graph

/-- From a node to every node that one of its dependencies resolves to at its host. -/
def Edge (graph : Graph) (u v : Node) : Prop :=
  u ∈ graph.nodes ∧ ∃ key ∈ u.dependencies, graph.resolve? u.host key = some v

def Acyclic (graph : Graph) : Prop :=
  ∀ walk, ¬ ClosedWalk graph.Edge walk

theorem mem_constructionTargets {graph : Graph} {u v : Node} :
    v ∈ graph.constructionTargets u ↔
      ∃ key ∈ u.dependencies, graph.resolve? u.host key = some v := by
  simp [constructionTargets]

end Graph

/-! ## What a search keeps -/

/-- A cycle that starts at `v` and ends at `u` is closed by the edge from `u` to `v`. -/
def Closes (cycles : List (List Node)) (u v : Node) : Prop :=
  ∃ cycle ∈ cycles, cycle.head? = some v ∧ cycle.getLast? = some u

theorem Closes.mono {earlier later : List (List Node)} {u v : Node} (h : Closes earlier u v)
    (hsubset : earlier ⊆ later) : Closes later u v := by
  rcases h with ⟨cycle, hcycle, hends⟩
  exact ⟨cycle, hsubset hcycle, hends⟩

/-- A search only adds nodes whose visits have ended and cycles. -/
structure Search.Extends (earlier later : Search) : Prop where
  done : earlier.done <:+ later.done
  cycles : earlier.cycles <+: later.cycles

namespace Graph

variable {graph : Graph}

/-- Walking along a reported cycle, and back to its start, follows edges of the graph. -/
def Genuine (graph : Graph) (cycle : List Node) : Prop :=
  ∃ start rest, cycle = start :: rest ∧ ClosedWalk graph.Edge (start :: (rest ++ [start]))

/-- Edges lead to nodes that ended earlier, or close a reported cycle. The last end comes first. -/
structure Settled (graph : Graph) (search : Search) : Prop where
  order : ∀ after node before, node ∈ graph.nodes → search.done = after ++ node.id :: before →
    ∀ target, graph.Edge node target → target.id ∈ before ∨ Closes search.cycles node target
  genuine : ∀ cycle ∈ search.cycles, graph.Genuine cycle

/-- A path of nodes whose visits have not ended. Its last node comes first. -/
structure OnPath (graph : Graph) (path : List Node) (search : Search) : Prop where
  members : ∀ node ∈ path, node ∈ graph.nodes
  distinct : (path.map Node.id).Nodup
  edges : path.IsChain fun later earlier => graph.Edge earlier later
  unfinished : ∀ node ∈ path, node.id ∉ search.done

/-- What a search below a path leaves behind. -/
structure Keeps (graph : Graph) (path : List Node) (earlier later : Search) : Prop where
  extended : earlier.Extends later
  settled : graph.Settled later
  unfinished : ∀ node ∈ path, node.id ∉ later.done

/-- A target has ended, or the edge to it from the end of the path closes a cycle. -/
def Reached (path : List Node) (target : Node) (search : Search) : Prop :=
  target.id ∈ search.done ∨ ∃ parent, path.head? = some parent ∧ Closes search.cycles parent target

theorem Keeps.refl {path : List Node} {search : Search} (hsettled : graph.Settled search)
    (hpath : graph.OnPath path search) : graph.Keeps path search search where
  extended := ⟨List.suffix_refl _, List.prefix_refl _⟩
  settled := hsettled
  unfinished := hpath.unfinished

theorem Keeps.trans {path : List Node} {first second third : Search}
    (h₁ : graph.Keeps path first second) (h₂ : graph.Keeps path second third) :
    graph.Keeps path first third where
  extended := ⟨h₁.extended.done.trans h₂.extended.done, h₁.extended.cycles.trans h₂.extended.cycles⟩
  settled := h₂.settled
  unfinished := h₂.unfinished

theorem OnPath.of_keeps {path : List Node} {earlier later : Search}
    (hpath : graph.OnPath path earlier) (hkeeps : graph.Keeps path earlier later) :
    graph.OnPath path later :=
  { hpath with unfinished := hkeeps.unfinished }

theorem Reached.mono {path : List Node} {target : Node} {earlier later : Search}
    (h : Reached path target earlier) (hextends : earlier.Extends later) :
    Reached path target later := by
  rcases h with hdone | ⟨parent, hparent, hcloses⟩
  · exact Or.inl (hextends.done.subset hdone)
  · exact Or.inr ⟨parent, hparent, hcloses.mono hextends.cycles.subset⟩

theorem OnPath.length_le {path : List Node} {search : Search} (hpath : graph.OnPath path search) :
    path.length ≤ graph.size := by
  have hsubset : path.map Node.id ⊆ graph.nodes.map Node.id := by
    intro id hid
    rcases List.mem_map.1 hid with ⟨node, hnode, rfl⟩
    exact List.mem_map_of_mem (hpath.members node hnode)
  have hlength := (hpath.distinct.subperm hsubset).length_le
  simpa [Graph.nodes, Graph.size, Table.values, Table.size] using hlength

/-! ## Closing a cycle -/

/-- A node that is met again is on the path, and the cycle is the part of the path from there on. -/
theorem cycleFrom_eq (hkeyed : graph.Keyed) {node : Node} (hnode : node ∈ graph.nodes)
    {path : List Node} (hmembers : ∀ other ∈ path, other ∈ graph.nodes)
    (hmeets : path.any (fun other => other.id = node.id) = true) :
    ∃ front back, path = front ++ node :: back ∧ cycleFrom node path = node :: front.reverse := by
  induction path with
  | nil => simp at hmeets
  | cons first rest ih =>
    by_cases hfirst : first.id = node.id
    · have hsame : first = node := hkeyed.eq_of_id_eq (hmembers first (by simp)) hnode hfirst
      exact ⟨[], rest, by simp [hsame], by simp [cycleFrom, hfirst]⟩
    · have hrest : rest.any (fun other => other.id = node.id) = true := by
        simpa [hfirst] using hmeets
      rcases ih (fun other hother => hmembers other (List.mem_cons_of_mem _ hother)) hrest with
        ⟨front, back, hsplit, hcycle⟩
      refine ⟨first :: front, back, by simp [hsplit], ?_⟩
      simpa [cycleFrom, hfirst] using hcycle

theorem genuine_of_append {node : Node} {front back : List Node}
    (hedges : (node :: (front ++ node :: back)).IsChain fun later earlier =>
      graph.Edge earlier later) : graph.Genuine (node :: front.reverse) := by
  refine ⟨node, front.reverse, rfl, node, front.reverse, rfl, ?_⟩
  have hsplit : node :: (front ++ node :: back) = (node :: (front ++ [node])) ++ back := by
    simp
  simp only [hsplit] at hedges
  have hreverse := List.isChain_reverse.2 hedges.left_of_append
  simpa using hreverse

theorem Settled.close (hkeyed : graph.Keyed) {path : List Node} {node : Node} {search : Search}
    (hsettled : graph.Settled search) (hnode : node ∈ graph.nodes)
    (hpath : graph.OnPath path search) (hedge : ∀ parent ∈ path.head?, graph.Edge parent node)
    (hmeets : path.any (fun other => other.id = node.id) = true) :
    let later := { search with cycles := search.cycles ++ [cycleFrom node path] }
    graph.Keeps path search later ∧ Reached path node later := by
  rcases cycleFrom_eq hkeyed hnode hpath.members hmeets with ⟨front, back, hsplit, hcycle⟩
  have hchain : (node :: path).IsChain fun later earlier => graph.Edge earlier later :=
    hpath.edges.cons hedge
  have hgenuine : graph.Genuine (cycleFrom node path) := by
    simp only [hcycle]
    exact genuine_of_append (by rwa [hsplit] at hchain)
  -- The cycle ends where the path does.
  have hends : (cycleFrom node path).getLast? = path.head? := by
    rw [hcycle, hsplit, List.getLast?_eq_head?_reverse]
    cases front with
    | nil => simp
    | cons first rest => simp
  have hsubset : search.cycles ⊆ search.cycles ++ [cycleFrom node path] :=
    List.subset_append_left _ _
  refine ⟨⟨⟨List.suffix_refl _, List.prefix_append _ _⟩, ⟨?_, ?_⟩, hpath.unfinished⟩, Or.inr ?_⟩
  · intro after other before hother hdone target htarget
    rcases hsettled.order after other before hother hdone target htarget with h | h
    · exact Or.inl h
    · exact Or.inr (h.mono hsubset)
  · intro cycle hmem
    rcases List.mem_append.1 hmem with h | h
    · exact hsettled.genuine cycle h
    · rcases List.mem_singleton.1 h with rfl
      exact hgenuine
  · cases path with
    | nil => simp at hmeets
    | cons parent rest =>
      refine ⟨parent, rfl, cycleFrom node (parent :: rest), by simp, ?_, hends⟩
      simp [cycleFrom]

/-! ## Visits -/

/-- A node whose edges have all been followed ends; its edges lead to nodes that ended before. -/
theorem Keeps.finish (hkeyed : graph.Keyed) {path : List Node} {node : Node}
    {search inner : Search} (hnode : node ∈ graph.nodes)
    (hpath : graph.OnPath (node :: path) search) (hkeeps : graph.Keeps (node :: path) search inner)
    (hreached : ∀ target, graph.Edge node target → Reached (node :: path) target inner) :
    graph.Keeps path search { inner with done := node.id :: inner.done } := by
  refine ⟨⟨?_, hkeeps.extended.cycles⟩, ⟨?_, hkeeps.settled.genuine⟩, ?_⟩
  · exact hkeeps.extended.done.trans (List.suffix_cons _ _)
  · intro after other before hother hdone target htarget
    cases after with
    | nil =>
      -- The node itself: every target was reached before its end.
      simp only [List.nil_append, List.cons.injEq] at hdone
      rcases hdone with ⟨hid, rfl⟩
      have hsame : other = node := hkeyed.eq_of_id_eq hother hnode hid.symm
      subst hsame
      rcases hreached target htarget with h | ⟨parent, hparent, hcloses⟩
      · exact Or.inl h
      · simp only [List.head?_cons, Option.some.injEq] at hparent
        subst hparent
        exact Or.inr hcloses
    | cons first after =>
      simp only [List.cons_append, List.cons.injEq] at hdone
      exact hkeeps.settled.order after other before hother hdone.2 target htarget
  · intro other hother hmem
    rcases List.mem_cons.1 hmem with hid | hmem
    · have hfresh := (List.nodup_cons.1 hpath.distinct).1
      exact hfresh (hid ▸ List.mem_map_of_mem hother)
    · exact hkeeps.unfinished other (List.mem_cons_of_mem _ hother) hmem

/-- Visits from the end of a path, one after the other, reach all of their targets. -/
theorem Keeps.foldl {path : List Node} (visit : Search → Node → Search) {targets : List Node}
    (hvisit : ∀ search, ∀ target ∈ targets, graph.Settled search → graph.OnPath path search →
      graph.Keeps path search (visit search target) ∧ Reached path target (visit search target))
    {search : Search} (hsettled : graph.Settled search) (hpath : graph.OnPath path search) :
    graph.Keeps path search (targets.foldl visit search) ∧
      ∀ target ∈ targets, Reached path target (targets.foldl visit search) := by
  induction targets generalizing search with
  | nil => exact ⟨Keeps.refl hsettled hpath, by simp⟩
  | cons first rest ih =>
    rcases hvisit search first (by simp) hsettled hpath with ⟨hfirst, hreached⟩
    have hrest := ih (fun search target htarget =>
      hvisit search target (List.mem_cons_of_mem _ htarget)) hfirst.settled (hpath.of_keeps hfirst)
    rcases hrest with ⟨hkeeps, htargets⟩
    refine ⟨hfirst.trans hkeeps, ?_⟩
    intro target htarget
    rcases List.mem_cons.1 htarget with rfl | htarget
    · exact hreached.mono hkeeps.extended
    · exact htargets target htarget

/-- One visit keeps the order of the ends and reaches its node. Since a path holds no node twice,
the bound does not run out before the path meets itself. -/
theorem visit_keeps (hkeyed : graph.Keyed) {bound : Nat} {path : List Node} {node : Node}
    {search : Search} (hbound : graph.size + 1 ≤ bound + path.length) (hnode : node ∈ graph.nodes)
    (hsettled : graph.Settled search) (hpath : graph.OnPath path search)
    (hedge : ∀ parent ∈ path.head?, graph.Edge parent node) :
    graph.Keeps path search (graph.visit bound path node search) ∧
      Reached path node (graph.visit bound path node search) := by
  induction bound generalizing path node search with
  | zero =>
    have hlength := hpath.length_le
    omega
  | succ bound ih =>
    simp only [visit]
    by_cases hdone : node.id ∈ search.done
    · -- Its visit has ended before.
      simp only [List.contains_iff_mem, hdone, if_true]
      exact ⟨Keeps.refl hsettled hpath, Or.inl hdone⟩
    · simp only [List.contains_iff_mem, hdone, if_false]
      by_cases hmeets : path.any (fun other => other.id = node.id) = true
      · -- The path meets itself, so the edge from its end closes a cycle.
        simp only [hmeets, if_true]
        exact Settled.close hkeyed hsettled hnode hpath hedge hmeets
      · -- The node is met for the first time: its edges are followed from the longer path.
        simp only [hmeets]
        have hfresh : node.id ∉ path.map Node.id := by
          simpa using hmeets
        have hlonger : graph.OnPath (node :: path) search :=
          { members := by
              intro other hother
              rcases List.mem_cons.1 hother with rfl | hother
              · exact hnode
              · exact hpath.members other hother
            distinct := List.nodup_cons.2 ⟨hfresh, hpath.distinct⟩
            edges := hpath.edges.cons hedge
            unfinished := by
              intro other hother
              rcases List.mem_cons.1 hother with rfl | hother
              · exact hdone
              · exact hpath.unfinished other hother }
        have htargets : ∀ target ∈ graph.constructionTargets node, graph.Edge node target := by
          intro target htarget
          exact ⟨hnode, mem_constructionTargets.1 htarget⟩
        have hbound' : graph.size + 1 ≤ bound + (node :: path).length := by
          simp only [List.length_cons]
          omega
        have hfold := Keeps.foldl
          (fun search target => graph.visit bound (node :: path) target search) (by
            intro search target htarget hs hp
            rcases mem_constructionTargets.1 htarget with ⟨key, _, hresolve⟩
            apply ih hbound' (hkeyed.of_resolve? hresolve).1 hs hp
            intro parent hparent
            simp only [List.head?_cons, Option.mem_def, Option.some.injEq] at hparent
            subst hparent
            exact htargets target htarget) hsettled hlonger
        rcases hfold with ⟨hkeeps, hreached⟩
        refine ⟨Keeps.finish hkeyed hnode hlonger hkeeps ?_, Or.inl (by simp)⟩
        intro target htarget
        exact hreached target (mem_constructionTargets.2 htarget.2)

/-- At the end of a search every node has ended, in the order that the edges ask for. -/
theorem search_settled (hkeyed : graph.Keyed) :
    graph.Settled graph.search ∧ ∀ node ∈ graph.nodes, node.id ∈ graph.search.done := by
  have hsettled : graph.Settled ⟨[], []⟩ :=
    { order := by
        intro after node before _ hdone
        simp at hdone
      genuine := by
        intro cycle hcycle
        simp at hcycle }
  have hpath : graph.OnPath [] ⟨[], []⟩ :=
    { members := by simp
      distinct := by simp
      edges := List.isChain_nil
      unfinished := by simp }
  have hfold := Keeps.foldl
    (fun search node => graph.visit (graph.size + 1) [] node search)
    (fun search node hnode hs hp => visit_keeps hkeyed (by simp) hnode hs hp (by simp))
    hsettled hpath
  rcases hfold with ⟨hkeeps, hreached⟩
  refine ⟨hkeeps.settled, ?_⟩
  intro node hnode
  -- From the empty path no edge closes a cycle.
  rcases hreached node hnode with hdone | ⟨parent, hparent, _⟩
  · exact hdone
  · simp at hparent

/-! ## Acyclic graphs -/

/-- An edge that closes no reported cycle leads back in the order of the ends. -/
theorem idxOf_lt_of_edge (hkeyed : graph.Keyed) {u v : Node} (hedge : graph.Edge u v)
    (hopen : ¬ Closes graph.cycles u v) :
    graph.search.done.reverse.idxOf v.id < graph.search.done.reverse.idxOf u.id := by
  rcases search_settled hkeyed with ⟨hsettled, hended⟩
  have hmem : u.id ∈ graph.search.done.reverse := by
    simpa using hended u hedge.1
  rcases List.eq_append_cons_of_mem hmem with ⟨before, after, hsplit, hfirst⟩
  have hdone : graph.search.done = after.reverse ++ u.id :: before.reverse := by
    rw [← List.reverse_reverse graph.search.done, hsplit]
    simp
  rcases hsettled.order _ u _ hedge.1 hdone v hedge with hbefore | hcloses
  · have hv : v.id ∈ before := by
      simpa using hbefore
    calc
      graph.search.done.reverse.idxOf v.id = before.idxOf v.id := by
        simp only [hsplit, List.idxOf_append_of_mem hv]
      _ < before.length := List.idxOf_lt_length_of_mem hv
      _ = graph.search.done.reverse.idxOf u.id := by
        simp [hsplit, List.idxOf_append_of_notMem hfirst]
  · exact absurd hcloses hopen

/-- Without the edges that close reported cycles the graph has no closed walk. -/
theorem not_closedWalk_without_closing (hkeyed : graph.Keyed) (walk : List Node) :
    ¬ ClosedWalk (fun u v => graph.Edge u v ∧ ¬ Closes graph.cycles u v) walk := by
  refine not_closedWalk_of_lt (fun node => graph.search.done.reverse.idxOf node.id) ?_ walk
  rintro u v ⟨hedge, hopen⟩
  exact idxOf_lt_of_edge hkeyed hedge hopen

theorem cycles_eq_nil_iff (hkeyed : graph.Keyed) : graph.cycles = [] ↔ graph.Acyclic := by
  constructor
  · intro hnil walk hwalk
    rcases hwalk.exists_infix (not_closedWalk_without_closing hkeyed walk) with ⟨u, v, _, hcloses⟩
    rcases hcloses with ⟨cycle, hcycle, _⟩
    simp [hnil] at hcycle
  · intro hacyclic
    apply List.eq_nil_iff_forall_not_mem.2
    intro cycle hcycle
    rcases (search_settled hkeyed).1.genuine cycle hcycle with ⟨start, rest, _, hwalk⟩
    exact hacyclic _ hwalk

end Graph

/-! ## Compilations -/

/-- The cycles among the errors of a compilation are those of its graph, as keys. -/
theorem filterMap_cycle?_compile {manifest : Manifest} {config : Config} {hierarchy : Hierarchy}
    (h : (manifest.resolveHierarchy config).1 = some hierarchy) :
    (compile manifest config).errors.filterMap GraphError.cycle? =
      (manifest.graph hierarchy).cycles.map fun cycle => cycle.map (·.key) := by
  have hstage : ∀ error : GraphError, error.cycle? ≠ none → error.stage = .cycles := by
    intro error hcycle
    cases error with
    | cyclicDependency cycle => rfl
    | _ => exact absurd rfl hcycle
  rw [filterMap_compile_errors h hstage]
  simp [Manifest.stageErrors, Graph.cycleErrors, List.filterMap_map, Function.comp_def,
    GraphError.cycle?]

theorem cyclicDependency_mem_iff {manifest : Manifest} {config : Config} {hierarchy : Hierarchy}
    (h : (manifest.resolveHierarchy config).1 = some hierarchy) {path : List Key} :
    .cyclicDependency path ∈ (compile manifest config).errors ↔
      path ∈ (manifest.graph hierarchy).cycles.map fun cycle => cycle.map (·.key) := by
  simp only [← filterMap_cycle?_compile h, List.mem_filterMap]
  constructor
  · intro herror
    exact ⟨_, herror, rfl⟩
  · rintro ⟨error, herror, hcycle⟩
    cases error with
    | cyclicDependency other =>
      simp only [GraphError.cycle?, Option.some.injEq] at hcycle
      simpa only [hcycle] using herror
    | _ => simp [GraphError.cycle?] at hcycle

/-- Every closed walk of the graph contains the closing edge of a reported cycle. So the graph is
acyclic without those edges, and acyclic as it is exactly if no cycle is reported. -/
theorem cycle_detection_complete {manifest : Manifest} {config : Config} {hierarchy : Hierarchy}
    (h : (manifest.resolveHierarchy config).1 = some hierarchy) :
    let graph := manifest.graph hierarchy
    let errors := (compile manifest config).errors
    (∀ walk, ClosedWalk graph.Edge walk → ∃ u v, [u, v] <:+: walk ∧ ∃ cycle ∈ graph.cycles,
      .cyclicDependency (cycle.map (·.key)) ∈ errors ∧
        cycle.head? = some v ∧ cycle.getLast? = some u) ∧
    (∀ walk, ¬ ClosedWalk (fun u v => graph.Edge u v ∧ ¬ Closes graph.cycles u v) walk) ∧
    (errors.filterMap GraphError.cycle? = graph.cycles.map fun cycle => cycle.map (·.key)) ∧
    ((∀ path, .cyclicDependency path ∉ errors) ↔ graph.Acyclic) ∧
    (∀ compilation, (compile manifest config).result = .ok compilation →
      compilation.graph.Acyclic) := by
  intro graph errors
  have hkeyed : graph.Keyed := manifest.keyed_graph hierarchy
  have hpaths := filterMap_cycle?_compile h
  have hreported : ∀ path, .cyclicDependency path ∈ errors ↔
      path ∈ graph.cycles.map fun cycle => cycle.map (·.key) :=
    fun path => cyclicDependency_mem_iff h
  have hacyclic : (∀ path, .cyclicDependency path ∉ errors) ↔ graph.Acyclic := by
    simp only [← Graph.cycles_eq_nil_iff hkeyed]
    simp only [hreported]
    simp only [← List.eq_nil_iff_forall_not_mem, List.map_eq_nil_iff]
  refine ⟨?_, Graph.not_closedWalk_without_closing hkeyed, hpaths, hacyclic, ?_⟩
  · intro walk hwalk
    rcases hwalk.exists_infix (Graph.not_closedWalk_without_closing hkeyed walk) with
      ⟨u, v, hinfix, cycle, hcycle, hends⟩
    exact ⟨u, v, hinfix, cycle, hcycle, (hreported _).2 (List.mem_map_of_mem hcycle), hends⟩
  · intro compilation hok
    rcases compile_eq_ok hok with ⟨other, hother, hnone, _, hgraph, _⟩
    have hsame : other = hierarchy := by
      simp only [h] at hother
      exact (Option.some.inj hother).symm
    subst hsame
    simp only [hgraph]
    apply hacyclic.1
    intro path hpath
    have hempty : errors = [] := hnone
    simp [hempty] at hpath

/-- Two types that need one another, and a third one further down that needs the first. -/
def mutualManifest : Manifest where
  entryPoint := "App"
  components := [⟨"App", some "Singleton", .component, []⟩, ⟨"User", none, .subcomponent, ["App"]⟩]
  modules := []
  declarations := [("A", "B", "App"), ("B", "A", "App"), ("C", "A", "User")].map fun entry =>
    .injectable
      { type := .resolved entry.1
        qualifier := none
        scope := none
        parameters := [.regular "needed" (.resolved entry.2.1) none]
        supertypes := []
        bindsTo := []
        factory := none
        runtimeScoped := false
        contributesTo := [entry.2.2] }

def mutualHierarchy : Hierarchy :=
  ⟨"App", .ofList [("App", ⟨none, some "Singleton", ["User"], 0⟩),
    ("User", ⟨some "App", none, [], 1⟩)]⟩

theorem mutual_dependency_is_cyclic :
    (mutualManifest.resolveHierarchy .default).1 = some mutualHierarchy ∧
      ¬ (mutualManifest.graph mutualHierarchy).Acyclic := by
  have hresolve : (mutualManifest.resolveHierarchy .default).1 = some mutualHierarchy := by
    decide +kernel
  refine ⟨hresolve, ?_⟩
  simp only [← (cycle_detection_complete hresolve).2.2.2.1]
  intro hnone
  apply hnone [.unqualified "A", .unqualified "B"]
  decide +kernel

end ObjectGraph
