import ObjectGraph.Proofs.Compile.Sound

/-!
# Closed graphs — what the keys of a compiled graph lead to

No key of a compiled graph leads to a node with assisted parameters, since the factory that takes
them is a node of its own. If dependencies are validated, no key leads nowhere either, so an alias
can be followed: each of its targets has a smaller rank, and the last one is no alias.

* `Graph.forward?`, `Graph.followed?` — one target of an alias, and the targets of several steps;
* `Graph.Sound.exists_followed?` — following an alias ends;
* `compiled_graph_is_closed` — dependencies, deferred keys and aliases of a compilation.
-/

namespace ObjectGraph

/-! ## Following aliases -/

namespace Graph

variable (graph : Graph)

/-- The node that an alias forwards to, as the host of the alias sees it. -/
def forward? (node : Node) : Option Node :=
  node.aliasTarget?.bind (graph.resolve? node.host)

/-- The node reached from an alias in so many steps. -/
def followed? : Nat → Node → Option Node
  | 0, node => some node
  | steps + 1, node => (graph.forward? node).bind (followed? steps)

end Graph

namespace Graph.Sound

variable {graph : Graph}

/-- Where the keys of a graph resolve, an alias forwards to a node of smaller rank. -/
theorem forward?_eq_some (h : graph.Sound) (hclosed : graph.Closed) {node : Node}
    (hnode : node ∈ graph.nodes) (halias : node.isAlias = true) :
    ∃ target, graph.forward? node = some target ∧ target ∈ graph.nodes ∧
      graph.rank target < graph.rank node := by
  rcases h.aliased node hnode halias with ⟨key, hkey⟩
  have hmem : key ∈ node.dependencies := by simp [hkey]
  have hrequested : key ∈ node.requested := List.mem_append_left _ hmem
  rcases Option.ne_none_iff_exists'.1 (hclosed node hnode key hrequested) with ⟨target, htarget⟩
  refine ⟨target, ?_, (h.keyed.of_resolve? htarget).1, h.rank_lt ⟨hnode, key, hmem, htarget⟩⟩
  simp [forward?, Node.aliasTarget?, halias, hkey, htarget]

/-- Every node leads in finitely many steps to one that is no alias. -/
theorem exists_followed? (h : graph.Sound) (hclosed : graph.Closed) {node : Node}
    (hnode : node ∈ graph.nodes) :
    ∃ steps ≤ graph.rank node, ∃ last ∈ graph.nodes, graph.followed? steps node = some last ∧
      last.isAlias = false := by
  induction hrank : graph.rank node using Nat.strong_induction_on generalizing node with
  | _ rank ih =>
    cases halias : node.isAlias with
    | false => exact ⟨0, Nat.zero_le _, node, hnode, rfl, halias⟩
    | true =>
      -- One step leads to a smaller rank, from where the rest is known.
      rcases h.forward?_eq_some hclosed hnode halias with ⟨target, hforward, htarget, hlt⟩
      rcases ih _ (hrank ▸ hlt) htarget rfl with ⟨steps, hsteps, last, hlast, hfollowed, hend⟩
      refine ⟨steps + 1, by omega, last, hlast, ?_, hend⟩
      simp [followed?, hforward, hfollowed]

theorem edge_of_forward? {node target : Node} (hnode : node ∈ graph.nodes)
    (hforward : graph.forward? node = some target) : graph.Edge node target := by
  rcases Option.bind_eq_some_iff.1 hforward with ⟨key, hkey, hresolve⟩
  have hmem : key ∈ node.dependencies := by
    simp only [Node.aliasTarget?] at hkey
    split at hkey
    · exact List.mem_of_head? hkey
    · simp at hkey
  exact ⟨hnode, key, hmem, hresolve⟩

/-- What an alias is followed to is what a construction edge leads to. -/
theorem exists_edge_of_followed? (h : graph.Sound) {steps : Nat} {node last : Node}
    (hnode : node ∈ graph.nodes) (hfollowed : graph.followed? (steps + 1) node = some last) :
    ∃ other, graph.Edge other last := by
  induction steps generalizing node with
  | zero =>
    rcases Option.bind_eq_some_iff.1 hfollowed with ⟨target, hforward, hrest⟩
    cases hrest
    exact ⟨node, edge_of_forward? hnode hforward⟩
  | succ steps ih =>
    rcases Option.bind_eq_some_iff.1 hfollowed with ⟨target, hforward, hrest⟩
    rcases edge_of_forward? hnode hforward with ⟨_, key, _, hresolve⟩
    exact ih (h.keyed.of_resolve? hresolve).1 hrest

end Graph.Sound

/-! ## Compilations -/

/-- In a compiled graph no key that a node depends on or defers leads to a node with assisted
parameters. With validated dependencies every such key leads to a node, and following an alias from
host to host reaches, in fewer steps than there are nodes, one that is neither an alias nor takes
assisted parameters. -/
theorem compiled_graph_is_closed {manifest : Manifest} {config : Config} {compilation : Compilation}
    (hcompile : (compile manifest config).result = .ok compilation) :
    let graph := compilation.graph
    (∀ node ∈ graph.nodes, ∀ key, key ∈ node.dependencies ∨ key ∈ node.deferred →
      ∀ target, graph.resolve? node.host key = some target →
        target.isAssisted = false ∧ target.assisted = []) ∧
    (config.validateDependencies = true →
      (∀ node ∈ graph.nodes, ∀ key, key ∈ node.dependencies ∨ key ∈ node.deferred →
        graph.resolve? node.host key ≠ none) ∧
      ∀ node ∈ graph.nodes, node.isAlias = true →
        ∃ steps, 0 < steps ∧ steps < graph.size ∧ ∃ last ∈ graph.nodes,
          graph.followed? steps node = some last ∧ last.isAlias = false ∧
            last.isAssisted = false ∧ last.assisted = []) := by
  intro graph
  rcases Compilation.sound hcompile with ⟨hsound, _, hclosed⟩
  have hdirect : ∀ node ∈ graph.nodes, ∀ key ∈ node.requested, ∀ target,
      graph.resolve? node.host key = some target →
        target.isAssisted = false ∧ target.assisted = [] := by
    intro node hnode key hkey target htarget
    have hassisted := hsound.direct node hnode key hkey target htarget
    refine ⟨hassisted, ?_⟩
    -- The check has ruled out all but factories, which take no assisted parameters either.
    cases hkind : target.isFactory with
    | true =>
      have htarget := (hsound.keyed.of_resolve? htarget).1
      exact (Compilation.regular hcompile htarget).unassisted hkind
    | false => simpa [Node.isAssisted, hkind] using hassisted
  refine ⟨?_, fun hvalidate => ⟨?_, ?_⟩⟩
  · intro node hnode key hkey
    exact hdirect node hnode key (List.mem_append.2 hkey)
  · intro node hnode key hkey
    exact hclosed hvalidate node hnode key (List.mem_append.2 hkey)
  · intro node hnode halias
    rcases hsound.exists_followed? (hclosed hvalidate) hnode with
      ⟨steps, hsteps, last, hlast, hfollowed, hend⟩
    cases steps with
    | zero =>
      -- Without a step the last node would be the alias itself.
      cases hfollowed
      simp [halias] at hend
    | succ steps =>
      rcases hsound.exists_edge_of_followed? hnode hfollowed with
        ⟨other, hother, key, hkey, htarget⟩
      have hlt := Graph.Sound.rank_lt_size hnode
      exact ⟨steps + 1, Nat.succ_pos _, Nat.lt_of_le_of_lt hsteps hlt, last, hlast, hfollowed, hend,
        hdirect other hother key (List.mem_append_left _ hkey) last htarget⟩

/-- The cart of the shop binds its store to its shelf. -/
theorem store_leads_to_the_shelf :
    ∃ node ∈ shopCompilation.graph.nodes, node.key = ⟨"Store", none⟩ ∧ node.isAlias = true ∧
      ∃ steps, 0 < steps ∧ steps < shopCompilation.graph.size ∧
        ∃ last ∈ shopCompilation.graph.nodes,
          shopCompilation.graph.followed? steps node = some last ∧ last.isAlias = false ∧
            last.isAssisted = false ∧ last.assisted = [] := by
  have hfound : ∃ node ∈ shopCompilation.graph.nodes,
      node.key = ⟨"Store", none⟩ ∧ node.isAlias = true := by
    decide +kernel
  rcases hfound with ⟨node, hnode, hkey, halias⟩
  exact ⟨node, hnode, hkey, halias,
    ((compiled_graph_is_closed compile_shopManifest).2 rfl).2 node hnode halias⟩

end ObjectGraph
