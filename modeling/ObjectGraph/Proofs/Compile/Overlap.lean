import ObjectGraph.Proofs.Compile.Kinds
import ObjectGraph.Proofs.Compile.Views

/-!
# Overlaps — keys and scopes that a lineage has twice

A component that hosts a key, or declares a scope, which one of its ancestors has as well is reported
once, together with the nearest such ancestor. Two components of one lineage are always one above
the other, so where nothing is reported a lineage has each key and each scope once at most.

* `Hierarchy.NearestAbove` — the first component on the way up with a property;
* `Hierarchy.Rooted.eq_of_lineage` — what has no like above it is alone in its lineage;
* `Graph.Keyed.shadowedBinding_mem_iff`, `Hierarchy.Rooted.ambiguousScope_mem_iff` — what is found;
* `overlaps_are_reported_exactly` — what a compilation reports, and what it has ruled out.
-/

namespace ObjectGraph

/-! ## The way up -/

namespace Hierarchy

/-- The first component on the way up with a property. -/
def NearestAbove (hierarchy : Hierarchy) (p : ComponentId → Prop)
    (component ancestor : ComponentId) : Prop :=
  ∃ below above, hierarchy.ancestors component = below ++ ancestor :: above ∧ p ancestor ∧
    ∀ other ∈ below, ¬ p other

variable {hierarchy : Hierarchy} {component ancestor : ComponentId}

theorem find?_ancestors_eq_some_iff {p : ComponentId → Prop} [DecidablePred p] :
    (hierarchy.ancestors component).find? (fun other => decide (p other)) = some ancestor ↔
      hierarchy.NearestAbove p component ancestor := by
  simp only [List.find?_eq_some_iff_append, NearestAbove, decide_eq_true_eq, Bool.not_eq_true',
    decide_eq_false_iff_not]
  constructor
  · rintro ⟨hp, below, above, hsplit, hbelow⟩
    exact ⟨below, above, hsplit, hp, hbelow⟩
  · rintro ⟨below, above, hsplit, hp, hbelow⟩
    exact ⟨hp, below, above, hsplit, hbelow⟩

theorem exists_nearestAbove {p : ComponentId → Prop} (hmem : ancestor ∈ hierarchy.ancestors component)
    (hp : p ancestor) : ∃ nearest, hierarchy.NearestAbove p component nearest := by
  classical
  simp only [← find?_ancestors_eq_some_iff, ← Option.isSome_iff_exists, List.find?_isSome]
  exact ⟨ancestor, hmem, decide_eq_true hp⟩

namespace Rooted

/-- What follows a component in a lineage is what lies above it. -/
theorem ancestors_of_lineage_eq (h : hierarchy.Rooted) {front rest : List ComponentId}
    (hsplit : hierarchy.lineage component = front ++ ancestor :: rest) :
    hierarchy.ancestors ancestor = rest := by
  have hlisted : ancestor ∈ hierarchy.lineage component := by
    simp [hsplit]
  rw [h.lineage_eq_cons (h.mem_lineage_iff.1 hlisted).1] at hsplit
  cases front with
  | nil =>
    obtain ⟨rfl, hrest⟩ := List.cons.inj hsplit
    exact hrest
  | cons first front => exact (h.ancestors_of_eq_append (List.cons.inj hsplit).2).2

/-- Of two components of one lineage, one is above the other. -/
theorem comparable_of_lineage (h : hierarchy.Rooted) {first second : ComponentId}
    (hfirst : first ∈ hierarchy.lineage component)
    (hsecond : second ∈ hierarchy.lineage component) :
    first = second ∨ second ∈ hierarchy.ancestors first ∨
      first ∈ hierarchy.ancestors second := by
  rcases List.append_of_mem hfirst with ⟨front, rest, hsplit⟩
  rw [hsplit] at hsecond
  rcases List.mem_append.1 hsecond with hbelow | habove
  · rcases List.append_of_mem hbelow with ⟨before, after, rfl⟩
    have hancestors : hierarchy.ancestors second = after ++ first :: rest :=
      h.ancestors_of_lineage_eq (by simpa using hsplit)
    exact Or.inr (Or.inr (by simp [hancestors]))
  · rcases List.mem_cons.1 habove with hsame | habove
    · exact Or.inl hsame.symm
    · exact Or.inr (Or.inl (h.ancestors_of_lineage_eq hsplit ▸ habove))

/-- If nothing with a property lies below its like, a lineage has it once at most. -/
theorem eq_of_lineage (h : hierarchy.Rooted) {p : ComponentId → Prop}
    (hnone : ∀ lower, p lower → ∀ upper, ¬ hierarchy.NearestAbove p lower upper)
    {first second : ComponentId} (hfirst : first ∈ hierarchy.lineage component)
    (hsecond : second ∈ hierarchy.lineage component) (hp : p first) (hother : p second) :
    first = second := by
  rcases h.comparable_of_lineage hfirst hsecond with hsame | habove | hbelow
  · exact hsame
  · rcases exists_nearestAbove habove hother with ⟨nearest, hnearest⟩
    exact absurd hnearest (hnone first hp nearest)
  · rcases exists_nearestAbove hbelow hp with ⟨nearest, hnearest⟩
    exact absurd hnearest (hnone second hother nearest)

end Rooted
end Hierarchy

/-! ## Findings in order -/

/-- Findings that are each about their entry are in the order of the entries. -/
theorem pairwise_filterMap_of_eq {α β : Type} {r : β → β → Prop} {entries : List α}
    {find : α → Option β} {about : α → β}
    (hfind : ∀ entry found, find entry = some found → found = about entry)
    (hentries : entries.Pairwise fun first second => r (about first) (about second)) :
    (entries.filterMap find).Pairwise r := by
  refine List.pairwise_filterMap.2 (hentries.imp ?_)
  intro first second hrelated one hone other hother
  rw [hfind first one hone, hfind second other hother]
  exact hrelated

/-! ## Shadowed keys -/

/-- The component and the key of a node that hides another one. -/
def GraphError.shadowing? : GraphError → Option NodeId
  | .shadowedBinding key component _ => some ⟨component, key⟩
  | _ => none

namespace Graph

variable {graph : Graph} {key : Key} {component ancestor : ComponentId}

theorem shadowedAncestor?_eq_some_iff {node : Node} :
    graph.shadowedAncestor? node = some ancestor ↔
      graph.hierarchy.NearestAbove (graph.IsHost node.key) node.host ancestor := by
  have hnearest := @Hierarchy.find?_ancestors_eq_some_iff graph.hierarchy node.host ancestor
    (fun other => (graph.local? other node.key).isSome = true) _
  simp only [← isHost_iff_isSome] at hnearest
  simpa only [shadowedAncestor?, Bool.decide_eq_true] using hnearest

namespace Keyed

theorem shadowedBinding_mem_iff (h : graph.Keyed) :
    .shadowedBinding key component ancestor ∈ graph.shadowed ↔
      graph.IsHost key component ∧
        graph.hierarchy.NearestAbove (graph.IsHost key) component ancestor := by
  simp only [shadowed, List.mem_filterMap, Option.map_eq_some_iff, shadowedAncestor?_eq_some_iff]
  constructor
  · rintro ⟨node, hnode, found, hnearest, herror⟩
    cases herror
    exact ⟨⟨node, h.mem_nodes_iff.1 hnode⟩, hnearest⟩
  · rintro ⟨⟨node, hlocal⟩, hnearest⟩
    rcases h.of_local? hlocal with ⟨hnode, rfl, rfl⟩
    exact ⟨node, hnode, ancestor, hnearest, rfl⟩

/-- Each node is reported once at most, in the order of the nodes. -/
theorem increasing_shadowed (h : graph.Keyed) :
    (graph.shadowed.filterMap GraphError.shadowing?).Pairwise fun first second =>
      compare first second = .lt := by
  simp only [shadowed, List.filterMap_filterMap]
  refine pairwise_filterMap_of_eq ?_ h.increasing_nodes
  intro node id hfound
  rcases Option.bind_eq_some_iff.1 hfound with ⟨error, herror, hshadowing⟩
  rcases Option.map_eq_some_iff.1 herror with ⟨found, _, rfl⟩
  exact (Option.some.inj hshadowing).symm

end Keyed
end Graph

/-! ## Ambiguous scopes -/

/-- The component whose scope one of its ancestors declares as well. -/
def GraphError.ambiguous? : GraphError → Option ComponentId
  | .ambiguousScope _ component _ => some component
  | _ => none

namespace Hierarchy

variable {hierarchy : Hierarchy} {component ancestor : ComponentId}

theorem ambiguousScope_mem_iff {scope : ScopeId} :
    .ambiguousScope scope component ancestor ∈ hierarchy.ambiguousScopes ↔
      hierarchy.scope? component = some scope ∧
        hierarchy.NearestAbove (fun other => hierarchy.scope? other = some scope)
          component ancestor := by
  simp only [ambiguousScopes, List.mem_filterMap, Option.bind_eq_some_iff, Option.map_eq_some_iff,
    ← find?_ancestors_eq_some_iff]
  constructor
  · rintro ⟨entry, hentry, declared, hscope, found, hnearest, herror⟩
    cases herror
    have hfound := (Table.find?_eq_some_iff _).2 hentry
    exact ⟨by simp [scope?, hfound, hscope], hnearest⟩
  · rintro ⟨hscope, hnearest⟩
    rcases Option.bind_eq_some_iff.1 hscope with ⟨member, hfound, hdeclared⟩
    exact ⟨(component, member), (Table.find?_eq_some_iff _).1 hfound, scope, hdeclared, ancestor,
      hnearest, rfl⟩

/-- Each component is reported once at most, in the order of the components. -/
theorem increasing_ambiguousScopes (hierarchy : Hierarchy) :
    (hierarchy.ambiguousScopes.filterMap GraphError.ambiguous?).Pairwise (· < ·) := by
  simp only [ambiguousScopes, List.filterMap_filterMap]
  refine pairwise_filterMap_of_eq ?_ (List.pairwise_map.1 hierarchy.increasing_components)
  intro member id hfound
  rcases Option.bind_eq_some_iff.1 hfound with ⟨error, herror, hambiguous⟩
  rcases Option.bind_eq_some_iff.1 herror with ⟨scope, _, herror⟩
  rcases Option.map_eq_some_iff.1 herror with ⟨found, _, rfl⟩
  exact (Option.some.inj hambiguous).symm

end Hierarchy

/-! ## Compilations -/

theorem Graph.errors_shadowingReport (graph : Graph) (config : Config) :
    (graph.shadowingReport config).errors =
      if config.shadowing = .deny then graph.shadowed else [] := by
  cases hpolicy : config.shadowing <;> simp [shadowingReport, hpolicy, Report.ofErrors,
    Report.tolerate, Report.empty]

theorem Hierarchy.errors_scopeReport (hierarchy : Hierarchy) (config : Config) :
    (hierarchy.scopeReport config).errors =
      if config.rejectAmbiguousScopes = true then hierarchy.ambiguousScopes else [] := by
  cases hpolicy : config.rejectAmbiguousScopes <;> simp [scopeReport, hpolicy, Report.ofErrors,
    Report.tolerate]

section Resolved

variable {manifest : Manifest} {config : Config} {hierarchy : Hierarchy}
  (h : (manifest.resolveHierarchy config).1 = some hierarchy)

include h

theorem shadowedBinding_mem_compile_iff {key : Key} {component ancestor : ComponentId} :
    .shadowedBinding key component ancestor ∈ (compile manifest config).errors ↔
      config.shadowing = .deny ∧ (manifest.graph hierarchy).IsHost key component ∧
        hierarchy.NearestAbove ((manifest.graph hierarchy).IsHost key) component ancestor := by
  have hfound : .shadowedBinding key component ancestor ∈ (manifest.graph hierarchy).shadowed ↔ _ :=
    (manifest.keyed_graph hierarchy).shadowedBinding_mem_iff
  simp only [mem_compile_errors_iff h, GraphError.stage, Manifest.stageErrors,
    Graph.errors_shadowingReport]
  split
  · rename_i hdeny
    simp only [hdeny, true_and]
    exact hfound
  · rename_i hdeny
    simp [hdeny]

theorem ambiguousScope_mem_compile_iff {scope : ScopeId} {component ancestor : ComponentId} :
    .ambiguousScope scope component ancestor ∈ (compile manifest config).errors ↔
      config.rejectAmbiguousScopes = true ∧ hierarchy.scope? component = some scope ∧
        hierarchy.NearestAbove (fun other => hierarchy.scope? other = some scope)
          component ancestor := by
  have hfound : .ambiguousScope scope component ancestor ∈ hierarchy.ambiguousScopes ↔ _ :=
    Hierarchy.ambiguousScope_mem_iff
  simp only [mem_compile_errors_iff h, GraphError.stage, Manifest.stageErrors,
    Hierarchy.errors_scopeReport]
  split
  · rename_i hreject
    simpa only [hreject, true_and] using hfound
  · rename_i hreject
    simp [hreject]

theorem increasing_shadowing_compile :
    ((compile manifest config).errors.filterMap GraphError.shadowing?).Pairwise
      fun first second => compare first second = .lt := by
  have hstage : ∀ error, GraphError.shadowing? error ≠ none → error.stage = .shadowing := by
    intro error herror
    cases error <;> first | rfl | exact absurd rfl herror
  rw [filterMap_compile_errors h hstage]
  simp only [Manifest.stageErrors, Graph.errors_shadowingReport]
  split
  · exact (manifest.keyed_graph hierarchy).increasing_shadowed
  · exact List.Pairwise.nil

theorem increasing_ambiguous_compile :
    ((compile manifest config).errors.filterMap GraphError.ambiguous?).Pairwise (· < ·) := by
  have hstage : ∀ error, GraphError.ambiguous? error ≠ none → error.stage = .scopes := by
    intro error herror
    cases error <;> first | rfl | exact absurd rfl herror
  rw [filterMap_compile_errors h hstage]
  simp only [Manifest.stageErrors, Hierarchy.errors_scopeReport]
  split
  · exact hierarchy.increasing_ambiguousScopes
  · exact List.Pairwise.nil

end Resolved

/-- With a hierarchy, a component that hosts a key is reported exactly if shadowing is denied and an
ancestor hosts the key as well, and a component that declares a scope exactly if ambiguous scopes are
rejected and an ancestor declares the scope as well; in both cases with the nearest such ancestor, once,
and in order. A compilation that succeeds has therefore left nothing twice in one lineage that it had to
reject. -/
theorem overlaps_are_reported_exactly {manifest : Manifest} {config : Config}
    {hierarchy : Hierarchy} (hresolve : (manifest.resolveHierarchy config).1 = some hierarchy) :
    let graph := manifest.graph hierarchy
    let errors := (compile manifest config).errors
    (∀ key component ancestor, .shadowedBinding key component ancestor ∈ errors ↔
      config.shadowing = .deny ∧ graph.IsHost key component ∧
        hierarchy.NearestAbove (graph.IsHost key) component ancestor) ∧
    (errors.filterMap GraphError.shadowing?).Pairwise
      (fun first second => compare first second = .lt) ∧
    (∀ scope component ancestor, .ambiguousScope scope component ancestor ∈ errors ↔
      config.rejectAmbiguousScopes = true ∧ hierarchy.scope? component = some scope ∧
        hierarchy.NearestAbove (fun other => hierarchy.scope? other = some scope)
          component ancestor) ∧
    (errors.filterMap GraphError.ambiguous?).Pairwise (· < ·) ∧
    (∀ component ∈ hierarchy.components,
      hierarchy.scope? component = manifest.scope? component) ∧
    ∀ compilation, (compile manifest config).result = .ok compilation →
      compilation.graph = graph ∧
      (config.shadowing = .deny → ∀ key component,
        ∀ first ∈ hierarchy.lineage component, ∀ second ∈ hierarchy.lineage component,
          graph.IsHost key first → graph.IsHost key second → first = second) ∧
      (config.rejectAmbiguousScopes = true → ∀ scope component,
        ∀ first ∈ hierarchy.lineage component, ∀ second ∈ hierarchy.lineage component,
          hierarchy.scope? first = some scope → hierarchy.scope? second = some scope →
            first = second) := by
  intro graph errors
  have hrooted : hierarchy.Rooted := Manifest.rooted_of_resolveHierarchy hresolve
  refine ⟨fun _ _ _ => shadowedBinding_mem_compile_iff hresolve,
    increasing_shadowing_compile hresolve, fun _ _ _ => ambiguousScope_mem_compile_iff hresolve,
    increasing_ambiguous_compile hresolve,
    fun _ hmem => Manifest.scope?_of_resolveHierarchy hresolve hmem, ?_⟩
  intro compilation hcompile
  rcases compile_eq_ok hcompile with ⟨found, hfound, hnone, _, hgraph, _⟩
  have hsame : found = hierarchy := Option.some.inj (hfound.symm.trans hresolve)
  subst hsame
  refine ⟨hgraph, ?_, ?_⟩
  · intro hdeny key component first hfirst second hsecond hhost hother
    refine hrooted.eq_of_lineage ?_ hfirst hsecond hhost hother
    intro lower hlower upper hupper
    have hreported := (shadowedBinding_mem_compile_iff hresolve).2 ⟨hdeny, hlower, hupper⟩
    simp [hnone] at hreported
  · intro hreject scope component first hfirst second hsecond hscope hother
    refine hrooted.eq_of_lineage (p := fun other => found.scope? other = some scope) ?_ hfirst
      hsecond hscope hother
    intro lower hlower upper hupper
    have hreported := (ambiguousScope_mem_compile_iff hresolve).2 ⟨hreject, hlower, hupper⟩
    simp [hnone] at hreported

/-- The house without the lamp of the attic, which is no scope of its own either. -/
def darkAtticManifest : Manifest :=
  { lampManifest with
    components := lampManifest.components.take 3 ++ [⟨"Attic", none, .subcomponent, ["Left"]⟩]
    declarations := lampManifest.declarations.take 4 }

def darkAtticHierarchy : Hierarchy :=
  { lampHierarchy with
    members := lampHierarchy.members.insert "Attic" ⟨some "Left", none, [], 2⟩ }

/-- The lamp of the attic hides the one of the room below, and its scope is that of the house. Without
them the house passes, although both rooms have a lamp and the same scope. -/
theorem attic_lamp_is_reported :
    .shadowedBinding (.unqualified "Lamp") "Attic" "Left" ∈ (compile lampManifest .strict).errors ∧
      .ambiguousScope "Singleton" "Attic" "House" ∈ (compile lampManifest .strict).errors ∧
      .shadowedBinding (.unqualified "Door") "Attic" "House" ∉
        (compile lampManifest .strict).errors ∧
      (∀ host ∈ darkAtticHierarchy.lineage "Attic",
        (darkAtticManifest.graph darkAtticHierarchy).IsHost (.unqualified "Lamp") host →
          host = "Left") ∧
      ∀ component ∈ darkAtticHierarchy.lineage "Attic",
        darkAtticHierarchy.scope? component = some "Stay" → component = "Left" := by
  have hlitResolve : (lampManifest.resolveHierarchy .strict).1 = some lampHierarchy := by
    decide +kernel
  have hlit := overlaps_are_reported_exactly hlitResolve
  have hhosts : ∀ component, (lampManifest.graph lampHierarchy).IsHost (.unqualified "Lamp") component ↔
      ((lampManifest.graph lampHierarchy).local? component (.unqualified "Lamp")).isSome = true :=
    fun _ => Graph.isHost_iff_isSome
  have hshadowed : lampHierarchy.NearestAbove
      ((lampManifest.graph lampHierarchy).IsHost (.unqualified "Lamp")) "Attic" "Left" :=
    ⟨[], ["House"], by decide +kernel, (hhosts _).2 (by decide +kernel), by simp⟩
  have hambiguous : lampHierarchy.NearestAbove
      (fun other => lampHierarchy.scope? other = some "Singleton") "Attic" "House" :=
    ⟨["Left"], [], by decide +kernel, by decide +kernel, by decide +kernel⟩
  have hresolve : (darkAtticManifest.resolveHierarchy .strict).1 = some darkAtticHierarchy := by
    decide +kernel
  have hcompile := compile_eq_ok_of_errors hresolve (by decide +kernel)
  rcases (overlaps_are_reported_exactly hresolve).2.2.2.2.2 _ hcompile with ⟨_, hkeys, hscopes⟩
  have hleft : "Left" ∈ darkAtticHierarchy.lineage "Attic" := by decide +kernel
  refine ⟨(hlit.1 _ _ _).2 ⟨rfl, (hhosts _).2 (by decide +kernel), hshadowed⟩,
    (hlit.2.2.1 _ _ _).2 ⟨rfl, by decide +kernel, hambiguous⟩, ?_, ?_, ?_⟩
  · intro hreported
    have hdoor := Graph.isHost_iff_isSome.1 ((hlit.1 _ _ _).1 hreported).2.1
    revert hdoor
    decide +kernel
  · intro host hhost hlamp
    exact hkeys rfl _ "Attic" host hhost "Left" hleft hlamp
      (Graph.isHost_iff_isSome.2 (by decide +kernel))
  · intro component hmem hscope
    exact hscopes rfl _ "Attic" component hmem "Left" hleft hscope (by decide +kernel)

end ObjectGraph
