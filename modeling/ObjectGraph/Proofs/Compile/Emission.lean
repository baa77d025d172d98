import ObjectGraph.Proofs.Compile.Sound

/-!
# Emission — providers in the order of their construction

Dependencies among the keys of one component are construction edges, because a component sees its own
nodes first; the ranks of a sound graph therefore order every component. What a dependency does not
find in its own component it finds further up, so the providers of a lineage, from the root down,
stand in an order in which they can all be constructed.

* `Plan.entriesOf`, `Plan.entriesDown` — the entries of a component and of a lineage;
* `Graph.Sound.ordered_topologicalOrder` — the order of a component;
* `Graph.Sound.inOrder_entriesDown` — the order of a lineage;
* `emission_order_is_a_construction_order` — the plans of a compilation.
-/

namespace ObjectGraph

/-! ## One component -/

namespace Graph.Sound

variable {graph : Graph} {component : ComponentId}

/-- What a key resolves to at a component that hosts it. -/
theorem resolve?_of_local? (h : graph.Sound) {key : Key} {node : Node}
    (hlocal : graph.local? component key = some node) : graph.resolve? component key = some node := by
  rcases h.keyed.of_local? hlocal with ⟨hnode, rfl, _⟩
  exact Graph.resolve?_of_local? h.rooted (h.hosted node hnode) hlocal

/-- The keys of a component, each once and after the local ones that it depends on. -/
theorem ordered_topologicalOrder (h : graph.Sound) (component : ComponentId) :
    (graph.topologicalOrder component).Nodup ∧
      InOrder (graph.NeedsLocally component) (graph.topologicalOrder component) := by
  let rank : Key → Nat := fun key => ((graph.local? component key).map graph.rank).getD 0
  have hrank : ∀ key dependency, graph.NeedsLocally component key dependency →
      rank dependency < rank key := by
    rintro key dependency ⟨node, hlocal, hdependency, hhosted⟩
    rcases Option.isSome_iff_exists.1 hhosted with ⟨target, htarget⟩
    rcases h.keyed.of_local? hlocal with ⟨hnode, hhost, _⟩
    have hresolve : graph.resolve? node.host dependency = some target :=
      hhost ▸ h.resolve?_of_local? htarget
    simpa [rank, hlocal, htarget] using h.rank_lt ⟨hnode, dependency, hdependency, hresolve⟩
  rcases topologicalOrder_ordered h.keyed hrank with ⟨hnodup, _, hordered⟩
  exact ⟨hnodup, hordered⟩

end Graph.Sound

/-! ## A lineage -/

/-- The entries of a component, each with the component. -/
def Plan.entriesOf (plan : Plan) (component : ComponentId) : List (ComponentId × Entry) :=
  (((plan.component? component).map (·.providers)).getD []).map fun entry => (component, entry)

/-- The entries of some components, given the nearest one first, from the last one down. -/
def Plan.entriesDown (plan : Plan) (lineage : List ComponentId) : List (ComponentId × Entry) :=
  lineage.reverse.flatMap plan.entriesOf

theorem Plan.entriesDown_cons (plan : Plan) (component : ComponentId)
    (above : List ComponentId) :
    plan.entriesDown (component :: above) = plan.entriesDown above ++ plan.entriesOf component := by
  simp [entriesDown, List.flatMap_append]

/-- The basket is the nearer of the two, and comes last. -/
example :
    Plan.entriesDown
      ⟨"App", [⟨"App", none, none, [⟨⟨"Clock", none⟩, "clock", .scoped, [], [], none⟩], ["Cart"]⟩,
        ⟨"Cart", some "App", none, [⟨⟨"Basket", none⟩, "basket", .unscoped, [], [], none⟩], []⟩],
        .empty⟩
      ["Cart", "App"] =
    [("App", ⟨⟨"Clock", none⟩, "clock", .scoped, [], [], none⟩),
      ("Cart", ⟨⟨"Basket", none⟩, "basket", .unscoped, [], [], none⟩)] := by
  decide +kernel

/-- An entry needs the entries of the nodes that its dependencies resolve to. -/
def Graph.Requires (graph : Graph) (placed needed : ComponentId × Entry) : Prop :=
  ∃ key ∈ placed.2.dependencies, ∃ target, graph.resolve? placed.1 key = some target ∧
    needed = (target.host, Entry.ofNode graph target)

namespace Graph.Sound

variable {graph : Graph} {component : ComponentId}

theorem entriesOf_ofGraph (hmem : component ∈ graph.hierarchy.components) :
    (Plan.ofGraph graph).entriesOf component =
      (ComponentPlan.ofGraph graph component).providers.map fun entry => (component, entry) := by
  simp [Plan.entriesOf, Plan.component?_ofGraph, hmem]

theorem mem_entriesOf (h : graph.Sound) {node : Node} (hnode : node ∈ graph.nodes) :
    (node.host, Entry.ofNode graph node) ∈ (Plan.ofGraph graph).entriesOf node.host := by
  have hlocal : graph.local? node.host node.key = some node := h.keyed.mem_nodes_iff.1 hnode
  simp only [entriesOf_ofGraph (h.hosted node hnode)]
  refine List.mem_map_of_mem ((ComponentPlan.mem_providers_iff h.keyed).2 ?_)
  simp [Entry.ofNode, hlocal]

theorem nodup_entriesOf (h : graph.Sound) (hmem : component ∈ graph.hierarchy.components) :
    ((Plan.ofGraph graph).entriesOf component).Nodup := by
  simp only [entriesOf_ofGraph hmem]
  have hnodup := ComponentPlan.nodup_keys_providers h.keyed
    (h.ordered_topologicalOrder component).1
  exact hnodup.of_map.map fun _ _ heq => (Prod.mk.inj heq).2

/-- Within a component an entry stands after those that it needs from the same component. -/
theorem inOrder_entriesOf (h : graph.Sound) (hmem : component ∈ graph.hierarchy.components) :
    InOrder (fun placed needed => graph.Requires placed needed ∧ needed.1 = component)
      ((Plan.ofGraph graph).entriesOf component) := by
  simp only [entriesOf_ofGraph hmem]
  refine (ComponentPlan.inOrder_providers (h.ordered_topologicalOrder component).2).map ?_
  rintro entry _ ⟨⟨key, hkey, target, hresolve, rfl⟩, rfl⟩
  rcases h.keyed.of_resolve? hresolve with ⟨htarget, _, rfl⟩
  have hlocal : graph.local? target.host target.key = some target :=
    h.keyed.mem_nodes_iff.1 htarget
  exact ⟨Entry.ofNode graph target, ⟨target.key, hkey, by simp [hlocal]⟩, rfl⟩

/-- What an entry needs is hosted by its own component, where it stands before it, or further up. -/
theorem inOrder_entriesDown_cons (h : graph.Sound) (hmem : component ∈ graph.hierarchy.components)
    (habove : InOrder graph.Requires
      ((Plan.ofGraph graph).entriesDown (graph.hierarchy.ancestors component))) :
    InOrder graph.Requires
      ((Plan.ofGraph graph).entriesDown (component :: graph.hierarchy.ancestors component)) := by
  simp only [Plan.entriesDown_cons]
  refine habove.append ?_
  intro front placed back hsplit needed hneeds
  have hplaced : placed.1 = component := by
    have hlisted : placed ∈ (Plan.ofGraph graph).entriesOf component := by
      simp [hsplit]
    rcases List.mem_map.1 hlisted with ⟨entry, _, rfl⟩
    rfl
  rcases hneeds with ⟨key, hkey, target, hresolve, rfl⟩
  rcases h.keyed.of_resolve? hresolve with ⟨htarget, hhost, _⟩
  simp only [hplaced, h.rooted.lineage_eq_cons hmem] at hhost
  rcases List.mem_cons.1 hhost with hlocal | hupper
  · refine Or.inr (h.inOrder_entriesOf hmem front placed back hsplit _ ⟨?_, hlocal⟩)
    exact ⟨key, hkey, target, hresolve, rfl⟩
  · refine Or.inl (List.mem_flatMap.2 ⟨target.host, List.mem_reverse.2 hupper, ?_⟩)
    exact h.mem_entriesOf htarget

/-- From the root down every entry of a lineage stands after all the entries that it needs. -/
theorem inOrder_entriesDown (h : graph.Sound) (hmem : component ∈ graph.hierarchy.components) :
    InOrder graph.Requires
      ((Plan.ofGraph graph).entriesDown (component :: graph.hierarchy.ancestors component)) := by
  apply h.inOrder_entriesDown_cons hmem
  generalize hlist : graph.hierarchy.ancestors component = above
  -- By induction on the way up: the lineage of the parent is in order.
  induction above generalizing component with
  | nil => exact InOrder.nil
  | cons parent rest ih =>
    rcases h.rooted.ancestors_of_eq_cons hlist with ⟨hparent, rfl⟩
    exact h.inOrder_entriesDown_cons hparent (ih hparent rfl)

theorem nodup_entriesDown (h : graph.Sound) (hmem : component ∈ graph.hierarchy.components) :
    ((Plan.ofGraph graph).entriesDown
      (component :: graph.hierarchy.ancestors component)).Nodup := by
  refine List.nodup_flatMap.2 ⟨?_, ?_⟩
  · intro host hhost
    rcases List.mem_cons.1 (List.mem_reverse.1 hhost) with rfl | habove
    · exact h.nodup_entriesOf hmem
    · exact h.nodup_entriesOf (h.rooted.mem_of_mem_ancestors habove).1
  · -- Entries of different components are told apart by their components.
    refine (List.nodup_reverse.2 h.rooted.nodup_lineage).imp ?_
    intro first second hne placed hfirst hsecond
    rcases List.mem_map.1 hfirst with ⟨_, _, rfl⟩
    rcases List.mem_map.1 hsecond with ⟨_, _, heq⟩
    exact hne (congrArg Prod.fst heq).symm

end Graph.Sound

/-! ## Compilations -/

/-- The entries of a component and of everything above it, from the root down. -/
def Compilation.construction (compilation : Compilation) (component : ComponentId) :
    List (ComponentId × Entry) :=
  compilation.plan.entriesDown (compilation.hierarchy.lineage component)

/-- The plan of a component has one provider for each key that the component hosts, made of its node,
and no others; the providers of local dependencies stand before those that depend on them. In the
providers of a whole lineage, from the root down, everything that a dependency resolves to stands
before what depends on it. -/
theorem emission_order_is_a_construction_order {manifest : Manifest} {config : Config}
    {compilation : Compilation} (hcompile : (compile manifest config).result = .ok compilation)
    {component : ComponentId} (hmem : component ∈ compilation.hierarchy.components) :
    let graph := compilation.graph
    ∃ plan, compilation.plan.component? component = some plan ∧
      (plan.providers.map (·.key)).Nodup ∧
      (∀ key entry, entry ∈ plan.providers ∧ entry.key = key ↔
        ∃ node, graph.local? component key = some node ∧ entry = Entry.ofNode graph node) ∧
      (∀ front entry back, plan.providers = front ++ entry :: back →
        ∀ key ∈ entry.dependencies, (graph.local? component key).isSome = true →
          ∃ other ∈ front, other.key = key) ∧
      (compilation.construction component).Nodup ∧
      ∀ front host entry back,
        compilation.construction component = front ++ (host, entry) :: back →
          ∀ key ∈ entry.dependencies, ∀ target, graph.resolve? host key = some target →
            (target.host, Entry.ofNode graph target) ∈ front := by
  intro graph
  have hsound : graph.Sound := (Compilation.sound hcompile).1
  have hplan : compilation.plan = .ofGraph graph := (Compilation.sound hcompile).2.1
  have hmem : component ∈ graph.hierarchy.components := hmem
  have hconstruction : compilation.construction component =
      (Plan.ofGraph graph).entriesDown (component :: graph.hierarchy.ancestors component) := by
    simp only [← hsound.rooted.lineage_eq_cons hmem, Compilation.construction, hplan]
    rfl
  have hordered := hsound.ordered_topologicalOrder component
  refine ⟨.ofGraph graph component, ?_, ?_, ?_, ?_, ?_, ?_⟩
  · simp only [hplan, Plan.component?_ofGraph, hmem, if_true]
  · exact ComponentPlan.nodup_keys_providers hsound.keyed hordered.1
  · intro key entry
    simp only [ComponentPlan.mem_providers_iff hsound.keyed, Option.map_eq_some_iff]
    constructor
    · rintro ⟨⟨node, hlocal, rfl⟩, rfl⟩
      exact ⟨node, hlocal, rfl⟩
    · rintro ⟨node, hlocal, rfl⟩
      have hkey : node.key = key := (hsound.keyed.of_local? hlocal).2.2
      exact ⟨⟨node, by simpa [Entry.ofNode, hkey] using hlocal, rfl⟩, hkey⟩
  · intro front entry back hsplit key hkey hhosted
    rcases Option.isSome_iff_exists.1 hhosted with ⟨target, htarget⟩
    have hfront := ComponentPlan.inOrder_providers hordered.2 front entry back hsplit
      (Entry.ofNode graph target) ⟨key, hkey, by simp [htarget]⟩
    exact ⟨_, hfront, (hsound.keyed.of_local? htarget).2.2⟩
  · simp only [hconstruction]
    exact hsound.nodup_entriesDown hmem
  · intro front host entry back hsplit key hkey target hresolve
    have hlineage := hsound.inOrder_entriesDown hmem
    exact hlineage front (host, entry) back (hconstruction ▸ hsplit) _
      ⟨key, hkey, target, hresolve, rfl⟩

/-- A cart whose basket takes a shelf of its own component and the clock of the root. -/
def basketManifest : Manifest where
  entryPoint := "App"
  components := [⟨"App", none, .component, []⟩, ⟨"Cart", none, .subcomponent, ["App"]⟩]
  modules := [⟨"Time", ["App"]⟩, ⟨"Stock", ["Cart"]⟩]
  declarations :=
    [.provides ⟨"Time", "clock", .resolved "Clock", none, none,
        [.regular "zone" (.resolved "Zone") none], false⟩,
      .provides ⟨"Time", "zone", .resolved "Zone", none, none, [], false⟩,
      .provides ⟨"Stock", "basket", .resolved "Basket", none, none,
        [.regular "clock" (.resolved "Clock") none, .regular "shelf" (.resolved "Shelf") none],
        false⟩,
      .provides ⟨"Stock", "shelf", .resolved "Shelf", none, none, [], false⟩]

def basketCompilation : Compilation :=
  let hierarchy : Hierarchy := ⟨"App", .ofList [("App", ⟨none, none, ["Cart"], 0⟩), ("Cart", ⟨some "App", none, [], 1⟩)]⟩
  ⟨basketManifest, basketManifest.graph hierarchy, .ofGraph (basketManifest.graph hierarchy)⟩

theorem compile_basketManifest :
    (compile basketManifest .default).result = .ok basketCompilation :=
  compile_eq_ok_of_errors (by decide +kernel) (by decide +kernel)

/-- In key order the basket would come before its shelf, and the clock before its zone. -/
theorem basket_comes_last :
    (basketCompilation.construction "Cart").map (fun placed => (placed.1, placed.2.key.type)) =
        [("App", "Zone"), ("App", "Clock"), ("Cart", "Shelf"), ("Cart", "Basket")] ∧
      ∃ front basket back, basketCompilation.construction "Cart" = front ++ ("Cart", basket) :: back ∧
        basket.key = ⟨"Basket", none⟩ ∧ ∀ key ∈ basket.dependencies, ∀ target,
          basketCompilation.graph.resolve? "Cart" key = some target →
            (target.host, Entry.ofNode basketCompilation.graph target) ∈ front := by
  have hlisted : ∃ placed ∈ basketCompilation.construction "Cart",
      placed.1 = "Cart" ∧ placed.2.key = ⟨"Basket", none⟩ := by
    decide +kernel
  rcases hlisted with ⟨⟨_, basket⟩, hmem, rfl, hkey⟩
  rcases List.append_of_mem hmem with ⟨front, back, hsplit⟩
  have hcart : "Cart" ∈ basketCompilation.hierarchy.components := by
    decide +kernel
  rcases emission_order_is_a_construction_order compile_basketManifest hcart with
    ⟨_, _, _, _, _, _, hconstruction⟩
  refine ⟨by decide +kernel, front, basket, back, hsplit, hkey, ?_⟩
  exact hconstruction front "Cart" basket back hsplit

end ObjectGraph
