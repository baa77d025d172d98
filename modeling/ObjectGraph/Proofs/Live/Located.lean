import ObjectGraph.Proofs.Compile.Views
import ObjectGraph.Proofs.Live.Provider
import ObjectGraph.Proofs.Live.Scopes

/-!
# Declared keys — lookups that cannot miss

The dispatch table lists hosted keys only, every member of the tree can be activated, and in a closed
graph everything that a node asks for is hosted by its lineage. What is left to go wrong with such a
key is the type that is asked for, and a key that only a factory builds.

* `Graph.local?_of_dispatch` — the dispatch table against the hosted nodes;
* `LiveGraph.activate_ok` — activation of a member succeeds;
* `Wiring.Fits.product?_isSome` — no entry lacks its constructor;
* `Wiring.Locates`, `Wiring.locates_of_resolve?` — a lookup ends at a provider or at its type.
-/

namespace ObjectGraph

/-! ## Dispatch -/

namespace Graph

variable {graph : Graph} {key : Key} {component : ComponentId}

/-- Every entry of a table is a member with a node of its own for the key. -/
def Hosts (graph : Graph) (table : Table Key ComponentId) : Prop :=
  ∀ key component, table.find? key = some component →
    component ∈ graph.hierarchy.components ∧ ∃ node ∈ graph.nodesOf component, node.key = key

theorem hosts_dispatch (hkeyed : graph.Keyed) : graph.Hosts graph.dispatch := by
  intro key component hfound
  rw [hkeyed.find?_dispatch] at hfound
  have hmem := Hierarchy.mem_components_of_mem_byDepth (List.mem_of_find?_eq_some hfound)
  have hhosted : (graph.local? component key).isSome = true := by
    simpa using List.find?_some hfound
  rcases isHost_iff_isSome.2 hhosted with ⟨node, hlocal⟩
  exact ⟨hmem, node, hkeyed.mem_nodesOf hlocal, (hkeyed.of_local? hlocal).2.2⟩

/-- The dispatch table leads to components that host the key. -/
theorem local?_of_dispatch (hkeyed : graph.Keyed) (h : graph.dispatch.find? key = some component) :
    component ∈ graph.hierarchy.components ∧
      ∃ node ∈ graph.nodes, graph.local? component key = some node := by
  rcases hosts_dispatch hkeyed key component h with ⟨hmem, node, hnode, rfl⟩
  rcases List.mem_filter.1 hnode with ⟨hlisted, hhost⟩
  refine ⟨hmem, node, hlisted, ?_⟩
  have hid : node.id = ⟨component, node.key⟩ := by
    simpa [Node.id] using hhost
  simpa only [Graph.local?, hid] using hkeyed.mem_nodes_iff.1 hlisted

end Graph

/-! ## Activation -/

namespace LiveGraph

variable {built : Graph} {live : LiveGraph} {component : ComponentId} {nextStamp : Nat}

theorem activateWithin_ok (hrooted : built.hierarchy.Rooted)
    (hplan : live.wiring.plan = .ofGraph built)
    (hroot : live.root.component = built.hierarchy.root) {bound : Nat}
    (hmem : component ∈ built.hierarchy.components)
    (hbound : (built.hierarchy.ancestors component).length ≤ bound) :
    ∃ activation, activateWithin bound component live nextStamp = .ok activation := by
  -- By induction on the bound, which the way up to the root does not exceed.
  induction bound generalizing component with
  | zero =>
    have hnil : built.hierarchy.ancestors component = [] :=
      List.eq_nil_of_length_eq_zero (Nat.le_zero.1 hbound)
    have hcomponent : component = live.root.component :=
      (hrooted.eq_root_of_ancestors_eq_nil hmem hnil).trans hroot.symm
    unfold activateWithin
    exact ⟨_, if_pos hcomponent⟩
  | succ bound ih =>
    unfold activateWithin
    by_cases hcomponent : component = live.root.component
    · exact ⟨_, if_pos hcomponent⟩
    · have hfound : live.wiring.plan.component? component = some (.ofGraph built component) := by
        simp [hplan, Plan.component?_ofGraph, hmem]
      simp only [hcomponent, if_false, hfound]
      cases hparent : (ComponentPlan.ofGraph built component).parent with
      | none => exact ⟨_, rfl⟩
      | some parent =>
        have hancestors := hrooted.ancestors_eq_cons_of_parent? hparent
        have hshorter : (built.hierarchy.ancestors parent).length ≤ bound := by
          simpa [hancestors] using hbound
        rcases ih (hrooted.ancestors_of_eq_cons hancestors).1 hshorter with ⟨above, habove⟩
        simp only [habove]
        exact ⟨_, rfl⟩

/-- Every member of the tree has an instance, or gets one. -/
theorem activate_ok (h : live.Linked built.hierarchy nextStamp) (hrooted : built.hierarchy.Rooted)
    (hplan : live.wiring.plan = .ofGraph built) (hmem : component ∈ built.hierarchy.components) :
    ∃ activation, live.activate component nextStamp = .ok activation ∧
      activation.inst.component = component := by
  have hlength : (built.hierarchy.ancestors component).length ≤
      live.wiring.plan.components.length := by
    simpa only [hplan, Plan.length_components_ofGraph] using
      Nat.le_of_lt (hrooted.length_ancestors_lt hmem)
  have hactivate : ∃ activation, live.activate component nextStamp = .ok activation :=
    activateWithin_ok hrooted hplan h.root hmem hlength
  rcases hactivate with ⟨activation, hok⟩
  rcases linked_activate h hrooted hplan hok with ⟨hlinked, hinst, _⟩
  exact ⟨activation, hok, hlinked.component_of_inst? hinst⟩

end LiveGraph

/-! ## Entries -/

namespace ProviderKind

variable {graph : Graph} {node : Node}

theorem isAlias_of_ofNode (h : ofNode graph node = .aliasOf) : node.isAlias = true := by
  simp only [ofNode] at h
  repeat' split at h
  all_goals first | assumption | simp at h

theorem isAssisted_of_ofNode (h : ofNode graph node = .assistedOnly) : node.isAssisted = true := by
  simp only [ofNode] at h
  repeat' split at h
  all_goals first | assumption | simp at h

end ProviderKind

/-- Nothing asks for a node that only its factory builds. -/
theorem Graph.Sound.kind_of_requested {graph : Graph} (h : graph.Sound) {node target : Node}
    (hnode : node ∈ graph.nodes) {key : Key} (hkey : key ∈ node.requested)
    (hresolve : graph.resolve? node.host key = some target) :
    ProviderKind.ofNode graph target ≠ .assistedOnly := by
  intro hkind
  have hdirect := h.direct node hnode key hkey target hresolve
  simp [ProviderKind.isAssisted_of_ofNode hkind] at hdirect

namespace Wiring

variable {wiring : Wiring} {graph : Graph} {inst : Instance} {key : Key} {node : Node}

/-- What is constructed has a constructor that makes it. -/
theorem Fits.product?_isSome (h : wiring.Fits) {component : ComponentId} {entry : Entry}
    (hentry : wiring.entry? component key = some entry)
    (hkind : entry.kind = .scoped ∨ entry.kind = .unscoped ∨ entry.kind = .factory) :
    (wiring.product? key).isSome = true := by
  have hfound : wiring.kind? component key = some entry.kind := by
    simp [kind?, hentry]
  rcases hkind with hkind | hkind | hkind
  · rcases h.construct_of_kind hfound (Or.inl hkind) with ⟨_, _, _, hregistered⟩
    simp [product?, hregistered]
  · rcases h.construct_of_kind hfound (Or.inr hkind) with ⟨_, _, _, hregistered⟩
    simp [product?, hregistered]
  · rcases h.factory_of_kind (hkind ▸ hfound) with ⟨_, _, hregistered⟩
    simp [product?, hregistered]

/-! ## Lookups -/

/-- A lookup of the key finds what it looks for, unless it is of another type. -/
def Locates (wiring : Wiring) (inst : Instance) (key : Key) : Prop :=
  ∀ type, (∃ provider, wiring.provider inst key type = .ok provider) ∨
    ∃ other expected, wiring.provider inst key type = .error (.incorrectType other expected)

variable (hsound : graph.Sound) (hplan : wiring.plan = .ofGraph graph) (hfits : wiring.Fits)
  (hclosed : graph.Closed)

include hsound hplan hfits hclosed

/-- Aliases end at what is constructed, as the graph is closed and its edges go down the ranks. -/
theorem locates_of_resolve? (hfollows : inst.Follows graph.hierarchy)
    (hresolve : graph.resolve? inst.component key = some node)
    (hbuilt : ProviderKind.ofNode graph node ≠ .assistedOnly) : wiring.Locates inst key := by
  induction hrank : graph.rank node using Nat.strong_induction_on generalizing inst key node with
  | _ rank ih =>
    subst hrank
    intro type
    rcases host?_of_resolve? hsound hplan hfollows hresolve with
      ⟨host, hmem, hcomponent, hlocal, hhost, _⟩
    rcases hsound.keyed.of_resolve? hresolve with ⟨hnode, _, hkey⟩
    have hentry : wiring.entry? host.component key = some (.ofNode graph node) := by
      simp [entry?_ofGraph hsound hplan, hlocal]
    rw [provider_eq_providerAt hsound hplan hfollows hhost]
    simp only [providerAt]
    cases hkind : (Entry.ofNode graph node).kind with
    | assistedOnly => exact absurd hkind hbuilt
    | aliasOf =>
      have halias := ProviderKind.isAlias_of_ofNode hkind
      rcases hsound.aliased node hnode halias with ⟨target, hdependencies⟩
      have htarget : (Entry.ofNode graph node).target? = some target := by
        simp only [Entry.target?, hkind]
        simp [Entry.ofNode, hdependencies]
      have hrequested : target ∈ node.requested := by
        simp [Node.requested, hdependencies]
      simp only [htarget]
      cases hnext : graph.resolve? node.host target with
      | none => exact absurd hnext (hclosed node hnode target hrequested)
      | some next =>
        -- The target is looked up at the host, and found there.
        have hlocates : wiring.Locates host target :=
          ih (graph.rank next) (rank_lt_of_target? hsound hnode htarget hnext)
            (hfollows.of_mem hsound.rooted hmem) (hcomponent ▸ hnext)
            (hsound.kind_of_requested hnode hrequested hnext) rfl
        split
        · exact hlocates type
        · rename_i source product _
          rcases hlocates source with ⟨provider, hprovider⟩ | ⟨other, expected, herror⟩
          · simp only [hprovider]
            by_cases hproduct : product = type
            · exact Or.inl ⟨_, if_pos hproduct⟩
            · exact Or.inr ⟨_, _, if_neg hproduct⟩
          · simp only [herror]
            exact Or.inr ⟨other, expected, rfl⟩
    | _ =>
      have hproduct := hfits.product?_isSome hentry (by simp [hkind])
      rcases Option.isSome_iff_exists.1 hproduct with ⟨product, hproduct⟩
      have hkeyEntry : (Entry.ofNode graph node).key = key := hkey
      simp only [hkeyEntry, hproduct]
      by_cases htype : product = type
      · exact Or.inl ⟨_, if_pos htype⟩
      · exact Or.inr ⟨_, _, if_neg htype⟩

/-- Whatever a node asks for is found from every instance of its host. -/
theorem locates_requested (hfollows : inst.Follows graph.hierarchy) (hnode : node ∈ graph.nodes)
    (hhost : node.host = inst.component) (hkey : key ∈ node.requested) :
    wiring.Locates inst key := by
  cases hresolve : graph.resolve? node.host key with
  | none => exact absurd hresolve (hclosed node hnode key hkey)
  | some target =>
    exact locates_of_resolve? hsound hplan hfits hclosed hfollows (hhost ▸ hresolve)
      (hsound.kind_of_requested hnode hkey hresolve)

end Wiring
end ObjectGraph
