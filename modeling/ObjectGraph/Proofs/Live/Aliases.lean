import ObjectGraph.Proofs.Compile.Closed
import ObjectGraph.Proofs.Live.Cast
import ObjectGraph.Proofs.Live.Located

/-!
# Aliases — an alias hands out what its target hands out

An alias gives the provider of its target, looked up from the instance that hosts the alias. If a cast
is registered for the alias, a provider of its own stands before that one. Along a chain of aliases the
hosts move up, and the casts pile up before the provider of the node at the end: the function of each
takes what the one behind it gives, from the type that is constructed to the type that is asked for.

* `Wiring.viaAlias`, `Wiring.Forwards` — what one alias makes of the providers of its target;
* `Graph.aliasKeys`, `Wiring.provider_eq_foldr` — chains of aliases;
* `Wiring.castKeys`, `Wiring.Composes` — the casts of a chain, and the types that they lead between;
* `Wiring.provider_eq_of_constructed` — the provider of the node at the end;
* `Wiring.eq_of_foldr_viaAlias`, `Wiring.exists_end_of_alias` — what a chain adds to it.
-/

namespace ObjectGraph

/-! ## One alias -/

namespace Wiring

/-- What an alias of a key makes of the providers that its target has for each type. -/
def viaAlias (wiring : Wiring) (key : Key) (next : ValueType → Except ResolveError Provider)
    (type : ValueType) : Except ResolveError Provider :=
  match wiring.cast? key with
  | none => next type
  | some cast =>
    match next cast.1 with
    | .error error => .error error
    | .ok provider =>
      if cast.2 = type then .ok (provider.castBy key type)
      else .error (.incorrectType key type.name)

/-- An instance provides a key just as another instance provides a target: as it is, or behind the
cast that is registered for the key. -/
structure Forwards (wiring : Wiring) (inst : Instance) (key : Key) (host : Instance)
    (target : Key) : Prop where
  same : wiring.cast? key = none →
    ∀ type, wiring.provider inst key type = wiring.provider host target type
  behind : ∀ cast, wiring.cast? key = some cast → ∀ provider,
    wiring.provider host target cast.1 = .ok provider →
      wiring.provider inst key cast.2 = .ok (provider.castBy key cast.2)
  failed : ∀ cast, wiring.cast? key = some cast → ∀ error,
    wiring.provider host target cast.1 = .error error →
      ∀ type, wiring.provider inst key type = .error error
  other : ∀ cast, wiring.cast? key = some cast → ∀ provider,
    wiring.provider host target cast.1 = .ok provider → ∀ type, type ≠ cast.2 →
      wiring.provider inst key type = .error (.incorrectType key type.name)

variable {wiring : Wiring} {graph : Graph} {inst host : Instance} {key target : Key}
  {node last : Node}

theorem forwards_of_viaAlias
    (h : ∀ type, wiring.provider inst key type = wiring.viaAlias key (wiring.provider host target) type) :
    wiring.Forwards inst key host target where
  same := by
    intro hcast type
    simp [h, viaAlias, hcast]
  behind := by
    intro cast hcast provider hprovider
    simp [h, viaAlias, hcast, hprovider]
  failed := by
    intro cast hcast error herror type
    simp [h, viaAlias, hcast, herror]
  other := by
    intro cast hcast provider hprovider type htype
    simp [h, viaAlias, hcast, hprovider, Ne.symm htype]

/-! ## Chains -/

end Wiring

/-- The keys of the aliases passed in so many steps from a node. -/
def Graph.aliasKeys (graph : Graph) : Nat → Node → List Key
  | 0, _ => []
  | steps + 1, node => node.key :: ((graph.forward? node).map (aliasKeys graph steps)).getD []

namespace Wiring

/-- The aliases among some keys that have a cast, in the same order. -/
def castKeys (wiring : Wiring) (keys : List Key) : List Key :=
  keys.filter fun key => (wiring.cast? key).isSome

/-- The casts of some aliases lead from one type to another. The last alias is the first to cast. -/
def Composes (wiring : Wiring) : List Key → ValueType → ValueType → Prop
  | [], source, type => source = type
  | key :: rest, source, type =>
    ∃ middle, wiring.Composes rest source middle ∧ wiring.cast? key = some (middle, type)

variable {wiring : Wiring} {graph : Graph} {inst : Instance} {key : Key} {node last : Node}

/-- Aliases change nothing of a provider but its type and its casts. -/
theorem eq_of_foldr_viaAlias {keys : List Key} {next : ValueType → Except ResolveError Provider}
    (hnext : ∀ type provider, next type = .ok provider → provider.type = type) {type : ValueType}
    {provider : Provider} (h : keys.foldr wiring.viaAlias next type = .ok provider) :
    ∃ source inner, next source = .ok inner ∧
      wiring.Composes (wiring.castKeys keys) source type ∧
        provider = ⟨inner.host, inner.key, wiring.castKeys keys ++ inner.casts, type⟩ := by
  induction keys generalizing type provider with
  | nil =>
    refine ⟨type, provider, h, rfl, ?_⟩
    simp [castKeys, ← hnext type provider h]
  | cons key rest ih =>
    simp only [List.foldr_cons, viaAlias] at h
    cases hcast : wiring.cast? key with
    | none =>
      have hkeys : wiring.castKeys (key :: rest) = wiring.castKeys rest := by
        simp [castKeys, hcast]
      simp only [hcast] at h
      simpa only [hkeys] using ih h
    | some cast =>
      have hkeys : wiring.castKeys (key :: rest) = key :: wiring.castKeys rest := by
        simp [castKeys, hcast]
      simp only [hcast] at h
      -- The provider behind the cast is one of the cast's own source.
      cases hrest : rest.foldr wiring.viaAlias next cast.1 with
      | error error => simp [hrest] at h
      | ok behind =>
        simp only [hrest] at h
        split at h
        · rename_i htype
          cases h
          rcases ih hrest with ⟨source, inner, hinner, hcomposes, rfl⟩
          subst htype
          exact ⟨source, inner, hinner, hkeys ▸ ⟨cast.1, hcomposes, hcast⟩,
            by simp [hkeys, Provider.castBy]⟩
        · simp at h

section Sound

variable (hsound : graph.Sound) (hplan : wiring.plan = .ofGraph graph)

include hsound hplan

/-- The provider of an alias comes from its target, as the instance that hosts the alias sees it. -/
theorem provider_eq_viaAlias (hfollows : inst.Follows graph.hierarchy)
    (hresolve : graph.resolve? inst.component key = some node) {target : Key}
    (htarget : node.aliasTarget? = some target) :
    ∃ host ∈ inst :: inst.parents, host.component = node.host ∧
      ∀ type, wiring.provider inst key type =
        wiring.viaAlias key (wiring.provider host target) type := by
  rcases host?_of_resolve? hsound hplan hfollows hresolve with ⟨host, hmem, hcomponent, _, hhost, _⟩
  refine ⟨host, hmem, hcomponent, ?_⟩
  intro type
  have hkey : (Entry.ofNode graph node).key = key := (hsound.keyed.of_resolve? hresolve).2.2
  simp only [Node.aliasTarget?] at htarget
  split at htarget
  · rename_i halias
    have hkind : (Entry.ofNode graph node).kind = .aliasOf := by
      simp [Entry.ofNode, ProviderKind.ofNode, halias]
    have hentry : (Entry.ofNode graph node).target? = some target := by
      simp only [Entry.target?, hkind]
      exact htarget
    rw [provider_eq_providerAt hsound hplan hfollows hhost]
    simp only [providerAt, hkind, hentry, hkey, viaAlias]
    cases wiring.cast? key with
    | none => rfl
    | some cast =>
      cases hinner : wiring.provider host target cast.1 with
      | error error => simp only [hinner]
      | ok provider =>
        by_cases htype : cast.2 = type
        · subst htype
          simp only [hinner, if_true, Provider.castBy]
        · simp only [hinner, htype, if_false]
  · simp at htarget

/-- The provider of a key comes, alias by alias, from the node at the end of the chain, each target
being looked up from the instance that hosts its alias. -/
theorem provider_eq_foldr (hfollows : inst.Follows graph.hierarchy) {steps : Nat}
    (hresolve : graph.resolve? inst.component key = some node)
    (hfollowed : graph.followed? steps node = some last) :
    ∃ host ∈ inst :: inst.parents, host.component = last.host ∧
      graph.local? host.component last.key = some last ∧
        ∀ type, wiring.provider inst key type =
          (graph.aliasKeys steps node).foldr wiring.viaAlias (wiring.provider host last.key) type := by
  induction steps generalizing inst key node with
  | zero =>
    have hlast : node = last := Option.some.inj hfollowed
    subst hlast
    rcases host?_of_resolve? hsound hplan hfollows hresolve with
      ⟨host, hmem, hcomponent, hlocal, hhost, _⟩
    have hkey : node.key = key := (hsound.keyed.of_resolve? hresolve).2.2
    subst hkey
    exact ⟨host, hmem, hcomponent, hlocal, fun type => provider_eq_of_host? hhost type⟩
  | succ steps ih =>
    rcases Option.bind_eq_some_iff.1 hfollowed with ⟨next, hforward, hrest⟩
    rcases Option.bind_eq_some_iff.1 hforward with ⟨target, htarget, hnext⟩
    rcases provider_eq_viaAlias hsound hplan hfollows hresolve htarget with
      ⟨middle, hmiddle, hcomponent, hvia⟩
    -- The rest of the chain starts at the instance that hosts the first alias.
    rcases ih (hfollows.of_mem hsound.rooted hmiddle) (hcomponent ▸ hnext) hrest with
      ⟨host, hmem, hhost, hlocal, hchain⟩
    refine ⟨host, Instance.upwards_subset hmiddle hmem, hhost, hlocal, ?_⟩
    intro type
    have hkey : node.key = key := (hsound.keyed.of_resolve? hresolve).2.2
    calc
      wiring.provider inst key type = wiring.viaAlias key (wiring.provider middle target) type :=
        hvia type
      _ = wiring.viaAlias key ((graph.aliasKeys steps next).foldr wiring.viaAlias
          (wiring.provider host last.key)) type := by
        rw [funext hchain]
      _ = (graph.aliasKeys (steps + 1) node).foldr wiring.viaAlias
          (wiring.provider host last.key) type := by
        simp [Graph.aliasKeys, hforward, hkey]

/-- What is constructed has a provider of the one type that its constructor makes. -/
theorem provider_eq_of_constructed (hfits : wiring.Fits) (hfollows : inst.Follows graph.hierarchy)
    (hlocal : graph.local? inst.component key = some node) (halias : node.isAlias = false)
    (hassisted : ProviderKind.ofNode graph node ≠ .assistedOnly) :
    ∃ product, wiring.product? key = some product ∧
      ∀ type, wiring.provider inst key type =
        if product = type then .ok ⟨inst, key, [], type⟩
        else .error (.incorrectType key type.name) := by
  have hentry : wiring.entry? inst.component key = some (.ofNode graph node) := by
    simp [entry?_ofGraph hsound hplan, hlocal]
  have hhost : wiring.host? inst key = some (inst, .ofNode graph node) := by
    simp only [host?]
    unfold Instance.search
    simp only [Instance.component] at hentry
    simp only [hentry]
  have hkey : (Entry.ofNode graph node).key = key := key_of_entry? hentry
  have hkind : (Entry.ofNode graph node).kind = .scoped ∨
      (Entry.ofNode graph node).kind = .unscoped ∨ (Entry.ofNode graph node).kind = .factory := by
    have hnot : ProviderKind.ofNode graph node ≠ .aliasOf := by
      intro hkind
      simp [ProviderKind.isAlias_of_ofNode hkind] at halias
    simp only [Entry.ofNode]
    cases hkind : ProviderKind.ofNode graph node with
    | aliasOf => exact absurd hkind hnot
    | assistedOnly => exact absurd hkind hassisted
    | _ => simp
  rcases Option.isSome_iff_exists.1 (hfits.product?_isSome hentry hkind) with ⟨product, hproduct⟩
  refine ⟨product, hproduct, ?_⟩
  intro type
  rw [provider_eq_providerAt hsound hplan hfollows hhost]
  simp only [providerAt, hkey, hproduct]
  rcases hkind with hkind | hkind | hkind <;> simp only [hkind]

/-- Where the keys of the graph resolve, the chain of an alias ends at a node that is constructed. Every
provider of the alias is one of that node behind the casts of the chain, and a call of it is one call of
that one, with its value cast by all of them. -/
theorem exists_end_of_alias (hfits : wiring.Fits) (hclosed : graph.Closed)
    (hfollows : inst.Follows graph.hierarchy)
    (hresolve : graph.resolve? inst.component key = some node) (halias : node.isAlias = true) :
    ∃ steps last, 0 < steps ∧ graph.followed? steps node = some last ∧ last.isAlias = false ∧
      ∃ host ∈ inst :: inst.parents, host.component = last.host ∧
        ∃ product, wiring.product? last.key = some product ∧
          (∀ type, wiring.provider host last.key type =
            if product = type then .ok ⟨host, last.key, [], type⟩
            else .error (.incorrectType last.key type.name)) ∧
          ∀ type provider, wiring.provider inst key type = .ok provider →
            let casts := wiring.castKeys (graph.aliasKeys steps node)
            provider = ⟨host, last.key, casts, type⟩ ∧ wiring.Composes casts product type ∧
              ∀ (alive : List Nat) (bound : Nat) (context : Context) (store : Store),
                let world := World.mk wiring alive
                let made := world.serveWithin bound (.call ⟨host, last.key, [], product⟩ context) store
                world.serveWithin bound (.call provider context) store =
                  (made.1.map (wiring.castAlong casts), made.2) := by
  have hnode : node ∈ graph.nodes := (hsound.keyed.of_resolve? hresolve).1
  rcases hsound.exists_followed? hclosed hnode with ⟨steps, _, last, _, hfollowed, hend⟩
  cases steps with
  | zero =>
    -- Without a step the last node would be the alias itself.
    cases hfollowed
    simp [halias] at hend
  | succ steps =>
    rcases hsound.exists_edge_of_followed? hnode hfollowed with ⟨other, hother, asked, hasked, hedge⟩
    have hbuilt := hsound.kind_of_requested hother (List.mem_append_left _ hasked) hedge
    rcases provider_eq_foldr hsound hplan hfollows hresolve hfollowed with
      ⟨host, hmem, hcomponent, hlocal, hchain⟩
    rcases provider_eq_of_constructed hsound hplan hfits (hfollows.of_mem hsound.rooted hmem) hlocal
      hend hbuilt with ⟨product, hproduct, hprovider⟩
    refine ⟨steps + 1, last, Nat.succ_pos _, hfollowed, hend, host, hmem, hcomponent, product,
      hproduct, hprovider, ?_⟩
    intro type provider hok
    have hbare : ∀ type inner, wiring.provider host last.key type = .ok inner →
        product = type ∧ inner = ⟨host, last.key, [], type⟩ := by
      intro type inner hinner
      rw [hprovider] at hinner
      split at hinner
      · exact ⟨by assumption, (Except.ok.inj hinner).symm⟩
      · simp at hinner
    have htyped : ∀ type inner, wiring.provider host last.key type = .ok inner →
        inner.type = type := by
      intro type inner hinner
      simp [(hbare type inner hinner).2]
    rcases eq_of_foldr_viaAlias htyped ((hchain type).symm.trans hok) with
      ⟨source, inner, hinner, hcomposes, rfl⟩
    rcases hbare source inner hinner with ⟨rfl, rfl⟩
    refine ⟨by simp, hcomposes, ?_⟩
    intro alive bound context store world made
    simp only [List.append_nil]
    exact world.serveWithin_eq_map bound _ product context store

end Sound
end Wiring
end ObjectGraph
