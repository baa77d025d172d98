import ObjectGraph.Proofs.Live.Blueprint
import ObjectGraph.Proofs.Live.Lookup

/-!
# Providers — which entry a lookup uses, without a bound

The provider of a key is made from the entry of the node that the key resolves to. An alias leads along
a construction edge, so chains of aliases go down the ranks of a sound graph and no bound of at least
that many nodes is ever reached.

* `Wiring.providerAt` — the provider that an entry of an instance gives;
* `Wiring.providerWithin_eq_of_lt`, `Wiring.providerWithin_eq_provider` — bounds above the rank agree;
* `Wiring.provider_eq_providerAt` — a lookup against the entry of the resolved node;
* `Wiring.hosted_of_providerWithin`, `Wiring.reaches_of_providerWithin` — the entry that a provider
  belongs to, on the way up and along the edges.
-/

namespace ObjectGraph

namespace Instance

/-- The way up from an instance on the way up is a part of it. -/
theorem upwards_subset {inst host : Instance} (h : host ∈ inst :: inst.parents) :
    host :: host.parents ⊆ inst :: inst.parents := by
  rcases inst with ⟨frame, above⟩
  induction above generalizing frame with
  | nil =>
    have hsame : host = ⟨frame, []⟩ := by
      simpa [parents, parentsOf] using h
    simp [hsame]
  | cons next rest ih =>
    rcases List.mem_cons.1 h with rfl | habove
    · exact List.Subset.refl _
    · exact List.Subset.trans (ih next habove) (List.subset_cons_self _ _)

end Instance

namespace Wiring

variable (wiring : Wiring)

/-- The provider that an entry of an instance gives; `next` looks up the target of an alias. -/
def providerAt (next : Key → ValueType → Except ResolveError Provider) (host : Instance)
    (entry : Entry) (type : ValueType) : Except ResolveError Provider :=
  match entry.kind with
  | .assistedOnly => .error (.assistedConstruction entry.key)
  | .scoped | .unscoped | .factory =>
    match wiring.product? entry.key with
    | none => .error (.noProviderFound entry.key)
    | some product =>
      if product = type then .ok ⟨host, entry.key, [], type⟩
      else .error (.incorrectType entry.key type.name)
  | .aliasOf =>
    match entry.target? with
    | none => .error (.noProviderFound entry.key)
    | some target =>
      match wiring.cast? entry.key with
      | none => next target type
      | some (source, product) =>
        match next target source with
        | .error error => .error error
        | .ok provider =>
          if product = type then
            .ok (provider.castBy entry.key type)
          else
            .error (.incorrectType entry.key type.name)

variable {wiring} {graph : Graph} {inst host : Instance} {key : Key} {node : Node}
  {type : ValueType}

/-! ## Bounded lookups -/

theorem providerWithin_eq_error (h : wiring.host? inst key = none) (bound : Nat)
    (type : ValueType) :
    wiring.providerWithin bound inst key type = .error (.noProviderFound key) := by
  unfold providerWithin
  simp [h]

theorem providerWithin_succ {entry : Entry} (h : wiring.host? inst key = some (host, entry))
    (bound : Nat) (type : ValueType) :
    wiring.providerWithin (bound + 1) inst key type =
      wiring.providerAt (wiring.providerWithin bound host) host entry type := by
  have hkey : entry.key = key := key_of_entry? (Instance.search_eq_some h).2.1
  conv_lhs => unfold providerWithin
  simp only [h, providerAt, hkey]
  -- Both sides match on the same kind, target and cast.
  cases entry.kind with
  | aliasOf => cases entry.target? <;> rfl
  | _ => rfl

theorem providerAt_congr {first second : Key → ValueType → Except ResolveError Provider}
    {entry : Entry} (h : ∀ target, entry.target? = some target → first target = second target)
    (host : Instance) (type : ValueType) :
    wiring.providerAt first host entry type = wiring.providerAt second host entry type := by
  simp only [providerAt]
  cases entry.kind with
  | aliasOf =>
    cases htarget : entry.target? with
    | none => rfl
    | some target => simp only [h target htarget]
  | _ => rfl

/-! ## Entries of nodes -/

section Sound

variable (hsound : graph.Sound) (hplan : wiring.plan = .ofGraph graph)

theorem target?_ofNode {target : Key}
    (h : (Entry.ofNode graph node).target? = some target) : target ∈ node.dependencies := by
  simp only [Entry.target?] at h
  split at h
  · exact List.mem_of_head? h
  all_goals simp at h

include hsound in
/-- What an alias leads to is constructed before it. -/
theorem rank_lt_of_target? (hnode : node ∈ graph.nodes) {target : Key} {next : Node}
    (htarget : (Entry.ofNode graph node).target? = some target)
    (hresolve : graph.resolve? node.host target = some next) : graph.rank next < graph.rank node :=
  hsound.rank_lt ⟨hnode, target, target?_ofNode htarget, hresolve⟩

include hsound hplan

theorem host?_of_resolve? (hfollows : inst.Follows graph.hierarchy)
    (hresolve : graph.resolve? inst.component key = some node) :
    ∃ host ∈ inst :: inst.parents, host.component = node.host ∧
      graph.local? host.component key = some node ∧
        wiring.host? inst key = some (host, .ofNode graph node) ∧
          wiring.host? host key = some (host, .ofNode graph node) := by
  rcases hfollows.seenFrom?_of_resolve? hsound.keyed hresolve with
    ⟨host, hmem, hcomponent, hlocal, hseen⟩
  have hagain := (Graph.seenFrom?_eq_some hseen).2.2
  refine ⟨host, hmem, hcomponent, hlocal, ?_, ?_⟩
  · simp [host?_eq hsound hplan, hseen]
  · simp [host?_eq hsound hplan, hagain]

theorem resolve?_of_host? (hfollows : inst.Follows graph.hierarchy) {entry : Entry}
    (hhost : wiring.host? inst key = some (host, entry)) :
    ∃ node, graph.resolve? inst.component key = some node ∧
      graph.local? host.component key = some node ∧ entry = .ofNode graph node := by
  cases hresolve : graph.resolve? inst.component key with
  | none =>
    have hnone := hfollows.seenFrom?_eq_none hresolve
    simp [host?_eq hsound hplan, hnone] at hhost
  | some node =>
    rcases hfollows.seenFrom?_of_resolve? hsound.keyed hresolve with
      ⟨other, _, _, hlocal, hseen⟩
    simp only [host?_eq hsound hplan, hseen, Option.map_some, Option.some.injEq,
      Prod.mk.injEq] at hhost
    rcases hhost with ⟨rfl, rfl⟩
    exact ⟨node, rfl, hlocal, rfl⟩

theorem host?_eq_none (hfollows : inst.Follows graph.hierarchy)
    (hresolve : graph.resolve? inst.component key = none) : wiring.host? inst key = none := by
  simp [host?_eq hsound hplan, hfollows.seenFrom?_eq_none hresolve]

/-- One more round changes nothing if there are more rounds than nodes to go down to. -/
theorem providerWithin_succ_eq (hfollows : inst.Follows graph.hierarchy) {bound : Nat}
    (hbound : ∀ node, graph.resolve? inst.component key = some node → graph.rank node < bound)
    (type : ValueType) :
    wiring.providerWithin (bound + 1) inst key type =
      wiring.providerWithin bound inst key type := by
  induction bound generalizing inst key type with
  | zero =>
    cases hresolve : graph.resolve? inst.component key with
    | none =>
      have hnone := host?_eq_none hsound hplan hfollows hresolve
      simp only [providerWithin_eq_error hnone]
    | some node => exact absurd (hbound node hresolve) (Nat.not_lt_zero _)
  | succ bound ih =>
    cases hresolve : graph.resolve? inst.component key with
    | none =>
      have hnone := host?_eq_none hsound hplan hfollows hresolve
      simp only [providerWithin_eq_error hnone]
    | some node =>
      rcases host?_of_resolve? hsound hplan hfollows hresolve with
        ⟨host, hmem, hcomponent, hlocal, hhost, _⟩
      rw [providerWithin_succ hhost, providerWithin_succ hhost]
      apply providerAt_congr
      -- The target is looked up at the host of the alias, where it has a smaller rank.
      intro target htarget
      funext source
      apply ih (hfollows.of_mem hsound.rooted hmem)
      intro next hnext
      have hlt := rank_lt_of_target? hsound (hsound.keyed.of_local? hlocal).1 htarget
        (hcomponent ▸ hnext)
      have hle := hbound node hresolve
      omega

theorem providerWithin_eq_of_lt (hfollows : inst.Follows graph.hierarchy) {bound more : Nat}
    (hbound : ∀ node, graph.resolve? inst.component key = some node → graph.rank node < bound)
    (hle : bound ≤ more) (type : ValueType) :
    wiring.providerWithin more inst key type = wiring.providerWithin bound inst key type := by
  induction more, hle using Nat.le_induction with
  | base => rfl
  | succ more hle ih =>
    calc
      wiring.providerWithin (more + 1) inst key type = wiring.providerWithin more inst key type := by
        apply providerWithin_succ_eq hsound hplan hfollows
        intro node hnode
        exact Nat.lt_of_lt_of_le (hbound node hnode) hle
      _ = wiring.providerWithin bound inst key type := ih

theorem rank_lt_planSize (hresolve : graph.resolve? inst.component key = some node) :
    graph.rank node < wiring.plan.size := by
  have hnode : node ∈ graph.nodes := (hsound.keyed.of_resolve? hresolve).1
  calc
    graph.rank node < graph.size := Graph.Sound.rank_lt_size hnode
    _ ≤ wiring.plan.size := by
      simpa only [hplan] using hsound.size_le_planSize

/-- Every bound above the rank of the node yields the provider. -/
theorem providerWithin_eq_provider (hfollows : inst.Follows graph.hierarchy) {bound : Nat}
    (hbound : ∀ node, graph.resolve? inst.component key = some node → graph.rank node < bound)
    (type : ValueType) :
    wiring.providerWithin bound inst key type = wiring.provider inst key type := by
  have hmany : ∀ node, graph.resolve? inst.component key = some node →
      graph.rank node < wiring.plan.size := by
    intro node hnode
    exact rank_lt_planSize hsound hplan hnode
  rcases Nat.le_total bound wiring.plan.size with hle | hle
  · exact (providerWithin_eq_of_lt hsound hplan hfollows hbound hle type).symm
  · exact providerWithin_eq_of_lt hsound hplan hfollows hmany hle type

theorem provider_eq_error (hfollows : inst.Follows graph.hierarchy)
    (hresolve : graph.resolve? inst.component key = none) (type : ValueType) :
    wiring.provider inst key type = .error (.noProviderFound key) :=
  providerWithin_eq_error (host?_eq_none hsound hplan hfollows hresolve) _ type

/-- A lookup uses the entry of the resolved node, in the instance that hosts it. -/
theorem provider_eq_providerAt (hfollows : inst.Follows graph.hierarchy)
    (hhost : wiring.host? inst key = some (host, .ofNode graph node)) (type : ValueType) :
    wiring.provider inst key type =
      wiring.providerAt (wiring.provider host) host (.ofNode graph node) type := by
  have hbound : ∀ other, graph.resolve? inst.component key = some other →
      graph.rank other < wiring.plan.size := by
    intro other hother
    exact rank_lt_planSize hsound hplan hother
  calc
    wiring.provider inst key type = wiring.providerWithin (wiring.plan.size + 1) inst key type :=
      (providerWithin_succ_eq hsound hplan hfollows hbound type).symm
    _ = wiring.providerAt (wiring.provider host) host (.ofNode graph node) type :=
      providerWithin_succ hhost _ type

/-- What only its factory builds is refused, whatever the type. -/
theorem provider_eq_assisted (hfollows : inst.Follows graph.hierarchy)
    (hresolve : graph.resolve? inst.component key = some node)
    (hkind : (Entry.ofNode graph node).kind = .assistedOnly) (type : ValueType) :
    wiring.provider inst key type = .error (.assistedConstruction key) := by
  rcases host?_of_resolve? hsound hplan hfollows hresolve with ⟨host, _, _, _, hhost, _⟩
  have hkey : (Entry.ofNode graph node).key = key :=
    (hsound.keyed.of_resolve? hresolve).2.2
  rw [provider_eq_providerAt hsound hplan hfollows hhost]
  simp [providerAt, hkind, hkey]

end Sound

/-! ## Hosts -/

/-- Looking a key up from the instance that hosts it makes no difference. -/
theorem provider_eq_of_host? {entry : Entry} (hhost : wiring.host? inst key = some (host, entry))
    (type : ValueType) : wiring.provider inst key type = wiring.provider host key type := by
  have hagain : wiring.host? host key = some (host, entry) := (Instance.search_eq_some hhost).2.2
  simp only [provider]
  unfold providerWithin
  simp only [hhost, hagain]

/-- A provider belongs to an entry of an instance on the way up. -/
theorem hosted_of_providerWithin {bound : Nat} {provider : Provider}
    (h : wiring.providerWithin bound inst key type = .ok provider) :
    provider.host ∈ inst :: inst.parents ∧
      ∃ entry, wiring.entry? provider.host.component provider.key = some entry ∧
        entry.kind ≠ .aliasOf := by
  induction bound generalizing inst key type provider with
  | zero =>
    rcases providerWithin_eq_ok h with ⟨host, entry, hhost, hcase⟩
    rcases Instance.search_eq_some hhost with ⟨hmem, hentry, _⟩
    rcases hcase with ⟨hkind, rfl⟩ | ⟨target, fewer, source, inner, hbound, _⟩
    · exact ⟨hmem, entry, hentry, hkind⟩
    · simp at hbound
  | succ bound ih =>
    rcases providerWithin_eq_ok h with ⟨host, entry, hhost, hcase⟩
    rcases Instance.search_eq_some hhost with ⟨hmem, hentry, _⟩
    rcases hcase with ⟨hkind, rfl⟩ | ⟨target, fewer, source, inner, hbound, _, hinner, heq, hkey⟩
    · exact ⟨hmem, entry, hentry, hkind⟩
    · cases hbound
      rcases ih hinner with ⟨habove, hfound⟩
      simp only [heq, hkey]
      exact ⟨Instance.upwards_subset hmem habove, hfound⟩

/-- Aliases lead along construction edges, to the node that the provider belongs to. -/
theorem reaches_of_providerWithin (hsound : graph.Sound) (hplan : wiring.plan = .ofGraph graph)
    (hfollows : inst.Follows graph.hierarchy) {bound : Nat} {provider : Provider}
    (h : wiring.providerWithin bound inst key type = .ok provider) :
    ∃ node last, graph.resolve? inst.component key = some node ∧
      graph.local? provider.host.component provider.key = some last ∧ graph.Reaches node last := by
  induction bound generalizing inst key type provider with
  | zero =>
    rcases providerWithin_eq_ok h with ⟨host, entry, hfound, hcase⟩
    rcases hcase with ⟨_, rfl⟩ | ⟨target, fewer, source, inner, hbound, _⟩
    · rcases resolve?_of_host? hsound hplan hfollows hfound with ⟨node, hresolve, hlocal, _⟩
      exact ⟨node, node, hresolve, hlocal, .refl⟩
    · simp at hbound
  | succ bound ih =>
    rcases providerWithin_eq_ok h with ⟨host, entry, hfound, hcase⟩
    rcases resolve?_of_host? hsound hplan hfollows hfound with ⟨node, hresolve, hlocal, hentry⟩
    rcases hcase with ⟨_, rfl⟩ | ⟨target, fewer, source, inner, hbound, htarget, hinner, heq, hkey⟩
    · exact ⟨node, node, hresolve, hlocal, .refl⟩
    · cases hbound
      have hmem := (Instance.search_eq_some hfound).1
      rcases ih (hfollows.of_mem hsound.rooted hmem) hinner with
        ⟨next, last, hnext, hlast, hreaches⟩
      rcases hsound.keyed.of_local? hlocal with ⟨hnode, hhost, _⟩
      have hedge : graph.Edge node next :=
        ⟨hnode, target, target?_ofNode (hentry ▸ htarget), hhost ▸ hnext⟩
      exact ⟨node, last, hresolve, by simpa only [heq, hkey] using hlast, .head hedge hreaches⟩

end Wiring
end ObjectGraph
