import ObjectGraph.Proofs.Live.Founded
import ObjectGraph.Proofs.Live.Located

/-!
# Refusals — why a lookup fails

A lookup fails because no instance on the way up hosts the key, because only a factory builds what is
hosted, or because it is of another type. An alias asks for its target in turn, and what goes wrong
with the target goes wrong with the alias.

* `Wiring.Refuses` — the reasons, each with the error of the key that was asked for there;
* `Wiring.refuses_of_providerAt` — one entry;
* `Wiring.refuses_of_provider` — there are no other reasons in a sound graph.
-/

namespace ObjectGraph

namespace Wiring

/-- Why an instance refuses to look a key up as a provider of a type. An alias looks its target up from
the instance that hosts the alias, and what goes wrong there is passed on. -/
inductive Refuses (wiring : Wiring) : Instance → Key → ValueType → ResolveError → Prop where
  | unhosted {inst : Instance} {key : Key} {type : ValueType}
      (hhost : wiring.host? inst key = none) :
      wiring.Refuses inst key type (.noProviderFound key)
  | assisted {inst host : Instance} {key : Key} {type : ValueType} {entry : Entry}
      (hhost : wiring.host? inst key = some (host, entry)) (hkind : entry.kind = .assistedOnly) :
      wiring.Refuses inst key type (.assistedConstruction key)
  | mistyped {inst host : Instance} {key : Key} {type product : ValueType} {entry : Entry}
      (hhost : wiring.host? inst key = some (host, entry)) (hkind : entry.kind.Yields)
      (hproduct : wiring.product? key = some product) (htype : product ≠ type) :
      wiring.Refuses inst key type (.incorrectType key type.name)
  | target {inst host : Instance} {key target : Key} {type : ValueType} {entry : Entry}
      {error : ResolveError} (hhost : wiring.host? inst key = some (host, entry))
      (htarget : entry.target? = some target) (hcast : wiring.cast? key = none)
      (hrefuses : wiring.Refuses host target type error) : wiring.Refuses inst key type error
  | source {inst host : Instance} {key target : Key} {type source product : ValueType}
      {entry : Entry} {error : ResolveError}
      (hhost : wiring.host? inst key = some (host, entry))
      (htarget : entry.target? = some target) (hcast : wiring.cast? key = some (source, product))
      (hrefuses : wiring.Refuses host target source error) : wiring.Refuses inst key type error
  | miscast {inst host : Instance} {key target : Key} {type source product : ValueType}
      {entry : Entry} {provider : Provider}
      (hhost : wiring.host? inst key = some (host, entry))
      (htarget : entry.target? = some target) (hcast : wiring.cast? key = some (source, product))
      (hprovider : wiring.provider host target source = .ok provider) (htype : product ≠ type) :
      wiring.Refuses inst key type (.incorrectType key type.name)

section Lookups

variable {wiring : Wiring} {graph : Graph} {inst host : Instance} {key : Key} {type : ValueType}
  {error : ResolveError}

/-- One entry. An alias has a target, whose lookup is refused for such a reason in turn. -/
theorem refuses_of_providerAt (hfits : wiring.Fits) {entry : Entry}
    (hhost : wiring.host? inst key = some (host, entry))
    (halias : entry.kind = .aliasOf → ∃ target, entry.target? = some target)
    (hnext : ∀ target, entry.target? = some target → ∀ {type error},
      wiring.provider host target type = .error error → wiring.Refuses host target type error)
    (herror : wiring.providerAt (wiring.provider host) host entry type = .error error) :
    wiring.Refuses inst key type error := by
  have hentry : wiring.entry? host.component key = some entry := (Instance.search_eq_some hhost).2.1
  simp only [providerAt, key_of_entry? hentry] at herror
  cases hkind : entry.kind with
  | assistedOnly =>
    simp only [hkind] at herror
    cases herror
    exact .assisted hhost hkind
  | aliasOf =>
    rcases halias hkind with ⟨target, htarget⟩
    simp only [hkind, htarget] at herror
    split at herror
    · rename_i hcast
      exact .target hhost htarget hcast (hnext target htarget herror)
    · rename_i source product hcast
      split at herror
      · rename_i other hother
        cases herror
        exact .source hhost htarget hcast (hnext target htarget hother)
      · rename_i provider hprovider
        split at herror
        · simp at herror
        · rename_i htype
          cases herror
          exact .miscast hhost htarget hcast hprovider htype
  | _ =>
    have hyields : entry.kind.Yields := by simp [hkind, ProviderKind.Yields]
    have hproduct := hfits.product?_isSome hentry (by simp [hkind])
    rcases Option.isSome_iff_exists.1 hproduct with ⟨product, hproduct⟩
    simp only [hkind, hproduct] at herror
    split at herror
    · simp at herror
    · rename_i htype
      cases herror
      exact .mistyped hhost hyields hproduct htype

/-- In a sound graph an alias has a target of a smaller rank, so a lookup is refused for one of these
reasons only. -/
theorem refuses_of_provider (hsound : graph.Sound) (hplan : wiring.plan = .ofGraph graph)
    (hfits : wiring.Fits) (hfollows : inst.Follows graph.hierarchy)
    (herror : wiring.provider inst key type = .error error) :
    wiring.Refuses inst key type error := by
  induction hrank : (graph.resolve? inst.component key).elim 0 fun node => graph.rank node + 1
    using Nat.strong_induction_on generalizing inst key type error with
  | _ limit ih =>
    cases hresolve : graph.resolve? inst.component key with
    | none =>
      cases (provider_eq_error hsound hplan hfollows hresolve type).symm.trans herror
      exact .unhosted (host?_eq_none hsound hplan hfollows hresolve)
    | some node =>
      rcases host?_of_resolve? hsound hplan hfollows hresolve with
        ⟨host, hmem, hcomponent, _, hhost, _⟩
      have hnode := (hsound.keyed.of_resolve? hresolve).1
      rw [provider_eq_providerAt hsound hplan hfollows hhost] at herror
      refine refuses_of_providerAt hfits hhost ?_ ?_ herror
      · intro hkind
        rcases hsound.aliased node hnode (ProviderKind.isAlias_of_ofNode hkind) with
          ⟨target, hdependencies⟩
        refine ⟨target, ?_⟩
        simp only [Entry.target?, hkind]
        simp [Entry.ofNode, hdependencies]
      · -- The target is looked up at the host, where it is unhosted or has a smaller rank.
        intro target htarget type error hother
        refine ih _ ?_ (hfollows.of_mem hsound.rooted hmem) hother rfl
        simp only [hresolve, Option.elim_some] at hrank
        cases hnext : graph.resolve? host.component target with
        | none =>
          simp only [Option.elim_none]
          omega
        | some next =>
          have hlt := rank_lt_of_target? hsound hnode htarget (hcomponent ▸ hnext)
          simp only [Option.elim_some]
          omega

end Lookups
end Wiring
end ObjectGraph
