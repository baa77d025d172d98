import ObjectGraph.Live.Blueprint
import ObjectGraph.Proofs.Plan

/-!
# Blueprints — registrations that fit the entries of a plan

A blueprint that wires a plan has for every entry the sort of registration that the kind of the entry
asks for, so a factory never stands behind an entry that a constructor builds.

* `Wiring.Fits` — no entry is at odds with the registrations;
* `Blueprint.fits_of_wire` — what is wired fits;
* `Wiring.Fits.kind_of_factory` — factories stand behind factory entries only;
* `Wiring.Fits.construct_of_kind`, `Wiring.Fits.factory_of_kind` — what stands behind an entry.
-/

namespace ObjectGraph

namespace Wiring

/-- Every entry has the registration that it needs, and none that it must not have. -/
def Fits (wiring : Wiring) : Prop :=
  ∀ component key entry, wiring.entry? component key = some entry →
    Blueprint.entryError? ⟨wiring.registrations⟩ component entry = none

variable {wiring : Wiring} {component : ComponentId} {key : Key}

theorem key_of_entry? {entry : Entry} (h : wiring.entry? component key = some entry) :
    entry.key = key := by
  rcases Option.bind_eq_some_iff.1 h with ⟨found, _, hentry⟩
  simpa using List.find?_some hentry

theorem Fits.kind_of_factory (h : wiring.Fits) {product : TypeName} {script : List Action}
    (hfactory : wiring.registrations.find? key = some (.factory product script))
    {kind : ProviderKind} (hkind : wiring.kind? component key = some kind) : kind = .factory := by
  rcases Option.map_eq_some_iff.1 hkind with ⟨entry, hentry, rfl⟩
  have hnone := h component key entry hentry
  have hkey := key_of_entry? hentry
  simp only [Blueprint.entryError?, hkey, hfactory] at hnone
  -- A factory that is registered for an entry of another kind is an error of the blueprint.
  cases hentryKind : entry.kind with
  | factory => rfl
  | «scoped» => simp [hentryKind] at hnone
  | unscoped => simp [hentryKind] at hnone
  | aliasOf => simp [hentryKind] at hnone
  | assistedOnly => simp [hentryKind] at hnone

/-- A constructor is registered for whatever is constructed on request. -/
theorem Fits.construct_of_kind (h : wiring.Fits) {kind : ProviderKind}
    (hkind : wiring.kind? component key = some kind)
    (hconstructed : kind = .scoped ∨ kind = .unscoped) :
    ∃ type context script,
      wiring.registrations.find? key = some (.construct type context script) := by
  rcases Option.map_eq_some_iff.1 hkind with ⟨entry, hentry, rfl⟩
  have hnone := h component key entry hentry
  simp only [Blueprint.entryError?, key_of_entry? hentry] at hnone
  rcases hconstructed with hkind | hkind
  all_goals
    cases hfound : wiring.registrations.find? key with
    | none => simp [hkind, hfound] at hnone
    | some registration => cases registration <;> simp [hkind, hfound] at hnone ⊢

theorem Fits.factory_of_kind (h : wiring.Fits)
    (hkind : wiring.kind? component key = some .factory) :
    ∃ product script, wiring.registrations.find? key = some (.factory product script) := by
  rcases Option.map_eq_some_iff.1 hkind with ⟨entry, hentry, hkind⟩
  have hnone := h component key entry hentry
  simp only [Blueprint.entryError?, key_of_entry? hentry] at hnone
  cases hfound : wiring.registrations.find? key with
  | none => simp [hkind, hfound] at hnone
  | some registration => cases registration <;> simp [hkind, hfound] at hnone ⊢

end Wiring

namespace Blueprint

variable {blueprint : Blueprint} {plan : Plan} {wiring : Wiring}

theorem wire_eq_ok (h : blueprint.wire plan = .ok wiring) :
    blueprint.error? plan = none ∧ wiring = ⟨plan, blueprint.registrations⟩ := by
  simp only [wire] at h
  split at h
  · simp at h
  · rename_i hnone
    exact ⟨hnone, (Except.ok.inj h).symm⟩

theorem fits_of_wire (h : blueprint.wire plan = .ok wiring) : wiring.Fits := by
  rcases wire_eq_ok h with ⟨hnone, rfl⟩
  have hentries : ∀ component ∈ plan.components, ∀ entry ∈ component.providers,
      blueprint.entryError? component.id entry = none := by
    simp only [error?] at hnone
    split at hnone
    · simp at hnone
    · intro component hcomponent entry hentry
      have hproviders := List.findSome?_eq_none_iff.1 hnone component hcomponent
      exact List.findSome?_eq_none_iff.1 hproviders entry hentry
  -- The entries found by component and key are among the listed ones.
  intro component key entry hentry
  rcases Option.bind_eq_some_iff.1 hentry with ⟨found, hfound, hprovider⟩
  have hid : found.id = component := by
    simpa using List.find?_some hfound
  simp only [← hid]
  exact hentries found (List.mem_of_find?_eq_some hfound) entry
    (List.mem_of_find?_eq_some hprovider)

end Blueprint
end ObjectGraph
