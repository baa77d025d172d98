import ObjectGraph.Live.Lookup

/-!
# Instances — the ones above, and no stamp used twice

An instance holds its parent, so everything above it is read off it. A census is a set of instances
that is closed upwards and in which the stamp tells the instance.

* `Instance.parents`, `Instance.Follows` — the instances above one, along the tree of the components;
* `Census` — the instances made so far;
* `Census.of_search` — a lookup upwards ends at an instance of the census;
* `Census.of_provider` — so does the way to a provider.
-/

namespace ObjectGraph

namespace Instance

def parentsOf : List Frame → List Instance
  | [] => []
  | frame :: above => ⟨frame, above⟩ :: parentsOf above

/-- The instances above one, the nearest first. -/
def parents (inst : Instance) : List Instance := parentsOf inst.above

variable {inst parent : Instance}

theorem parents_eq_nil (h : inst.above = []) : inst.parents = [] := by
  simp [parents, h, parentsOf]

theorem parent?_eq_some_iff : inst.parent? = some parent ↔ inst.above = parent.lineage := by
  rcases inst with ⟨frame, above⟩
  cases above with
  | nil => simp [parent?, lineage]
  | cons next rest =>
    rcases parent with ⟨other, others⟩
    simp [parent?, lineage]

theorem parents_eq_cons (h : inst.parent? = some parent) :
    inst.parents = parent :: parent.parents := by
  calc
    inst.parents = parentsOf inst.above := rfl
    _ = parentsOf parent.lineage := by simp only [parent?_eq_some_iff.1 h]
    _ = parent :: parent.parents := rfl

theorem map_frame_parentsOf (above : List Frame) : (parentsOf above).map frame = above := by
  induction above with
  | nil => rfl
  | cons next rest ih => simp [parentsOf, ih]

/-- The root of a live graph is what every way up in it ends at. -/
theorem rootStamp_of_getLast?_parents {root : Instance} (h : inst.parents.getLast? = some root) :
    inst.rootStamp = root.stamp := by
  have hlast : inst.above.getLast? = some root.frame := by
    calc
      inst.above.getLast? = (inst.parents.map frame).getLast? := by
        simp [parents, map_frame_parentsOf]
      _ = some root.frame := by simp [h]
  simp [rootStamp, hlast, stamp]

/-- The instances above one share the stamp of the root with it. -/
theorem rootStamp_of_mem_upwards {other : Instance} (h : other ∈ inst :: inst.parents) :
    other.rootStamp = inst.rootStamp := by
  have habove : ∀ frames, other ∈ parentsOf frames → ∀ frame : Frame,
      other.rootStamp = (⟨frame, frames⟩ : Instance).rootStamp := by
    intro frames
    induction frames with
    | nil => simp [parentsOf]
    | cons next rest ih =>
      intro hmem frame
      rcases List.mem_cons.1 hmem with rfl | hmem
      · simp [rootStamp, List.getLast?_cons]
      · simpa [rootStamp, List.getLast?_cons] using ih hmem next
  rcases List.mem_cons.1 h with rfl | hmem
  · rfl
  · exact habove inst.above hmem inst.frame

/-- The components of an instance and of those above it are the lineage of its component. -/
def Follows (hierarchy : Hierarchy) (inst : Instance) : Prop :=
  (inst :: inst.parents).map component = hierarchy.lineage inst.component

end Instance

/-! ## Providers -/

theorem Entry.kind_of_target? {entry : Entry} {target : Key}
    (h : entry.target? = some target) : entry.kind = .aliasOf := by
  simp only [target?] at h
  split at h
  · assumption
  all_goals simp at h

namespace Wiring

variable {wiring : Wiring}

/-- A provider is that of the entry found for the key, or of the entry that an alias leads to. -/
theorem providerWithin_eq_ok {bound : Nat} {inst : Instance} {key : Key} {type : ValueType}
    {provider : Provider} (h : wiring.providerWithin bound inst key type = .ok provider) :
    ∃ host entry, wiring.host? inst key = some (host, entry) ∧
      ((entry.kind ≠ .aliasOf ∧ provider = ⟨host, key, [], type⟩) ∨
        ∃ target fewer source inner, bound = fewer + 1 ∧ entry.target? = some target ∧
          wiring.providerWithin fewer host target source = .ok inner ∧
            provider.host = inner.host ∧ provider.key = inner.key) := by
  unfold providerWithin at h
  cases hhost : wiring.host? inst key with
  | none => simp [hhost] at h
  | some found =>
    rcases found with ⟨host, entry⟩
    refine ⟨host, entry, rfl, ?_⟩
    simp only [hhost] at h
    by_cases halias : entry.kind = .aliasOf
    · -- The target is looked up from the instance that hosts the alias, with a bound one less.
      right
      simp only [halias] at h
      split at h
      · simp at h
      · simp at h
      · rename_i target fewer htarget
        refine ⟨target, fewer, ?_⟩
        split at h
        · exact ⟨type, provider, rfl, htarget, h, rfl, rfl⟩
        · rename_i source product hcast
          split at h
          · simp at h
          · rename_i inner hinner
            split at h
            · cases h
              exact ⟨source, inner, rfl, htarget, hinner, rfl, rfl⟩
            · simp at h
    · left
      refine ⟨halias, ?_⟩
      -- A constructor or a factory serves the one type that it makes.
      cases hproduct : wiring.product? key with
      | none => cases hkind : entry.kind <;> simp [hkind, hproduct] at h halias
      | some product =>
        by_cases htype : product = type
        · cases hkind : entry.kind <;> simp [hkind, hproduct, htype] at h halias <;> exact h.symm
        · cases hkind : entry.kind <;> simp [hkind, hproduct, htype] at h halias

/-- A lookup ends where it starts if there is an entry. -/
theorem host?_of_own {inst : Instance} {key : Key} {entry : Entry}
    (h : wiring.entry? inst.component key = some entry) :
    wiring.host? inst key = some (inst, entry) := by
  have hfind : wiring.entry? inst.frame.component key = some entry := h
  unfold host? Instance.search
  simp [hfind]

/-- An entry of the instance itself is the one that the provider belongs to, if it is no alias. -/
theorem own_of_providerWithin {bound : Nat} {inst : Instance} {key : Key} {type : ValueType}
    {provider : Provider} {kind : ProviderKind} (hkind : wiring.kind? inst.component key = some kind)
    (halias : kind ≠ .aliasOf)
    (h : wiring.providerWithin bound inst key type = .ok provider) :
    provider.host = inst ∧ provider.key = key := by
  rcases Option.map_eq_some_iff.1 hkind with ⟨own, hown, rfl⟩
  rcases providerWithin_eq_ok h with ⟨host, entry, hhost, hcase⟩
  cases (host?_of_own hown).symm.trans hhost
  rcases hcase with ⟨_, rfl⟩ | ⟨target, _, _, _, _, htarget, _⟩
  · exact ⟨rfl, rfl⟩
  · exact absurd (Entry.kind_of_target? htarget) halias

/-- A lookup gives a provider of the type that is asked for. -/
theorem type_of_providerWithin {bound : Nat} {inst : Instance} {key : Key} {type : ValueType}
    {provider : Provider} (h : wiring.providerWithin bound inst key type = .ok provider) :
    provider.type = type := by
  fun_induction wiring.providerWithin bound inst key type generalizing provider with
  | case4 | case7 | case10 | case16 =>
    cases h
    rfl
  | case14 _ _ _ _ _ _ _ _ _ _ _ ih => exact ih h
  | _ => cases h

/-- A lookup fails for the key or the type that is asked for, whoever is alive. -/
theorem providerWithin_ne_dropped {bound : Nat} {inst : Instance} {key : Key} {type : ValueType}
    (component : ComponentId) :
    wiring.providerWithin bound inst key type ≠ .error (.componentDropped component) := by
  induction bound generalizing inst key type with
  | zero =>
    intro h
    unfold providerWithin at h
    repeat' split at h
    all_goals simp_all
  | succ bound ih =>
    intro h
    unfold providerWithin at h
    repeat' split at h
    all_goals first | exact ih h | simp_all

end Wiring

/-! ## Census -/

/-- Instances made so far: with an instance its parent, and every stamp at most once. -/
structure Census (known : Instance → Prop) (nextStamp : Nat) : Prop where
  parents : ∀ inst parent, known inst → inst.parent? = some parent → known parent
  distinct : ∀ a b, known a → known b → a.stamp = b.stamp → a = b
  below : ∀ inst, known inst → inst.stamp < nextStamp

namespace Census

variable {known : Instance → Prop} {nextStamp : Nat}

/-- Whatever is above a known instance is known. -/
theorem of_mem_parents (h : Census known nextStamp) {inst other : Instance} (hinst : known inst)
    (hother : other ∈ inst.parents) : known other := by
  rcases inst with ⟨frame, above⟩
  induction above generalizing frame with
  | nil => simp [Instance.parents, Instance.parentsOf] at hother
  | cons next rest ih =>
    have hparent : known ⟨next, rest⟩ := h.parents ⟨frame, next :: rest⟩ _ hinst rfl
    rcases List.mem_cons.1 hother with rfl | habove
    · exact hparent
    · exact ih next hparent habove

theorem of_search (h : Census known nextStamp) {α : Type} {find : ComponentId → Option α}
    {frame : Frame} {above : List Frame} (hknown : known ⟨frame, above⟩) {inst : Instance}
    {found : α} (hsearch : Instance.search find frame above = some (inst, found)) :
    known inst ∧ find inst.component = some found := by
  -- By induction on what is above: the lookup starts again from the parent.
  induction above generalizing frame with
  | nil =>
    unfold Instance.search at hsearch
    cases hfind : find frame.component with
    | none => simp [hfind] at hsearch
    | some value =>
      simp only [hfind, Option.some.injEq, Prod.mk.injEq] at hsearch
      rcases hsearch with ⟨rfl, rfl⟩
      exact ⟨hknown, hfind⟩
  | cons next rest ih =>
    unfold Instance.search at hsearch
    cases hfind : find frame.component with
    | none =>
      simp only [hfind] at hsearch
      exact ih (h.parents _ _ hknown rfl) hsearch
    | some value =>
      simp only [hfind, Option.some.injEq, Prod.mk.injEq] at hsearch
      rcases hsearch with ⟨rfl, rfl⟩
      exact ⟨hknown, hfind⟩

theorem of_providerWithin (h : Census known nextStamp) {wiring : Wiring} {bound : Nat}
    {inst : Instance} (hknown : known inst) {key : Key} {type : ValueType} {provider : Provider}
    (hprovider : wiring.providerWithin bound inst key type = .ok provider) :
    known provider.host := by
  induction bound generalizing inst key type provider with
  | zero =>
    rcases Wiring.providerWithin_eq_ok hprovider with ⟨host, entry, hhost, hcase⟩
    rcases hcase with ⟨_, rfl⟩ | ⟨target, fewer, source, inner, hbound, _⟩
    · exact (h.of_search hknown hhost).1
    · simp at hbound
  | succ bound ih =>
    rcases Wiring.providerWithin_eq_ok hprovider with ⟨host, entry, hhost, hcase⟩
    have hfound : known host := (h.of_search hknown hhost).1
    rcases hcase with ⟨_, rfl⟩ | ⟨target, fewer, source, inner, hbound, _, hinner, heq, _⟩
    · exact hfound
    · cases hbound
      -- A cast changes the type of a provider, not its host.
      simp only [heq]
      exact ih hfound hinner

/-- The way to a provider leads upwards only. -/
theorem of_provider (h : Census known nextStamp) {wiring : Wiring} {inst : Instance}
    (hknown : known inst) {key : Key} {type : ValueType} {provider : Provider}
    (hprovider : wiring.provider inst key type = .ok provider) : known provider.host :=
  h.of_providerWithin hknown hprovider

end Census
end ObjectGraph
