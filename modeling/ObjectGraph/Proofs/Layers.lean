import Mathlib.Logic.Relation
import ObjectGraph.Layers

/-!
# Layers — what scoped layers keep

A call goes inwards from layer to layer until one of them holds a value, or down to the closure. On its
way back a success fills every layer that it passes, and a failure fills none. So a layer that holds a
value holds the one of the layer that it wraps, and it never holds another one.

* `Layers.Encloses` — the layers on the way inwards;
* `Layers.Calls`, `Layers.calls_call` — a call as a derivation, with a constructor for each way to answer;
* `Layers.Sound` — a layer agrees with the one that it wraps;
* `Layers.Calls.runs_closure`, `Layers.Calls.rests` — when the closure is run;
* `Layers.Calls.sound`, `Layers.sound_after` — one call and any number of calls;
* `layers_keep_their_first_value` — calls in any order.
-/

namespace ObjectGraph

namespace Layers

variable {σ α ε : Type}

/-! ## The way inwards -/

/-- Every layer wraps an earlier one. -/
def Nested (inner : List Nat) : Prop :=
  ∀ entry ∈ inner.zipIdx, entry.1 ≤ entry.2

instance (inner : List Nat) : Decidable (Nested inner) :=
  inferInstanceAs (Decidable (∀ entry ∈ inner.zipIdx, entry.1 ≤ entry.2))

theorem Nested.le {inner : List Nat} (h : Nested inner) {index wrapped : Nat}
    (hwrapped : inner[index]? = some wrapped) : wrapped ≤ index :=
  h (wrapped, index) (List.mem_zipIdx_iff_getElem?.2 hwrapped)

/-- The layer that a scoped layer wraps. -/
def wrapped? (inner : List Nat) : Nat → Option Nat
  | 0 => none
  | index + 1 => inner[index]?

/-- Going inwards from one layer, in any number of steps, leads to another. -/
def Encloses (inner : List Nat) : Nat → Nat → Prop :=
  Relation.ReflTransGen fun layer wrapped => wrapped? inner layer = some wrapped

theorem encloses_succ_iff {inner : List Nat} {index wrapped other : Nat}
    (hwrapped : inner[index]? = some wrapped) :
    Encloses inner (index + 1) other ↔ other = index + 1 ∨ Encloses inner wrapped other := by
  constructor
  · intro h
    rcases Relation.ReflTransGen.cases_head h with rfl | ⟨next, hnext, hrest⟩
    · exact Or.inl rfl
    · rw [wrapped?, hwrapped] at hnext
      cases hnext
      exact Or.inr hrest
  · rintro (rfl | hrest)
    · exact .refl
    · exact .head hwrapped hrest

theorem eq_zero_of_encloses {inner : List Nat} {other : Nat} (h : Encloses inner 0 other) :
    other = 0 := by
  rcases Relation.ReflTransGen.cases_head h with hsame | ⟨next, hnext, _⟩
  · exact hsame.symm
  · simp [wrapped?] at hnext

/-- The value that a layer holds; layer 0 holds none. -/
def held? (layers : Layers σ α) : Nat → Option α
  | 0 => none
  | index + 1 => layers.value? index

/-! ## Calls -/

/-- A value that a scoped layer keeps from now on. -/
def keep (layers : Layers σ α) (index : Nat) (value : α) : Layers σ α :=
  { layers with cached := layers.cached.set index (some value) }

theorem value?_keep_self {layers : Layers σ α} {index : Nat} (h : index < layers.cached.length)
    (value : α) : (layers.keep index value).value? index = some value := by
  simp [keep, value?, h]

theorem value?_keep_of_ne {layers : Layers σ α} {index other : Nat} (h : other ≠ index)
    (value : α) : (layers.keep index value).value? other = layers.value? other := by
  simp [keep, value?, List.getElem?_set_ne (Ne.symm h)]

/-- The ways in which a layer answers: by the closure, with its own value, or with what the layer that it
wraps answers. -/
inductive Calls (closure : Closure σ α ε) (context : Context) (layers : Layers σ α) :
    Nat → Except ε α → Layers σ α → Prop where
  | closure {result : Except ε α} {state : σ} :
      closure layers.state context = (result, state) →
        Calls closure context layers 0 result
          ⟨layers.inner, layers.cached, layers.calls + 1, state⟩
  | cached {index : Nat} {value : α} :
      layers.value? index = some value →
        Calls closure context layers (index + 1) (.ok value) layers
  | kept {next : Layers σ α} {index wrapped : Nat} {value : α} :
      layers.value? index = none → layers.inner[index]? = some wrapped →
        Calls closure context layers wrapped (.ok value) next →
          Calls closure context layers (index + 1) (.ok value) (next.keep index value)
  | failed {next : Layers σ α} {index wrapped : Nat} {error : ε} :
      layers.value? index = none → layers.inner[index]? = some wrapped →
        Calls closure context layers wrapped (.error error) next →
          Calls closure context layers (index + 1) (.error error) next

variable {closure : Closure σ α ε} {context : Context} {layers next : Layers σ α}

theorem calls_callWithin (hnested : Nested layers.inner) {bound layer : Nat} (hbound : layer ≤ bound)
    (hlayer : layer ≤ layers.inner.length) :
    Calls closure context layers layer (callWithin closure context bound layer layers).1
      (callWithin closure context bound layer layers).2 := by
  -- The bound suffices because the number of the wrapped layer is smaller.
  induction bound generalizing layer with
  | zero =>
    obtain rfl : layer = 0 := Nat.le_zero.1 hbound
    exact .closure rfl
  | succ bound ih =>
    cases layer with
    | zero => exact .closure rfl
    | succ index =>
      have hfound : layers.inner[index]? = some layers.inner[index] :=
        List.getElem?_eq_getElem hlayer
      have hle : layers.inner[index] ≤ index := hnested.le hfound
      have hwrapped := ih (Nat.le_trans hle (Nat.le_of_succ_le_succ hbound))
        (Nat.le_trans hle (Nat.le_of_succ_le hlayer))
      simp only [callWithin, hfound, Option.getD_some]
      cases hvalue : layers.value? index with
      | some value => exact .cached hvalue
      | none =>
        rcases hanswer : callWithin closure context bound layers.inner[index] layers with
          ⟨result, next⟩
        rw [hanswer] at hwrapped
        cases result with
        | ok value => exact .kept hvalue hfound hwrapped
        | error error => exact .failed hvalue hfound hwrapped

theorem calls_call (hnested : Nested layers.inner) {layer : Nat}
    (hlayer : layer ≤ layers.inner.length) :
    Calls closure context layers layer (layers.call closure layer context).1
      (layers.call closure layer context).2 :=
  calls_callWithin hnested (Nat.le_refl layer) hlayer

/-- A layer that holds a value answers with it, whatever the context, and changes nothing. -/
theorem call_of_held? {layer : Nat} {value : α} (h : layers.held? layer = some value)
    (closure : Closure σ α ε) (context : Context) :
    layers.call closure layer context = (.ok value, layers) := by
  cases layer with
  | zero => simp [held?] at h
  | succ index =>
    have hvalue : layers.value? index = some value := h
    simp only [call, callWithin, hvalue]

/-! ## What a call keeps -/

/-- There is a place for the value of every scoped layer, and a layer that holds a value holds the one of
the layer that it wraps, if that one is scoped too. -/
structure Sound (layers : Layers σ α) : Prop where
  nested : Nested layers.inner
  length_eq : layers.cached.length = layers.inner.length
  agree : ∀ {index wrapped value}, layers.inner[index]? = some (wrapped + 1) →
    layers.value? index = some value → layers.value? wrapped = some value

theorem sound_start {inner : List Nat} (h : Nested inner) (state : σ) :
    (start inner state : Layers σ α).Sound where
  nested := h
  length_eq := by simp [start]
  agree := by
    intro index wrapped value _ hvalue
    -- At the start no layer holds a value.
    have hnone : (start inner state : Layers σ α).value? index = none := by
      simp only [start, value?, List.getElem?_map]
      cases inner[index]? with
      | none => rfl
      | some wrapped => rfl
    simp [hnone] at hvalue

/-- A value is found on every scoped layer further inwards. -/
theorem Sound.held?_of_encloses (h : layers.Sound) {layer other : Nat} {value : α}
    (hheld : layers.held? layer = some value) (hother : Encloses layers.inner layer other)
    (hscoped : other ≠ 0) : layers.held? other = some value := by
  induction hother with
  | refl => exact hheld
  | @tail middle wrapped hmiddle hwrapped ih =>
    -- Layer 0 wraps nothing, so the layer in between is scoped.
    rcases Nat.exists_eq_succ_of_ne_zero hscoped with ⟨inside, rfl⟩
    cases middle with
    | zero => simp [wrapped?] at hwrapped
    | succ index => exact h.agree hwrapped (ih (Nat.succ_ne_zero index))

/-- An empty layer may keep what the layer that it wraps holds. -/
theorem Sound.keep (h : layers.Sound) {index wrapped : Nat} {value : α}
    (hwrapped : layers.inner[index]? = some wrapped) (hempty : layers.value? index = none)
    (hvalue : wrapped ≠ 0 → layers.held? wrapped = some value) : (layers.keep index value).Sound := by
  refine ⟨h.nested, ?_, ?_⟩
  · simpa [Layers.keep] using h.length_eq
  · intro outer inside kept houter hkept
    have houter : layers.inner[outer]? = some (inside + 1) := houter
    by_cases hsame : outer = index
    · -- The layer that is filled gets the value of the one that it wraps.
      subst hsame
      obtain rfl : wrapped = inside + 1 := Option.some.inj (hwrapped.symm.trans houter)
      have hlength : outer < layers.cached.length := by
        rw [h.length_eq]
        exact (List.getElem?_eq_some_iff.1 hwrapped).1
      rw [value?_keep_self hlength] at hkept
      rw [value?_keep_of_ne (Nat.ne_of_lt (h.nested.le hwrapped)), ← hkept]
      exact hvalue (Nat.succ_ne_zero inside)
    · rw [value?_keep_of_ne hsame] at hkept
      have hheld : layers.value? inside = some kept := h.agree houter hkept
      rw [value?_keep_of_ne]
      · exact hheld
      · -- No layer around the filled one holds a value, since it held none itself.
        rintro rfl
        simp [hempty] at hheld

namespace Calls

variable {layer : Nat} {result : Except ε α}

theorem inner_eq (h : Calls closure context layers layer result next) :
    next.inner = layers.inner := by
  induction h with
  | closure => rfl
  | cached => rfl
  | kept _ _ _ ih => exact ih
  | failed _ _ _ ih => exact ih

theorem length_eq (h : Calls closure context layers layer result next) :
    next.cached.length = layers.cached.length := by
  induction h with
  | closure => rfl
  | cached => rfl
  | kept _ _ _ ih => simpa [keep] using ih
  | failed _ _ _ ih => exact ih

/-- A failing call, like any call of layer 0, fills no layer. -/
theorem cached_eq_of_error {error : ε}
    (h : Calls closure context layers layer (.error error) next) : next.cached = layers.cached := by
  generalize hresult : (Except.error error : Except ε α) = result at h
  induction h with
  | closure => rfl
  | cached => simp at hresult
  | kept => simp at hresult
  | failed _ _ _ ih => exact ih hresult

theorem cached_eq_of_zero (h : Calls closure context layers 0 result next) :
    next.cached = layers.cached := by
  cases h with
  | closure => rfl

/-- A call leaves the layers outside of the called one alone. -/
theorem value?_of_le (h : Calls closure context layers layer result next)
    (hnested : Nested layers.inner) {other : Nat} (hother : layer ≤ other) :
    next.value? other = layers.value? other := by
  induction h with
  | closure => rfl
  | cached => rfl
  | kept _ hwrapped _ ih =>
    rw [value?_keep_of_ne (Nat.ne_of_gt hother)]
    exact ih (Nat.le_trans (hnested.le hwrapped) (Nat.le_of_succ_le hother))
  | failed _ hwrapped _ ih =>
    exact ih (Nat.le_trans (hnested.le hwrapped) (Nat.le_of_succ_le hother))

/-- What a layer holds it holds for good. -/
theorem value?_mono (h : Calls closure context layers layer result next) {other : Nat} {kept : α}
    (hkept : layers.value? other = some kept) : next.value? other = some kept := by
  induction h with
  | closure => exact hkept
  | cached => exact hkept
  | kept hnone _ _ ih =>
    rw [value?_keep_of_ne]
    · exact ih
    · rintro rfl
      simp [hnone] at hkept
  | failed _ _ _ ih => exact ih

theorem held?_mono (h : Calls closure context layers layer result next) {other : Nat} {kept : α}
    (hkept : layers.held? other = some kept) : next.held? other = some kept := by
  cases other with
  | zero => simp [held?] at hkept
  | succ index => exact h.value?_mono hkept

/-- A scoped layer that yields a value holds it. -/
theorem held?_of_ok {value : α} (h : Calls closure context layers layer (.ok value) next)
    (hsound : layers.Sound) (hscoped : layer ≠ 0) : next.held? layer = some value := by
  cases h with
  | closure => exact absurd rfl hscoped
  | cached hvalue => exact hvalue
  | kept _ hwrapped hinner =>
    refine value?_keep_self ?_ value
    rw [hinner.length_eq, hsound.length_eq]
    exact (List.getElem?_eq_some_iff.1 hwrapped).1

/-- After a call the layers agree as before. -/
theorem sound (h : Calls closure context layers layer result next) (hsound : layers.Sound) :
    next.Sound := by
  induction h with
  | closure => exact ⟨hsound.nested, hsound.length_eq, hsound.agree⟩
  | cached => exact hsound
  | failed _ _ _ ih => exact ih
  | @kept next index wrapped value hnone hwrapped hinner ih =>
    have hfound : next.inner[index]? = some wrapped := by
      rw [hinner.inner_eq]
      exact hwrapped
    -- The call of the wrapped layer has not come back to this one.
    have hempty : next.value? index = none := by
      rw [hinner.value?_of_le hsound.nested (hsound.nested.le hwrapped)]
      exact hnone
    exact ih.keep hfound hempty fun hscoped => hinner.held?_of_ok hsound hscoped

/-- What an empty layer holds further inwards is held from the layer that it wraps on. -/
theorem encloses_of_held? {index wrapped other : Nat} (hnone : layers.value? index = none)
    (hwrapped : layers.inner[index]? = some wrapped)
    (hother : Encloses layers.inner (index + 1) other)
    (hheld : (layers.held? other).isSome = true) : Encloses layers.inner wrapped other := by
  rcases (encloses_succ_iff hwrapped).1 hother with rfl | hrest
  · simp [held?, hnone] at hheld
  · exact hrest

/-- If a layer on the way inwards holds a value, the closure is not run. -/
theorem rests (h : Calls closure context layers layer result next) {other : Nat}
    (hother : Encloses layers.inner layer other) (hheld : (layers.held? other).isSome = true) :
    next.calls = layers.calls ∧ next.state = layers.state := by
  induction h with
  | closure =>
    obtain rfl := eq_zero_of_encloses hother
    simp [held?] at hheld
  | cached => exact ⟨rfl, rfl⟩
  | kept hnone hwrapped _ ih => exact ih (encloses_of_held? hnone hwrapped hother hheld)
  | failed hnone hwrapped _ ih => exact ih (encloses_of_held? hnone hwrapped hother hheld)

/-- If no layer on the way inwards holds a value, the closure is run once, and its result is the answer. -/
theorem runs_closure (h : Calls closure context layers layer result next)
    (hnone : ∀ other, Encloses layers.inner layer other → layers.held? other = none) :
    next.calls = layers.calls + 1 ∧ closure layers.state context = (result, next.state) := by
  induction h with
  | closure hrun => exact ⟨rfl, hrun⟩
  | @cached index value hvalue =>
    have hheld : layers.value? index = none := hnone (index + 1) .refl
    simp [hheld] at hvalue
  | kept _ hwrapped _ ih =>
    exact ih fun other hother => hnone other ((encloses_succ_iff hwrapped).2 (Or.inr hother))
  | failed _ hwrapped _ ih =>
    exact ih fun other hother => hnone other ((encloses_succ_iff hwrapped).2 (Or.inr hother))

/-- A value that is held on the way inwards is the answer. -/
theorem eq_ok_of_held? (h : Calls closure context layers layer result next) (hsound : layers.Sound)
    {other : Nat} {value : α} (hother : Encloses layers.inner layer other)
    (hheld : layers.held? other = some value) : result = .ok value := by
  have hscoped : other ≠ 0 := by
    rintro rfl
    simp [held?] at hheld
  have hsome : (layers.held? other).isSome = true := by simp [hheld]
  induction h with
  | closure => exact absurd (eq_zero_of_encloses hother) hscoped
  | @cached index kept hvalue =>
    have houter : layers.held? (index + 1) = some kept := hvalue
    have hsame := hsound.held?_of_encloses houter hother hscoped
    rw [hheld] at hsame
    rw [Option.some.inj hsame]
  | kept hnone hwrapped _ ih => exact ih (encloses_of_held? hnone hwrapped hother hsome)
  | failed hnone hwrapped _ ih => exact ih (encloses_of_held? hnone hwrapped hother hsome)

end Calls

/-! ## Calls one after the other -/

/-- The layers after some calls. -/
def after (closure : Closure σ α ε) (layers : Layers σ α) (made : List (Nat × Context)) :
    Layers σ α :=
  made.foldl (fun layers made => (layers.call closure made.1 made.2).2) layers

theorem length_run (closure : Closure σ α ε) (layers : Layers σ α) (made : List (Nat × Context)) :
    (layers.run closure made).length = made.length := by
  induction made generalizing layers with
  | nil => rfl
  | cons first rest ih => simp [run, ih]

theorem run_append (closure : Closure σ α ε) (layers : Layers σ α)
    (past rest : List (Nat × Context)) :
    layers.run closure (past ++ rest) =
      layers.run closure past ++ (layers.after closure past).run closure rest := by
  induction past generalizing layers with
  | nil => rfl
  | cons first past ih => simp [run, after, ih]

/-- What one call keeps any number of calls keep. -/
theorem sound_after (hsound : layers.Sound) {made : List (Nat × Context)}
    (hmade : ∀ each ∈ made, each.1 ≤ layers.inner.length) :
    (layers.after closure made).Sound ∧ (layers.after closure made).inner = layers.inner ∧
      ∀ layer value, layers.held? layer = some value →
        (layers.after closure made).held? layer = some value := by
  induction made generalizing layers with
  | nil => exact ⟨hsound, rfl, fun _ _ hheld => hheld⟩
  | cons first rest ih =>
    rcases List.forall_mem_cons.1 hmade with ⟨hfirst, hrest⟩
    have hcalls : Calls closure first.2 layers first.1 (layers.call closure first.1 first.2).1
        (layers.call closure first.1 first.2).2 := calls_call hsound.nested hfirst
    rw [← hcalls.inner_eq] at hrest
    rcases ih (hcalls.sound hsound) hrest with ⟨hafter, hinner, hkept⟩
    exact ⟨hafter, hinner.trans hcalls.inner_eq,
      fun layer value hheld => hkept layer value (hcalls.held?_mono hheld)⟩

end Layers

/-- Whatever the calls so far, a call runs the closure once, or not at all if the called layer or one
further inwards holds a value, which is the answer then. A failing call and a call of layer 0 fill no
layer. A scoped layer that has yielded a value yields it ever after, whatever the context, and holds it
together with the layer that it wraps. -/
theorem layers_keep_their_first_value {σ α ε : Type} (closure : Closure σ α ε) {inner : List Nat}
    (hinner : Layers.Nested inner) (state : σ) {past : List (Nat × Context)}
    (hpast : ∀ made ∈ past, made.1 ≤ inner.length) :
    let first : Layers σ α := .start inner state
    let layers := first.after closure past
    (∀ layer ≤ inner.length, ∀ context,
      let result := (layers.call closure layer context).1
      let next := (layers.call closure layer context).2
      (∀ rest, (first.run closure (past ++ (layer, context) :: rest))[past.length]? =
        some (result, next.calls)) ∧
      (∀ other value, Layers.Encloses inner layer other → layers.held? other = some value →
        result = .ok value ∧ next.calls = layers.calls ∧ next.state = layers.state) ∧
      ((∀ other, Layers.Encloses inner layer other → layers.held? other = none) →
        next.calls = layers.calls + 1 ∧ closure layers.state context = (result, next.state)) ∧
      (∀ error, result = .error error → next.cached = layers.cached) ∧
      (layer = 0 → next.cached = layers.cached) ∧
      ∀ value, result = .ok value → layer ≠ 0 →
        next.held? layer = some value ∧
        ∀ later, (∀ made ∈ later, made.1 ≤ inner.length) → ∀ other,
          let last := next.after closure later
          last.call closure layer other = (.ok value, last)) ∧
    ∀ layer wrapped value, Layers.wrapped? inner layer = some wrapped → wrapped ≠ 0 →
      layers.held? layer = some value → layers.held? wrapped = some value := by
  intro first layers
  rcases Layers.sound_after (Layers.sound_start hinner state) hpast with ⟨hsound, hkeeps, _⟩
  have hsame : layers.inner = inner := hkeeps
  have hsound : layers.Sound := hsound
  refine ⟨?_, ?_⟩
  · intro layer hlayer context result next
    have hcalls : Layers.Calls closure context layers layer result next :=
      Layers.calls_call hsound.nested (hsame.symm ▸ hlayer)
    refine ⟨?_, ?_, ?_, ?_, ?_, ?_⟩
    · intro rest
      rw [Layers.run_append, List.getElem?_append_right
          (Nat.le_of_eq (Layers.length_run closure first past)),
        Layers.length_run, Nat.sub_self]
      rfl
    · intro other value hother hheld
      have hother : Layers.Encloses layers.inner layer other := hsame.symm ▸ hother
      exact ⟨hcalls.eq_ok_of_held? hsound hother hheld, hcalls.rests hother (by simp [hheld])⟩
    · intro hnone
      exact hcalls.runs_closure fun other hother => hnone other (hsame ▸ hother)
    · intro error herror
      rw [herror] at hcalls
      exact hcalls.cached_eq_of_error
    · rintro rfl
      exact hcalls.cached_eq_of_zero
    · intro value hvalue hscoped
      rw [hvalue] at hcalls
      have hheld : next.held? layer = some value := hcalls.held?_of_ok hsound hscoped
      refine ⟨hheld, fun later hlater other => ?_⟩
      have hrange : ∀ made ∈ later, made.1 ≤ next.inner.length := by
        rw [hcalls.inner_eq, hsame]
        exact hlater
      rcases Layers.sound_after (hcalls.sound hsound) hrange with ⟨_, _, hkept⟩
      exact Layers.call_of_held? (hkept layer value hheld) closure other
  · intro layer wrapped value hwrapped hscoped hheld
    refine hsound.held?_of_encloses hheld (.single ?_) hscoped
    rw [hsame]
    exact hwrapped

/-- The closure fails on its first call. Layer 1 wraps it, and layers 2 and 3 both wrap layer 1. -/
def flakyClosure : Closure Nat (Nat × Option String) ResolveError := numberedClosure [1] "Site"

/-- Layer 2 is called in vain, and called again with a site. -/
def flakyCalls : List (Nat × Context) :=
  [(2, .empty), (2, Context.ofList [("Site", "porch")])]

/-- Layer 3 finds the value of layer 1, which came from a call of layer 2, and never yields another. -/
theorem porch_is_shared :
    Layers.Nested [0, 1, 1] ∧ (∀ made ∈ flakyCalls, made.1 ≤ 3) ∧
      let layers := (Layers.ofList [0, 1, 1]).after flakyClosure flakyCalls
      layers.calls = 2 ∧ layers.held? 3 = none ∧
        (layers.call flakyClosure 3 .empty).1 = .ok (2, some "porch") ∧
        (layers.call flakyClosure 3 .empty).2.calls = 2 ∧
        ∀ later, (∀ made ∈ later, made.1 ≤ 3) → ∀ other,
          (((layers.call flakyClosure 3 .empty).2.after flakyClosure later).call
            flakyClosure 3 other).1 = .ok (2, some "porch") := by
  have hnested : Layers.Nested [0, 1, 1] := by decide
  have hcalls : ∀ made ∈ flakyCalls, made.1 ≤ 3 := by simp [flakyCalls]
  rcases layers_keep_their_first_value flakyClosure hnested 0 hcalls with ⟨hcall, _⟩
  rcases hcall 3 (Nat.le_refl 3) .empty with ⟨_, hheld, _, _, _, hlater⟩
  have hway : Layers.Encloses [0, 1, 1] 3 1 := .single rfl
  rcases hheld 1 (2, some "porch") hway rfl with ⟨hanswer, hruns, _⟩
  refine ⟨hnested, hcalls, rfl, rfl, hanswer, hruns, ?_⟩
  intro later hrange other
  exact congrArg Prod.fst ((hlater _ hanswer (by decide)).2 later hrange other)

end ObjectGraph
