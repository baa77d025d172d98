import Mathlib.Data.List.Nodup
import Mathlib.Logic.Relation

/-!
# Ascents — going up until there is no parent

A function that gives some elements a parent leads upwards from each of them. The way up either ends,
and then it passes a list of elements that it determines and that does not repeat, or it goes on for
ever.

* `Ascends` — the elements passed by a way up that ends;
* `climb?`, `LeadsUp` — where so many steps upwards lead, and where any number of them does;
* `NeverEnds` — a way up without an end;
* `Ascends.unique`, `Ascends.nodup` — one list, without repetition;
* `neverEnds_iff` — a way up has no end exactly if it passes no such list.
-/

namespace ObjectGraph

variable {α : Type} {parent? : α → Option α}

/-- The way up from an element passes the listed ones, the nearest first, and ends at the last. -/
inductive Ascends (parent? : α → Option α) : α → List α → Prop where
  | top {element : α} : parent? element = none → Ascends parent? element []
  | step {element parent : α} {rest : List α} : parent? element = some parent →
      Ascends parent? parent rest → Ascends parent? element (parent :: rest)

/-- The element so many steps up. -/
def climb? (parent? : α → Option α) : Nat → α → Option α
  | 0, element => some element
  | steps + 1, element => (parent? element).bind (climb? parent? steps)

/-- Going from parent to parent, in any number of steps, leads from one element to another. -/
def LeadsUp (parent? : α → Option α) : α → α → Prop :=
  Relation.ReflTransGen fun child parent => parent? child = some parent

/-- A way up that goes from parent to parent without an end. -/
def NeverEnds (parent? : α → Option α) (element : α) : Prop :=
  ∃ chain : Nat → α, chain 0 = element ∧ ∀ step, parent? (chain step) = some (chain (step + 1))

namespace Ascends

variable {element : α} {list : List α}

/-! ## One list -/

theorem nil_iff : Ascends parent? element [] ↔ parent? element = none := by
  constructor
  · intro h
    cases h with
    | top hnone => exact hnone
  · exact top

theorem cons_iff {parent : α} {rest : List α} :
    Ascends parent? element (parent :: rest) ↔
      parent? element = some parent ∧ Ascends parent? parent rest := by
  constructor
  · intro h
    cases h with
    | step hparent hrest => exact ⟨hparent, hrest⟩
  · rintro ⟨hparent, hrest⟩
    exact step hparent hrest

theorem parent?_eq_head? (h : Ascends parent? element list) : parent? element = list.head? := by
  cases h with
  | top hnone => exact hnone
  | step hparent _ => exact hparent

/-- An element has one parent at most, so there is one way up. -/
theorem unique {other : List α} (h : Ascends parent? element list)
    (hother : Ascends parent? element other) : list = other := by
  induction h generalizing other with
  | top hnone =>
    cases hother with
    | top => rfl
    | step hparent => simp [hnone] at hparent
  | step hparent _ ih =>
    cases hother with
    | top hnone => simp [hnone] at hparent
    | step hsame hrest =>
      rw [hparent] at hsame
      cases hsame
      rw [ih hrest]

/-- What is left of a way up is the way up from where it was left. -/
theorem of_append {front rest : List α} {passed : α}
    (h : Ascends parent? element (front ++ passed :: rest)) : Ascends parent? passed rest := by
  induction front generalizing element with
  | nil => exact (cons_iff.1 h).2
  | cons first front ih => exact ih (cons_iff.1 h).2

theorem not_mem_self (h : Ascends parent? element list) : element ∉ list := by
  intro hmem
  rcases List.append_of_mem hmem with ⟨front, rest, rfl⟩
  -- A way back to the start would be as long as what is left of it.
  have hlength := congrArg List.length (h.unique h.of_append)
  simp only [List.length_append, List.length_cons] at hlength
  omega

theorem nodup (h : Ascends parent? element list) : list.Nodup := by
  induction h with
  | top => exact List.nodup_nil
  | step _ hrest ih => exact List.nodup_cons.2 ⟨hrest.not_mem_self, ih⟩

/-! ## Steps and ends -/

theorem getElem?_eq_climb? (h : Ascends parent? element list) (steps : Nat) :
    list[steps]? = climb? parent? (steps + 1) element := by
  induction h generalizing steps with
  | top hnone => simp [climb?, hnone]
  | step hparent _ ih =>
    cases steps with
    | zero => simp [climb?, hparent]
    | succ steps => simp [climb?, hparent, ih steps]

/-- A way up that ends leads to an element without a parent. -/
theorem exists_leadsUp (h : Ascends parent? element list) :
    ∃ last, LeadsUp parent? element last ∧ parent? last = none := by
  induction h with
  | top hnone => exact ⟨_, .refl, hnone⟩
  | step hparent _ ih =>
    rcases ih with ⟨last, hleads, hlast⟩
    exact ⟨last, .head hparent hleads, hlast⟩

/-- A chain of parents that ends is a way up. -/
theorem exists_of_leadsUp {last : α} (h : LeadsUp parent? element last)
    (hlast : parent? last = none) : ∃ list, Ascends parent? element list := by
  induction h using Relation.ReflTransGen.head_induction_on with
  | refl => exact ⟨[], top hlast⟩
  | head hparent _ ih =>
    rcases ih with ⟨list, hlist⟩
    exact ⟨_, step hparent hlist⟩

/-- Ways up through elements with the same parents are the same. -/
theorem congr {other? : α → Option α} {p : α → Prop} (h : Ascends parent? element list)
    (hsame : ∀ e, p e → other? e = parent? e)
    (hclosed : ∀ e parent, p e → parent? e = some parent → p parent) (hp : p element) :
    Ascends other? element list := by
  induction h with
  | top hnone => exact top ((hsame _ hp).trans hnone)
  | step hparent _ ih => exact step ((hsame _ hp).trans hparent) (ih (hclosed _ _ hp hparent))

end Ascends

/-! ## Ways without an end -/

theorem climb?_succ_eq_bind (steps : Nat) (element : α) :
    climb? parent? (steps + 1) element = (climb? parent? steps element).bind parent? := by
  induction steps generalizing element with
  | zero => simp [climb?]
  | succ steps ih =>
    cases hparent : parent? element with
    | none => simp [climb?, hparent]
    | some parent =>
      have hstep := ih parent
      simp only [climb?, hparent, Option.bind_some] at hstep ⊢
      exact hstep

theorem exists_ascends_of_climb? {steps : Nat} {element : α}
    (h : climb? parent? steps element = none) : ∃ list, Ascends parent? element list := by
  induction steps generalizing element with
  | zero => simp [climb?] at h
  | succ steps ih =>
    cases hparent : parent? element with
    | none => exact ⟨[], .top hparent⟩
    | some parent =>
      simp only [climb?, hparent, Option.bind_some] at h
      rcases ih h with ⟨list, hlist⟩
      exact ⟨_, .step hparent hlist⟩

theorem neverEnds_iff {element : α} :
    NeverEnds parent? element ↔ ∀ list, ¬ Ascends parent? element list := by
  constructor
  · rintro ⟨chain, rfl, hchain⟩ list h
    -- The list would hold the whole chain.
    have hclimb : ∀ steps, climb? parent? steps (chain 0) = some (chain steps) := by
      intro steps
      induction steps with
      | zero => rfl
      | succ steps ih => simp [climb?_succ_eq_bind, ih, hchain]
    have hlength := h.getElem?_eq_climb? list.length
    simp [hclimb] at hlength
  · intro h
    have hclimb : ∀ steps, ∃ reached, climb? parent? steps element = some reached := by
      intro steps
      cases hreached : climb? parent? steps element with
      | none =>
        rcases exists_ascends_of_climb? hreached with ⟨list, hlist⟩
        exact absurd hlist (h list)
      | some reached => exact ⟨reached, rfl⟩
    choose chain hchain using hclimb
    refine ⟨chain, ?_, ?_⟩
    · simpa [climb?] using (hchain 0).symm
    · intro step
      have hnext := hchain (step + 1)
      rw [climb?_succ_eq_bind, hchain step] at hnext
      exact hnext

end ObjectGraph
