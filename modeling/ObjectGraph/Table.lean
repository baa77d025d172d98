/-!
# Tables — finite maps in key order

A table is an association list whose keys strictly increase, so two tables with the same lookups are
equal and every listing of one is in key order.

* `Table.insert` replaces an entry, `Table.insertNew` keeps the first one;
* `Table.push` adds to the list under a key, `Table.group` reads it;
* `Table.find?`, `Table.keys`, `Table.values` are its views;
* `sortedDistinct` lists the members of a list once each, in order.
-/

namespace ObjectGraph

structure Table (κ α : Type) [Ord κ] where
  entries : List (κ × α)
  increasing : entries.Pairwise fun a b => compare a.1 b.1 = .lt

namespace Table

variable {κ α β : Type} [Ord κ]

/-! ## Entries -/

/-- Puts an entry in its place; `merge` decides between an entry already there and the new one. -/
def place (merge : α → α → α) (key : κ) (value : α) : List (κ × α) → List (κ × α)
  | [] => [(key, value)]
  | (other, old) :: rest =>
    match compare key other with
    | .lt => (key, value) :: (other, old) :: rest
    | .eq => (other, merge old value) :: rest
    | .gt => (other, old) :: place merge key value rest

theorem mem_place {merge : α → α → α} {key : κ} {value : α} {l : List (κ × α)} {e : κ × α}
    (h : e ∈ place merge key value l) : e.1 = key ∨ ∃ v, (e.1, v) ∈ l := by
  induction l with
  | nil => simp_all [place]
  | cons head rest ih =>
    obtain ⟨other, old⟩ := head
    cases hc : compare key other with
    | lt =>
      -- The new entry is put in front, the list stays as it is.
      simp only [place, hc, List.mem_cons] at h
      rcases h with rfl | h
      · exact .inl rfl
      · exact .inr ⟨e.2, by simpa only [List.mem_cons] using h⟩
    | eq =>
      -- The first entry is merged and keeps its key.
      simp only [place, hc, List.mem_cons] at h
      rcases h with rfl | h
      · exact .inr ⟨old, by simp⟩
      · exact .inr ⟨e.2, by simp [h]⟩
    | gt =>
      -- The place is further down.
      simp only [place, hc, List.mem_cons] at h
      rcases h with rfl | h
      · exact .inr ⟨old, by simp⟩
      · rcases ih h with h | ⟨v, h⟩
        · exact .inl h
        · exact .inr ⟨v, by simp [h]⟩

theorem pairwise_place [Std.TransOrd κ] {merge : α → α → α} {key : κ} {value : α}
    {l : List (κ × α)} (h : l.Pairwise fun a b => compare a.1 b.1 = .lt) :
    (place merge key value l).Pairwise fun a b => compare a.1 b.1 = .lt := by
  induction l with
  | nil => simp [place]
  | cons head rest ih =>
    obtain ⟨other, old⟩ := head
    obtain ⟨hhead, hrest⟩ := List.pairwise_cons.1 h
    cases hc : compare key other with
    | lt =>
      simp only [place, hc]
      refine List.pairwise_cons.2 ⟨fun e he => ?_, h⟩
      rcases List.mem_cons.1 he with rfl | he
      · exact hc
      · exact Std.TransCmp.lt_trans hc (hhead e he)
    | eq =>
      simp only [place, hc]
      exact List.pairwise_cons.2 ⟨fun e he => hhead e he, hrest⟩
    | gt =>
      -- Whatever lands further down has the new key or a key of the old rest.
      simp only [place, hc]
      refine List.pairwise_cons.2 ⟨fun e he => ?_, ih hrest⟩
      rcases mem_place he with hk | ⟨v, hv⟩
      · rw [hk]
        exact Std.OrientedCmp.lt_of_gt hc
      · exact hhead (e.1, v) hv

/-! ## Operations -/

def empty : Table κ α := ⟨[], List.Pairwise.nil⟩

instance : Inhabited (Table κ α) := ⟨empty⟩

def insert [Std.TransOrd κ] (table : Table κ α) (key : κ) (value : α) : Table κ α :=
  ⟨place (fun _ new => new) key value table.entries, pairwise_place table.increasing⟩

def insertNew [Std.TransOrd κ] (table : Table κ α) (key : κ) (value : α) : Table κ α :=
  ⟨place (fun old _ => old) key value table.entries, pairwise_place table.increasing⟩

/-- Of several entries under one key the last one stays. -/
def ofList [Std.TransOrd κ] (entries : List (κ × α)) : Table κ α :=
  entries.foldl (fun table entry => table.insert entry.1 entry.2) empty

def erase [DecidableEq κ] (table : Table κ α) (key : κ) : Table κ α :=
  ⟨table.entries.filter fun e => e.1 ≠ key, table.increasing.filter _⟩

def find? [DecidableEq κ] (table : Table κ α) (key : κ) : Option α :=
  table.entries.lookup key

def contains [DecidableEq κ] (table : Table κ α) (key : κ) : Bool :=
  (table.find? key).isSome

def keys (table : Table κ α) : List κ :=
  table.entries.map (·.1)

def values (table : Table κ α) : List α :=
  table.entries.map (·.2)

def size (table : Table κ α) : Nat :=
  table.entries.length

def isEmpty (table : Table κ α) : Bool :=
  table.entries.isEmpty

/-- The values listed under a key; a key without an entry has none. -/
def group [DecidableEq κ] (table : Table κ (List α)) (key : κ) : List α :=
  (table.find? key).getD []

/-- Adds a value to those listed under a key. -/
def push [Std.TransOrd κ] [DecidableEq κ] (table : Table κ (List α)) (key : κ) (value : α) :
    Table κ (List α) :=
  table.insert key (table.group key ++ [value])

/-- How many values are listed under the keys with a property. -/
def weight (p : κ → Bool) (table : Table κ (List α)) : Nat :=
  ((table.entries.filter fun e => p e.1).flatMap (·.2)).length

/-- The keys whose entries satisfy `p`, in order. -/
def keysWhere (table : Table κ α) (p : α → Bool) : List κ :=
  (table.entries.filter fun e => p e.2).map (·.1)

@[ext]
theorem ext {s t : Table κ α} (h : s.entries = t.entries) : s = t := by
  cases s; cases t; cases h; rfl

instance [DecidableEq κ] [DecidableEq α] : DecidableEq (Table κ α) := fun s t =>
  decidable_of_iff (s.entries = t.entries) ⟨ext, fun h => h ▸ rfl⟩

/-! ## Views -/

omit [Ord κ] in
theorem lookup_cons_eq_ite [DecidableEq κ] (key : κ) (head : κ × α) (rest : List (κ × α)) :
    (head :: rest).lookup key = if key = head.1 then some head.2 else rest.lookup key := by
  obtain ⟨first, value⟩ := head
  by_cases h : key = first
  · simp [h]
  · simp [List.lookup_cons, beq_false_of_ne h, h]

theorem ne_of_compare [Std.TransOrd κ] {a b : κ} (h : compare a b ≠ .eq) : a ≠ b := by
  rintro rfl
  exact h Std.ReflCmp.compare_self

theorem lookup_eq_none_of_lt [Std.TransOrd κ] [DecidableEq κ] {key : κ} {l : List (κ × α)}
    (h : ∀ e ∈ l, compare key e.1 = .lt) : l.lookup key = none := by
  induction l with
  | nil => rfl
  | cons head rest ih =>
    have hne : key ≠ head.1 := ne_of_compare (by simp [h head])
    rw [lookup_cons_eq_ite, if_neg hne]
    exact ih fun e he => h e (List.mem_cons_of_mem _ he)

/-- Placing an entry changes the lookup of its own key and of no other. -/
theorem lookup_place [Std.TransOrd κ] [Std.LawfulEqOrd κ] [DecidableEq κ]
    {merge : α → α → α} {key other : κ} {value : α} {l : List (κ × α)}
    (h : l.Pairwise fun a b => compare a.1 b.1 = .lt) :
    (place merge key value l).lookup other =
      if other = key then some (((l.lookup key).map (merge · value)).getD value)
      else l.lookup other := by
  induction l with
  | nil => simp [place, lookup_cons_eq_ite]
  | cons head rest ih =>
    obtain ⟨first, old⟩ := head
    obtain ⟨hhead, hrest⟩ := List.pairwise_cons.1 h
    cases hc : compare key first with
    | lt =>
      -- The new key comes before every key of the list.
      have hnone : ((first, old) :: rest).lookup key = none := by
        refine lookup_eq_none_of_lt fun e he => ?_
        rcases List.mem_cons.1 he with rfl | he
        · exact hc
        · exact Std.TransCmp.lt_trans hc (hhead e he)
      simp [place, hc, hnone, lookup_cons_eq_ite]
    | eq =>
      have hkey : key = first := Std.LawfulEqCmp.eq_of_compare hc
      subst hkey
      by_cases hk : other = key <;> simp [place, lookup_cons_eq_ite, hk]
    | gt =>
      have hne : key ≠ first := ne_of_compare (by simp [hc])
      simp only [place, hc, lookup_cons_eq_ite, ih hrest, if_neg hne]
      by_cases hk : other = key
      · simp [hk, hne]
      · simp [hk]

theorem find?_insert [Std.TransOrd κ] [Std.LawfulEqOrd κ] [DecidableEq κ] (table : Table κ α)
    (key other : κ) (value : α) :
    (table.insert key value).find? other =
      if other = key then some value else table.find? other := by
  simp only [find?, insert, lookup_place table.increasing]
  cases table.entries.lookup key <;> rfl

theorem contains_insert [Std.TransOrd κ] [Std.LawfulEqOrd κ] [DecidableEq κ] (table : Table κ α)
    (key other : κ) (value : α) :
    (table.insert key value).contains other = (decide (other = key) || table.contains other) := by
  simp only [contains, find?_insert]
  by_cases hk : other = key
  · simp [hk]
  · simp [hk]

theorem find?_insertNew [Std.TransOrd κ] [Std.LawfulEqOrd κ] [DecidableEq κ] (table : Table κ α)
    (key other : κ) (value : α) :
    (table.insertNew key value).find? other =
      if other = key then some ((table.find? key).getD value) else table.find? other := by
  simp only [find?, insertNew, lookup_place table.increasing]
  cases table.entries.lookup key <;> rfl

theorem find?_push [Std.TransOrd κ] [Std.LawfulEqOrd κ] [DecidableEq κ]
    (table : Table κ (List α)) (key other : κ) (value : α) :
    (table.push key value).find? other =
      if other = key then some (table.group key ++ [value]) else table.find? other :=
  find?_insert table key other _

theorem group_push [Std.TransOrd κ] [Std.LawfulEqOrd κ] [DecidableEq κ]
    (table : Table κ (List α)) (key other : κ) (value : α) :
    (table.push key value).group other =
      if other = key then table.group key ++ [value] else table.group other := by
  simp only [group, find?_push]
  split <;> rfl

theorem find?_erase [DecidableEq κ] (table : Table κ α) (key other : κ) :
    (table.erase key).find? other = if other = key then none else table.find? other := by
  simp only [find?, erase]
  induction table.entries with
  | nil => simp
  | cons head rest ih =>
    -- The head goes or stays; a lookup of another key passes over it either way.
    by_cases hh : head.1 = key
    · rw [List.filter_cons_of_neg (by simp [hh]), ih, lookup_cons_eq_ite, hh]
      by_cases hk : other = key <;> simp [hk]
    · rw [List.filter_cons_of_pos (by simp [hh]), lookup_cons_eq_ite, lookup_cons_eq_ite, ih]
      by_cases hk : other = key
      · simp [hk, Ne.symm hh]
      · simp [hk]

/-! ## Weights -/

section Weight

variable {p q : κ → Bool} {l : List (κ × List α)}

omit [Ord κ] in
theorem length_flatMap_filter_mono (h : ∀ key, q key = true → p key = true) :
    ((l.filter fun e => q e.1).flatMap (·.2)).length ≤
      ((l.filter fun e => p e.1).flatMap (·.2)).length := by
  induction l with
  | nil => simp
  | cons head rest ih =>
    by_cases hq : q head.1 = true
    · simpa [hq, h head.1 hq] using ih
    · by_cases hp : p head.1 = true
      · simp only [hq, hp, Bool.false_eq_true, not_false_eq_true, List.filter_cons_of_neg,
          List.filter_cons_of_pos, List.flatMap_cons, List.length_append]
        omega
      · simpa [hq, hp] using ih

omit [Ord κ] in
theorem length_lookup_add_le [DecidableEq κ] {key : κ} (hp : p key = true)
    (hq : q key = false) (h : ∀ key, q key = true → p key = true) :
    ((l.lookup key).getD []).length + ((l.filter fun e => q e.1).flatMap (·.2)).length ≤
      ((l.filter fun e => p e.1).flatMap (·.2)).length := by
  induction l with
  | nil => simp
  | cons head rest ih =>
    by_cases hk : key = head.1
    · -- The values of the head count on one side only, and no later ones are looked up.
      have hrest := length_flatMap_filter_mono h (l := rest)
      subst hk
      simp only [lookup_cons_eq_ite, if_true, Option.getD_some, hq, hp, Bool.false_eq_true,
        not_false_eq_true, List.filter_cons_of_neg, List.filter_cons_of_pos, List.flatMap_cons,
        List.length_append]
      omega
    · rw [lookup_cons_eq_ite, if_neg hk]
      by_cases hqh : q head.1 = true
      · simp only [hqh, h head.1 hqh, List.filter_cons_of_pos, List.flatMap_cons,
          List.length_append]
        omega
      · by_cases hph : p head.1 = true
        · simp only [hqh, hph, Bool.false_eq_true, not_false_eq_true, List.filter_cons_of_neg,
            List.filter_cons_of_pos, List.flatMap_cons, List.length_append]
          omega
        · simpa [hqh, hph] using ih

end Weight

/-- A key that loses the property takes its values with it. -/
theorem length_group_add_weight_le [DecidableEq κ] {p q : κ → Bool} {table : Table κ (List α)}
    {key : κ} (hp : p key = true) (hq : q key = false) (h : ∀ key, q key = true → p key = true) :
    (table.group key).length + table.weight q ≤ table.weight p :=
  length_lookup_add_le hp hq h

theorem weight_erase [DecidableEq κ] (p : κ → Bool) (table : Table κ (List α)) (key : κ) :
    (table.erase key).weight p = table.weight fun other => p other && other ≠ key := by
  simp only [weight, erase, List.filter_filter]

end Table

/-! ## Sorted lists -/

def sortedDistinct {κ : Type} [Ord κ] [Std.TransOrd κ] (items : List κ) : List κ :=
  (items.foldl (fun table item => table.insertNew item ()) (Table.empty : Table κ Unit)).keys

end ObjectGraph
