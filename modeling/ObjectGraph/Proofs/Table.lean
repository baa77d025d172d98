import Mathlib.Data.List.Perm.Basic
import ObjectGraph.Table

/-!
# Table — lookups, listings and sizes

A key has an entry exactly if a lookup finds it, so a table is known by its lookups. A new entry
under a fresh key adds exactly one value to the listing.

* `Table.find?_eq_some_iff` — lookups against entries;
* `Table.mem_values_iff` — listed values against lookups;
* `Table.values_insertNew_perm` — a fresh key adds one value;
* `Table.find?_foldl_insertNew`, `Table.find?_foldl_blocks` — the first value for a key stays;
* `Table.find?_foldl_erase` — removal of several keys;
* `Table.forall_insert`, `Table.forall_erase` — what all entries have in common;
* `Table.map` — the same keys with other values;
* `Table.ext_find?` — tables with the same lookups are equal;
* `mem_sortedDistinct`, `increasing_sortedDistinct` — the members of a sorted list, in order;
* `sortedDistinct_congr` — lists with the same members are sorted alike.
-/

namespace ObjectGraph

namespace Table

variable {κ α : Type} [Ord κ]

/-! ## Lookups and entries -/

section Lookup

variable [DecidableEq κ]

variable [Std.TransOrd κ]

theorem lookup_eq_some_iff {l : List (κ × α)} {key : κ} {value : α}
    (h : l.Pairwise fun a b => compare a.1 b.1 = .lt) :
    l.lookup key = some value ↔ (key, value) ∈ l := by
  induction l with
  | nil => simp
  | cons head rest ih =>
    obtain ⟨first, old⟩ := head
    obtain ⟨hhead, hrest⟩ := List.pairwise_cons.1 h
    simp only [lookup_cons_eq_ite, List.mem_cons]
    by_cases hk : key = first
    · -- No entry of the rest has the key of the head.
      have hnot : (key, value) ∉ rest := by
        intro hmem
        have hlt : compare first key = .lt := hhead (key, value) hmem
        exact ne_of_compare (by simp [hlt]) hk.symm
      subst hk
      simp [hnot, eq_comm]
    · simp [hk, ih hrest]

theorem find?_eq_some_iff (table : Table κ α) {key : κ} {value : α} :
    table.find? key = some value ↔ (key, value) ∈ table.entries :=
  lookup_eq_some_iff table.increasing

theorem mem_values_iff (table : Table κ α) {value : α} :
    value ∈ table.values ↔ ∃ key, table.find? key = some value := by
  simp [values, find?_eq_some_iff]

theorem mem_keys_iff (table : Table κ α) {key : κ} :
    key ∈ table.keys ↔ ∃ value, table.find? key = some value := by
  simp [keys, find?_eq_some_iff]

end Lookup

@[simp]
theorem find?_empty [DecidableEq κ] (key : κ) : (empty : Table κ α).find? key = none := rfl

@[simp]
theorem group_empty [DecidableEq κ] (key : κ) : (empty : Table κ (List α)).group key = [] := rfl

theorem mem_group_iff [DecidableEq κ] {table : Table κ (List α)} {key : κ} {value : α} :
    value ∈ table.group key ↔ ∃ values, table.find? key = some values ∧ value ∈ values := by
  cases hfound : table.find? key with
  | none => simp [group, hfound]
  | some values => simp [group, hfound]

theorem nodup_keys [Std.TransOrd κ] (table : Table κ α) : table.keys.Nodup := by
  refine List.pairwise_map.2 (table.increasing.imp ?_)
  intro a b hlt
  exact ne_of_compare (by simp [hlt])

/-! ## Insertion -/

theorem place_perm {merge : α → α → α} {key : κ} {value : α} {l : List (κ × α)}
    (h : ∀ e ∈ l, compare key e.1 ≠ .eq) : (place merge key value l).Perm ((key, value) :: l) := by
  induction l with
  | nil => exact List.Perm.refl _
  | cons head rest ih =>
    obtain ⟨other, old⟩ := head
    have hother : compare key other ≠ .eq := h (other, old) (by simp)
    have hrest : ∀ e ∈ rest, compare key e.1 ≠ .eq := by
      intro e he
      exact h e (List.mem_cons_of_mem _ he)
    cases hc : compare key other with
    | lt => simp [place, hc]
    | eq => exact absurd hc hother
    | gt =>
      -- The entry goes further down, past the head.
      calc
        place merge key value ((other, old) :: rest) =
            (other, old) :: place merge key value rest := by simp [place, hc]
        List.Perm _ ((other, old) :: (key, value) :: rest) := (ih hrest).cons _
        List.Perm _ ((key, value) :: (other, old) :: rest) := List.Perm.swap _ _ _

theorem entries_insertNew_perm [Std.TransOrd κ] [Std.LawfulEqOrd κ] [DecidableEq κ]
    {table : Table κ α} {key : κ} {value : α} (h : table.find? key = none) :
    (table.insertNew key value).entries.Perm ((key, value) :: table.entries) := by
  apply place_perm
  -- An entry under the same key would have been found.
  intro e he heq
  have hkey : key = e.1 := Std.LawfulEqCmp.eq_of_compare heq
  have hfound : table.find? key = some e.2 := by
    simp only [find?_eq_some_iff, hkey]
    exact he
  simp [h] at hfound

theorem values_insertNew_perm [Std.TransOrd κ] [Std.LawfulEqOrd κ] [DecidableEq κ]
    {table : Table κ α} {key : κ} {value : α} (h : table.find? key = none) :
    (table.insertNew key value).values.Perm (value :: table.values) := by
  simpa [values] using (entries_insertNew_perm h).map Prod.snd

/-! ## Accumulation -/

section Accumulation

variable {β γ : Type} [Std.TransOrd κ] [Std.LawfulEqOrd κ] [DecidableEq κ]

/-- Of several values inserted under one key the first one stays. -/
theorem find?_foldl_insertNew (items : List β) (keyOf : β → κ) (valueOf : β → α)
    (table : Table κ α) (key : κ) :
    (items.foldl (fun table item => table.insertNew (keyOf item) (valueOf item)) table).find? key =
      (table.find? key).or ((items.find? fun item => keyOf item = key).map valueOf) := by
  induction items generalizing table with
  | nil => simp
  | cons first rest ih =>
    simp only [List.foldl_cons, ih, find?_insertNew, List.find?_cons]
    by_cases hkey : keyOf first = key
    · -- The first item fills the key, if it was not filled before.
      simp only [hkey, decide_true, if_true, Option.map_some]
      cases table.find? key <;> rfl
    · simp [hkey, Ne.symm hkey]

/-- Of several values given for one key the last one stays, and here they are all alike. -/
theorem find?_ofList_map (keys : List κ) (f : κ → α) (key : κ) :
    (ofList (keys.map fun key => (key, f key))).find? key =
      if key ∈ keys then some (f key) else none := by
  have hfold : ∀ table : Table κ α,
      (keys.foldl (fun table key => table.insert key (f key)) table).find? key =
        if key ∈ keys then some (f key) else table.find? key := by
    induction keys with
    | nil => simp
    | cons first rest ih =>
      intro table
      simp only [List.foldl_cons, ih, find?_insert, List.mem_cons]
      by_cases hkey : key = first
      · simp [hkey]
      · simp [hkey]
  simpa only [ofList, List.foldl_map, find?_empty] using hfold empty

/-- If each owner inserts a block of its own, the first owner with an item for the key decides. -/
theorem find?_foldl_blocks (owners : List γ) (block : γ → List β) (keyOf : β → κ)
    (valueOf : γ → β → α) (table : Table κ α) (key : κ) :
    (owners.foldl (fun table owner => (block owner).foldl
      (fun table item => table.insertNew (keyOf item) (valueOf owner item)) table) table).find? key =
      (table.find? key).or (owners.findSome? fun owner =>
        ((block owner).find? fun item => keyOf item = key).map (valueOf owner)) := by
  induction owners generalizing table with
  | nil => simp
  | cons first rest ih =>
    simp only [List.foldl_cons, ih, find?_foldl_insertNew, List.findSome?_cons, Option.or_assoc]
    cases (block first).find? fun item => keyOf item = key <;> rfl

end Accumulation

/-! ## Removal -/

theorem group_erase [DecidableEq κ] (table : Table κ (List α)) (key other : κ) :
    (table.erase key).group other = if other = key then [] else table.group other := by
  simp only [group, find?_erase]
  split <;> rfl

theorem find?_foldl_erase [DecidableEq κ] (keys : List κ) (table : Table κ α) (other : κ) :
    (keys.foldl erase table).find? other =
      if other ∈ keys then none else table.find? other := by
  induction keys generalizing table with
  | nil => simp
  | cons key rest ih =>
    simp only [List.foldl_cons, ih, find?_erase]
    -- A key that is erased stays erased, whatever is erased after it.
    by_cases hkey : other = key
    · simp [hkey]
    · simp [hkey]

/-- What all entries have in common, they still have with one more entry that has it. -/
theorem forall_insert [Std.TransOrd κ] [Std.LawfulEqOrd κ] [DecidableEq κ] {P : κ → α → Prop}
    {table : Table κ α} (htable : ∀ key value, table.find? key = some value → P key value) {key : κ}
    {value : α} (hvalue : P key value) :
    ∀ other found, (table.insert key value).find? other = some found → P other found := by
  intro other found hfound
  simp only [find?_insert] at hfound
  split at hfound
  · rename_i hkey
    cases hfound
    exact hkey ▸ hvalue
  · exact htable other found hfound

/-- What all entries have in common, they still have with one of them erased. -/
theorem forall_erase [DecidableEq κ] {P : κ → α → Prop} {table : Table κ α}
    (htable : ∀ key value, table.find? key = some value → P key value) (key : κ) :
    ∀ other found, (table.erase key).find? other = some found → P other found := by
  intro other found hfound
  simp only [find?_erase] at hfound
  split at hfound
  · simp at hfound
  · exact htable other found hfound

/-! ## Other values -/

section Map

variable {β : Type}

def map (f : α → β) (table : Table κ α) : Table κ β where
  entries := table.entries.map fun entry => (entry.1, f entry.2)
  increasing := List.pairwise_map.2 table.increasing

theorem find?_map [DecidableEq κ] (f : α → β) (table : Table κ α) (key : κ) :
    (table.map f).find? key = (table.find? key).map f := by
  simp only [find?, map]
  induction table.entries with
  | nil => rfl
  | cons head rest ih =>
    simp only [List.map_cons, lookup_cons_eq_ite, ih]
    by_cases hkey : key = head.1
    · simp [hkey]
    · simp [hkey]

theorem values_map (f : α → β) (table : Table κ α) :
    (table.map f).values = table.values.map f := by
  simp [values, map]

end Map

/-! ## Equality -/

/-- There is one increasing list of given members. -/
theorem eq_of_increasing [Std.TransOrd κ] {β : Type} {key : β → κ} {first second : List β}
    (hfirst : first.Pairwise fun a b => compare (key a) (key b) = .lt)
    (hsecond : second.Pairwise fun a b => compare (key a) (key b) = .lt)
    (h : ∀ b, b ∈ first ↔ b ∈ second) : first = second := by
  have hnodup : ∀ l : List β, (l.Pairwise fun a b => compare (key a) (key b) = .lt) →
      l.Nodup := by
    intro l hl
    refine hl.imp ?_
    rintro a b hlt rfl
    simp [Std.ReflCmp.compare_self] at hlt
  have hperm : first.Perm second :=
    (List.perm_ext_iff_of_nodup (hnodup first hfirst) (hnodup second hsecond)).2 h
  apply hperm.eq_of_pairwise _ hfirst hsecond
  intro a b _ _ hab hba
  -- Nothing comes before what it comes after.
  exact absurd (Std.TransCmp.lt_trans hab hba) (by simp [Std.ReflCmp.compare_self])

theorem ext_find? [Std.TransOrd κ] [DecidableEq κ] {s t : Table κ α}
    (h : ∀ key, s.find? key = t.find? key) : s = t := by
  apply ext
  apply eq_of_increasing s.increasing t.increasing
  rintro ⟨key, value⟩
  simp only [← find?_eq_some_iff, h]

end Table

/-! ## Sorted lists -/

section SortedDistinct

variable {κ : Type} [Ord κ] [Std.TransOrd κ]

theorem increasing_sortedDistinct (items : List κ) :
    (sortedDistinct items).Pairwise fun a b => compare a b = .lt :=
  List.pairwise_map.2 (Table.increasing _)

theorem mem_sortedDistinct [Std.LawfulEqOrd κ] [DecidableEq κ] {items : List κ} {item : κ} :
    item ∈ sortedDistinct items ↔ item ∈ items := by
  have hfold := Table.find?_foldl_insertNew items id (fun _ => ()) Table.empty item
  simp only [id, Table.find?_empty, Option.none_or] at hfold
  simp [sortedDistinct, Table.mem_keys_iff, hfold, ← Option.isSome_iff_exists]

theorem sortedDistinct_congr [Std.LawfulEqOrd κ] [DecidableEq κ] {first second : List κ}
    (h : ∀ item, item ∈ first ↔ item ∈ second) : sortedDistinct first = sortedDistinct second := by
  apply Table.eq_of_increasing (increasing_sortedDistinct first) (increasing_sortedDistinct second)
  intro item
  simp only [mem_sortedDistinct, h]

end SortedDistinct
end ObjectGraph
