import Mathlib.Data.List.Nodup
import Mathlib.Data.List.Perm.Basic

/-!
# Keyed lists — records told apart by one of their parts

A list of records with distinct keys answers a search for a key with the only record that has it,
whatever the order of the list. If every record brings along a block of entries of its own, the
entries that belong to a key are the block of that record.

* `find?_eq_some_iff_of_nodup` — a search against the members;
* `find?_eq_of_perm` — a search in two orders of one list;
* `filter_flatMap_of_nodup` — the entries that belong to one key;
* `filter_flatMap_eq_of_perm` — they are in the same order in two orders of the records.
-/

namespace ObjectGraph

variable {α β κ : Type} [DecidableEq κ] {key : α → κ} {records : List α}

theorem find?_eq_some_iff_of_nodup (h : (records.map key).Nodup) {k : κ} {record : α} :
    (records.find? fun other => key other = k) = some record ↔
      record ∈ records ∧ key record = k := by
  constructor
  · intro hfound
    exact ⟨List.mem_of_find?_eq_some hfound, by simpa using List.find?_some hfound⟩
  · rintro ⟨hmem, rfl⟩
    -- The first record with the key is the only one.
    cases hfound : records.find? fun other => key other = key record with
    | none => simpa using List.find?_eq_none.1 hfound record hmem
    | some other =>
      have hother : other ∈ records := List.mem_of_find?_eq_some hfound
      have hkey : key other = key record := by
        simpa using List.find?_some hfound
      exact congrArg some (List.inj_on_of_nodup_map h hother hmem hkey)

theorem find?_eq_of_perm {others : List α} (hperm : records.Perm others)
    (h : (records.map key).Nodup) (k : κ) :
    (records.find? fun record => key record = k) = others.find? fun record => key record = k := by
  have hothers : (others.map key).Nodup := (hperm.map key).nodup_iff.1 h
  apply Option.ext
  intro record
  simp only [find?_eq_some_iff_of_nodup h, find?_eq_some_iff_of_nodup hothers, hperm.mem_iff]

/-- Entries that belong to one key all come from the record with that key. -/
theorem filter_flatMap_of_nodup {block : α → List β} {owner : β → κ}
    (howner : ∀ record, ∀ entry ∈ block record, owner entry = key record)
    (h : (records.map key).Nodup) (k : κ) :
    ((records.flatMap block).filter fun entry => owner entry = k) =
      ((records.find? fun record => key record = k).map block).getD [] := by
  have hsame : ∀ record, key record = k →
      (block record).filter (fun entry => owner entry = k) = block record := by
    intro record hkey
    apply List.filter_eq_self.2
    intro entry hentry
    simp [howner record entry hentry, hkey]
  have hother : ∀ record, key record ≠ k →
      (block record).filter (fun entry => owner entry = k) = [] := by
    intro record hkey
    apply List.filter_eq_nil_iff.2
    intro entry hentry
    simpa [howner record entry hentry] using hkey
  induction records with
  | nil => rfl
  | cons first rest ih =>
    rcases List.nodup_cons.1 h with ⟨hfresh, hrest⟩
    simp only [List.flatMap_cons, List.filter_append, ih hrest]
    by_cases hkey : key first = k
    · -- No record of the rest has the key of the first one.
      have hnone : (rest.find? fun record => key record = k) = none := by
        apply List.find?_eq_none.2
        intro record hrecord
        have hne : key record ≠ key first := by
          intro heq
          exact hfresh (heq ▸ List.mem_map_of_mem hrecord)
        simpa [hkey] using hne
      simp [hsame first hkey, hnone, hkey]
    · simp [hother first hkey, hkey]

theorem filter_flatMap_eq_of_perm {others : List α} {block : α → List β} {owner : β → κ}
    (howner : ∀ record, ∀ entry ∈ block record, owner entry = key record)
    (hperm : records.Perm others) (h : (records.map key).Nodup) (k : κ) :
    ((records.flatMap block).filter fun entry => owner entry = k) =
      (others.flatMap block).filter fun entry => owner entry = k := by
  have hothers : (others.map key).Nodup := (hperm.map key).nodup_iff.1 h
  simp only [filter_flatMap_of_nodup howner h, filter_flatMap_of_nodup howner hothers,
    find?_eq_of_perm hperm h]

end ObjectGraph
