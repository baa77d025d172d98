import Mathlib.Data.List.Infix
import Mathlib.Data.List.TakeWhile
import ObjectGraph.Name

/-!
# Short names — the last segment of a path

A name is a path, whose segments have `::` between them, and may go on with generic arguments from its
first `<` on. In a run of colons separators overlap, and the rightmost one counts. That is why a last
segment has no separator even with one more colon in front of it, and why there is no other part of the
path behind a separator with this property.

* `lastSegment?_eq_none_iff`, `lastSegment?_eq_some_iff` — the last segment without reference to the search;
* `barePath` — a name without its generic arguments;
* `Segmented`, `shortName_cases` — the two ways in which a short name comes from its path;
* `shortName_generic`, `shortName_path` — what a short name drops;
* `short_names_are_last_segments` — short names of all texts.
-/

namespace ObjectGraph

/-! ## Last segments -/

theorem lastSegment?_cons_eq_none_iff {first : Char} {rest : List Char} :
    lastSegment? (first :: rest) = none ↔
      ¬ [':', ':'] <+: first :: rest ∧ lastSegment? rest = none := by
  cases hrest : lastSegment? rest with
  | some segment => simp [lastSegment?, hrest]
  | none =>
    simp only [lastSegment?, hrest, and_true]
    split
    · simp
    · next hno =>
      -- No separator starts here, or the match would have found it.
      refine iff_of_true rfl fun hseparator => ?_
      rcases hseparator with ⟨segment, hsegment⟩
      rcases List.cons.inj hsegment with ⟨hfirst, hback⟩
      exact hno segment hfirst.symm hback.symm

/-- A text has no last segment exactly if it has no separator. -/
theorem lastSegment?_eq_none_iff {text : List Char} :
    lastSegment? text = none ↔ ¬ [':', ':'] <:+: text := by
  induction text with
  | nil => simp [lastSegment?]
  | cons first rest ih => rw [lastSegment?_cons_eq_none_iff, ih, List.infix_cons_iff, not_or]

/-- A segment in front of which one more colon makes no separator is the last one. -/
theorem lastSegment?_append {name : List Char} (h : ¬ [':', ':'] <:+: ':' :: name)
    (path : List Char) : lastSegment? (path ++ ':' :: ':' :: name) = some name := by
  induction path with
  | nil =>
    have hrest : lastSegment? (':' :: name) = none := lastSegment?_eq_none_iff.2 h
    simp only [List.nil_append]
    rw [lastSegment?, hrest]
  | cons first path ih => simp [lastSegment?, ih]

/-- The last segment stands behind a separator, and no separator starts further right. -/
theorem lastSegment?_eq_some_iff {text segment : List Char} :
    lastSegment? text = some segment ↔
      (∃ path, text = path ++ ':' :: ':' :: segment) ∧ ¬ [':', ':'] <:+: ':' :: segment := by
  constructor
  · intro h
    induction text with
    | nil => simp [lastSegment?] at h
    | cons first rest ih =>
      cases hrest : lastSegment? rest with
      | some later =>
        simp only [lastSegment?, hrest, Option.some.injEq] at h
        rcases ih (hrest.trans (congrArg some h)) with ⟨⟨path, hpath⟩, hlast⟩
        exact ⟨⟨first :: path, by rw [hpath, List.cons_append]⟩, hlast⟩
      | none =>
        simp only [lastSegment?, hrest] at h
        split at h
        · -- The separator starts at the first character.
          cases h
          exact ⟨⟨[], rfl⟩, lastSegment?_eq_none_iff.1 hrest⟩
        · simp at h
  · rintro ⟨⟨path, rfl⟩, hlast⟩
    exact lastSegment?_append hlast path

/-- What follows any separator ends in the last segment. -/
theorem suffix_of_lastSegment? {text segment path rest : List Char}
    (h : lastSegment? text = some segment) (htext : text = path ++ ':' :: ':' :: rest) :
    segment <:+ rest := by
  rcases lastSegment?_eq_some_iff.1 h with ⟨⟨front, hfront⟩, hlast⟩
  have hrest : rest <:+ text := ⟨path ++ [':', ':'], by simp [htext]⟩
  have hsegment : segment <:+ text := ⟨front ++ [':', ':'], by simp [hfront]⟩
  rcases Nat.lt_or_ge rest.length segment.length with hlt | hle
  · -- A shorter rest would put its separator into the last segment.
    have hinner : ':' :: ':' :: rest <:+ text := ⟨path, htext.symm⟩
    have houter : ':' :: segment <:+ text := ⟨front ++ [':'], by simp [hfront]⟩
    have hsuffix : ':' :: ':' :: rest <:+ ':' :: segment :=
      List.suffix_of_suffix_length_le hinner houter (Nat.succ_le_succ hlt)
    have hstart : [':', ':'] <:+: ':' :: ':' :: rest := ⟨[], rest, rfl⟩
    exact absurd (hstart.trans hsuffix.isInfix) hlast
  · exact List.suffix_of_suffix_length_le hsegment hrest hle

/-! ## Generic arguments -/

/-- A name without its generic arguments. -/
def barePath (name : String) : String :=
  String.ofList (name.toList.takeWhile (· ≠ '<'))

theorem toList_barePath (name : String) :
    (barePath name).toList = name.toList.takeWhile (· ≠ '<') :=
  String.toList_ofList

theorem notMem_barePath (name : String) : '<' ∉ (barePath name).toList := by
  rw [toList_barePath]
  intro hmem
  simpa using List.mem_takeWhile_imp hmem

/-- The generic arguments start at the first angle bracket. -/
theorem eq_barePath_or_generic (name : String) :
    name = barePath name ∨ ∃ arguments, name = barePath name ++ "<" ++ arguments := by
  have hparts : (barePath name).toList ++ name.toList.dropWhile (· ≠ '<') = name.toList := by
    rw [toList_barePath, List.takeWhile_append_dropWhile]
  cases hback : name.toList.dropWhile (· ≠ '<') with
  | nil =>
    rw [hback, List.append_nil] at hparts
    exact Or.inl (String.toList_inj.1 hparts.symm)
  | cons first arguments =>
    have hfirst : first = '<' := by
      have hstop := List.head?_dropWhile_not (· ≠ '<') name.toList
      rw [hback] at hstop
      simpa using hstop
    refine Or.inr ⟨String.ofList arguments, String.toList_inj.1 ?_⟩
    rw [hback, hfirst] at hparts
    simp [← hparts]

theorem takeWhile_of_notMem {text : List Char} (h : '<' ∉ text) :
    text.takeWhile (· ≠ '<') = text := by
  refine List.takeWhile_eq_self_iff.2 fun c hc => ?_
  simpa using fun heq : c = '<' => h (heq ▸ hc)

theorem barePath_of_notMem {name : String} (h : '<' ∉ name.toList) : barePath name = name := by
  rw [← String.toList_inj, toList_barePath, takeWhile_of_notMem h]

theorem barePath_generic {name : String} (h : '<' ∉ name.toList) (arguments : String) :
    barePath (name ++ "<" ++ arguments) = name := by
  have hbracket : ("<" : String).toList = ['<'] := rfl
  rw [← String.toList_inj, toList_barePath, String.toList_append, String.toList_append, hbracket,
    List.append_assoc, List.takeWhile_append_of_pos]
  · simp
  · intro c hc
    simpa using fun heq : c = '<' => h (heq ▸ hc)

/-! ## Short names -/

/-- A text with a separator. -/
def Segmented (text : String) : Prop :=
  ∃ path rest, text = path ++ "::" ++ rest

/-- A colon in front leaves the separators where they are. -/
theorem Segmented.cons {text : String} (h : Segmented text) : Segmented (":" ++ text) := by
  rcases h with ⟨path, rest, rfl⟩
  exact ⟨":" ++ path, rest, by simp only [String.append_assoc]⟩

theorem segmented_iff {text : String} : Segmented text ↔ [':', ':'] <:+: text.toList := by
  constructor
  · rintro ⟨path, rest, rfl⟩
    exact ⟨path.toList, rest.toList, by simp⟩
  · rintro ⟨path, rest, h⟩
    exact ⟨String.ofList path, String.ofList rest, by simp [← String.toList_inj, ← h]⟩

theorem shortName_eq (name : String) :
    shortName name = String.ofList
      ((lastSegment? (barePath name).toList).getD (barePath name).toList) := by
  rw [toList_barePath, shortName]

/-- Either the path is one segment, or the short name stands behind its rightmost separator. -/
theorem shortName_cases (name : String) :
    (¬ Segmented (barePath name) ∧ shortName name = barePath name) ∨
      ∃ path, barePath name = path ++ "::" ++ shortName name ∧
        ¬ Segmented (":" ++ shortName name) := by
  cases hsegment : lastSegment? (barePath name).toList with
  | none =>
    refine Or.inl ⟨fun h => lastSegment?_eq_none_iff.1 hsegment (segmented_iff.1 h), ?_⟩
    rw [shortName_eq, hsegment, Option.getD_none, String.ofList_toList]
  | some segment =>
    have hshort : (shortName name).toList = segment := by
      rw [shortName_eq, hsegment, Option.getD_some, String.toList_ofList]
    rcases lastSegment?_eq_some_iff.1 hsegment with ⟨⟨path, hpath⟩, hlast⟩
    refine Or.inr ⟨String.ofList path, ?_, ?_⟩
    · simp [← String.toList_inj, hpath, hshort]
    · simpa [segmented_iff, hshort] using hlast

section ShortNames

variable (name : String)

/-- The whole path is the short name exactly if it is one segment. -/
theorem barePath_eq_shortName_iff : barePath name = shortName name ↔ ¬ Segmented (barePath name) := by
  rcases shortName_cases name with ⟨hsegmented, hshort⟩ | ⟨path, hpath, _⟩
  · exact iff_of_true hshort.symm hsegmented
  · -- A path with a separator is longer than what follows the separator.
    refine iff_of_false (fun hsame => ?_) fun h => h ⟨path, shortName name, hpath⟩
    have hlength := congrArg String.length (hsame.symm.trans hpath)
    simp only [String.length_append] at hlength
    have hseparator : ("::" : String).length = 2 := rfl
    omega

theorem exists_path_of_segmented (h : Segmented (barePath name)) :
    ∃ path, barePath name = path ++ "::" ++ shortName name := by
  rcases shortName_cases name with ⟨hsegmented, _⟩ | ⟨path, hpath, _⟩
  · exact absurd h hsegmented
  · exact ⟨path, hpath⟩

/-- What follows any separator of the path ends in the short name. -/
theorem exists_front_of_segment {path rest : String} (h : barePath name = path ++ "::" ++ rest) :
    ∃ front, rest = front ++ shortName name := by
  have hlist : (barePath name).toList = path.toList ++ ':' :: ':' :: rest.toList := by simp [h]
  cases hsegment : lastSegment? (barePath name).toList with
  | none =>
    have hsegmented : Segmented (barePath name) := ⟨path, rest, h⟩
    exact absurd (segmented_iff.1 hsegmented) (lastSegment?_eq_none_iff.1 hsegment)
  | some segment =>
    rcases suffix_of_lastSegment? hsegment hlist with ⟨front, hfront⟩
    refine ⟨String.ofList front, ?_⟩
    rw [shortName_eq, hsegment, Option.getD_some]
    simp [← String.toList_inj, hfront]

theorem not_segmented_shortName : ¬ Segmented (shortName name) := by
  rcases shortName_cases name with ⟨hsegmented, hshort⟩ | ⟨_, _, hlast⟩
  · exact hshort ▸ hsegmented
  · exact fun h => hlast h.cons

theorem notMem_shortName : '<' ∉ (shortName name).toList := by
  have hbare := notMem_barePath name
  rcases shortName_cases name with ⟨_, hshort⟩ | ⟨path, hpath, _⟩
  · exact hshort ▸ hbare
  · rw [hpath] at hbare
    intro hmem
    exact hbare (by simp [hmem])

end ShortNames

/-- A name of one segment is its own short name. -/
theorem shortName_of_segment {name : String} (hbracket : '<' ∉ name.toList)
    (hsegmented : ¬ Segmented name) : shortName name = name := by
  have hbare := barePath_of_notMem hbracket
  calc shortName name
    _ = barePath name := ((barePath_eq_shortName_iff name).2 (hbare.symm ▸ hsegmented)).symm
    _ = name := hbare

/-- Generic arguments are dropped. -/
theorem shortName_generic {name : String} (h : '<' ∉ name.toList) (arguments : String) :
    shortName (name ++ "<" ++ arguments) = shortName name := by
  rw [shortName_eq, shortName_eq, barePath_generic h, barePath_of_notMem h]

/-- The path is dropped. -/
theorem shortName_path {path name : String} (hpath : '<' ∉ path.toList) (hname : '<' ∉ name.toList)
    (hcolon : ¬ Segmented (":" ++ name)) : shortName (path ++ "::" ++ name) = name := by
  have hbare : barePath (path ++ "::" ++ name) = path ++ "::" ++ name :=
    barePath_of_notMem (by simp [hpath, hname])
  have hsegment : lastSegment? (path ++ "::" ++ name).toList = some name.toList := by
    have hlast : ¬ [':', ':'] <:+: ':' :: name.toList := by simpa [segmented_iff] using hcolon
    simpa using lastSegment?_append hlast path.toList
  rw [shortName_eq, hbare, hsegment, Option.getD_some, String.ofList_toList]

/-- A short name has no angle bracket and no separator. The path of a name, which is what stands before its
generic arguments, is the short name, if it has no separator, or ends in a separator and the short name;
there is no segment further right. A short name is its own short name, and generic arguments make no
difference. -/
theorem short_names_are_last_segments (name : String) :
    ('<' ∉ (barePath name).toList ∧
      (name = barePath name ∨ ∃ arguments, name = barePath name ++ "<" ++ arguments)) ∧
    ('<' ∉ (shortName name).toList ∧ ¬ Segmented (shortName name)) ∧
    (barePath name = shortName name ∨ ∃ path, barePath name = path ++ "::" ++ shortName name) ∧
    (barePath name = shortName name ↔ ¬ Segmented (barePath name)) ∧
    (∀ path rest, barePath name = path ++ "::" ++ rest → ∃ front, rest = front ++ shortName name) ∧
    shortName (shortName name) = shortName name ∧
    ∀ path arguments, '<' ∉ path.toList → shortName (path ++ "<" ++ arguments) = shortName path := by
  have hbracket := notMem_shortName name
  have hsegmented := not_segmented_shortName name
  refine ⟨⟨notMem_barePath name, eq_barePath_or_generic name⟩, ⟨hbracket, hsegmented⟩, ?_,
    barePath_eq_shortName_iff name, fun _ _ h => exists_front_of_segment name h,
    shortName_of_segment hbracket hsegmented, fun _ arguments h => shortName_generic h arguments⟩
  by_cases h : Segmented (barePath name)
  · exact Or.inr (exists_path_of_segmented name h)
  · exact Or.inl ((barePath_eq_shortName_iff name).2 h)

/-- The separator among the generic arguments counts for nothing, and the first one of the path is not the
last one. -/
theorem repo_is_the_last_segment :
    '<' ∉ "app::data::Repo".toList ∧
      shortName ("app::data::Repo" ++ "<" ++ "app::Item") = "Repo" ∧
      barePath "app::data::Repo" = "app" ++ "::" ++ "data::Repo" ∧
      ∃ front, "data::Repo" = front ++ shortName "app::data::Repo" := by
  have hbracket : '<' ∉ "app::data::Repo".toList := by decide +kernel
  have hpath : barePath "app::data::Repo" = "app" ++ "::" ++ "data::Repo" := by decide +kernel
  have hrepo : shortName "app::data::Repo" = "Repo" := by decide +kernel
  rcases short_names_are_last_segments "app::data::Repo" with ⟨_, _, _, _, hfront, _, hgeneric⟩
  exact ⟨hbracket, (hgeneric "app::data::Repo" "app::Item" hbracket).trans hrepo, hpath,
    hfront "app" "data::Repo" hpath⟩

/-- In runs of colons the rightmost separator counts, and the last segment may be empty. -/
example : (["a:::b", "::::", "a::<T>", ":b", "::b:c<D::E>"].map shortName) =
    ["b", "", "", ":b", "b:c"] := by
  decide +kernel

end ObjectGraph
