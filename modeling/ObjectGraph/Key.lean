import ObjectGraph.Name
import ObjectGraph.Text.CaseMapping

/-!
# Keys — what a dependency is looked up by

A key is a type, alone or told apart by a qualifier. An empty qualifier is not the absence of one.

* `Key.text` — the key as diagnostics show it;
* `Key.providerName` — the property name of the provider made for it;
* the order of keys: by type, then no qualifier before any.
-/

namespace ObjectGraph

structure Key where
  type : TypeName
  qualifier : Option Qualifier
  deriving DecidableEq, Repr

namespace Key

def unqualified (type : TypeName) : Key := ⟨type, none⟩

def qualified (type : TypeName) (qualifier : Qualifier) : Key := ⟨type, some qualifier⟩

def text (key : Key) : String :=
  match key.qualifier with
  | some qualifier => key.type ++ " @" ++ qualifier
  | none => key.type

/-! ## Order -/

instance : Ord Key where
  compare := compareLex (compareOn type) (compareOn qualifier)

instance : Std.TransOrd Key :=
  inferInstanceAs (Std.TransCmp (compareLex (compareOn Key.type) (compareOn Key.qualifier)))

instance : Std.LawfulEqOrd Key where
  eq_of_compare {a b} h := by
    -- Neither field may differ if the whole comparison ends in `eq`.
    obtain ⟨htype, hqualifier⟩ := Ordering.then_eq_eq.1 h
    have htype : a.type = b.type := Std.LawfulEqCmp.eq_of_compare htype
    have hqualifier : a.qualifier = b.qualifier := Std.LawfulEqCmp.eq_of_compare hqualifier
    cases a; cases b; simp_all

/-- Positions of a list of keys in key order; equal keys stay in list order. -/
def sortedPositions (keys : List Key) : List Nat :=
  (keys.zipIdx.mergeSort fun a b => (compare a.1 b.1).isLE).map (·.2)

/-! ## Provider names -/

/-- The text with its first character mapped, the others kept. -/
def mapFirst (f : Char → List Char) (name : String) : String :=
  match name.toList with
  | [] => ""
  | first :: rest => String.ofList (f first ++ rest)

/-- For instance `repoPremiumProvider` for the type `app::Repo` qualified by `app::Premium`. -/
def providerName (key : Key) : String :=
  mapFirst Text.lower (shortName key.type) ++
    ((key.qualifier.map fun qualifier => mapFirst Text.upper (shortName qualifier)).getD "") ++
    "Provider"

end Key
end ObjectGraph
