/-!
# Names — identities of types, qualifiers, scopes, components and modules

Every identity is the text it was declared with; two identities of one kind are the same when their
texts are. Texts are ordered by code point.

* `lastSegment?` — what follows the rightmost `::`;
* `shortName` — the last path segment of a name without its generic arguments.
-/

namespace ObjectGraph

abbrev TypeName := String

abbrev Qualifier := String

abbrev ScopeId := String

abbrev ComponentId := String

abbrev ModuleId := String

/-! ## Short names -/

/-- What follows the rightmost `::`. The two colons of an occurrence may overlap with another one,
so `a:::b` ends in `b`. -/
def lastSegment? : List Char → Option (List Char)
  | [] => none
  | c :: rest =>
    match lastSegment? rest with
    -- An occurrence further right decides.
    | some segment => some segment
    | none =>
      match c, rest with
      | ':', ':' :: segment => some segment
      | _, _ => none

/-- Last path segment of a name, read up to the first `<`. -/
def shortName (name : String) : String :=
  let path := name.toList.takeWhile (· ≠ '<')
  String.ofList ((lastSegment? path).getD path)

end ObjectGraph
