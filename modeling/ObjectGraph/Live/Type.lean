import ObjectGraph.Key

/-!
# Value types — what a provider hands out

A provider hands out objects of a type, or assisted factories that create objects of a type.

* `ValueType.name` — the type as error texts show it;
* `Key.ofType` — the key that stands for a type.
-/

namespace ObjectGraph

inductive ValueType where
  | object (name : TypeName)
  | factory (product : TypeName)
  deriving DecidableEq, Repr

/-- Every assisted factory takes arguments of the one type `rt::Args`. -/
def ValueType.name : ValueType → TypeName
  | .object name => name
  | .factory product =>
    "staticwire::runtime::factory::AssistedFactory<rt::Args, " ++ product ++ ">"

/-- The unqualified key of a type. -/
def Key.ofType (type : ValueType) : Key := .unqualified type.name

end ObjectGraph
