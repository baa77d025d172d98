import ObjectGraph.Live.Context
import ObjectGraph.Live.Instance
import ObjectGraph.Live.Type

/-!
# Values — what providers hand out

A provider belongs to the entry of one instance. Each alias with a cast on the way to that entry puts
a provider of its own before it, which casts what the next one yields.

* `Provider` — the entry of an instance, behind casts;
* `Value` — an object with the providers its constructor kept, or an assisted factory;
* `Value.ViewOf` — what can be made of a value by a function that is given nothing else;
* `Conversion` — the function of a cast.
-/

namespace ObjectGraph

/-! ## Providers -/

/-- `casts` are the keys of the aliases whose casts stand before the entry, the outermost first. -/
structure Provider where
  host : Instance
  key : Key
  casts : List Key
  type : ValueType
  deriving DecidableEq, Repr

namespace Provider

/-- The provider behind the cast of one more alias. -/
def castBy (provider : Provider) (key : Key) (type : ValueType) : Provider :=
  { provider with casts := key :: provider.casts, type := type }

/-- Two requests get the very same provider if they lead to one entry without a cast; a cast makes
a provider of its own. -/
def same (a b : Provider) : Bool :=
  a.casts.isEmpty && b.casts.isEmpty && a.host.stamp = b.host.stamp && a.key = b.key

end Provider

/-! ## Values -/

/-- An assisted factory: where it belongs, the context captured with it and what it creates. -/
structure AssistedFactory where
  host : Instance
  key : Key
  context : Context
  product : TypeName
  deriving DecidableEq

/-- Objects are told apart by the serial number of the constructor run that made them. -/
inductive Value where
  | object (serial : Nat) (kept : List Provider)
  | factory (factory : AssistedFactory)
  deriving DecidableEq

/-! ## Casts -/

/-- A view of an object is backed by the run that made the object, and gives access to providers that
the object keeps. There is no other view of a factory than the factory. -/
inductive Value.ViewOf : Value → Value → Prop where
  | object {serial : Nat} {kept held : List Provider}
      (hsubset : ∀ provider ∈ kept, provider ∈ held) :
      ViewOf (.object serial kept) (.object serial held)
  | factory (made : AssistedFactory) : ViewOf (.factory made) (.factory made)

theorem Value.ViewOf.refl : ∀ value : Value, value.ViewOf value
  | .object _ _ => .object fun _ hmem => hmem
  | .factory made => .factory made

/-- The function that a cast is registered with. It is given a value and nothing else, and it runs
no constructor, so whatever it returns is a view of that value. -/
structure Conversion where
  apply : Value → Value
  view : ∀ value, (apply value).ViewOf value

/-- An interface shows the very object that implements it. -/
def Conversion.identity : Conversion := ⟨id, .refl⟩

end ObjectGraph
