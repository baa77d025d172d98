import ObjectGraph.Live.Blueprint

/-!
# Lookups — the provider that an instance gives for a key

A key is looked up from an instance upwards. An alias leads on to its target, looked up from the
instance that hosts the alias; with a cast, it puts a provider of its own before that of the target.

* `Wiring.host?` — the instance and entry that a key leads to;
* `Wiring.cast?`, `Wiring.conversion` — the cast that is registered for an alias, by its types and as
  a function;
* `Wiring.castAlong` — the casts that stand before an entry, one after the other;
* `Wiring.provider` — the provider that an instance gives for a key, through aliases.
-/

namespace ObjectGraph
namespace Wiring

variable (wiring : Wiring)

/-! ## Hosts -/

/-- The instance that hosts a key, from an instance upwards, and the entry it has for it. -/
def host? (inst : Instance) (key : Key) : Option (Instance × Entry) :=
  Instance.search (fun component => wiring.entry? component key) inst.frame inst.above

def contains (inst : Instance) (key : Key) : Bool := (wiring.host? inst key).isSome

/-! ## Registrations -/

/-- The type that the constructor of a key makes. -/
def product? (key : Key) : Option ValueType :=
  match wiring.registrations.find? key with
  | some (.construct type _ _) => some type
  | some (.factory product _) => some (.factory product)
  | some (.cast _ _ _) | none => none

def cast? (key : Key) : Option (ValueType × ValueType) :=
  match wiring.registrations.find? key with
  | some (.cast source target _) => some (source, target)
  | _ => none

/-- The function of the cast of a key. Without a cast values are passed on as they are. -/
def conversion (key : Key) : Conversion :=
  match wiring.registrations.find? key with
  | some (.cast _ _ conversion) => conversion
  | _ => .identity

/-- A value behind the casts of some aliases, of which the last one is the first to be applied. -/
def castAlong (casts : List Key) (value : Value) : Value :=
  casts.foldr (fun key value => (wiring.conversion key).apply value) value

/-! ## Providers -/

/-- The provider of a key as a provider of a type. An alias forwards to its target, looked up from
the instance that hosts the alias; with a cast, the target has to be of the type it is cast from. -/
def providerWithin : Nat → Instance → Key → ValueType → Except ResolveError Provider
  | bound, inst, key, type =>
    match wiring.host? inst key with
    | none => .error (.noProviderFound key)
    | some (host, entry) =>
      match entry.kind with
      | .assistedOnly => .error (.assistedConstruction key)
      | .scoped | .unscoped | .factory =>
        match wiring.product? key with
        | none => .error (.noProviderFound key)
        | some product =>
          -- What a constructor makes is fixed; a request for another type is refused.
          if product = type then .ok ⟨host, key, [], type⟩
          else .error (.incorrectType key type.name)
      | .aliasOf =>
        match entry.target?, bound with
        | none, _ => .error (.noProviderFound key)
        | some _, 0 => .error (.noProviderFound key)
        | some target, bound + 1 =>
          match wiring.cast? key with
          | none => providerWithin bound host target type
          | some (source, product) =>
            -- The target is looked up first: its error comes before one about the cast.
            match providerWithin bound host target source with
            | .error error => .error error
            | .ok provider =>
              if product = type then .ok (provider.castBy key type)
              else .error (.incorrectType key type.name)

/-- Aliases do not form a cycle, so a chain of them is shorter than the plan has entries. -/
def provider (inst : Instance) (key : Key) (type : ValueType) : Except ResolveError Provider :=
  wiring.providerWithin wiring.plan.size inst key type

end Wiring
end ObjectGraph
