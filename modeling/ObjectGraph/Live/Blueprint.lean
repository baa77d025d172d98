import ObjectGraph.Diagnostic
import ObjectGraph.Live.Error
import ObjectGraph.Live.Value

/-!
# Blueprints — constructors for the keys of a plan

A constructor is a script of demands on the site it runs at. One is registered for each key and
shared by all components that host the key.

Scripts are straight-line: the demands are made in their order, up to an error that is returned. A
constructor of this kind cannot choose its next demand by a reply, it learns of the instance above its
own only the component and asks it for nothing, and it passes on the context of its site or none at all.
What it may go by is the number of the run, which can make it fail.

* `Action` — a step of a constructor;
* `Registration` — a constructor, the constructor behind a factory, or the cast of an alias;
* `Blueprint.error?` — the first thing that does not fit a plan;
* `Blueprint.wire` — a plan with the constructors checked against it.
-/

namespace ObjectGraph

/-! ## Scripts -/

/-- Whether a provider is called with the context of the site or with none. -/
inductive CallMode where
  | withoutContext
  | withContext
  deriving DecidableEq, Repr

/-- What a constructor can ask for. A provider is kept by the value under construction. -/
inductive Demand where
  | get (key : Key) (type : ValueType)
  | inject (type : ValueType)
  | provider (key : Key) (type : ValueType) (call : Option CallMode)
  | create (key : Key) (product : TypeName) (arguments : String)
  | context (type : TypeName)
  | contextIsEmpty
  | contains (key : Key)
  | parent
  deriving DecidableEq, Repr

/-- What a constructor does with the error of a demand: return it, return it as a failure of its
own, or take note and go on. -/
inductive OnError where
  | propagate
  | wrap
  | record
  deriving DecidableEq, Repr

/-- A failure happens on the listed calls of the constructor, on every call if none is listed. -/
inductive Action where
  | demand (demand : Demand) (onError : OnError)
  | fail (text : String) (calls : List Nat) (contexts : List String)
  deriving DecidableEq, Repr

/-! ## Registrations -/

inductive Registration where
  /-- With a context type, the constructor takes the value of that type from the site. -/
  | construct (type : ValueType) (context : Option TypeName) (script : List Action)
  | factory (product : TypeName) (script : List Action)
  /-- An alias hands out values of the target type, made by a function from values of the source type. -/
  | cast (source target : ValueType) (conversion : Conversion := .identity)

structure Blueprint where
  registrations : Table Key Registration

namespace Blueprint

def empty : Blueprint := ⟨.empty⟩

/-- Registers in list order; the last registration of a key stays. -/
def ofList (registrations : List (Key × Registration)) : Blueprint :=
  ⟨registrations.foldl (fun table entry => table.insert entry.1 entry.2) .empty⟩

/-- A warning for every registration of a key registered before. -/
def replacements (seen : List Key) : List (Key × Registration) → List Warning
  | [] => []
  | (key, _) :: rest =>
    if seen.contains key then .constructorReplaced key :: replacements (key :: seen) rest
    else replacements (key :: seen) rest

/-! ## Fitting a plan -/

/-- Constructors build scoped and unscoped nodes, factories stand behind factory nodes, an alias may
have a cast, and a node that only its factory builds has no registration. -/
def entryError? (blueprint : Blueprint) (component : ComponentId) (entry : Entry) :
    Option BlueprintError :=
  match entry.kind, blueprint.registrations.find? entry.key with
  | .scoped, none => some (.missingConstructor entry.key component)
  | .unscoped, none => some (.missingConstructor entry.key component)
  | .factory, none => some (.missingConstructor entry.key component)
  | .scoped, some (.construct _ _ _) => none
  | .unscoped, some (.construct _ _ _) => none
  | .factory, some (.factory _ _) => none
  | .aliasOf, none => none
  | .aliasOf, some (.cast _ _ _) => none
  | .assistedOnly, none => none
  -- A registration of another sort, or one for a node that takes none.
  | kind, some _ => some (.kindMismatch entry.key kind)

def unknownKey? (blueprint : Blueprint) (plan : Plan) : Option Key :=
  blueprint.registrations.keys.find? fun key => !plan.dispatch.contains key

def error? (blueprint : Blueprint) (plan : Plan) : Option BlueprintError :=
  match blueprint.unknownKey? plan with
  | some key => some (.unknownKey key)
  | none => plan.components.findSome? fun component =>
      component.providers.findSome? (blueprint.entryError? component.id)

end Blueprint

/-- A plan and the constructors of its keys. -/
structure Wiring where
  plan : Plan
  registrations : Table Key Registration

def Blueprint.wire (blueprint : Blueprint) (plan : Plan) : Except BlueprintError Wiring :=
  match blueprint.error? plan with
  | some error => .error error
  | none => .ok ⟨plan, blueprint.registrations⟩

namespace Wiring

def entry? (wiring : Wiring) (component : ComponentId) (key : Key) : Option Entry :=
  (wiring.plan.component? component).bind fun plan => plan.provider? key

def kind? (wiring : Wiring) (component : ComponentId) (key : Key) : Option ProviderKind :=
  (wiring.entry? component key).map Entry.kind

/-! ## Depth of constructions -/

def callNumbers : List Action → List Nat
  | [] => []
  | .fail _ calls _ :: rest => calls ++ callNumbers rest
  | .demand _ _ :: rest => callNumbers rest

/-- The last call on which a script fails. -/
def lastFailure (registration : Registration) : Nat :=
  match registration with
  | .construct _ _ script => (callNumbers script).foldl max 0
  | .factory _ script => (callNumbers script).foldl max 0
  | .cast _ _ _ => 0

/-- The deepest nesting of constructions that is served. Constructions that ask only for what their
nodes depend on are nested less deeply than the plan has entries. Any other nesting ends only where
a script fails, so every entry gets as many rounds as the last failing call asks for, with a context
and without one, and as many again; what is nested still deeper is taken to have no end. -/
def depthBound (wiring : Wiring) : Nat :=
  let failing := (wiring.registrations.values.map lastFailure).foldl max 0
  4 * (wiring.plan.size + 1) * (failing + 2)

end Wiring
end ObjectGraph
