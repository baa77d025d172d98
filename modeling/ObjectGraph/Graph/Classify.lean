import ObjectGraph.Diagnostic
import ObjectGraph.Graph.Node

/-!
# Classification — the nodes of one declaration

A declaration hosted by a component becomes nodes of that component, or errors. An injectable yields
its own node, a factory node if it has assisted parameters and an alias for each interface it is
bound to; a function yields one node.

* `splitParameters` — parameters by how they are supplied;
* `Declaration.classify` — the nodes and the errors of a declaration.
-/

namespace ObjectGraph

/-! ## Parameters -/

/-- Parameters by how they are supplied: constructed, deferred, by the caller, by the site. -/
structure Supply where
  dependencies : List Key
  deferred : List Key
  assisted : List (String × TypeRef)
  context : Option (String × TypeName)
  deriving DecidableEq, Repr

structure Split where
  supply : Supply
  errors : List GraphError
  deriving DecidableEq, Repr

namespace Split

def empty : Split := ⟨⟨[], [], [], none⟩, []⟩

def fail (split : Split) (error : GraphError) : Split :=
  { split with errors := split.errors ++ [error] }

/-- Adds one parameter. Only the first resolved context parameter is one. -/
def add (declaration : String) (split : Split) (parameter : Parameter) : Split :=
  match parameter.type with
  | .unresolved raw => split.fail (.unresolvedType declaration raw)
  | .resolved type =>
    let supply := split.supply
    match parameter.kind, parameter.request with
    | .regular, .direct =>
      { split with supply.dependencies := supply.dependencies ++ [⟨type, parameter.qualifier⟩] }
    | .regular, .deferred =>
      { split with supply.deferred := supply.deferred ++ [⟨type, parameter.qualifier⟩] }
    | .assisted, _ =>
      { split with supply.assisted := supply.assisted ++ [(parameter.name, parameter.type)] }
    | .runtimeContext, _ =>
      -- A second one is an error even if it asks for the same type.
      match supply.context with
      | none => { split with supply.context := some (parameter.name, type) }
      | some _ => split.fail (.multipleRuntimeContexts declaration)

def supply? (split : Split) : Option Supply :=
  if split.errors.isEmpty then some split.supply else none

end Split

def splitParameters (declaration : String) (parameters : List Parameter) : Split :=
  parameters.foldl (Split.add declaration) Split.empty

/-! ## Results -/

structure Classified where
  nodes : List Node
  errors : List GraphError
  deriving DecidableEq, Repr

namespace Classified

def ofErrors (errors : List GraphError) : Classified := ⟨[], errors⟩

def ofNode (node : Node) : Classified := ⟨[node], []⟩

end Classified

/-- Where a declaration lands: its position, its host and the scope of the host. -/
structure Placement where
  position : Nat
  host : ComponentId
  hostScope : Option ScopeId
  deriving DecidableEq, Repr

/-- A node built from supplied parameters; a context parameter leaves its identity to the site. -/
def constructedNode (place : Placement) (key : Key) (scope : Option ScopeId)
    (runtimeScoped : Bool) (supply : Supply) : Node :=
  { Node.bare key place.position place.host with
    dependencies := supply.dependencies
    deferred := supply.deferred
    assisted := supply.assisted
    scope := scope <|> place.hostScope
    context := supply.context
    runtimeScoped := runtimeScoped || supply.context.isSome }

/-! ## Injectables -/

namespace Injectable

/-- The key of an interface that the injectable may be bound to. -/
def bindingTarget (injectable : Injectable) (type : TypeName) (interface : TypeRef) :
    Except GraphError Key :=
  match interface with
  | .unresolved raw => .error (.unresolvedType type raw)
  | .resolved name =>
    if injectable.supertypes.contains name then .ok ⟨name, injectable.qualifier⟩
    else .error (.invalidBindTarget type name)

/-- The factory contract, if it takes the assisted parameters and returns the type. -/
def matchedContract (injectable : Injectable) (type : TypeName) (supply : Supply) :
    Except GraphError FactoryContract :=
  match injectable.factory with
  | none => .error (.missingAssistedFactory type)
  | some contract =>
    -- Parameters are matched by position and type; their names are free.
    if contract.parameters.map (·.2) ≠ supply.assisted.map (·.2) then
      .error (.assistedFactoryMismatch type contract.type
        "parameter types differ from the assisted parameters")
    else if contract.returns.name? ≠ some type then
      .error (.assistedFactoryMismatch type contract.type "it doesn't return the assisted type")
    else
      .ok contract

def factoryNode (place : Placement) (contract : FactoryContract) (supply : Supply) : Node :=
  { Node.bare (.unqualified contract.type) place.position place.host with
    dependencies := supply.dependencies
    deferred := supply.deferred
    context := supply.context
    isFactory := true }

/-- The factory node of an injectable with assisted parameters. -/
def factory? (injectable : Injectable) (place : Placement) (type : TypeName) (supply : Supply) :
    Classified :=
  if supply.assisted.isEmpty then ⟨[], []⟩
  else
    match injectable.matchedContract type supply with
    | .ok contract => .ofNode (factoryNode place contract supply)
    | .error error => .ofErrors [error]

/-- A node that forwards an interface to the node it is bound to. -/
def aliasNode (target : Node) (interface : Key) : Node :=
  { Node.bare interface target.source target.host with
    dependencies := [target.key]
    scope := target.scope
    isAlias := true }

def errorOf? {α : Type} : Except GraphError α → Option GraphError
  | .ok _ => none
  | .error error => some error

def classify (injectable : Injectable) (place : Placement) : Classified :=
  match injectable.type with
  | .unresolved raw => .ofErrors [.unresolvedType raw raw]
  | .resolved type =>
    let split := splitParameters type injectable.parameters
    match split.supply? with
    | none => .ofErrors split.errors
    | some supply =>
      -- A binding or a factory that fails does not keep the node itself out of the graph.
      let targets := injectable.bindsTo.map (injectable.bindingTarget type)
      let interfaces := targets.filterMap Except.toOption
      let node := { constructedNode place ⟨type, injectable.qualifier⟩ injectable.scope
        injectable.runtimeScoped supply with bindingTargets := interfaces }
      let factory := injectable.factory? place type supply
      ⟨node :: factory.nodes ++ interfaces.map (aliasNode node),
        targets.filterMap errorOf? ++ factory.errors⟩

end Injectable

/-! ## Functions -/

namespace ProvidesFunction

def classify (function : ProvidesFunction) (place : Placement) : Classified :=
  let name := (Declaration.provides function).displayName
  match function.returns with
  | .unresolved raw => .ofErrors [.unresolvedType name raw]
  | .resolved type =>
    let split := splitParameters name function.parameters
    match split.supply? with
    | none => .ofErrors split.errors
    | some supply =>
      if supply.assisted.isEmpty then
        .ofNode (constructedNode place ⟨type, function.qualifier⟩ function.scope
          function.runtimeScoped supply)
      else
        .ofErrors [.assistedProvides name]

end ProvidesFunction

namespace BindsFunction

/-- A binds function is an alias of its only parameter, whatever the kind of that parameter. -/
def classify (function : BindsFunction) (place : Placement) : Classified :=
  let name := (Declaration.binds function).displayName
  -- Of several faults only the first one is reported.
  if function.isAbstract then
    match function.parameters with
    | [implementation] =>
      match function.returns, implementation.type with
      | .unresolved raw, _ => .ofErrors [.unresolvedType name raw]
      | .resolved _, .unresolved raw => .ofErrors [.unresolvedType name raw]
      | .resolved interface, .resolved type =>
        .ofNode { Node.bare ⟨interface, function.qualifier⟩ place.position place.host with
          dependencies := [⟨type, implementation.qualifier⟩]
          scope := place.hostScope
          isAlias := true }
    | parameters => .ofErrors [.invalidBindsArity name parameters.length]
  else
    .ofErrors [.nonAbstractBinds name]

end BindsFunction

def Declaration.classify (place : Placement) : Declaration → Classified
  | .injectable i => i.classify place
  | .provides f => f.classify place
  | .binds f => f.classify place

end ObjectGraph
