import ObjectGraph.Key

/-!
# Manifests — what a program declares

A manifest lists the components, modules and declarations found in one program, in the order in
which they were found. Nothing is checked here: identities may repeat, types may be unresolved and
contributions may name components that nobody declares.

* `Declaration` — an injectable type, a provides function or a binds function;
* `Manifest.component?`, `Manifest.module?` — the first declaration of an identity.
-/

namespace ObjectGraph

/-! ## Types and parameters -/

/-- A type as it was found. An unresolved one is kept as raw text, to be reported. -/
inductive TypeRef where
  | resolved (name : TypeName)
  | unresolved (raw : String)
  deriving DecidableEq, Repr

namespace TypeRef

def name? : TypeRef → Option TypeName
  | .resolved name => some name
  | .unresolved _ => none

def text : TypeRef → String
  | .resolved name => name
  | .unresolved raw => raw

end TypeRef

/-- Where the argument of a parameter comes from: the graph, the caller of an assisted factory, or
the site that asks for the instance. -/
inductive ParameterKind where
  | regular
  | assisted
  | runtimeContext
  deriving DecidableEq, Repr

/-- A regular parameter asks for the instance itself, which is a construction edge, or for a
provider of it, which is deferred. -/
inductive Request where
  | direct
  | deferred
  deriving DecidableEq, Repr

structure Parameter where
  name : String
  type : TypeRef
  qualifier : Option Qualifier
  kind : ParameterKind
  request : Request
  deriving DecidableEq, Repr

namespace Parameter

def regular (name : String) (type : TypeRef) (qualifier : Option Qualifier) : Parameter :=
  ⟨name, type, qualifier, .regular, .direct⟩

/-- The key that a parameter of this type and qualifier stands for, whatever its kind. -/
def key? (parameter : Parameter) : Option Key :=
  parameter.type.name?.map fun name => ⟨name, parameter.qualifier⟩

end Parameter

/-! ## Declarations -/

/-- The factory of a type with assisted parameters: what it takes and what it returns. -/
structure FactoryContract where
  type : TypeName
  parameters : List (String × TypeRef)
  returns : TypeRef
  deriving DecidableEq, Repr

structure Injectable where
  type : TypeRef
  qualifier : Option Qualifier
  scope : Option ScopeId
  parameters : List Parameter
  supertypes : List TypeName
  bindsTo : List TypeRef
  factory : Option FactoryContract
  runtimeScoped : Bool
  contributesTo : List ComponentId
  deriving DecidableEq, Repr

structure ProvidesFunction where
  moduleId : ModuleId
  name : String
  returns : TypeRef
  qualifier : Option Qualifier
  scope : Option ScopeId
  parameters : List Parameter
  runtimeScoped : Bool
  deriving DecidableEq, Repr

structure BindsFunction where
  moduleId : ModuleId
  name : String
  returns : TypeRef
  qualifier : Option Qualifier
  parameters : List Parameter
  isAbstract : Bool
  deriving DecidableEq, Repr

inductive Declaration where
  | injectable (declaration : Injectable)
  | provides (declaration : ProvidesFunction)
  | binds (declaration : BindsFunction)
  deriving DecidableEq, Repr

namespace Declaration

/-- The module of a function; an injectable has none. -/
def moduleId? : Declaration → Option ModuleId
  | .injectable _ => none
  | .provides f => some f.moduleId
  | .binds f => some f.moduleId

def displayName : Declaration → String
  | .injectable i => i.type.text
  | .provides f => f.moduleId ++ "::" ++ f.name
  | .binds f => f.moduleId ++ "::" ++ f.name

def parameters : Declaration → List Parameter
  | .injectable i => i.parameters
  | .provides f => f.parameters
  | .binds f => f.parameters

end Declaration

/-! ## Components, modules, manifests -/

inductive ComponentKind where
  | component
  | subcomponent
  deriving DecidableEq, Repr

structure ComponentDeclaration where
  id : ComponentId
  scope : Option ScopeId
  kind : ComponentKind
  contributesTo : List ComponentId
  deriving DecidableEq, Repr

structure ModuleDeclaration where
  id : ModuleId
  contributesTo : List ComponentId
  deriving DecidableEq, Repr

structure Manifest where
  entryPoint : ComponentId
  components : List ComponentDeclaration
  modules : List ModuleDeclaration
  declarations : List Declaration
  deriving DecidableEq, Repr

namespace Manifest

def component? (manifest : Manifest) (id : ComponentId) : Option ComponentDeclaration :=
  manifest.components.find? fun component => component.id = id

def module? (manifest : Manifest) (id : ModuleId) : Option ModuleDeclaration :=
  manifest.modules.find? fun moduleDeclaration => moduleDeclaration.id = id

end Manifest
end ObjectGraph
