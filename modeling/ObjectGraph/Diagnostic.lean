import ObjectGraph.Key

/-!
# Diagnostics — what is wrong with a manifest

* `GraphError` — one cause per constructor, with the names it is about;
* `GraphError.message` — its wording;
* `Warning` — findings that do not fail a compilation;
* `Report` — errors and warnings of one stage, each in the order in which they were found.
-/

namespace ObjectGraph

/-! ## Errors -/

inductive GraphError where
  | unresolvedScopeReference (declaration : String) (component : ComponentId)
  | orphanDeclaration (declaration : String)
  | unknownEntryPoint (entryPoint : ComponentId)
  | noRoot (entryPoint : ComponentId)
  | multipleRoots (roots : List ComponentId)
  | multipleParents (component : ComponentId) (parents : List ComponentId)
  | cyclicHierarchy (components : List ComponentId)
  | ambiguousScope (scope : ScopeId) (component ancestor : ComponentId)
  | invalidBindTarget (implementation interface : TypeName)
  | invalidBindsArity (declaration : String) (arity : Nat)
  | nonAbstractBinds (declaration : String)
  | unknownModule (declaration : String) (moduleId : ModuleId)
  | missingAssistedFactory (declaration : TypeName)
  | assistedProvides (declaration : String)
  | assistedFactoryMismatch (declaration factory : TypeName) (reason : String)
  | directAssistedDependency (key requiredBy : Key)
  | multipleRuntimeContexts (declaration : String)
  | unresolvedType (declaration raw : String)
  | duplicateBinding (key : Key) (component : ComponentId)
  | shadowedBinding (key : Key) (component ancestor : ComponentId)
  | unsatisfiedDependency (key requiredBy : Key) (component : ComponentId)
  | cyclicDependency (cycle : List Key)
  deriving DecidableEq, Repr

/-- A cycle as its keys, each followed by an arrow, and the first one again at the end. -/
def cycleText (cycle : List Key) : String :=
  String.join (cycle.map fun key => key.text ++ " -> ") ++ ((cycle.head?.map Key.text).getD "")

def GraphError.message : GraphError → String
  | .unresolvedScopeReference declaration component =>
    s!"`{declaration}` contributes to `{component}`, which is not a known component"
  | .orphanDeclaration declaration =>
    s!"Could not find host component for `{declaration}`"
  | .unknownEntryPoint entryPoint =>
    s!"Entry point `{entryPoint}` is not a declared component"
  | .noRoot entryPoint =>
    s!"No root component found for entry point `{entryPoint}`"
  | .multipleRoots roots =>
    "Multiple root components reachable from the entry point: " ++ ", ".intercalate roots
  | .multipleParents component parents =>
    s!"Subcomponent `{component}` is contributed to several parents: " ++
      ", ".intercalate parents
  | .cyclicHierarchy components =>
    "Components form a parent cycle and never reach the root: " ++ ", ".intercalate components
  | .ambiguousScope scope component ancestor =>
    s!"Scope `{scope}` of `{component}` is already declared by its ancestor `{ancestor}`"
  | .invalidBindTarget implementation interface =>
    s!"`{implementation}` is bound to `{interface}`, which is not one of its supertypes"
  | .invalidBindsArity declaration arity =>
    s!"Binds function `{declaration}` must have exactly one parameter, found {arity}"
  | .nonAbstractBinds declaration =>
    s!"Binds function `{declaration}` must be abstract"
  | .unknownModule declaration moduleId =>
    s!"`{declaration}` belongs to `{moduleId}`, which is not a declared module"
  | .missingAssistedFactory declaration =>
    s!"`{declaration}` has assisted parameters but no factory contract"
  | .assistedProvides declaration =>
    s!"Provides function `{declaration}` can't take assisted parameters, " ++
      "only an injectable with a factory can"
  | .assistedFactoryMismatch declaration factory reason =>
    s!"Factory `{factory}` of `{declaration}` doesn't match its assisted parameters: {reason}"
  | .directAssistedDependency key requiredBy =>
    s!"`{requiredBy.text}` depends on `{key.text}` directly, which has assisted parameters. " ++
      "Depend on its factory instead"
  | .multipleRuntimeContexts declaration =>
    s!"`{declaration}` declares more than one runtime context parameter"
  | .unresolvedType declaration raw =>
    s!"Unresolved type `{raw}` in `{declaration}`"
  | .duplicateBinding key component =>
    s!"`{key.text}` is declared more than once in `{component}`"
  | .shadowedBinding key component ancestor =>
    s!"`{key.text}` declared in `{component}` shadows the one hosted by its ancestor `{ancestor}`"
  | .unsatisfiedDependency key requiredBy component =>
    s!"Unsatisfied dependency `{key.text}` required by `{requiredBy.text}` in `{component}`"
  | .cyclicDependency cycle =>
    "Cyclic dependency detected: " ++ cycleText cycle

/-- The texts of a failed compilation, a line each. -/
def GraphError.messages (errors : List GraphError) : String :=
  "\n".intercalate (errors.map GraphError.message)

def GraphError.cycle? : GraphError → Option (List Key)
  | .cyclicDependency cycle => some cycle
  | _ => none

/-! ## Warnings -/

inductive Warning where
  /-- A unit that already has a host is contributed to another component. -/
  | severalHosts (declaration : String) (host ignored : ComponentId)
  /-- A finding that the configuration lets pass. -/
  | tolerated (finding : GraphError)
  | constructorReplaced (key : Key)
  deriving DecidableEq, Repr

def Warning.message : Warning → String
  | .severalHosts _ _ _ => "Contributed to several components, the first one hosts it"
  | .tolerated finding => finding.message
  | .constructorReplaced _ => "Constructor registered twice, the last one wins"

/-! ## Reports -/

structure Report where
  errors : List GraphError
  warnings : List Warning
  deriving DecidableEq, Repr

namespace Report

def empty : Report := ⟨[], []⟩

def ofErrors (errors : List GraphError) : Report := ⟨errors, []⟩

/-- Findings that the configuration lets pass. -/
def tolerate (findings : List GraphError) : Report := ⟨[], findings.map .tolerated⟩

instance : Append Report where
  append first second := ⟨first.errors ++ second.errors, first.warnings ++ second.warnings⟩

@[simp]
theorem errors_append (first second : Report) :
    (first ++ second).errors = first.errors ++ second.errors := rfl

@[simp]
theorem warnings_append (first second : Report) :
    (first ++ second).warnings = first.warnings ++ second.warnings := rfl

end Report
end ObjectGraph
