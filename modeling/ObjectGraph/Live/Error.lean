import ObjectGraph.Plan

/-!
# Failures — what goes wrong when instances are asked for

* `ResolveError` — why a request failed;
* `ResolveError.message`, `ResolveError.causes` — its wording and what is behind it;
* `Failure` — what a constructor reports, and the error it becomes for its key;
* `BlueprintError` — why constructors do not fit a plan.
-/

namespace ObjectGraph

/-! ## Resolution -/

inductive ContextError where
  | alreadyInitialized
  | notInitialized
  deriving DecidableEq, Repr

def ContextError.message : ContextError → String
  | .alreadyInitialized => "Context is already initialized"
  | .notInitialized =>
    "Context is not initialized. Initialize it once at startup before injecting"

/-- The last three constructors stand for a failed constructor of `key`: by a dependency, by an
error it wrapped, or by a message of its own. Contexts were added to the message in list order, so
the last one is the outermost. -/
inductive ResolveError where
  | noProviderFound (key : Key)
  | incorrectType (key : Key) (expected : TypeName)
  | assistedConstruction (key : Key)
  | missingRuntimeContext (key : Key) (expected : TypeName)
  | componentDropped (component : ComponentId)
  | unknownComponent (component : ComponentId)
  | context (error : ContextError)
  | dependency (key : Key) (source : ResolveError)
  | wrapped (key : Key) (source : ResolveError)
  | custom (key : Key) (text : String) (contexts : List String)
  deriving DecidableEq, Repr

namespace ResolveError

def failedText (key : Key) (cause : String) : String :=
  s!"Constructor of `{key.text}` failed: {cause}"

def message : ResolveError → String
  | .noProviderFound key =>
    s!"No provider found for `{key.text}`. " ++
      "Ensure it is injectable or provided and contributed to a component"
  | .incorrectType key expected =>
    s!"Incorrect provider type for `{key.text}`, expected a provider of `{expected}`"
  | .assistedConstruction key =>
    s!"Cannot construct `{key.text}` directly, it has assisted parameters. " ++
      "Inject its factory instead"
  | .missingRuntimeContext key expected =>
    s!"`{key.text}` requires a runtime context value of type `{expected}`, " ++
      "supply it at the injection site"
  | .componentDropped component =>
    s!"Component `{component}` was dropped while one of its providers was still in use"
  | .unknownComponent component => s!"Component `{component}` is not part of the graph"
  | .context error => error.message
  | .dependency key source => failedText key source.message
  | .wrapped key source => failedText key source.message
  | .custom key text contexts => failedText key (contexts.getLast?.getD text)

/-- Texts of what is behind a failed constructor, the outermost first. -/
def causes : ResolveError → List String
  | .dependency _ source => source.message :: source.causes
  | .wrapped _ source => source.message :: source.causes
  | .custom _ text contexts => contexts.reverse ++ [text]
  | _ => []

end ResolveError

/-! ## Constructors -/

inductive Failure where
  | dependency (error : ResolveError)
  | wrapped (error : ResolveError)
  | custom (text : String) (contexts : List String)
  deriving DecidableEq, Repr

/-- The error of a request whose constructor failed: that of a dependency passes as it is. -/
def Failure.error (key : Key) : Failure → ResolveError
  | .dependency error => error
  | .wrapped error => .wrapped key error
  | .custom text contexts => .custom key text contexts

/-! ## Blueprints -/

inductive BlueprintError where
  | missingConstructor (key : Key) (component : ComponentId)
  | unknownKey (key : Key)
  | kindMismatch (key : Key) (expected : ProviderKind)
  deriving DecidableEq, Repr

def BlueprintError.message : BlueprintError → String
  | .missingConstructor key component =>
    s!"No constructor registered for `{key.text}` hosted by `{component}`"
  | .unknownKey key =>
    s!"Constructor registered for `{key.text}`, which is not part of the graph"
  | .kindMismatch key expected =>
    s!"Constructor registered for `{key.text}` doesn't match its node, " ++
      s!"expected a {expected.text} provider"

end ObjectGraph
