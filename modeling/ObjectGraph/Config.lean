/-!
# Configuration — which findings are errors

* `Config.default` — shadowing is a warning, ambiguous scopes and unsatisfied dependencies are
  errors;
* `Config.strict` — every finding is an error.
-/

namespace ObjectGraph

/-- What becomes of a key that a component declares although one of its ancestors hosts it. -/
inductive ShadowingPolicy where
  | allow
  | warn
  | deny
  deriving DecidableEq, Repr

structure Config where
  shadowing : ShadowingPolicy
  rejectAmbiguousScopes : Bool
  validateDependencies : Bool
  deriving DecidableEq, Repr

namespace Config

def default : Config := ⟨.warn, true, true⟩

def strict : Config := ⟨.deny, true, true⟩

end Config
end ObjectGraph
