import ObjectGraph.Name
import ObjectGraph.Table

/-!
# Contexts — values supplied by the site that asks for an instance

A context holds at most one value of each type. Values are texts here: nothing but their identity
matters.

* `Context.put` — a context with a value, and the value it replaces;
* `Context.ofList` — values put one after the other;
* `ContextStep` — one operation on contexts that are known by names.
-/

namespace ObjectGraph

abbrev Context := Table TypeName String

namespace Context

def put (context : Context) (type : TypeName) (value : String) : Option String × Context :=
  (context.find? type, context.insert type value)

def ofList (values : List (TypeName × String)) : Context :=
  values.foldl (fun context entry => (put context entry.1 entry.2).2) Table.empty

end Context

/-! ## Named contexts -/

/-- An operation on the context of a name, which is empty before its first use. -/
inductive ContextStep where
  /-- Answers the value that the new one replaces. -/
  | insert (type : TypeName) (value : String)
  /-- Like `insert`, but answers nothing. -/
  | extend (type : TypeName) (value : String)
  | get (type : TypeName)
  | isEmpty
  | size
  /-- Replaces the context by that of another name. -/
  | copy (source : String)
  deriving DecidableEq, Repr

inductive ContextAnswer where
  | value (value : Option String)
  | flag (flag : Bool)
  | size (size : Nat)
  deriving DecidableEq, Repr

abbrev NamedContexts := Table String Context

namespace NamedContexts

def context (contexts : NamedContexts) (name : String) : Context :=
  (contexts.find? name).getD Table.empty

def step (contexts : NamedContexts) (name : String) : ContextStep → ContextAnswer × NamedContexts
  | .insert type value =>
    let (replaced, context) := (context contexts name).put type value
    (.value replaced, contexts.insert name context)
  | .extend type value =>
    (.value none, contexts.insert name ((context contexts name).put type value).2)
  | .get type => (.value ((context contexts name).find? type), contexts)
  | .isEmpty => (.flag (context contexts name).isEmpty, contexts)
  | .size => (.size (context contexts name).size, contexts)
  | .copy source => (.value none, contexts.insert name (context contexts source))

def run : NamedContexts → List (String × ContextStep) → List ContextAnswer
  | _, [] => []
  | contexts, (name, operation) :: rest =>
    let (answer, contexts) := step contexts name operation
    answer :: run contexts rest

end NamedContexts
end ObjectGraph
