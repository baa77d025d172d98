import ObjectGraph.Live.Scopes
import ObjectGraph.Live.Store
import ObjectGraph.Text.Quoted

/-!
# Debug texts — the inside of values that have no other text

Every record shows its name and its shown fields; two dots stand for fields that are not shown.

* `AssistedFactory.debugText`, `LiveGraph.debugText` — a factory, a live graph;
* `contextDebugText` — a context, of which only the size shows.
-/

namespace ObjectGraph

/-- A record with the given fields, between braces. -/
def recordText (name : String) (fields : List (String × String)) (hasMore : Bool) : String :=
  let shown := fields.map fun field => field.1 ++ ": " ++ field.2
  name ++ " \x7b " ++ ", ".intercalate (if hasMore then shown ++ [".."] else shown) ++ " \x7d"

/-- A name with one unnamed field. -/
def wrappedText (name field : String) : String := name ++ "(" ++ field ++ ")"

def identityText (name identity : String) : String := wrappedText name (Text.quote identity)

def Key.debugText (key : Key) : String :=
  recordText "DependencyKey"
    [("type_name", identityText "TypeName" key.type),
      ("qualifier", match key.qualifier with
        | some qualifier => wrappedText "Some" (identityText "Qualifier" qualifier)
        | none => "None")]
    false

def AssistedFactory.debugText (factory : AssistedFactory) : String :=
  recordText "AssistedFactory"
    [("key", factory.key.debugText),
      ("component", identityText "ComponentId" factory.host.component)]
    true

def dispatchText (dispatch : Table Key ComponentId) : String :=
  "\x7b" ++ ", ".intercalate (dispatch.entries.map fun entry =>
    entry.1.debugText ++ ": " ++ identityText "ComponentId" entry.2) ++ "\x7d"

def LiveGraph.debugText (graph : LiveGraph) : String :=
  recordText "Runtime"
    [("root", identityText "ComponentId" graph.root.component),
      ("resolver", recordText "Resolver"
        [("dispatch", dispatchText graph.wiring.plan.dispatch)] false)]
    true

def contextDebugText (size : Nat) : String :=
  recordText "Context" [("len", toString size)] false

end ObjectGraph
