import ObjectGraph.Compile
import ObjectGraph.Live.Scopes
import ObjectGraph.Live.Serve

/-!
# Sessions — named slots over live graphs

A session keeps values, providers, component instances and live graphs of one compilation in named
slots. Context slots, which are named apart, take a live graph once and for all.

* `Held` — what a slot holds;
* `Session.held` — the instances that slots and live graphs hold;
* `Session.alive` — the stamps of those instances and of their ancestors;
* `Session.start` — a session with one live graph in the slot `r`.
-/

namespace ObjectGraph

/-- A graph in a slot is known by its root stamp; `owned` says that it did not come from a context
slot and may be moved into one. -/
inductive Held where
  | value (type : ValueType) (value : Value)
  | provider (provider : Provider)
  | component (inst : Instance)
  | graph (id : Nat) (owned : Bool)
  deriving DecidableEq

structure Session where
  plan : Plan
  graphs : Table Nat LiveGraph
  store : Store
  slots : Table String Held
  contextSlots : Table String Nat
  warnings : List Warning

namespace Session

/-! ## Liveness -/

/-- Live graphs that a slot or a context slot refers to. -/
def heldGraphs (session : Session) : List LiveGraph :=
  let fromSlots := session.slots.values.filterMap fun
    | .graph id _ => some id
    | _ => none
  (fromSlots ++ session.contextSlots.values).filterMap session.graphs.find?

/-- Component instances in slots. -/
def heldInstances (session : Session) : List Instance :=
  session.slots.values.filterMap fun
    | .component inst => some inst
    | _ => none

/-- Instances held by a slot or by a live graph that is itself held. -/
def held (session : Session) : List Instance :=
  session.heldInstances ++ session.heldGraphs.flatMap LiveGraph.instances

/-- Stamps of the held instances and of their ancestors. -/
def alive (session : Session) : List Nat :=
  -- An instance holds its parent, so whatever holds an instance holds all above it.
  session.held.flatMap fun inst => inst.lineage.map (·.stamp)

/-! ## Slots -/

def put (session : Session) (slot : String) (held : Held) : Session :=
  { session with slots := session.slots.insert slot held }

def putIf (session : Session) (slot? : Option String) (held : Held) : Session :=
  match slot? with
  | some slot => session.put slot held
  | none => session

def instance? (session : Session) (slot : String) : Option Instance :=
  match session.slots.find? slot with
  | some (.component inst) => some inst
  | _ => none

def provider? (session : Session) (slot : String) : Option Provider :=
  match session.slots.find? slot with
  | some (.provider provider) => some provider
  | _ => none

def graph? (session : Session) (slot : String) : Option LiveGraph :=
  match session.slots.find? slot with
  | some (.graph id _) => session.graphs.find? id
  | _ => none

def slotsWhere (session : Session) (p : Held → Bool) : List String :=
  session.slots.keysWhere p

/-! ## Live graphs -/

def setGraph (session : Session) (graph : LiveGraph) (nextStamp : Nat) : Session :=
  { session with
    graphs := session.graphs.insert graph.id graph
    store := { session.store with nextStamp := nextStamp } }

/-- Registers constructors in list order, fits them to the plan and starts a live graph in a slot.
Warnings of the registrations stay even if the graph cannot be built. -/
def build (session : Session) (registrations : List (Key × Registration)) (slot : String) :
    Except BlueprintError Unit × Session :=
  let session := { session with
    warnings := session.warnings ++ Blueprint.replacements [] registrations }
  match (Blueprint.ofList registrations).wire session.plan with
  | .error error => (.error error, session)
  | .ok wiring =>
    let graph := LiveGraph.start wiring session.store.nextStamp
    (.ok (), (session.setGraph graph (session.store.nextStamp + 1)).put slot (.graph graph.id true))

def blank (plan : Plan) : Session :=
  ⟨plan, .empty, .empty, .empty, .empty, []⟩

def start (compilation : Compilation) (registrations : List (Key × Registration)) :
    Except BlueprintError Session :=
  match (blank compilation.plan).build registrations "r" with
  | (.ok _, session) => .ok session
  | (.error error, _) => .error error

end Session
end ObjectGraph
