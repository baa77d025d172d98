import ObjectGraph.Live.Debug
import ObjectGraph.Session.Basic

/-!
# Steps — one request to a session

* `Step` — what can be asked of a session;
* `Answer` — what it answers, as data;
* `Session.step` — an answer and the session after it;
* `Session.run` — steps in order, each with the constructor runs that ended during it.
-/

namespace ObjectGraph

/-! ## Steps and answers -/

/-- Where a key is asked for: a component instance or a live graph, by slot. -/
inductive Source where
  | component (slot : String)
  | graph (slot : String)
  deriving DecidableEq, Repr

/-- A live graph is named by its slot; `into` is the slot that takes the result. -/
inductive Step where
  | get (source : Source) (key : Key) (type : ValueType) (context : Context) (into : Option String)
  | provider (source : Source) (key : Key) (type : ValueType) (into : Option String)
  | call (slot : String) (context : Context) (into : Option String)
  | deferred (slot : String) (index : Nat) (context : Context) (into : Option String)
  | create (slot : String) (arguments : String) (into : Option String)
  | component (graph : String) (id : ComponentId) (into : Option String)
  | root (graph : String) (into : Option String)
  | parent (slot : String) (into : Option String)
  | destroy (graph : String) (id : ComponentId)
  | active (graph : String) (ids : List ComponentId)
  | contains (slot : String) (key : Key)
  | host (graph : String) (key : Key)
  | drop (slot : String)
  | clone (slot into : String)
  | build (registrations : List (Key × Registration)) (into : String)
  | debug (graph : String)
  | install (contextSlot graph : String)
  | isReady (contextSlot : String)
  | share (contextSlot into : String)
  | inject (contextSlot : String) (key : Key) (type : ValueType) (context : Context)
      (into : Option String)

inductive Answer where
  | noSlot (name : String)
  | failed (error : ResolveError)
  | contextFailed (error : ContextError)
  | buildFailed (error : BlueprintError)
  | value (type : ValueType) (value : Value)
  | sameProviders (slots : List String)
  | component (id : ComponentId) (parents : List ComponentId) (same : List String)
  | noParent
  | flag (flag : Bool)
  | flags (flags : List Bool)
  | text (text : String)
  /-- A scoped provider was called again while it constructs its value, or constructions were nested
  without end. -/
  | stuck
  deriving DecidableEq

namespace Session

variable (session : Session)

/-! ## Requests -/

/-- Serves a job for instances of a live graph and stores its value. -/
def serve (graph : LiveGraph) (job : Job) (type : ValueType) (into : Option String) :
    Answer × Session :=
  match (World.mk graph.wiring session.alive).serve job session.store with
  | (.ok value, store) =>
    (.value type value, ({ session with store := store }).putIf into (.value type value))
  -- What the request constructed before it failed stays constructed.
  | (.error (.error error), store) => (.failed error, { session with store := store })
  | (.error _, store) => (.stuck, { session with store := store })

/-- Serves a job for an instance of any live graph. -/
def serveFor (inst : Instance) (job : Job) (type : ValueType) (into : Option String) :
    Answer × Session :=
  match session.graphs.find? inst.rootStamp with
  | some graph => session.serve graph job type into
  | none => (.failed (.componentDropped inst.component), session)

/-- The instance that a live graph gives for a key, and the session with that instance active. -/
def dispatch (graph : LiveGraph) (key : Key) : Except ResolveError (Instance × Session) :=
  match graph.dispatch key session.store.nextStamp with
  | .error error => .error error
  | .ok activation => .ok (activation.inst, session.setGraph activation.graph activation.nextStamp)

/-- Looks a key up from an instance and calls its provider. -/
def getFrom (graph : LiveGraph) (inst : Instance) (key : Key) (type : ValueType)
    (context : Context) (into : Option String) : Answer × Session :=
  match graph.wiring.provider inst key type with
  | .error error => (.failed error, session)
  | .ok provider => session.serve graph (.call provider context) type into

def getFromGraph (graph : LiveGraph) (key : Key) (type : ValueType) (context : Context)
    (into : Option String) : Answer × Session :=
  match session.dispatch graph key with
  | .error error => (.failed error, session)
  | .ok (inst, session) => session.getFrom graph inst key type context into

def get (source : Source) (key : Key) (type : ValueType) (context : Context)
    (into : Option String) : Answer × Session :=
  match source with
  | .component slot =>
    match session.instance? slot with
    | none => (.noSlot slot, session)
    | some inst =>
      match session.graphs.find? inst.rootStamp with
      | none => (.failed (.componentDropped inst.component), session)
      | some graph => session.getFrom graph inst key type context into
  | .graph slot =>
    match session.graph? slot with
    | none => (.noSlot slot, session)
    | some graph => session.getFromGraph graph key type context into

/-- Slots that hold the very same provider. -/
def slotsOfProvider (provider : Provider) : List String :=
  session.slotsWhere fun
    | .provider other => provider.same other
    | _ => false

def providerFrom (wiring : Wiring) (inst : Instance) (key : Key) (type : ValueType)
    (into : Option String) : Answer × Session :=
  match wiring.provider inst key type with
  | .error error => (.failed error, session)
  | .ok provider =>
    -- The slots are compared before the result is stored in one.
    (.sameProviders (session.slotsOfProvider provider), session.putIf into (.provider provider))

def provider (source : Source) (key : Key) (type : ValueType) (into : Option String) :
    Answer × Session :=
  match source with
  | .component slot =>
    match session.instance? slot with
    | none => (.noSlot slot, session)
    | some inst =>
      match session.graphs.find? inst.rootStamp with
      | none => (.failed (.componentDropped inst.component), session)
      | some graph => session.providerFrom graph.wiring inst key type into
  | .graph slot =>
    match session.graph? slot with
    | none => (.noSlot slot, session)
    | some graph =>
      match session.dispatch graph key with
      | .error error => (.failed error, session)
      | .ok (inst, session) => session.providerFrom graph.wiring inst key type into

def call (slot : String) (context : Context) (into : Option String) : Answer × Session :=
  match session.provider? slot with
  | none => (.noSlot slot, session)
  | some provider =>
    session.serveFor provider.host (.call provider context) provider.type into

/-- Calls a provider that the constructor of a value kept. -/
def deferred (slot : String) (index : Nat) (context : Context) (into : Option String) :
    Answer × Session :=
  match session.slots.find? slot with
  | some (.value _ (.object _ kept)) =>
    match kept[index]? with
    | none => (.noSlot "deferred", session)
    | some provider =>
      session.serveFor provider.host (.call provider context) provider.type into
  | _ => (.noSlot slot, session)

def create (slot : String) (arguments : String) (into : Option String) : Answer × Session :=
  match session.slots.find? slot with
  | some (.value _ (.factory factory)) =>
    session.serveFor factory.host (.create factory arguments) (.object factory.product) into
  | _ => (.noSlot slot, session)

/-! ## Components -/

def slotsOfInstance (inst : Instance) : List String :=
  session.slotsWhere fun
    | .component other => inst.stamp = other.stamp
    | _ => false

def answerInstance (inst : Instance) (into : Option String) : Answer × Session :=
  (.component inst.component (inst.above.map (·.component)) (session.slotsOfInstance inst),
    session.putIf into (.component inst))

def component (slot : String) (id : ComponentId) (into : Option String) : Answer × Session :=
  match session.graph? slot with
  | none => (.noSlot slot, session)
  | some graph =>
    match graph.activate id session.store.nextStamp with
    | .error error => (.failed error, session)
    | .ok activation =>
      (session.setGraph activation.graph activation.nextStamp).answerInstance activation.inst into

def parent (slot : String) (into : Option String) : Answer × Session :=
  match session.instance? slot with
  | none => (.noSlot slot, session)
  | some inst =>
    match inst.parent? with
    | none => (.noParent, session)
    | some parent => session.answerInstance parent into

/-- An answer read off a live graph. -/
def inspect (slot : String) (read : LiveGraph → Answer) : Answer × Session :=
  match session.graph? slot with
  | none => (.noSlot slot, session)
  | some graph => (read graph, session)

def destroy (slot : String) (id : ComponentId) : Answer × Session :=
  match session.graph? slot with
  | none => (.noSlot slot, session)
  | some graph =>
    let (destroyed, graph) := graph.destroy id
    (.flag destroyed, session.setGraph graph session.store.nextStamp)

def contains (slot : String) (key : Key) : Answer × Session :=
  match session.instance? slot with
  | none => (.noSlot slot, session)
  | some inst =>
    (.flag ((session.graphs.find? inst.rootStamp).any fun graph =>
      graph.wiring.contains inst key), session)

def hostAnswer (key : Key) (graph : LiveGraph) : Answer :=
  match graph.host key with
  | .ok component => .text component
  | .error error => .failed error

/-! ## Slots -/

def drop (slot : String) : Answer × Session :=
  (.flag (session.slots.contains slot), { session with slots := session.slots.erase slot })

/-- Copies what a slot holds; a live graph cannot be copied. -/
def clone (slot into : String) : Answer × Session :=
  match session.slots.find? slot with
  | none | some (.graph _ _) => (.noSlot slot, session)
  | some held => (.flag true, session.put into held)

def buildInto (registrations : List (Key × Registration)) (into : String) : Answer × Session :=
  match session.build registrations into with
  | (.ok _, session) => (.flag true, session)
  | (.error error, session) => (.buildFailed error, session)

/-! ## Context slots -/

/-- Moves a live graph out of its slot into a context slot, which may hold one already. -/
def install (contextSlot slot : String) : Answer × Session :=
  match session.slots.find? slot with
  | some (.graph id true) =>
    -- The graph leaves its slot even if the context slot is taken.
    let session := { session with slots := session.slots.erase slot }
    if session.contextSlots.contains contextSlot then
      (.contextFailed .alreadyInitialized, session)
    else
      (.flag true, { session with contextSlots := session.contextSlots.insert contextSlot id })
  | _ => (.noSlot slot, session)

def share (contextSlot into : String) : Answer × Session :=
  match session.contextSlots.find? contextSlot with
  | none => (.contextFailed .notInitialized, session)
  | some id => (.flag true, session.put into (.graph id false))

def inject (contextSlot : String) (key : Key) (type : ValueType) (context : Context)
    (into : Option String) : Answer × Session :=
  match (session.contextSlots.find? contextSlot).bind session.graphs.find? with
  | none => (.failed (.context .notInitialized), session)
  | some graph => session.getFromGraph graph key type context into

/-! ## Steps -/

def step : Step → Answer × Session
  | .get source key type context into => session.get source key type context into
  | .provider source key type into => session.provider source key type into
  | .call slot context into => session.call slot context into
  | .deferred slot index context into => session.deferred slot index context into
  | .create slot arguments into => session.create slot arguments into
  | .component graph id into => session.component graph id into
  | .root graph into =>
    match session.graph? graph with
    | none => (.noSlot graph, session)
    | some live => session.answerInstance live.root into
  | .parent slot into => session.parent slot into
  | .destroy graph id => session.destroy graph id
  | .active graph ids => session.inspect graph fun live => .flags (ids.map live.isActive)
  | .contains slot key => session.contains slot key
  | .host graph key => session.inspect graph (hostAnswer key)
  | .drop slot => session.drop slot
  | .clone slot into => session.clone slot into
  | .build registrations into => session.buildInto registrations into
  | .debug graph => session.inspect graph fun live => .text live.debugText
  | .install contextSlot graph => session.install contextSlot graph
  | .isReady contextSlot => (.flag (session.contextSlots.contains contextSlot), session)
  | .share contextSlot into => session.share contextSlot into
  | .inject contextSlot key type context into => session.inject contextSlot key type context into

/-- Answers in order, each with the events logged during its step, and the session at the end. -/
def run : Session → List Step → List (Answer × List Event) × Session
  | session, [] => ([], session)
  | session, step :: rest =>
    let (answer, next) := session.step step
    -- The log only grows, so the events of a step are what is new at its end.
    let (answers, last) := run next rest
    ((answer, next.store.log.drop session.store.log.length) :: answers, last)

end Session
end ObjectGraph
