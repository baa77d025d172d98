import ObjectGraph.Live.Store

/-!
# Serving requests — calls of providers and factories

A call of a scoped provider answers the cached value or constructs it; every other call constructs.
A constructor runs its script at the instance that hosts its key and may call providers in turn.

* `Job` — a call of a provider or of a factory;
* `runScript` — the actions of a constructor, given how nested jobs are served;
* `construct` — one run of a constructor, with its event;
* `call`, `create` — what an entry and a factory do;
* `callCast`, `callThrough` — the casts on the way to an entry;
* `serve` — a job, to a bound on the nesting of constructions.
-/

namespace ObjectGraph

inductive Job where
  | call (provider : Provider) (context : Context)
  | create (factory : AssistedFactory) (arguments : String)

/-- Why a job yields no value: an error, a scoped provider called again while it constructs its
value, or constructions nested beyond the bound. -/
inductive Fault where
  | error (error : ResolveError)
  | deadlock
  | exhausted
  deriving DecidableEq, Repr

abbrev Outcome := Except Fault Value

abbrev Server := Job → Store → Outcome × Store

/-- What stays fixed while a request is served: the wiring and the stamps of the instances alive. -/
structure World where
  wiring : Wiring
  alive : List Nat

/-- What a constructor sees: the instance that hosts its key, the key and the context. -/
structure Site where
  host : Instance
  key : Key
  context : Context

namespace Site

def entryId (site : Site) : EntryId := ⟨site.host.stamp, site.key⟩

/-- The constructor of the key is shared by all instances of a live graph. -/
def constructorId (site : Site) : EntryId := ⟨site.host.rootStamp, site.key⟩

end Site

/-! ## Demands -/

/-- What a demand lets its constructor see, and the providers to keep. -/
structure Reply where
  saw : Observation
  kept : List Provider

namespace World

variable (world : World)

def isAlive (inst : Instance) : Bool := world.alive.contains inst.stamp

/-- Calls the provider of a key, as a provider of a type. -/
def request (server : Server) (site : Site) (key : Key) (type : ValueType) (context : Context)
    (store : Store) : Except Fault (Provider × Value) × Store :=
  match world.wiring.provider site.host key type with
  | .error error => (.error (.error error), store)
  | .ok provider =>
    match server (.call provider context) store with
    | (.error fault, store) => (.error fault, store)
    | (.ok value, store) => (.ok (provider, value), store)

def demand (server : Server) (site : Site) (demand : Demand) (store : Store) :
    Except Fault Reply × Store :=
  match demand with
  | .get key type =>
    match world.request server site key type site.context store with
    | (.error fault, store) => (.error fault, store)
    | (.ok (_, value), store) => (.ok ⟨.value type value, []⟩, store)
  | .inject type =>
    match world.request server site (.ofType type) type site.context store with
    | (.error fault, store) => (.error fault, store)
    | (.ok (_, value), store) => (.ok ⟨.value type value, []⟩, store)
  | .provider key type none =>
    match world.wiring.provider site.host key type with
    | .error error => (.error (.error error), store)
    | .ok provider => (.ok ⟨.held, [provider]⟩, store)
  | .provider key type (some mode) =>
    let context := match mode with
      | .withContext => site.context
      | .withoutContext => Table.empty
    match world.request server site key type context store with
    | (.error fault, store) => (.error fault, store)
    | (.ok (provider, value), store) => (.ok ⟨.value type value, [provider]⟩, store)
  | .create key product arguments =>
    match world.request server site key (.factory product) site.context store with
    | (.error fault, store) => (.error fault, store)
    | (.ok (_, .object _ _), store) =>
      -- A provider of factories yields nothing else.
      (.error (.error (.incorrectType key (ValueType.factory product).name)), store)
    | (.ok (_, .factory factory), store) =>
      match server (.create factory arguments) store with
      | (.error fault, store) => (.error fault, store)
      | (.ok value, store) => (.ok ⟨.value (.object product) value, []⟩, store)
  | .context type =>
    match site.context.find? type with
    | some value => (.ok ⟨.text value, []⟩, store)
    | none => (.error (.error (.missingRuntimeContext site.key type)), store)
  | .contextIsEmpty => (.ok ⟨.flag site.context.isEmpty, []⟩, store)
  | .contains key => (.ok ⟨.flag (world.wiring.contains site.host key), []⟩, store)
  | .parent => (.ok ⟨.parent (site.host.parent?.map Instance.component), []⟩, store)

/-! ## Scripts -/

/-- What a script has seen and kept so far. -/
structure Progress where
  saw : List Observation
  kept : List Provider

/-- How a script ends: with success, a failure of its own or a fault that no script can handle. -/
inductive Ending where
  | success
  | failure (failure : Failure)
  | fault (fault : Fault)

/-- Runs the actions of one call of a constructor in order. -/
def runScript (server : Server) (site : Site) (call : Nat) :
    List Action → Progress → Store → Ending × Progress × Store
  | [], progress, store => (.success, progress, store)
  | .fail text calls contexts :: rest, progress, store =>
    if calls.isEmpty || calls.contains call then
      (.failure (.custom text contexts), progress, store)
    else
      runScript server site call rest progress store
  | .demand demand onError :: rest, progress, store =>
    match world.demand server site demand store with
    | (.ok reply, store) =>
      runScript server site call rest
        ⟨progress.saw ++ [reply.saw], progress.kept ++ reply.kept⟩ store
    | (.error (.error error), store) =>
      -- An error is the script's to handle; a fault ends all scripts at once.
      match onError with
      | .propagate => (.failure (.dependency error), progress, store)
      | .wrap => (.failure (.wrapped error), progress, store)
      | .record =>
        runScript server site call rest
          { progress with saw := progress.saw ++ [.failure error] } store
    | (.error fault, store) => (.fault fault, progress, store)

/-! ## Constructions -/

/-- One run of a constructor: its number is taken first, its event is logged when it ends. -/
def construct (server : Server) (site : Site) (script : List Action) (extra : Extra)
    (store : Store) : Outcome × Store :=
  -- Nested runs take later numbers but are logged earlier.
  let serial := store.nextSerial
  let event (saw : List Observation) (failed : Bool) : Event :=
    ⟨serial, site.key, site.host.frame, saw, extra, failed⟩
  match world.runScript server site (store.callNumber site.constructorId) script ⟨[], []⟩
      (store.start site.constructorId) with
  | (.success, progress, store) =>
    (.ok (.object serial progress.kept), store.record (event progress.saw false))
  | (.failure failure, progress, store) =>
    (.error (.error (failure.error site.key)), store.record (event progress.saw true))
  | (.fault fault, _, store) => (.error fault, store)

/-- A run for a live host. A constructor that takes a context value needs it before it starts. -/
def constructAt (server : Server) (site : Site) (context : Option TypeName)
    (script : List Action) (store : Store) : Outcome × Store :=
  if world.isAlive site.host then
    match context with
    | none => world.construct server site script .nothing store
    | some type =>
      match site.context.find? type with
      | none => (.error (.error (.missingRuntimeContext site.key type)), store)
      | some value => world.construct server site script (.context value) store
  else
    (.error (.error (.componentDropped site.host.component)), store)

/-- Answers the cached value, or constructs it and keeps it unless that fails. -/
def cached (id : EntryId) (fresh : Store → Outcome × Store) (store : Store) : Outcome × Store :=
  match store.cells.find? id with
  | some (.ready value) => (.ok value, store)
  | some .building => (.error .deadlock, store)
  | none =>
    match fresh (store.setCell id .building) with
    | (.ok value, store) => (.ok value, store.setCell id (.ready value))
    -- A failed construction leaves no trace, so the next call tries again.
    | (.error (.error error), store) => (.error (.error error), store.clearCell id)
    | (.error fault, store) => (.error fault, store)

/-! ## Jobs -/

/-- What the entry of a provider does, whatever casts stand before it. -/
def call (server : Server) (provider : Provider) (context : Context) (store : Store) :
    Outcome × Store :=
  let site : Site := ⟨provider.host, provider.key, context⟩
  match world.wiring.kind? provider.host.component provider.key,
    world.wiring.registrations.find? provider.key with
  | some .scoped, some (.construct _ type script) =>
    -- The cell comes first: a cached value outlives its component.
    cached site.entryId (world.constructAt server site type script) store
  | some .unscoped, some (.construct _ type script) =>
    world.constructAt server site type script store
  | some .factory, some (.factory product _) =>
    -- The script of a factory runs when it creates, not when it is handed out.
    if world.isAlive provider.host then
      (.ok (.factory ⟨provider.host, provider.key, context, product⟩), store)
    else
      (.error (.error (.componentDropped provider.host.component)), store)
  | _, _ => (.error (.error (.noProviderFound provider.key)), store)

def create (server : Server) (factory : AssistedFactory) (arguments : String) (store : Store) :
    Outcome × Store :=
  if world.isAlive factory.host then
    match world.wiring.registrations.find? factory.key with
    | some (.factory _ script) =>
      world.construct server ⟨factory.host, factory.key, factory.context⟩ script
        (.arguments arguments) store
    | _ => (.error (.error (.noProviderFound factory.key)), store)
  else
    (.error (.error (.componentDropped factory.host.component)), store)

/-- Calls the entry of a provider and lists what it yields. -/
def callEntry (server : Server) (provider : Provider) (context : Context) (store : Store) :
    Outcome × Store :=
  match world.call server provider context store with
  | (.ok value, store) => (.ok value, store.noteServed provider value)
  | (.error fault, store) => (.error fault, store)

/-- A provider behind the cast of an alias calls the one that it stands before, with the context
that it is called with itself, and casts the value. -/
def callCast (key : Key) (inner : Context → Store → Outcome × Store) (context : Context)
    (store : Store) : Outcome × Store :=
  match inner context store with
  | (.ok value, store) => (.ok ((world.wiring.conversion key).apply value), store)
  | (.error fault, store) => (.error fault, store)

/-- Calls a provider: its entry, through the casts that stand before it. -/
def callThrough (server : Server) (provider : Provider) : Context → Store → Outcome × Store :=
  provider.casts.foldr world.callCast (world.callEntry server provider)

def serveWithin : Nat → Server
  | 0, _, store => (.error .exhausted, store)
  | bound + 1, .call provider context, store =>
    world.callThrough (serveWithin bound) provider context store
  | bound + 1, .create factory arguments, store =>
    world.create (serveWithin bound) factory arguments store

def serve : Server := world.serveWithin world.wiring.depthBound

end World
end ObjectGraph
