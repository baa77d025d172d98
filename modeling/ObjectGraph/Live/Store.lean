import ObjectGraph.Live.Lookup

/-!
# Stores — what constructions leave behind

* `Event` — one run of a constructor, with what it saw;
* `Served` — a value that an entry has yielded;
* `Store` — cached values, call counts, the history of the requests and the next free numbers.
-/

namespace ObjectGraph

/-! ## Events -/

inductive Observation where
  | value (type : ValueType) (value : Value)
  | held
  | text (text : String)
  | flag (flag : Bool)
  | parent (component : Option ComponentId)
  | failure (error : ResolveError)
  deriving DecidableEq

/-- What a constructor is given besides its site. -/
inductive Extra where
  | nothing
  | context (value : String)
  | arguments (text : String)
  deriving DecidableEq, Repr

structure Event where
  serial : Nat
  key : Key
  host : Frame
  saw : List Observation
  extra : Extra
  failed : Bool
  deriving DecidableEq

/-- One successful call of the entry of an instance, and the value before any cast. -/
structure Served where
  host : Instance
  key : Key
  value : Value
  deriving DecidableEq

/-! ## Stores -/

/-- An entry of one instance. -/
structure EntryId where
  stamp : Nat
  key : Key
  deriving DecidableEq, Repr

namespace EntryId

instance : Ord EntryId where
  compare := compareLex (compareOn stamp) (compareOn key)

instance : Std.TransOrd EntryId :=
  inferInstanceAs (Std.TransCmp (compareLex (compareOn EntryId.stamp) (compareOn EntryId.key)))

end EntryId

/-- The cache of a scoped entry while its value is under construction and from then on. -/
inductive Cell where
  | building
  | ready (value : Value)
  deriving DecidableEq

/-- `cells` caches scoped values; an entry without a cell has nothing cached. `calls` counts the
runs of each constructor of a live graph, which is known by the stamp of its root. Events are logged in
the order in which their runs ended, and `served` lists the calls that yielded a value in the order in
which they returned. -/
structure Store where
  nextStamp : Nat
  nextSerial : Nat
  cells : Table EntryId Cell
  calls : Table EntryId Nat
  log : List Event
  served : List Served
  deriving DecidableEq

namespace Store

def empty : Store := ⟨0, 1, .empty, .empty, [], []⟩

def setCell (store : Store) (id : EntryId) (cell : Cell) : Store :=
  { store with cells := store.cells.insert id cell }

def clearCell (store : Store) (id : EntryId) : Store :=
  { store with cells := store.cells.erase id }

/-- The number of the run of a constructor that starts now. -/
def callNumber (store : Store) (id : EntryId) : Nat :=
  (store.calls.find? id).getD 0 + 1

/-- Takes the next serial number for a run of a constructor and counts the run. -/
def start (store : Store) (id : EntryId) : Store :=
  { store with
    nextSerial := store.nextSerial + 1
    calls := store.calls.insert id (store.callNumber id) }

def record (store : Store) (event : Event) : Store :=
  { store with log := store.log ++ [event] }

/-- Lists a value under the entry that the provider belongs to. -/
def noteServed (store : Store) (provider : Provider) (value : Value) : Store :=
  { store with served := store.served ++ [⟨provider.host, provider.key, value⟩] }

end Store
end ObjectGraph
