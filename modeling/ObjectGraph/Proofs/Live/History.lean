import ObjectGraph.Live.Store
import ObjectGraph.Proofs.Live.Instance
import ObjectGraph.Proofs.Plan
import ObjectGraph.Proofs.Table

/-!
# Histories — caches against the runs that ended and the values that were yielded

The log tells which runs of a constructor succeeded at an instance, and the list of served values what
its provider yielded. The cell of a scoped entry holds the value of its only successful run; an
unscoped entry has yielded one value for each run, and one of a factory nothing but its factories.

* `Store.runsAt`, `Store.yieldsAt` — the history of one entry;
* `Store.Lists` — an answer of a provider, against the history of its entry;
* `Store.Settled` — what the history of an entry may be, given its kind and its cell;
* `Store.Settled.congr` — only the cell and the history of an entry matter;
* `Store.Books` — numbers are given out once, and everything is about known instances.
-/

namespace ObjectGraph

instance : Std.LawfulEqOrd EntryId where
  eq_of_compare {a b} h := by
    rcases Ordering.then_eq_eq.1 h with ⟨hstamp, hkey⟩
    have hstamp : a.stamp = b.stamp := Std.LawfulEqCmp.eq_of_compare hstamp
    have hkey : a.key = b.key := Std.LawfulEqCmp.eq_of_compare hkey
    cases a; cases b; simp_all

/-- The number of the run that made an object. -/
def Value.serial? : Value → Option Nat
  | .object serial _ => some serial
  | .factory _ => none

/-- Whatever a value holds on to belongs to instances of a census. -/
def Value.Known (known : Instance → Prop) : Value → Prop
  | .object _ kept => ∀ provider ∈ kept, known provider.host
  | .factory made => known made.host

theorem Value.Known.mono {known more : Instance → Prop} {value : Value} (h : value.Known known)
    (hmore : ∀ inst, known inst → more inst) : value.Known more := by
  cases value with
  | object serial kept => exact fun provider hprovider => hmore _ (h provider hprovider)
  | factory made => exact hmore _ h

/-- A view of a value holds on to nothing else. -/
theorem Value.ViewOf.known {known : Instance → Prop} {value whole : Value} (h : value.ViewOf whole)
    (hwhole : whole.Known known) : value.Known known := by
  cases h with
  | object hsubset => exact fun provider hmem => hwhole provider (hsubset provider hmem)
  | factory made => exact hwhole

namespace Store

/-! ## The history of an entry -/

/-- Runs of the constructor of a key that succeeded at an instance, in the order of their ends. -/
def runsAt (store : Store) (host : Frame) (key : Key) : List Event :=
  store.log.filter fun event => event.host = host ∧ event.key = key ∧ event.failed = false

/-- Values that the entry of a key has yielded at an instance, before any casts. -/
def yieldsAt (store : Store) (host : Frame) (key : Key) : List Value :=
  (store.served.filter fun served =>
    served.host.frame = host ∧ served.key = key).map (·.value)

/-- The entry of a provider has yielded a value, which the casts before that entry make into the given
one. -/
def Lists (store : Store) (wiring : Wiring) (provider : Provider) (value : Value) : Prop :=
  ∃ made, ⟨provider.host, provider.key, made⟩ ∈ store.served ∧
    value = wiring.castAlong provider.casts made

/-- One run has succeeded if there is a value in the cell, and that value alone was yielded. Without
one no run has succeeded and nothing was yielded. -/
def CachedAt (store : Store) (inst : Instance) (key : Key) : Prop :=
  match store.cells.find? ⟨inst.stamp, key⟩ with
  | some (.ready value) =>
    ∃ event kept, store.runsAt inst.frame key = [event] ∧ value = .object event.serial kept ∧
      ∀ other ∈ store.yieldsAt inst.frame key, other = value
  | some .building | none =>
    store.runsAt inst.frame key = [] ∧ store.yieldsAt inst.frame key = []

/-- Every run that succeeded has yielded its own value. -/
def FreshAt (store : Store) (inst : Instance) (key : Key) : Prop :=
  (store.yieldsAt inst.frame key).map Value.serial? =
    (store.runsAt inst.frame key).map fun event => some event.serial

/-- Every value that was yielded is a factory of the instance itself. -/
def LentAt (store : Store) (inst : Instance) (key : Key) : Prop :=
  ∀ value ∈ store.yieldsAt inst.frame key,
    ∃ made, value = .factory made ∧ made.host = inst ∧ made.key = key

def Settled (plan : Plan) (store : Store) (inst : Instance) (key : Key) : Prop :=
  match plan.kind? inst.component key with
  | some .scoped => store.CachedAt inst key
  | some .unscoped => store.FreshAt inst key
  | some .factory => store.LentAt inst key
  | some .aliasOf | some .assistedOnly | none => store.yieldsAt inst.frame key = []

variable {plan : Plan} {known : Instance → Prop} {store : Store} {id : EntryId} {cell : Cell}
  {event : Event} {provider : Provider} {value : Value} {inst : Instance} {key : Key}

theorem Lists.mono {later : Store} {wiring : Wiring} (h : store.Lists wiring provider value)
    (hserved : store.served ⊆ later.served) : later.Lists wiring provider value := by
  rcases h with ⟨made, hmade, hvalue⟩
  exact ⟨made, hserved hmade, hvalue⟩

theorem mem_runsAt {host : Frame} :
    event ∈ store.runsAt host key ↔
      event ∈ store.log ∧ event.host = host ∧ event.key = key ∧ event.failed = false := by
  simp [runsAt]

theorem runsAt_record (store : Store) (event : Event) (host : Frame) (key : Key) :
    (store.record event).runsAt host key =
      store.runsAt host key ++
        if event.host = host ∧ event.key = key ∧ event.failed = false then [event] else [] := by
  simp only [runsAt, record, List.filter_append]
  by_cases hcounts : event.host = host ∧ event.key = key ∧ event.failed = false
  · simp [hcounts]
  · have hnone : [event].filter (fun event => event.host = host ∧ event.key = key ∧
        event.failed = false) = [] := by
      simpa using hcounts
    simp only [if_neg hcounts, hnone]

theorem yieldsAt_noteServed (store : Store) (provider : Provider) (value : Value) (host : Frame)
    (key : Key) :
    (store.noteServed provider value).yieldsAt host key =
      store.yieldsAt host key ++
        if provider.host.frame = host ∧ provider.key = key then [value] else [] := by
  simp only [yieldsAt, noteServed, List.filter_append, List.map_append]
  by_cases hcounts : provider.host.frame = host ∧ provider.key = key
  · simp [hcounts]
  · have hnone : [Served.mk provider.host provider.key value].filter (fun served =>
        served.host.frame = host ∧ served.key = key) = [] := by
      simpa using hcounts
    simp only [if_neg hcounts, hnone]
    rfl

/-- An entry is settled or not by its cell and its history alone. -/
theorem Settled.congr {later : Store} (h : store.Settled plan inst key)
    (hcell : later.cells.find? ⟨inst.stamp, key⟩ = store.cells.find? ⟨inst.stamp, key⟩)
    (hruns : later.runsAt inst.frame key = store.runsAt inst.frame key)
    (hyields : later.yieldsAt inst.frame key = store.yieldsAt inst.frame key) :
    later.Settled plan inst key := by
  simpa only [Settled, CachedAt, FreshAt, LentAt, hcell, hruns, hyields] using h

/-- An entry without a cell and without a history is settled, of whatever kind it is. -/
theorem Settled.of_unused (hcell : store.cells.find? ⟨inst.stamp, key⟩ = none)
    (hruns : store.runsAt inst.frame key = []) (hyields : store.yieldsAt inst.frame key = []) :
    store.Settled plan inst key := by
  simp only [Settled, CachedAt, FreshAt, LentAt, hcell, hruns, hyields]
  split <;> simp

theorem Settled.start (h : store.Settled plan inst key) :
    (store.start id).Settled plan inst key :=
  h.congr rfl rfl rfl

theorem Settled.setCell (h : store.Settled plan inst key) (hne : ⟨inst.stamp, key⟩ ≠ id) :
    (store.setCell id cell).Settled plan inst key := by
  refine h.congr ?_ rfl rfl
  simp only [Store.setCell, Table.find?_insert, if_neg hne]

theorem Settled.clearCell (h : store.Settled plan inst key) (hne : ⟨inst.stamp, key⟩ ≠ id) :
    (store.clearCell id).Settled plan inst key := by
  refine h.congr ?_ rfl rfl
  simp only [Store.clearCell, Table.find?_erase, if_neg hne]

theorem Settled.record (h : store.Settled plan inst key)
    (hne : ¬ (event.host = inst.frame ∧ event.key = key ∧ event.failed = false)) :
    (store.record event).Settled plan inst key := by
  refine h.congr rfl ?_ rfl
  simp only [runsAt_record, if_neg hne, List.append_nil]

/-- Runs are no concern of an entry that is neither scoped nor unscoped. -/
theorem Settled.record_of_kind (h : store.Settled plan inst key)
    (hscoped : plan.kind? inst.component key ≠ some .scoped)
    (hunscoped : plan.kind? inst.component key ≠ some .unscoped) :
    (store.record event).Settled plan inst key := by
  simp only [Settled] at h ⊢
  split at h
  · exact absurd ‹_› hscoped
  · exact absurd ‹_› hunscoped
  · exact h
  · exact h
  · exact h
  · exact h

theorem Settled.noteServed (h : store.Settled plan inst key)
    (hne : ¬ (provider.host.frame = inst.frame ∧ provider.key = key)) :
    (store.noteServed provider value).Settled plan inst key := by
  refine h.congr rfl rfl ?_
  simp only [yieldsAt_noteServed, if_neg hne, List.append_nil]

/-! ## Books -/

/-- Numbers are given out once, and everything that is remembered is about instances of the census. -/
structure Books (known : Instance → Prop) (store : Store) : Prop where
  serials : (store.log.map Event.serial).Nodup
  numbered : ∀ event ∈ store.log, event.serial < store.nextSerial
  logged : ∀ event ∈ store.log, ∃ inst, known inst ∧ inst.frame = event.host
  served : ∀ served ∈ store.served, known served.host
  cells : ∀ id cell, store.cells.find? id = some cell → ∃ inst, known inst ∧ inst.stamp = id.stamp
  values : ∀ id value, store.cells.find? id = some (.ready value) → value.Known known

/-- The number of a run that is about to be logged. -/
structure Numbered (store : Store) (event : Event) : Prop where
  fresh : event.serial ∉ store.log.map Event.serial
  taken : event.serial < store.nextSerial

namespace Books

theorem start (h : store.Books known) : (store.start id).Books known where
  serials := h.serials
  numbered := fun event hevent => Nat.lt_succ_of_lt (h.numbered event hevent)
  logged := h.logged
  served := h.served
  cells := h.cells
  values := h.values

theorem record (h : store.Books known) (hnumbered : store.Numbered event) (hinst : known inst)
    (hhost : event.host = inst.frame) : (store.record event).Books known where
  serials := by
    have hserials : ((store.record event).log.map Event.serial) =
        store.log.map Event.serial ++ [event.serial] := by
      simp [Store.record]
    simp only [hserials]
    -- The new number is not among those that are logged already.
    refine List.nodup_append.2 ⟨h.serials, List.nodup_singleton _, ?_⟩
    intro serial hserial other hother heq
    have hevent : serial = event.serial := heq.trans (List.mem_singleton.1 hother)
    exact hnumbered.fresh (hevent ▸ hserial)
  numbered := by
    intro other hother
    rcases List.mem_append.1 hother with hold | hnew
    · exact h.numbered other hold
    · simp only [List.mem_singleton.1 hnew]
      exact hnumbered.taken
  logged := by
    intro other hother
    rcases List.mem_append.1 hother with hold | hnew
    · exact h.logged other hold
    · simp only [List.mem_singleton.1 hnew]
      exact ⟨inst, hinst, hhost.symm⟩
  served := h.served
  cells := h.cells
  values := h.values

theorem noteServed (h : store.Books known) (hhost : known provider.host) :
    (store.noteServed provider value).Books known where
  serials := h.serials
  numbered := h.numbered
  logged := h.logged
  served := by
    intro served hserved
    rcases List.mem_append.1 hserved with hold | hnew
    · exact h.served served hold
    · simp only [List.mem_singleton.1 hnew]
      exact hhost
  cells := h.cells
  values := h.values

theorem setCell (h : store.Books known) (hinst : known inst)
    (hvalue : ∀ value, cell = .ready value → value.Known known) :
    (store.setCell ⟨inst.stamp, key⟩ cell).Books known where
  serials := h.serials
  numbered := h.numbered
  logged := h.logged
  served := h.served
  cells := Table.forall_insert h.cells ⟨inst, hinst, rfl⟩
  values := by
    intro id value hready
    simp only [Store.setCell, Table.find?_insert] at hready
    split at hready
    · exact hvalue value (Option.some.inj hready)
    · exact h.values id value hready

theorem clearCell (h : store.Books known) : (store.clearCell id).Books known where
  serials := h.serials
  numbered := h.numbered
  logged := h.logged
  served := h.served
  cells := Table.forall_erase h.cells id
  values := by
    intro other value hready
    simp only [Store.clearCell, Table.find?_erase] at hready
    split at hready
    · simp at hready
    · exact h.values other value hready

end Books

end Store
end ObjectGraph
