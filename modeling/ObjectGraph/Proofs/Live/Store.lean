import ObjectGraph.Proofs.Live.History

/-!
# Stores — how runs, cells and served values keep a store consistent

A successful run of a scoped constructor and the cell that it fills belong together, as do a run of an
unscoped constructor and the value that it yields. Everything else a store goes through concerns no
more than one entry, or none.

* `Store.Consistent` — the books are in order and every entry is settled;
* `Store.Consistent.cache` — a run that fills its cell;
* `Store.Consistent.yieldFresh` — a run that yields its own value;
* `Store.Extends` — what a store keeps while requests are served.
-/

namespace ObjectGraph

namespace Store

structure Consistent (plan : Plan) (known : Instance → Prop) (store : Store) : Prop where
  books : store.Books known
  entries : ∀ inst key, known inst → store.Settled plan inst key

/-- Time passes: numbers are only given out, the log and the served values grow, and nothing leaves a
cell. -/
structure Extends (store later : Store) : Prop where
  nextStamp : later.nextStamp = store.nextStamp
  nextSerial : store.nextSerial ≤ later.nextSerial
  cells : ∀ id cell, store.cells.find? id = some cell → later.cells.find? id = some cell
  log : ∃ events, later.log = store.log ++ events ∧
    ∀ event ∈ events, store.nextSerial ≤ event.serial
  served : store.served <+: later.served

variable {plan : Plan} {known : Instance → Prop} {nextStamp : Nat} {store later : Store}
  {id : EntryId} {cell : Cell} {event : Event} {provider : Provider} {value : Value}
  {inst : Instance} {key : Key}

/-! ## Extension -/

namespace Extends

theorem refl (store : Store) : store.Extends store where
  nextStamp := rfl
  nextSerial := Nat.le_refl _
  cells := fun _ _ h => h
  log := ⟨[], by simp, by simp⟩
  served := List.prefix_refl _

theorem trans {last : Store} (h : store.Extends later) (hlast : later.Extends last) :
    store.Extends last where
  nextStamp := hlast.nextStamp.trans h.nextStamp
  nextSerial := Nat.le_trans h.nextSerial hlast.nextSerial
  cells := fun id cell hcell => hlast.cells id cell (h.cells id cell hcell)
  log := by
    rcases h.log with ⟨first, hfirst, hserials⟩
    rcases hlast.log with ⟨second, hsecond, hlater⟩
    refine ⟨first ++ second, ?_, ?_⟩
    · simp only [hsecond, hfirst, List.append_assoc]
    · intro event hevent
      rcases List.mem_append.1 hevent with hold | hnew
      · exact hserials event hold
      · exact Nat.le_trans h.nextSerial (hlater event hnew)
  served := h.served.trans hlast.served

theorem start : store.Extends (store.start id) where
  nextStamp := rfl
  nextSerial := Nat.le_succ _
  cells := fun _ _ h => h
  log := ⟨[], by simp [Store.start], by simp⟩
  served := List.prefix_refl _

theorem record (h : store.Extends later) (hserial : store.nextSerial ≤ event.serial) :
    store.Extends (later.record event) where
  nextStamp := h.nextStamp
  nextSerial := h.nextSerial
  cells := h.cells
  log := by
    rcases h.log with ⟨events, hlog, hserials⟩
    refine ⟨events ++ [event], ?_, ?_⟩
    · simp [Store.record, hlog]
    · intro other hother
      rcases List.mem_append.1 hother with hold | hnew
      · exact hserials other hold
      · simp only [List.mem_singleton.1 hnew]
        exact hserial
  served := h.served

theorem noteServed (h : store.Extends later) :
    store.Extends (later.noteServed provider value) where
  nextStamp := h.nextStamp
  nextSerial := h.nextSerial
  cells := h.cells
  log := h.log
  served := h.served.trans (List.prefix_append _ _)

theorem ne_of_filled (hnone : store.cells.find? id = none) {other : EntryId} {found : Cell}
    (hfound : store.cells.find? other = some found) : other ≠ id := by
  rintro rfl
  simp [hnone] at hfound

/-- A cell that was empty may be filled. -/
theorem setCell (h : store.Extends later) (hnone : store.cells.find? id = none) :
    store.Extends (later.setCell id cell) where
  nextStamp := h.nextStamp
  nextSerial := h.nextSerial
  cells := by
    intro other found hfound
    have hne : other ≠ id := ne_of_filled hnone hfound
    simpa only [Store.setCell, Table.find?_insert, if_neg hne] using h.cells other found hfound
  log := h.log
  served := h.served

theorem clearCell (h : store.Extends later) (hnone : store.cells.find? id = none) :
    store.Extends (later.clearCell id) where
  nextStamp := h.nextStamp
  nextSerial := h.nextSerial
  cells := by
    intro other found hfound
    have hne : other ≠ id := ne_of_filled hnone hfound
    simpa only [Store.clearCell, Table.find?_erase, if_neg hne] using h.cells other found hfound
  log := h.log
  served := h.served

/-- What holds from a store with a filled cell on holds from the store before. -/
theorem of_setCell (h : (store.setCell id cell).Extends later)
    (hnone : store.cells.find? id = none) : store.Extends later :=
  ((refl store).setCell hnone).trans h

/-- A number that is taken before a store goes on is not in its log later. -/
theorem numbered (h : (store.start id).Extends later) (hbooks : store.Books known)
    (hserial : event.serial = store.nextSerial) : later.Numbered event where
  fresh := by
    rcases h.log with ⟨events, hlog, hserials⟩
    intro hmem
    rcases List.mem_map.1 hmem with ⟨other, hother, heq⟩
    simp only [hlog] at hother
    -- Older runs have smaller numbers, and runs that were started since have larger ones.
    rcases List.mem_append.1 hother with hold | hnew
    · have hlt : other.serial < store.nextSerial := hbooks.numbered other hold
      omega
    · have hle : store.nextSerial + 1 ≤ other.serial := hserials other hnew
      omega
  taken := by
    have hle : store.nextSerial + 1 ≤ later.nextSerial := h.nextSerial
    omega

end Extends

/-! ## Consistency -/

namespace Consistent

theorem empty : Store.empty.Consistent plan fun _ => False where
  books := by
    refine ⟨List.nodup_nil, ?_, ?_, ?_, ?_, ?_⟩
    · simp [Store.empty]
    · simp [Store.empty]
    · simp [Store.empty]
    · simp [Store.empty]
    · simp [Store.empty]
  entries := by
    intro inst key hknown
    exact absurd hknown id

/-- The next free stamp is none of the store's business. -/
theorem withStamp (h : store.Consistent plan known) (nextStamp : Nat) :
    { store with nextStamp := nextStamp }.Consistent plan known where
  books := ⟨h.books.serials, h.books.numbered, h.books.logged, h.books.served, h.books.cells,
    h.books.values⟩
  entries := fun inst key hinst => (h.entries inst key hinst).congr rfl rfl rfl

theorem start (h : store.Consistent plan known) : (store.start id).Consistent plan known where
  books := h.books.start
  entries := fun inst key hinst => (h.entries inst key hinst).start

/-! ### Entries that an operation does not concern -/

section Elsewhere

variable (h : store.Consistent plan known) (census : Census known nextStamp) {other : Instance}
  {otherKey : Key} (hinst : known inst) (hother : known other)

include h census hinst hother

theorem record_ne (hhost : event.host = inst.frame)
    (hne : ¬ (other = inst ∧ otherKey = event.key)) :
    (store.record event).Settled plan other otherKey := by
  apply (h.entries other otherKey hother).record
  rintro ⟨hframe, hkey, _⟩
  have hstamp : other.stamp = inst.stamp :=
    congrArg Frame.stamp (hframe.symm.trans hhost)
  exact hne ⟨census.distinct other inst hother hinst hstamp, hkey.symm⟩

theorem noteServed_ne (hhost : provider.host = inst)
    (hne : ¬ (other = inst ∧ otherKey = provider.key)) :
    (store.noteServed provider value).Settled plan other otherKey := by
  apply (h.entries other otherKey hother).noteServed
  rintro ⟨hframe, hkey⟩
  simp only [hhost] at hframe
  have hstamp : other.stamp = inst.stamp := congrArg Frame.stamp hframe.symm
  exact hne ⟨census.distinct other inst hother hinst hstamp, hkey.symm⟩

omit h in
theorem entryId_ne (hne : ¬ (other = inst ∧ otherKey = key)) :
    (⟨other.stamp, otherKey⟩ : EntryId) ≠ ⟨inst.stamp, key⟩ := by
  intro heq
  have hstamp : other.stamp = inst.stamp := congrArg EntryId.stamp heq
  exact hne ⟨census.distinct other inst hother hinst hstamp, congrArg EntryId.key heq⟩

end Elsewhere

/-! ### Single operations -/

/-- Without a value in its cell a scoped entry has no history. -/
theorem history_eq_nil (h : store.Consistent plan known) (hinst : known inst)
    (hkind : plan.kind? inst.component key = some .scoped)
    (hcell : ∀ value, store.cells.find? ⟨inst.stamp, key⟩ ≠ some (.ready value)) :
    store.runsAt inst.frame key = [] ∧ store.yieldsAt inst.frame key = [] := by
  have hsettled := h.entries inst key hinst
  simp only [Settled, hkind, CachedAt] at hsettled
  cases hfound : store.cells.find? ⟨inst.stamp, key⟩ with
  | none => simpa only [hfound] using hsettled
  | some cell =>
    cases cell with
    | building => simpa only [hfound] using hsettled
    | ready value => exact absurd hfound (hcell value)

/-- The value in the cell of a scoped entry is that of a run of its constructor. -/
theorem of_ready (h : store.Consistent plan known) (hinst : known inst)
    (hkind : plan.kind? inst.component key = some .scoped)
    (hready : store.cells.find? ⟨inst.stamp, key⟩ = some (.ready value)) :
    ∃ event kept, event ∈ store.log ∧ event.host = inst.frame ∧ event.key = key ∧
      value = .object event.serial kept := by
  have hsettled := h.entries inst key hinst
  simp only [Settled, hkind, CachedAt, hready] at hsettled
  rcases hsettled with ⟨event, kept, hruns, hvalue, _⟩
  have hmem : event ∈ store.runsAt inst.frame key := by simp [hruns]
  rcases mem_runsAt.1 hmem with ⟨hlog, hhost, hkey, _⟩
  exact ⟨event, kept, hlog, hhost, hkey, hvalue⟩

/-- A run that failed is in no history. -/
theorem recordFailed (h : store.Consistent plan known) (hinst : known inst)
    (hnumbered : store.Numbered event) (hhost : event.host = inst.frame)
    (hfailed : event.failed = true) : (store.record event).Consistent plan known where
  books := h.books.record hnumbered hinst hhost
  entries := by
    intro other key hother
    apply (h.entries other key hother).record
    simp [hfailed]

/-- A run of a constructor whose entry is neither scoped nor unscoped. -/
theorem recordUnkept (h : store.Consistent plan known) (census : Census known nextStamp)
    (hinst : known inst) (hnumbered : store.Numbered event) (hhost : event.host = inst.frame)
    (hscoped : plan.kind? inst.component event.key ≠ some .scoped)
    (hunscoped : plan.kind? inst.component event.key ≠ some .unscoped) :
    (store.record event).Consistent plan known where
  books := h.books.record hnumbered hinst hhost
  entries := by
    intro other key hother
    by_cases hsame : other = inst ∧ key = event.key
    · rcases hsame with ⟨rfl, rfl⟩
      exact (h.entries other event.key hother).record_of_kind hscoped hunscoped
    · exact h.record_ne census hinst hother hhost hsame

theorem build (h : store.Consistent plan known) (census : Census known nextStamp)
    (hinst : known inst) (hkind : plan.kind? inst.component key = some .scoped)
    (hnone : store.cells.find? ⟨inst.stamp, key⟩ = none) :
    (store.setCell ⟨inst.stamp, key⟩ .building).Consistent plan known where
  books := h.books.setCell hinst (by simp)
  entries := by
    intro other otherKey hother
    by_cases hsame : other = inst ∧ otherKey = key
    · rcases hsame with ⟨rfl, rfl⟩
      have hhistory := h.history_eq_nil hinst hkind (by simp [hnone])
      simp only [Settled, hkind, CachedAt, setCell, Table.find?_insert, if_true]
      exact hhistory
    · exact (h.entries other otherKey hother).setCell (entryId_ne census hinst hother hsame)

theorem clear (h : store.Consistent plan known) (census : Census known nextStamp)
    (hinst : known inst) (hkind : plan.kind? inst.component key = some .scoped)
    (hbuilding : store.cells.find? ⟨inst.stamp, key⟩ = some .building) :
    (store.clearCell ⟨inst.stamp, key⟩).Consistent plan known where
  books := h.books.clearCell
  entries := by
    intro other otherKey hother
    by_cases hsame : other = inst ∧ otherKey = key
    · rcases hsame with ⟨rfl, rfl⟩
      have hhistory := h.history_eq_nil hinst hkind (by simp [hbuilding])
      simp only [Settled, hkind, CachedAt, clearCell, Table.find?_erase, if_true]
      exact hhistory
    · exact (h.entries other otherKey hother).clearCell (entryId_ne census hinst hother hsame)

/-! ### Runs and what they yield -/

/-- The first run to succeed fills the cell of its entry. -/
theorem cache (h : store.Consistent plan known) (census : Census known nextStamp)
    (hinst : known inst) (hkind : plan.kind? inst.component event.key = some .scoped)
    (hbuilding : store.cells.find? ⟨inst.stamp, event.key⟩ = some .building)
    (hnumbered : store.Numbered event) (hhost : event.host = inst.frame)
    (hsucceeded : event.failed = false) {kept : List Provider}
    (hkept : ∀ provider ∈ kept, known provider.host) :
    ((store.record event).setCell ⟨inst.stamp, event.key⟩
      (.ready (.object event.serial kept))).Consistent plan known where
  books := by
    apply (h.books.record hnumbered hinst hhost).setCell hinst
    intro value hvalue
    cases hvalue
    exact hkept
  entries := by
    intro other otherKey hother
    by_cases hsame : other = inst ∧ otherKey = event.key
    · rcases hsame with ⟨rfl, rfl⟩
      rcases h.history_eq_nil hinst hkind (by simp [hbuilding]) with ⟨hruns, hyields⟩
      simp only [Settled, hkind, CachedAt, setCell, Table.find?_insert, if_true]
      refine ⟨event, kept, ?_, rfl, ?_⟩
      · have hrecorded := store.runsAt_record event other.frame event.key
        simp only [hruns, List.nil_append, hhost, hsucceeded, and_self, if_true] at hrecorded
        exact hrecorded
      · -- Nothing was yielded while the value was under construction.
        intro value hvalue
        have hnone : value ∈ store.yieldsAt other.frame event.key := hvalue
        simp [hyields] at hnone
    · exact (h.record_ne census hinst hother hhost hsame).setCell
        (entryId_ne census hinst hother hsame)

/-- The value of a cell is yielded once more. -/
theorem yieldCached (h : store.Consistent plan known) (census : Census known nextStamp)
    (hhost : known provider.host)
    (hkind : plan.kind? provider.host.component provider.key = some .scoped)
    (hready : store.cells.find? ⟨provider.host.stamp, provider.key⟩ = some (.ready value)) :
    (store.noteServed provider value).Consistent plan known where
  books := h.books.noteServed hhost
  entries := by
    intro other otherKey hother
    by_cases hsame : other = provider.host ∧ otherKey = provider.key
    · rcases hsame with ⟨rfl, rfl⟩
      have hsettled := h.entries provider.host provider.key hother
      simp only [Settled, hkind, CachedAt, hready] at hsettled
      rcases hsettled with ⟨event, kept, hruns, hvalue, hyields⟩
      simp only [Settled, hkind, CachedAt]
      have hcell : (store.noteServed provider value).cells.find?
          ⟨provider.host.stamp, provider.key⟩ = some (.ready value) := hready
      simp only [hcell]
      refine ⟨event, kept, hruns, hvalue, ?_⟩
      intro yielded hyielded
      simp only [yieldsAt_noteServed, and_self, if_true] at hyielded
      rcases List.mem_append.1 hyielded with hold | hnew
      · exact hyields yielded hold
      · exact List.mem_singleton.1 hnew
    · exact h.noteServed_ne census hhost hother rfl hsame

/-- A run of an unscoped constructor yields its own value right away. -/
theorem yieldFresh (h : store.Consistent plan known) (census : Census known nextStamp)
    (hinst : known provider.host)
    (hkind : plan.kind? provider.host.component provider.key = some .unscoped)
    (hnumbered : store.Numbered event) (hhost : event.host = provider.host.frame)
    (hkey : event.key = provider.key) (hsucceeded : event.failed = false) (kept : List Provider) :
    ((store.record event).noteServed provider (.object event.serial kept)).Consistent plan
      known where
  books := (h.books.record hnumbered hinst hhost).noteServed hinst
  entries := by
    intro other otherKey hother
    by_cases hsame : other = provider.host ∧ otherKey = provider.key
    · rcases hsame with ⟨rfl, rfl⟩
      have hsettled := h.entries provider.host provider.key hother
      simp only [Settled, hkind, FreshAt] at hsettled ⊢
      have hruns : ((store.record event).noteServed provider
          (.object event.serial kept)).runsAt provider.host.frame provider.key =
            store.runsAt provider.host.frame provider.key ++ [event] := by
        have hrecorded := store.runsAt_record event provider.host.frame provider.key
        simp only [hhost, hkey, hsucceeded, and_self, if_true] at hrecorded
        exact hrecorded
      have hyields : ((store.record event).noteServed provider
          (.object event.serial kept)).yieldsAt provider.host.frame provider.key =
            store.yieldsAt provider.host.frame provider.key ++ [.object event.serial kept] := by
        simp only [yieldsAt_noteServed, and_self, if_true]
        rfl
      -- One run and one value are added, and they have the same number.
      simp only [hruns, hyields, List.map_append, hsettled]
      rfl
    · refine (h.record_ne census hinst hother hhost ?_).noteServed ?_
      · simpa only [hkey] using hsame
      · rintro ⟨hframe, hother'⟩
        have hstamp : other.stamp = provider.host.stamp := congrArg Frame.stamp hframe.symm
        exact hsame ⟨census.distinct other provider.host hother hinst hstamp, hother'.symm⟩

/-- A factory entry yields a factory of its own. -/
theorem yieldFactory (h : store.Consistent plan known) (census : Census known nextStamp)
    (hhost : known provider.host)
    (hkind : plan.kind? provider.host.component provider.key = some .factory)
    {made : AssistedFactory} (hown : made.host = provider.host) (hkey : made.key = provider.key) :
    (store.noteServed provider (.factory made)).Consistent plan known where
  books := h.books.noteServed hhost
  entries := by
    intro other otherKey hother
    by_cases hsame : other = provider.host ∧ otherKey = provider.key
    · rcases hsame with ⟨rfl, rfl⟩
      have hsettled := h.entries provider.host provider.key hother
      simp only [Settled, hkind, LentAt] at hsettled ⊢
      intro yielded hyielded
      simp only [yieldsAt_noteServed, and_self, if_true] at hyielded
      rcases List.mem_append.1 hyielded with hold | hnew
      · exact hsettled yielded hold
      · exact ⟨made, List.mem_singleton.1 hnew, hown, hkey⟩
    · exact h.noteServed_ne census hhost hother rfl hsame

/-! ### New instances -/

/-- Nothing is remembered about instances with stamps that were not in use yet. -/
theorem mono (h : store.Consistent plan known) (census : Census known nextStamp)
    {more : Instance → Prop} (hmore : ∀ inst, known inst → more inst)
    (hnew : ∀ inst, more inst → known inst ∨ nextStamp ≤ inst.stamp) :
    store.Consistent plan more where
  books :=
    { serials := h.books.serials
      numbered := h.books.numbered
      logged := by
        intro event hevent
        rcases h.books.logged event hevent with ⟨inst, hinst, hframe⟩
        exact ⟨inst, hmore inst hinst, hframe⟩
      served := fun served hserved => hmore _ (h.books.served served hserved)
      cells := by
        intro id cell hcell
        rcases h.books.cells id cell hcell with ⟨inst, hinst, hstamp⟩
        exact ⟨inst, hmore inst hinst, hstamp⟩
      values := fun id value hready => (h.books.values id value hready).mono hmore }
  entries := by
    intro inst key hinst
    rcases hnew inst hinst with hknown | hstamp
    · exact h.entries inst key hknown
    · -- Cells, runs and served values are all told apart by stamps in use.
      have hold : ∀ other, known other → other.stamp ≠ inst.stamp := by
        intro other hother heq
        have hlt : other.stamp < nextStamp := census.below other hother
        omega
      have hcell : store.cells.find? ⟨inst.stamp, key⟩ = none := by
        cases hfound : store.cells.find? ⟨inst.stamp, key⟩ with
        | none => rfl
        | some cell =>
          rcases h.books.cells _ cell hfound with ⟨other, hother, heq⟩
          exact absurd heq (hold other hother)
      have hruns : store.runsAt inst.frame key = [] := by
        apply List.eq_nil_iff_forall_not_mem.2
        intro event hevent
        rcases mem_runsAt.1 hevent with ⟨hlog, hhost, _⟩
        rcases h.books.logged event hlog with ⟨other, hother, hframe⟩
        exact hold other hother (congrArg Frame.stamp (hframe.trans hhost))
      have hyields : store.yieldsAt inst.frame key = [] := by
        refine List.map_eq_nil_iff.2 (List.filter_eq_nil_iff.2 ?_)
        intro served hserved hcounts
        have hhost : served.host.frame = inst.frame := (of_decide_eq_true hcounts).1
        exact hold _ (h.books.served served hserved) (congrArg Frame.stamp hhost)
      exact .of_unused hcell hruns hyields

end Consistent

end Store
end ObjectGraph
