import ObjectGraph.Live.Serve

/-!
# Casts — calls of providers that stand before others

A provider behind a cast calls the next one once, with the context that it is called with, so all
casts on the way to an entry come down to one call of the entry. What it yields is cast from the inside
outwards; a fault is passed on, and the store is the one that the call of the entry leaves.

* `Value.ViewOf.trans`, `Wiring.view_castAlong` — casts one after the other show one value;
* `World.callCast_eq`, `World.callThrough_eq` — what one cast and what several casts do to a call;
* `World.serveWithin_castBy` — a provider behind a cast against the one that it stands before;
* `World.serveWithin_eq_foldr`, `World.serveWithin_eq_map` — any provider against that of its entry.
-/

namespace ObjectGraph

/-! ## Views -/

theorem Value.ViewOf.trans {value middle whole : Value} (h : value.ViewOf middle)
    (hmiddle : middle.ViewOf whole) : value.ViewOf whole := by
  cases h with
  | object hsubset =>
    cases hmiddle with
    | object hheld => exact .object fun provider hmem => hheld provider (hsubset provider hmem)
  | factory made => exact hmiddle

namespace Wiring

@[simp] theorem castAlong_nil (wiring : Wiring) (value : Value) :
    wiring.castAlong [] value = value := rfl

@[simp] theorem castAlong_cons (wiring : Wiring) (key : Key) (casts : List Key) (value : Value) :
    wiring.castAlong (key :: casts) value =
      (wiring.conversion key).apply (wiring.castAlong casts value) := rfl

theorem view_castAlong (wiring : Wiring) (casts : List Key) (value : Value) :
    (wiring.castAlong casts value).ViewOf value := by
  induction casts with
  | nil => exact .refl value
  | cons key casts ih => exact ((wiring.conversion key).view _).trans ih

end Wiring

/-! ## Calls -/

namespace World

variable (world : World)

/-- A cast calls once, and touches neither the store nor a fault. -/
theorem callCast_eq (key : Key) (inner : Context → Store → Outcome × Store) (context : Context)
    (store : Store) :
    world.callCast key inner context store =
      ((inner context store).1.map (world.wiring.conversion key).apply, (inner context store).2) := by
  simp only [callCast]
  rcases inner context store with ⟨value | fault, later⟩ <;> rfl

theorem foldr_callCast_eq (casts : List Key) (entry : Context → Store → Outcome × Store)
    (context : Context) (store : Store) :
    casts.foldr world.callCast entry context store =
      ((entry context store).1.map (world.wiring.castAlong casts), (entry context store).2) := by
  induction casts with
  | nil => rcases hentry : entry context store with ⟨value | fault, later⟩ <;> simp [hentry, Except.map]
  | cons key casts ih =>
    simp only [List.foldr_cons, callCast_eq, ih]
    rcases entry context store with ⟨value | fault, later⟩ <;> rfl

theorem callThrough_eq (server : Server) (provider : Provider) (context : Context)
    (store : Store) :
    world.callThrough server provider context store =
      ((world.callEntry server provider context store).1.map
          (world.wiring.castAlong provider.casts),
        (world.callEntry server provider context store).2) :=
  world.foldr_callCast_eq provider.casts _ context store

/-! ## Served calls -/

/-- Each call of a provider behind a cast is one call of the provider that it stands before, with the
same context; its value is cast, and its fault is passed on. -/
theorem serveWithin_castBy (bound : Nat) (provider : Provider) (key : Key) (type : ValueType)
    (context : Context) (store : Store) :
    world.serveWithin bound (.call (provider.castBy key type) context) store =
      world.callCast key (fun context store => world.serveWithin bound (.call provider context) store)
        context store := by
  cases bound <;> rfl

theorem serveWithin_castBy_eq (bound : Nat) (provider : Provider) (key : Key) (type : ValueType)
    (context : Context) (store : Store) :
    world.serveWithin bound (.call (provider.castBy key type) context) store =
      ((world.serveWithin bound (.call provider context) store).1.map
          (world.wiring.conversion key).apply,
        (world.serveWithin bound (.call provider context) store).2) := by
  rw [serveWithin_castBy, callCast_eq]

/-- The casts of a provider are composed over the provider of its entry, whatever its type. -/
theorem serveWithin_eq_foldr (bound : Nat) (provider : Provider) (product : ValueType)
    (context : Context) (store : Store) :
    world.serveWithin bound (.call provider context) store =
      provider.casts.foldr world.callCast
        (fun context store => world.serveWithin bound
          (.call ⟨provider.host, provider.key, [], product⟩ context) store) context store := by
  cases bound with
  | zero =>
    rw [foldr_callCast_eq]
    rfl
  | succ bound => rfl

theorem serveWithin_eq_map (bound : Nat) (provider : Provider) (product : ValueType)
    (context : Context) (store : Store) :
    world.serveWithin bound (.call provider context) store =
      ((world.serveWithin bound (.call ⟨provider.host, provider.key, [], product⟩ context) store).1.map
          (world.wiring.castAlong provider.casts),
        (world.serveWithin bound
          (.call ⟨provider.host, provider.key, [], product⟩ context) store).2) := by
  rw [serveWithin_eq_foldr world bound provider product context store, foldr_callCast_eq]

end World
end ObjectGraph
