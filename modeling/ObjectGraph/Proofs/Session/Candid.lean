import ObjectGraph.Proofs.Live.Failure
import ObjectGraph.Proofs.Session.Step

/-!
# Candid sessions — constructors that wrap no error, and founded values

If no blueprint that was accepted wraps the errors of its demands, no live graph does. Slots and cells
hold what lookups and jobs have brought, so there is a constructor or a factory behind all of it.

* `Session.Candid` — the live graphs, the cells and the slots of a session;
* `Session.Candid.opens`, `Session.Candid.serve` — live graphs and jobs;
* `Session.step_candid`, `Session.run_candid` — one step, and any number of them.
-/

namespace ObjectGraph

/-- What a slot holds is founded, as far as it yields values. -/
def Held.Founded (plan : Plan) : Held → Prop
  | .value _ stored => stored.Founded plan
  | .provider kept => kept.Founded plan
  | .component _ | .graph _ _ => True

namespace Session

structure Candid (plan : Plan) (session : Session) : Prop where
  planned : session.plan = plan
  wirings : ∀ id live, session.graphs.find? id = some live →
    live.wiring.plan = plan ∧ live.wiring.Transparent
  cells : session.store.Founded plan
  slots : ∀ slot held, session.slots.find? slot = some held → held.Founded plan

variable {plan : Plan} {session later : Session} {live : LiveGraph} {id : Nat}

/-! ## Slots and live graphs -/

namespace Candid

variable (h : session.Candid plan)

include h

theorem withSlots {slots : Table String Held} (contextSlots : Table String Nat)
    (warnings : List Warning)
    (hslots : ∀ slot held, slots.find? slot = some held → held.Founded plan) :
    { session with
      slots := slots
      contextSlots := contextSlots
      warnings := warnings }.Candid plan :=
  ⟨h.planned, h.wirings, h.cells, hslots⟩

theorem put {held : Held} (hheld : held.Founded plan) (slot : String) :
    (session.put slot held).Candid plan := by
  exact h.withSlots _ _ (Table.forall_insert h.slots hheld)

theorem putIf {held : Held} (hheld : held.Founded plan) (slot? : Option String) :
    (session.putIf slot? held).Candid plan := by
  cases slot? with
  | none => exact h
  | some slot => exact h.put hheld slot

theorem eraseSlot (slot : String) (contextSlots : Table String Nat) :
    { session with
      slots := session.slots.erase slot
      contextSlots := contextSlots }.Candid plan := by
  exact h.withSlots _ _ (Table.forall_erase h.slots slot)

theorem setGraph (hplan : live.wiring.plan = plan) (htransparent : live.wiring.Transparent)
    (nextStamp : Nat) : (session.setGraph live nextStamp).Candid plan where
  planned := h.planned
  wirings := Table.forall_insert h.wirings ⟨hplan, htransparent⟩
  cells := h.cells
  slots := h.slots

/-- A live graph that is wired like one of the session. -/
theorem setGraph_of_wiring (hfind : session.graphs.find? id = some live) {next : LiveGraph}
    (hwiring : next.wiring = live.wiring) (nextStamp : Nat) :
    (session.setGraph next nextStamp).Candid plan := by
  rcases h.wirings id live hfind with ⟨hplan, htransparent⟩
  exact h.setGraph (hwiring ▸ hplan) (hwiring ▸ htransparent) nextStamp

/-! ## Deeds -/

theorem opens (hopens : session.Opens later) : later.Candid plan := by
  cases hopens with
  | still => exact h
  | activated hlive hok => exact h.setGraph_of_wiring hlive (LiveGraph.wiring_of_activate hok) _

theorem founded_of_offers {held : Held} (hoffers : session.Offers later held) :
    held.Founded plan := by
  cases hoffers with
  | copy hslot => exact h.slots _ _ hslot
  | graph _ | component _ => trivial
  | provider _ hlive hprovider =>
    exact (h.wirings _ _ hlive).1 ▸ Wiring.founded_of_provider hprovider

theorem serve (hplan : live.wiring.plan = plan) (job : Job) (type : ValueType)
    (into : Option String) : (session.serve live job type into).2.Candid plan := by
  have hfounds : Server.Founds plan (World.mk live.wiring session.alive).serve :=
    World.serveWithin_founds hplan _
  apply of_serve (P := Candid plan)
  · intro outcome store hserve
    exact ⟨h.planned, h.wirings, hfounds.store h.cells hserve, h.slots⟩
  · intro value store hserve hserved
    have hheld : (Held.value type value).Founded plan := hfounds.value h.cells hserve
    exact hserved.putIf hheld into

theorem build {registrations : List (Key × Registration)}
    (haccepted : (Blueprint.ofList registrations).error? plan = none →
      (Blueprint.ofList registrations).Transparent)
    (slot : String) : (session.build registrations slot).2.Candid plan := by
  have hwarned := h.withSlots session.contextSlots
    (session.warnings ++ Blueprint.replacements [] registrations) h.slots
  simp only [Session.build]
  split
  -- A blueprint that is refused leaves its warnings only.
  · exact hwarned
  · rename_i wiring hwire
    simp only [h.planned] at hwire
    rcases Blueprint.wire_eq_ok hwire with ⟨hnone, rfl⟩
    have htransparent : Wiring.Transparent ⟨plan, (Blueprint.ofList registrations).registrations⟩ :=
      haccepted hnone
    have hheld : (Held.graph session.store.nextStamp true).Founded plan := trivial
    exact (hwarned.setGraph rfl htransparent _).put hheld slot

end Candid

/-! ## Runs -/

theorem Does.candid {step : Step} {answer : Answer} (hdoes : session.Does step answer later)
    (h : session.Candid plan)
    (hstep : ∀ registrations into, step = .build registrations into →
      (Blueprint.ofList registrations).error? plan = none →
        (Blueprint.ofList registrations).Transparent) : later.Candid plan := by
  cases hdoes with
  | serves hemploys =>
    rcases hemploys.find? with ⟨id, hlive⟩
    exact (h.opens hemploys.opens).serve (h.wirings id _ hlive).1 _ _ _
  | refuses hseeks _ => exact h.opens hseeks.meets.opens
  | unsent _ _ | uninitialized _ _ | lost _ _ => exact h
  | fills into hoffers _ _ => exact (h.opens hoffers.opens).putIf (h.founded_of_offers hoffers) into
  | empties _ _ => exact h.eraseSlot _ _
  | destroys _ hlive _ =>
    rcases find?_of_graph? hlive with ⟨id, hfind⟩
    exact h.setGraph_of_wiring hfind (LiveGraph.destroy_keeps _ _).1 _
  | builds hbuild _ => exact h.build (hstep _ _ hbuild) _
  | answers hopens _ _ => exact h.opens hopens

/-- One step, if the constructors that it registers wrap no error, or are refused. -/
theorem step_candid (h : session.Candid plan) {step : Step}
    (hstep : ∀ registrations into, step = .build registrations into →
      (Blueprint.ofList registrations).error? plan = none →
        (Blueprint.ofList registrations).Transparent) :
    (session.step step).2.Candid plan :=
  (does_step session step).candid h hstep

theorem run_candid (h : session.Candid plan) {steps : List Step}
    (hsteps : ∀ registrations into, .build registrations into ∈ steps →
      (Blueprint.ofList registrations).error? plan = none →
        (Blueprint.ofList registrations).Transparent) :
    (session.run steps).2.Candid plan := by
  induction steps generalizing session with
  | nil => exact h
  | cons step rest ih =>
    have hfirst : (session.step step).2.Candid plan := by
      apply step_candid h
      rintro registrations into rfl
      exact hsteps registrations into List.mem_cons_self
    exact ih hfirst fun registrations into hmem =>
      hsteps registrations into (List.mem_cons_of_mem _ hmem)

theorem blank_candid (plan : Plan) : (blank plan).Candid plan where
  planned := rfl
  wirings := by
    intro id live hfind
    simp [blank] at hfind
  cells := by
    intro id value hcell
    simp [blank, Store.empty] at hcell
  slots := by
    intro slot held hheld
    simp [blank] at hheld

theorem start_candid {compilation : Compilation} {registrations : List (Key × Registration)}
    (htransparent : (Blueprint.ofList registrations).Transparent)
    (hstart : start compilation registrations = .ok session) :
    session.Candid compilation.plan := by
  have hbuild := (blank_candid compilation.plan).build (fun _ => htransparent) "r"
  simp only [start] at hstart
  split at hstart
  · rename_i hresult
    cases hstart
    simpa only [hresult] using hbuild
  · simp at hstart

end Session
end ObjectGraph
