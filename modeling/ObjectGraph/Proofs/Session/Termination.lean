import ObjectGraph.Proofs.Live.Termination
import ObjectGraph.Proofs.Session.Lookup

/-!
# Termination of sessions — with disciplined constructors no request is stuck

Between the steps of a session nothing is under construction. A step whose constructors keep to the
dependencies of their nodes ends without a fault and leaves the session that way, so whatever is asked
of a reachable session is brought to an end.

* `Session.Quiet` — nothing is under construction, and all constructors are disciplined;
* `Session.Proceeds` — an answer other than being stuck, and a quiet session after it;
* `Session.step_proceeds`, `Session.run_proceeds` — one step, and any number of them;
* `resolution_terminates` — requests of reachable sessions end, whatever the bound.
-/

namespace ObjectGraph

/-- A factory in a slot belongs to a hosted key. -/
def Held.Placed (built : Graph) : Held → Prop
  | .value _ (.factory made) => ∃ node, built.local? made.host.component made.key = some node
  | .value _ (.object _ _) | .provider _ | .component _ | .graph _ _ => True

namespace Session

structure Quiet (built : Graph) (session : Session) : Prop where
  disciplined : ∀ id live, session.graphs.find? id = some live → live.wiring.Disciplined
  idle : ∀ id, session.store.cells.find? id ≠ some .building
  objects : session.store.Objects
  placed : ∀ slot held, session.slots.find? slot = some held → held.Placed built

structure Proceeds (built : Graph) (result : Answer × Session) : Prop where
  answered : result.1 ≠ .stuck
  quiet : result.2.Quiet built

variable {built : Graph} {known : Instance → Prop} {session later : Session} {live : LiveGraph}

/-! ## Slots and live graphs -/

namespace Quiet

variable (h : session.Quiet built)

include h

theorem withSlots {slots : Table String Held} (contextSlots : Table String Nat)
    (warnings : List Warning)
    (hslots : ∀ slot held, slots.find? slot = some held → held.Placed built) :
    { session with
      slots := slots
      contextSlots := contextSlots
      warnings := warnings }.Quiet built :=
  ⟨h.disciplined, h.idle, h.objects, hslots⟩

theorem put {held : Held} (hheld : held.Placed built) (slot : String) :
    (session.put slot held).Quiet built := by
  exact h.withSlots _ _ (Table.forall_insert h.placed hheld)

theorem putIf {held : Held} (hheld : held.Placed built) (slot? : Option String) :
    (session.putIf slot? held).Quiet built := by
  cases slot? with
  | none => exact h
  | some slot => exact h.put hheld slot

theorem eraseSlot (slot : String) (contextSlots : Table String Nat) :
    { session with
      slots := session.slots.erase slot
      contextSlots := contextSlots }.Quiet built := by
  exact h.withSlots _ _ (Table.forall_erase h.placed slot)

theorem setGraph (hlive : live.wiring.Disciplined) (nextStamp : Nat) :
    (session.setGraph live nextStamp).Quiet built where
  disciplined := Table.forall_insert h.disciplined hlive
  idle := h.idle
  objects := h.objects
  placed := h.placed

/-- A live graph that is wired like one of the session. -/
theorem setGraph_of_wiring {id : Nat} (hfind : session.graphs.find? id = some live)
    {next : LiveGraph} (hwiring : next.wiring = live.wiring) (nextStamp : Nat) :
    (session.setGraph next nextStamp).Quiet built :=
  h.setGraph (hwiring ▸ h.disciplined id live hfind) nextStamp

theorem calm (known : Instance → Prop) (limit : Nat) : session.store.Calm built known limit where
  above := fun inst key _ _ _ hcell => absurd hcell (h.idle ⟨inst.stamp, key⟩)
  objects := h.objects

/-! ## Deeds -/

theorem opens (hopens : session.Opens later) : later.Quiet built := by
  cases hopens with
  | still => exact h
  | activated hlive hok => exact h.setGraph_of_wiring hlive (LiveGraph.wiring_of_activate hok) _

theorem placed_of_offers {held : Held} (hoffers : session.Offers later held) :
    held.Placed built := by
  cases hoffers with
  | copy hslot => exact h.placed _ _ hslot
  | graph _ | component _ | provider _ _ _ => trivial

/-- Whatever job a step has served, its key is hosted. -/
theorem below_of_employs (hkeyed : built.Keyed) {step : Step} {job : Job}
    (hemploys : session.Employs step live later job) (hjob : job.Known known) :
    job.Below built known built.size := by
  cases job with
  | call provider context => exact Job.below_size hkeyed hjob context
  | create made arguments =>
    cases hemploys with
    | creates hvalue _ =>
      rcases h.placed _ _ hvalue with ⟨node, hlocal⟩
      exact ⟨hjob, node, hlocal, Graph.Sound.rank_lt_size (hkeyed.of_local? hlocal).1⟩

end Quiet

/-! ## Requests -/

section Requests

variable (hsound : built.Sound) (h : session.Coherent built known) (hquiet : session.Quiet built)
  (hplan : live.wiring.plan = .ofGraph built) (hdisciplined : live.wiring.Disciplined)

include hsound h hplan hdisciplined

theorem world_orderly (alive : List Nat) :
    (World.mk live.wiring alive).Orderly built known session.store.nextStamp :=
  ⟨hsound, hplan, hdisciplined, h.census, h.follows⟩

include hquiet

theorem serve_proceeds {job : Job} (hjob : job.Below built known built.size) (type : ValueType)
    (into : Option String) : Proceeds built (session.serve live job type into) := by
  have horderly := world_orderly hsound h hplan hdisciplined session.alive
  have hends := World.serveWithin_ends horderly (World.size_lt_depthBound horderly)
  have hcalm := hquiet.calm known built.size
  refine ⟨?_, ?_⟩
  · -- Of all faults only errors are left, and these are answers.
    simp only [serve]
    split
    · simp
    · simp
    · rename_i fault store hother hserve
      rcases (hends.ends hjob hcalm hserve).errors fault rfl with ⟨error, rfl⟩
      exact absurd rfl (hother error)
  · apply of_serve (P := Quiet built)
    · -- What the job leaves is as idle as before, whatever its result.
      intro outcome store hserve
      have hrests := (hends.ends hjob hcalm hserve).rests
      refine ⟨hquiet.disciplined, ?_, hrests.objects hquiet.objects, hquiet.placed⟩
      intro cell hcell
      exact hquiet.idle cell (hrests.building cell hcell)
    · intro value store hserve hlater
      refine hlater.putIf ?_ into
      have hbelow := hends.yields hjob hcalm hserve
      cases value with
      | object serial kept => trivial
      | factory made =>
        rcases hbelow with ⟨_, node, hlocal, _⟩
        exact ⟨node, hlocal⟩

end Requests

/-! ## Runs -/

section Steps

variable (hsound : built.Sound) (h : session.Coherent built known) (hquiet : session.Quiet built)

include hsound h hquiet

omit hsound in
theorem build_quiet {registrations : List (Key × Registration)}
    (haccepted : (Blueprint.ofList registrations).error? (.ofGraph built) = none →
      (Blueprint.ofList registrations).Disciplined (.ofGraph built))
    (slot : String) : (session.build registrations slot).2.Quiet built := by
  have hwarned := hquiet.withSlots session.contextSlots
    (session.warnings ++ Blueprint.replacements [] registrations) hquiet.placed
  simp only [build]
  split
  · exact hwarned
  · rename_i wiring hwire
    simp only [h.plan] at hwire
    rcases Blueprint.wire_eq_ok hwire with ⟨hnone, rfl⟩
    have hwiring : Wiring.Disciplined
        ⟨.ofGraph built, (Blueprint.ofList registrations).registrations⟩ := haccepted hnone
    have hheld : (Held.graph session.store.nextStamp true).Placed built := trivial
    exact (hwarned.setGraph hwiring _).put hheld slot

theorem Does.proceeds {step : Step} {answer : Answer} (hdoes : session.Does step answer later)
    (hstep : ∀ registrations into, step = .build registrations into →
      (Blueprint.ofList registrations).error? (.ofGraph built) = none →
        (Blueprint.ofList registrations).Disciplined (.ofGraph built)) :
    Proceeds built (answer, later) := by
  cases hdoes with
  | serves hemploys =>
    rcases hemploys.goes h hsound.rooted with ⟨more, hgoes, hjob, hlive⟩
    rcases hemploys.find? with ⟨id, hfind⟩
    exact serve_proceeds hsound hgoes.coherent (hquiet.opens hemploys.opens) hlive.plan
      (hquiet.disciplined id _ hfind) (hquiet.below_of_employs hsound.keyed hemploys hjob) _ _
  | refuses hseeks _ => exact ⟨by simp, hquiet.opens hseeks.meets.opens⟩
  | unsent _ _ | uninitialized _ _ | lost _ _ => exact ⟨by simp, hquiet⟩
  | fills into hoffers _ hreports =>
    exact ⟨hreports.ne_stuck,
      (hquiet.opens hoffers.opens).putIf (hquiet.placed_of_offers hoffers) into⟩
  | empties _ hreports => exact ⟨hreports.ne_stuck, hquiet.eraseSlot _ _⟩
  | destroys _ hlive hreports =>
    rcases find?_of_graph? hlive with ⟨id, hfind⟩
    exact ⟨hreports.ne_stuck,
      hquiet.setGraph_of_wiring hfind (LiveGraph.destroy_keeps _ _).1 _⟩
  | builds hbuild hreports => exact ⟨hreports.ne_stuck, build_quiet h hquiet (hstep _ _ hbuild) _⟩
  | answers hopens hreports _ => exact ⟨hreports.ne_stuck, hquiet.opens hopens⟩

/-- One step, if the constructors that it registers are disciplined, or refused. -/
theorem step_proceeds {step : Step}
    (hstep : ∀ registrations into, step = .build registrations into →
      (Blueprint.ofList registrations).error? (.ofGraph built) = none →
        (Blueprint.ofList registrations).Disciplined (.ofGraph built)) :
    Proceeds built (session.step step) :=
  (does_step session step).proceeds hsound h hquiet hstep

end Steps

theorem run_proceeds (hsound : built.Sound) (h : session.Coherent built known)
    (hquiet : session.Quiet built) {steps : List Step}
    (hsteps : ∀ registrations into, .build registrations into ∈ steps →
      (Blueprint.ofList registrations).error? (.ofGraph built) = none →
        (Blueprint.ofList registrations).Disciplined (.ofGraph built)) :
    (∀ answer ∈ (session.run steps).1, answer.1 ≠ .stuck) ∧ (session.run steps).2.Quiet built := by
  induction steps generalizing session known with
  | nil => exact ⟨by simp [run], hquiet⟩
  | cons step rest ih =>
    have hfirst : Proceeds built (session.step step) := by
      apply step_proceeds hsound h hquiet
      rintro registrations into rfl
      exact hsteps registrations into List.mem_cons_self
    rcases step_leads h hsound.rooted step with ⟨more, hgoes⟩
    have hrest := ih hgoes.coherent hfirst.quiet fun registrations into hmem =>
      hsteps registrations into (List.mem_cons_of_mem _ hmem)
    refine ⟨?_, hrest.2⟩
    intro answer hanswer
    rcases List.mem_cons.1 hanswer with rfl | hanswer
    · exact hfirst.answered
    · exact hrest.1 answer hanswer

theorem blank_quiet (built : Graph) : (blank (.ofGraph built)).Quiet built where
  disciplined := by
    intro id live hfind
    simp [blank] at hfind
  idle := by
    intro id hcell
    simp [blank, Store.empty] at hcell
  objects := by
    intro id value hcell
    simp [blank, Store.empty] at hcell
  placed := by
    intro slot held hheld
    simp [blank] at hheld

theorem start_quiet {compilation : Compilation}
    (hplan : compilation.plan = .ofGraph compilation.graph)
    {registrations : List (Key × Registration)}
    (hdisciplined : (Blueprint.ofList registrations).Disciplined compilation.plan)
    (hstart : start compilation registrations = .ok session) :
    session.Quiet compilation.graph := by
  simp only [hplan] at hdisciplined
  have hbuild := build_quiet (blank_coherent compilation.graph) (blank_quiet compilation.graph)
    (fun _ => hdisciplined) "r"
  simp only [start] at hstart
  split at hstart
  · rename_i hresult
    cases hstart
    simpa only [← hplan, hresult] using hbuild
  · simp at hstart

end Session

/-- If the constructors of all accepted blueprints keep to the dependencies of their nodes, no
request runs into a construction of its own or nests constructions without end. -/
theorem resolution_terminates {manifest : Manifest} {config : Config} {compilation : Compilation}
    (hcompile : (compile manifest config).result = .ok compilation)
    {registrations : List (Key × Registration)} {session : Session}
    (hstart : Session.start compilation registrations = .ok session)
    (hdisciplined : (Blueprint.ofList registrations).Disciplined compilation.plan)
    {steps : List Step}
    (hsteps : ∀ others into, .build others into ∈ steps →
      (Blueprint.ofList others).error? compilation.plan = none →
        (Blueprint.ofList others).Disciplined compilation.plan) :
    let graph := compilation.graph
    let later := (session.run steps).2
    (∀ answer ∈ (session.run steps).1, answer.1 ≠ .stuck) ∧
    (∀ id, later.store.cells.find? id ≠ some .building) ∧
    ∀ inst, later.Reaches inst → ∃ live, later.graphs.find? inst.rootStamp = some live ∧
      graph.size < live.wiring.depthBound ∧
      (∀ bound key type, graph.size ≤ bound →
        live.wiring.providerWithin bound inst key type = live.wiring.provider inst key type) ∧
      ∀ alive : List Nat,
        (∀ provider context,
          (provider.host = inst ∨
            ∃ key type, live.wiring.provider inst key type = .ok provider) →
          (World.mk live.wiring alive).Finishes (graph.size + 1) (.call provider context)
            later.store) ∧
        ∀ slot type made arguments,
          later.slots.find? slot = some (.value type (.factory made)) → made.host = inst →
            (World.mk live.wiring alive).Finishes (graph.size + 1) (.create made arguments)
              later.store := by
  intro graph later
  rcases Compilation.sound hcompile with ⟨hsound, hplan, _⟩
  simp only [hplan] at hsteps
  rcases Session.start_coherent hplan hsound.rooted hstart with ⟨early, hfirst⟩
  rcases Session.run_proceeds hsound hfirst (Session.start_quiet hplan hdisciplined hstart)
    hsteps with ⟨hanswers, hquiet⟩
  rcases Session.run_coherent hcompile hstart steps with ⟨_, _, known, hcoherent⟩
  refine ⟨hanswers, hquiet.idle, ?_⟩
  intro inst hreached
  have hinst : known inst := hcoherent.known_of_reaches hreached
  rcases hcoherent.home inst hinst with ⟨live, hlive⟩
  have hgraph := (hcoherent.graphs _ live hlive).2
  have horderly := Session.world_orderly hsound hcoherent hgraph.plan
    (hquiet.disciplined _ live hlive)
  have hcalm := hquiet.calm known graph.size
  refine ⟨live, hlive, World.size_lt_depthBound (horderly []), ?_, ?_⟩
  · intro bound key type hle
    apply Wiring.providerWithin_eq_provider hsound hgraph.plan (hcoherent.follows inst hinst)
    intro node hnode
    exact Nat.lt_of_lt_of_le (Graph.Sound.rank_lt_size (hsound.keyed.of_resolve? hnode).1) hle
  · intro alive
    refine ⟨?_, ?_⟩
    · intro provider context hprovider
      have hhost : known provider.host := by
        rcases hprovider with rfl | ⟨key, type, hprovider⟩
        · exact hinst
        · exact hcoherent.census.of_provider hinst hprovider
      exact World.finishes (horderly alive) (Job.below_size hsound.keyed hhost context) hcalm
    · rintro slot type made arguments hslot rfl
      have hemploys : later.Employs (.create slot arguments none) live later
          (.create made arguments) := .creates hslot hlive
      have hjob := hquiet.below_of_employs hsound.keyed hemploys hinst
      exact World.finishes (horderly alive) hjob hcalm

/-- Constructors for the shop of which only the one behind the factory asks for anything. -/
def orderRegistrations : List (Key × Registration) :=
  [(.unqualified "OrderFactory", .factory "Order"
      [.demand (.get (.unqualified "Clock") (.object "Clock")) .propagate]),
    (.unqualified "SystemClock", .construct (.object "SystemClock") none []),
    (.unqualified "Clock", .cast (.object "SystemClock") (.object "Clock")),
    (.unqualified "Shelf", .construct (.object "Shelf") none [])]

def orderSession : Session :=
  ((Session.blank shopCompilation.plan).build orderRegistrations "r").2

def orderRequests : List Step :=
  [.get (.graph "r") (.unqualified "OrderFactory") (.factory "Order") Table.empty (some "orders"),
    .create "orders" "12" none]

/-- The order and the clock that it asks for are both constructed. -/
theorem order_is_created :
    (∀ answer ∈ (orderSession.run orderRequests).1, answer.1 ≠ .stuck) ∧
      (orderSession.run orderRequests).2.store.log.length = 2 := by
  have hstart : Session.start shopCompilation orderRegistrations = .ok orderSession :=
    Session.start_eq_ok (by decide +kernel)
  have hdisciplined : (Blueprint.ofList orderRegistrations).Disciplined shopCompilation.plan := by
    decide +kernel
  have hsteps : ∀ others into, .build others into ∈ orderRequests →
      (Blueprint.ofList others).error? shopCompilation.plan = none →
        (Blueprint.ofList others).Disciplined shopCompilation.plan := by
    intro others into hbuild
    simp [orderRequests] at hbuild
  exact ⟨(resolution_terminates compile_shopManifest hstart hdisciplined hsteps).1,
    by decide +kernel⟩

end ObjectGraph
