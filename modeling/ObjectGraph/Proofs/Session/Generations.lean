import ObjectGraph.Proofs.Live.Activation
import ObjectGraph.Proofs.Live.Provenance
import ObjectGraph.Proofs.Session.Liveness
import ObjectGraph.Proofs.Session.Lookup

/-!
# Generations — nothing leaks from a destroyed instance into the next one

A destruction takes the instances of a component and of everything below it out of a live graph and
changes nothing else, so older handles still find the values of their own instances. An instance that
is made in their place has a stamp that nothing was about until then. What it yields was made for it,
or belongs to the instance above it that an alias ends at.

* `Session.Unseen`, `Session.Coherent.unseen_of_le` — runs that are not about an instance;
* `Session.ServesOwn`, `Session.Coherent.servesOwn` — the values that an instance was asked for;
* `Session.Coherent.destroy_frame` — what a destruction leaves alone;
* `Session.Passes.new_of_activate` — the instances of a later request for a component;
* `destroyed_instances_do_not_leak` — a destruction in any run, and all that follows.
-/

namespace ObjectGraph

namespace Session

/-- The run is not about the instance: no session on the way refers to it, no constructor has run for
it, and nothing is cached for it. -/
structure Unseen (session : Session) (steps : List Step) (inst : Instance) : Prop where
  instances : ∀ first rest other, steps = first ++ rest →
    (session.run first).2.Reaches other → other.stamp ≠ inst.stamp
  log : ∀ event ∈ (session.run steps).2.store.log, event.host.stamp ≠ inst.stamp
  cells : ∀ key, (session.run steps).2.store.cells.find? ⟨inst.stamp, key⟩ = none

/-- A value that was served for a key of the instance was made for the entry that the key leads to: one
of the instance itself, unless the key is an alias, and of an instance above it otherwise. -/
def ServesOwn (plan : Plan) (session : Session) (inst : Instance) : Prop :=
  ∀ live key type provider value, session.graphs.find? inst.rootStamp = some live →
    live.wiring.provider inst key type = .ok provider →
      session.store.Lists live.wiring provider value →
        provider.host ∈ inst :: inst.parents ∧
        value.MadeBy session.store.log provider.host provider.key ∧
        ∀ kind, plan.kind? inst.component key = some kind → kind ≠ .aliasOf →
          provider.host = inst ∧ provider.key = key

variable {built : Graph} {known : Instance → Prop} {session : Session} {live : LiveGraph}
  {inst : Instance}

/-! ## New instances -/

/-- An instance that takes a stamp after a run is unseen until the end of that run. -/
theorem Coherent.unseen_of_le (h : session.Coherent built known)
    (hrooted : built.hierarchy.Rooted) {steps : List Step}
    (hle : (session.run steps).2.store.nextStamp ≤ inst.stamp) : session.Unseen steps inst := by
  rcases run_leads h hrooted steps with ⟨more, hgoes⟩
  have hother : ∀ other, more other → other.stamp ≠ inst.stamp := by
    intro other hknown heq
    have hbelow := hgoes.coherent.census.below other hknown
    omega
  refine ⟨?_, ?_, ?_⟩
  · intro first rest other hsteps hreached heq
    rcases run_leads h hrooted first with ⟨early, hfirst⟩
    have hbelow := hfirst.coherent.census.below other (hfirst.coherent.known_of_reaches hreached)
    have hstamps := (run_passes hfirst.coherent hrooted rest).stamps
    simp only [← run_append, ← hsteps] at hstamps
    omega
  · intro event hevent
    rcases hgoes.coherent.store.books.logged event hevent with ⟨other, hknown, hframe⟩
    simp only [← hframe]
    exact hother other hknown
  · intro key
    by_contra hcell
    rcases Option.ne_none_iff_exists'.1 hcell with ⟨cell, hfound⟩
    rcases hgoes.coherent.store.books.cells _ cell hfound with ⟨other, hknown, hstamp⟩
    exact hother other hknown hstamp

/-- What an activation finds or makes is active already or takes a new stamp. -/
theorem active_or_new (h : live.Coherent built known session.store.nextStamp)
    (hrooted : built.hierarchy.Rooted) {component : ComponentId}
    {activation : LiveGraph.Activation}
    (hok : live.activate component session.store.nextStamp = .ok activation)
    (hmem : inst ∈ activation.inst :: activation.inst.parents) :
    live.inst? inst.component = some inst ∨ session.store.nextStamp ≤ inst.stamp := by
  rcases LiveGraph.linked_activate h.linked hrooted h.plan hok with ⟨hlinked, hfound, hcontinues⟩
  rcases LiveGraph.root_or_active (hlinked.inst?_of_mem_upwards hrooted hfound hmem) with
    ⟨hroot, hsame⟩ | hactive
  · left
    simp [LiveGraph.inst?, hsame, hcontinues.root]
  · rcases hcontinues.made _ _ hactive with hold | hnew
    · exact Or.inl (h.linked.inst?_of_active hrooted hold)
    · exact Or.inr hnew

/-- A component that had no instance has one with a new stamp, if any. -/
theorem Passes.new_of_inst? {later : Session} (h : session.Passes later) {id : Nat}
    (hfind : session.graphs.find? id = some live) {current : LiveGraph}
    (hcurrent : later.graphs.find? id = some current) {component : ComponentId}
    (hnone : live.inst? component = none) (hinst : current.inst? component = some inst) :
    session.store.nextStamp ≤ inst.stamp := by
  rcases h.graphs id live hfind with ⟨next, hnext, hrenews⟩
  cases hcurrent.symm.trans hnext
  have hroot : component ≠ live.root.component := by
    rintro rfl
    simp [LiveGraph.inst?_root] at hnone
  have hactive : current.active.find? component = some inst := by
    simpa [LiveGraph.inst?, hrenews.root, hroot] using hinst
  rcases hrenews.active component inst hactive with hold | hnew
  · simp [LiveGraph.inst?, hroot, hold] at hnone
  · exact hnew

/-! ## Values -/

theorem Coherent.servesOwn (h : session.Coherent built known) (inst : Instance) :
    session.ServesOwn (.ofGraph built) inst := by
  intro live key type provider value hlive hprovider hlists
  have hplan := (h.graphs _ live hlive).2.plan
  refine ⟨(Wiring.hosted_of_providerWithin hprovider).1, h.store.madeBy_of_lists hlists, ?_⟩
  intro kind hkind halias
  simp only [← hplan] at hkind
  exact Wiring.own_of_providerWithin hkind halias hprovider

/-- What an assisted factory creates is made by a run for the instance of the factory. -/
theorem Coherent.madeBy_of_create (h : session.Coherent built known) {slot : String}
    {type : ValueType} {factory : AssistedFactory}
    (hslot : session.slots.find? slot = some (.value type (.factory factory)))
    {arguments : String} {into : Option String} {asked : ValueType} {value : Value}
    (hvalue : (session.step (.create slot arguments into)).1 = .value asked value) :
    value.MadeBy (session.step (.create slot arguments into)).2.store.log factory.host
      factory.key := by
  have hjob : (Job.create factory arguments).Known known := h.slots slot _ hslot
  simp only [Session.step, create, hslot, serveFor] at hvalue ⊢
  cases hfind : session.graphs.find? factory.host.rootStamp with
  | none => simp [hfind] at hvalue
  | some live =>
    simp only [hfind, Session.serve] at hvalue ⊢
    have hlive := (h.graphs _ live hfind).2
    split at hvalue
    · rename_i made store hserve
      cases hvalue
      simp only [store_putIf]
      exact World.madeBy_of_serveWithin h.census hlive.fits hlive.plan hjob h.store hserve
    · simp at hvalue
    · simp at hvalue

/-! ## Destruction -/

theorem destroy_eq {slot : String} (hslot : session.graph? slot = some live)
    (component : ComponentId) :
    session.step (.destroy slot component) =
      (.flag (live.destroy component).1,
        session.setGraph (live.destroy component).2 session.store.nextStamp) := by
  simp only [Session.step, destroy, hslot]

theorem active_of_destroy_flag {slot : String} (hslot : session.graph? slot = some live)
    {component : ComponentId} (h : (session.step (.destroy slot component)).1 = .flag true) :
    live.active.contains component = true := by
  simp only [destroy_eq hslot, LiveGraph.destroy, Answer.flag.injEq] at h
  split at h
  · assumption
  · simp at h

/-- A step that destroys something leaves everything else as it was. -/
theorem Coherent.destroy_frame (h : session.Coherent built known)
    (hrooted : built.hierarchy.Rooted) {slot : String} (hslot : session.graph? slot = some live)
    {component : ComponentId} (hactive : live.active.contains component = true) :
    let next := (session.step (.destroy slot component)).2
    next.store = session.store ∧
      (∀ other, other ≠ live.id → next.graphs.find? other = session.graphs.find? other) ∧
      ∃ left, next.graphs.find? live.id = some left ∧
        live.Loses built.hierarchy component left := by
  intro next
  rcases find?_of_graph? hslot with ⟨id, hfind⟩
  have hlive := (h.graphs id live hfind).2
  have hloses := LiveGraph.loses_destroy hlive.linked hrooted hlive.plan hactive
  have hid : (live.destroy component).2.id = live.id := by
    simp only [LiveGraph.id, hloses.root]
  have hnext : next = session.setGraph (live.destroy component).2 session.store.nextStamp := by
    simp only [next, destroy_eq hslot]
  refine ⟨by simp only [hnext, setGraph], ?_, _, ?_, hloses⟩
  · intro other hother
    simp [hnext, setGraph, Table.find?_insert, hid, hother]
  · simp [hnext, setGraph, Table.find?_insert, hid]

/-- Of what a later request for a component finds or makes, nothing that is below a destroyed component
is older than the destruction, and nothing that is made is older than the request. -/
theorem Passes.new_of_activate {later : Session} (h : session.Passes later)
    (hlater : later.Coherent built known) (hrooted : built.hierarchy.Rooted) {id : Nat}
    {left current : LiveGraph} {component target : ComponentId}
    (hleft : session.graphs.find? id = some left)
    (hlost : ∀ other, component ∈ built.hierarchy.lineage other → left.inst? other = none)
    (hcurrent : later.graphs.find? id = some current) {activation : LiveGraph.Activation}
    (hok : current.activate target later.store.nextStamp = .ok activation)
    (hmem : inst ∈ activation.inst :: activation.inst.parents) :
    (component ∈ built.hierarchy.lineage inst.component →
      session.store.nextStamp ≤ inst.stamp) ∧
    (current.inst? inst.component ≠ some inst → later.store.nextStamp ≤ inst.stamp) := by
  refine ⟨?_, ?_⟩
  · intro hbelow
    rcases active_or_new (hlater.graphs id current hcurrent).2 hrooted hok hmem with hactive | hnew
    · exact h.new_of_inst? hleft hcurrent (hlost _ hbelow) hactive
    · exact Nat.le_trans h.stamps hnew
  · intro hmissing
    rcases active_or_new (hlater.graphs id current hcurrent).2 hrooted hok hmem with hactive | hnew
    · exact absurd hactive hmissing
    · exact hnew

end Session

/-- A destruction takes out one component and what is below it, and leaves all values where they are.
Whatever a later request makes in their place is new, and from then on every instance, old or new, is
served its own values or those that an alias leads to above it. -/
theorem destroyed_instances_do_not_leak {manifest : Manifest} {config : Config}
    {compilation : Compilation} (hcompile : (compile manifest config).result = .ok compilation)
    {registrations : List (Key × Registration)} {session : Session}
    (hstart : Session.start compilation registrations = .ok session) (before : List Step)
    {slot : String} {id : ComponentId} {live : LiveGraph}
    (hslot : (session.run before).2.graph? slot = some live)
    (hdestroyed : ((session.run before).2.step (.destroy slot id)).1 = .flag true) :
    let plan := compilation.plan
    let hierarchy := compilation.graph.hierarchy
    let now := (session.run before).2
    let next := (now.step (.destroy slot id)).2
    (next.store = now.store ∧
      (∀ other, other ≠ live.id → next.graphs.find? other = now.graphs.find? other) ∧
      ∃ left, next.graphs.find? live.id = some left ∧ live.Loses hierarchy id left) ∧
    (∀ middle, let later := (next.run middle).2
      ∀ current target activation, later.graphs.find? live.id = some current →
        current.activate target later.store.nextStamp = .ok activation →
          ∀ inst ∈ activation.inst :: activation.inst.parents,
            (id ∈ hierarchy.lineage inst.component → session.Unseen before inst) ∧
            (current.inst? inst.component ≠ some inst →
              session.Unseen (before ++ .destroy slot id :: middle) inst)) ∧
    ∀ more, let last := (next.run more).2
      (∀ inst, last.ServesOwn plan inst) ∧
      (∀ step provider type value, last.Asks step provider →
        (last.step step).1 = .value type value →
          ∃ live, last.graphs.find? provider.host.rootStamp = some live ∧
            (last.step step).2.store.Lists live.wiring provider value) ∧
      (∀ slot type factory arguments into asked value,
        last.slots.find? slot = some (.value type (.factory factory)) →
          let created := last.step (.create slot arguments into)
          created.1 = .value asked value →
            value.MadeBy created.2.store.log factory.host factory.key) ∧
      ∀ provider value, plan.kind? provider.host.component provider.key = some .scoped →
        now.store.cells.find? ⟨provider.host.stamp, provider.key⟩ = some (.ready value) →
          last.store.cells.find? ⟨provider.host.stamp, provider.key⟩ = some (.ready value) ∧
          ∀ step, last.Asks step provider →
            ∃ live, last.graphs.find? provider.host.rootStamp = some live ∧
              (last.step step).1 =
                .value provider.type (live.wiring.castAlong provider.casts value) := by
  intro plan hierarchy now next
  rcases Session.run_coherent hcompile hstart [] with ⟨hplan, hrooted, first, hfirst⟩
  have hplan : plan = .ofGraph compilation.graph := hplan
  have hfirst : session.Coherent compilation.graph first := hfirst
  rcases Session.run_leads hfirst hrooted before with ⟨known, hgoes⟩
  have hnow : now.Coherent compilation.graph known := hgoes.coherent
  rcases Session.find?_of_graph? hslot with ⟨_, hfind⟩
  have hlive := (hnow.graphs _ live hfind).2
  have hactive := Session.active_of_destroy_flag hslot hdestroyed
  rcases hnow.destroy_frame hrooted hslot hactive with ⟨hstore, hothers, left, hleft, hloses⟩
  rcases Session.step_leads hnow hrooted (.destroy slot id) with ⟨_, hstep⟩
  have hnext : next.Coherent compilation.graph _ := hstep.coherent
  refine ⟨⟨hstore, hothers, left, hleft, hloses⟩, ?_, ?_⟩
  · intro middle later current target activation hcurrent hok inst hmem
    rcases Session.run_leads hnext hrooted middle with ⟨_, hmiddle⟩
    have hpasses : next.Passes later := Session.run_passes hnext hrooted middle
    have hlost : ∀ other, id ∈ hierarchy.lineage other → left.inst? other = none :=
      fun _ hline => hloses.inst?_eq_none hlive.linked hrooted hactive hline
    rcases hpasses.new_of_activate hmiddle.coherent hrooted hleft hlost hcurrent hok hmem with
      ⟨hbelow, hmade⟩
    have hrun : (session.run (before ++ .destroy slot id :: middle)).2 = later :=
      Session.run_append session before (.destroy slot id :: middle)
    refine ⟨?_, ?_⟩
    · intro hline
      refine hfirst.unseen_of_le hrooted ?_
      simpa only [next, hstore] using hbelow hline
    · intro hmissing
      refine hfirst.unseen_of_le hrooted ?_
      simpa only [hrun] using hmade hmissing
  · intro more last
    rcases Session.run_leads hnext hrooted more with ⟨_, hmore⟩
    have hpasses : next.Passes last := Session.run_passes hnext hrooted more
    have hlast : last.Coherent compilation.graph _ := hmore.coherent
    refine ⟨?_, ?_, ?_, ?_⟩
    · intro inst
      exact hplan ▸ hlast.servesOwn inst
    · intro step provider type value hasks hvalue
      rcases Session.served_of_value hlast hrooted hvalue hasks.ne_create with
        ⟨other, live, hother, hhome, hlists⟩
      cases hasks.unique hother
      exact ⟨live, hhome, hlists⟩
    · intro slot type factory arguments into asked value hfactory created hvalue
      exact hlast.madeBy_of_create hfactory hvalue
    · intro provider value hkind hready
      have hkept := hpasses.cells _ _ (hstore ▸ hready)
      exact ⟨hkept, fun step hasks => hlast.answer_ready hrooted hasks (hplan ▸ hkind) hkept⟩

/-- The engine belongs to the root, and the motor of a car is an alias of it. -/
def garageManifest : Manifest where
  entryPoint := "App"
  components :=
    [⟨"App", some "Singleton", .component, []⟩, ⟨"Car", none, .subcomponent, ["App"]⟩]
  modules := [⟨"Parts", ["Car"]⟩]
  declarations :=
    [.injectable
        { type := .resolved "Engine"
          qualifier := none
          scope := none
          parameters := []
          supertypes := []
          bindsTo := []
          factory := none
          runtimeScoped := false
          contributesTo := ["App"] },
      .binds ⟨"Parts", "motor", .resolved "Motor", none,
        [.regular "engine" (.resolved "Engine") none], true⟩]

def garageHierarchy : Hierarchy :=
  ⟨"App", .ofList [("App", ⟨none, some "Singleton", ["Car"], 0⟩),
    ("Car", ⟨some "App", none, [], 1⟩)]⟩

def garageCompilation : Compilation :=
  ⟨garageManifest, garageManifest.graph garageHierarchy,
    .ofGraph (garageManifest.graph garageHierarchy)⟩

theorem compile_garageManifest :
    (compile garageManifest .default).result = .ok garageCompilation := by
  have hresolve : (garageManifest.resolveHierarchy .default).1 = some garageHierarchy := by
    decide +kernel
  exact compile_eq_ok_of_errors hresolve (by decide +kernel)

def garageRegistrations : List (Key × Registration) :=
  [(.unqualified "Engine", .construct (.object "rt::Alpha") none [])]

def garageSession : Session :=
  ((Session.blank garageCompilation.plan).build garageRegistrations "r").2

theorem start_garageRegistrations :
    Session.start garageCompilation garageRegistrations = .ok garageSession :=
  Session.start_eq_ok (by decide +kernel)

def motorRequest (slot : String) : Step :=
  .get (.component slot) (.unqualified "Motor") (.object "rt::Alpha") Table.empty none

/-- A first car is asked for its motor. -/
def firstDrive : List Step :=
  [.component "r" "Car" (some "first"), motorRequest "first"]

/-- The car that takes the place of the first one. -/
def secondCar : Instance := ⟨⟨2, "Car"⟩, [⟨0, "App"⟩]⟩

/-- The only run of a constructor, which is one for the root. -/
def engineRun : Event := ⟨1, .unqualified "Engine", ⟨0, "App"⟩, [], .nothing, false⟩

/-- The dispatch table has the car as the host of the motor. Still the second car is answered with what
was made before it, by a run for the root, and no run is ever for a car. -/
theorem second_car_has_the_motor_of_the_first :
    (compile garageManifest .default).result = .ok garageCompilation ∧
      Session.start garageCompilation garageRegistrations = .ok garageSession ∧
      garageCompilation.plan.dispatch.find? (.unqualified "Motor") = some "Car" ∧
      let now := (garageSession.run firstDrive).2
      let destroyed := now.step (.destroy "r" "Car")
      let renewed := destroyed.2.step (.component "r" "Car" (some "second"))
      let asked := renewed.2.step (motorRequest "second")
      destroyed.1 = .flag true ∧ renewed.2.instance? "second" = some secondCar ∧
        asked.1 = .value (.object "rt::Alpha") (.object engineRun.serial []) ∧
        now.store.log = [engineRun] ∧ asked.2.store.log = [engineRun] ∧
        engineRun.host ≠ secondCar.frame :=
  ⟨compile_garageManifest, start_garageRegistrations, by decide +kernel, by decide +kernel⟩

/-- Nothing was about the second car while there was the first one. -/
theorem second_car_is_unseen :
    ∃ live, (garageSession.run firstDrive).2.graph? "r" = some live ∧
      ((garageSession.run firstDrive).2.step (.destroy "r" "Car")).1 = .flag true ∧
      garageSession.Unseen firstDrive secondCar := by
  have hdestroyed :
      ((garageSession.run firstDrive).2.step (.destroy "r" "Car")).1 = .flag true := by
    decide +kernel
  have hlive : ((garageSession.run firstDrive).2.graph? "r").map LiveGraph.id = some 0 := by
    decide +kernel
  rcases Option.map_eq_some_iff.1 hlive with ⟨live, hslot, hid⟩
  have hbelow : "Car" ∈ garageCompilation.graph.hierarchy.lineage "Car" := by
    decide +kernel
  have hmade : (((garageSession.run firstDrive).2.step (.destroy "r" "Car")).2.graphs.find? 0).bind
      (fun left => (left.activate "Car" ((garageSession.run firstDrive).2.step
        (.destroy "r" "Car")).2.store.nextStamp).toOption.map LiveGraph.Activation.inst) =
        some secondCar := by
    decide +kernel
  rcases Option.bind_eq_some_iff.1 hmade with ⟨left, hleft, hactivated⟩
  cases hok : left.activate "Car" ((garageSession.run firstDrive).2.step
      (.destroy "r" "Car")).2.store.nextStamp with
  | error error => simp [hok, Except.toOption] at hactivated
  | ok activation =>
    have hinst : activation.inst = secondCar := by
      simpa [hok, Except.toOption] using hactivated
    have hunseen := (destroyed_instances_do_not_leak compile_garageManifest
      start_garageRegistrations firstDrive hslot hdestroyed).2.1 [] left "Car" activation
      (hid ▸ hleft) hok secondCar (hinst ▸ List.mem_cons_self)
    exact ⟨live, hslot, hdestroyed, hunseen.1 hbelow⟩

end ObjectGraph
