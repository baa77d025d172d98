import ObjectGraph.Proofs.Live.Alive
import ObjectGraph.Proofs.Session.Moves
import ObjectGraph.Proofs.Session.Singleton

/-!
# Liveness — which instances a session keeps

Providers and factories do not hold the instance that they belong to. What holds one is a live graph
that is itself held, a slot, or an instance below it. A request that needs its host reports it as
dropped exactly if none of these is left; a cached value is still there.

* `Session.HoldsGraph`, `Session.KeepsAlive` — who holds what;
* `Session.Coherent.isAlive_iff` — the stamps of the instances alive;
* `Step.Recalls` — steps that call a provider kept earlier;
* `Session.Coherent.serveFor_dropped_iff` — jobs against their hosts;
* `Session.Coherent.answer_ready` — values that are cached;
* `dropped_components_are_exact` — the kept providers and factories of any reachable session.
-/

namespace ObjectGraph

/-- The step calls a provider that was kept: one in a slot, or one that the object in a slot keeps. -/
def Step.Recalls : Step → Prop
  | .call _ _ _ | .deferred _ _ _ _ => True
  | _ => False

namespace Session

/-! ## What is held -/

/-- A slot or a context slot refers to the live graph. -/
def HoldsGraph (session : Session) (live : LiveGraph) : Prop :=
  ∃ id, session.graphs.find? id = some live ∧
    ((∃ slot owned, session.slots.find? slot = some (.graph id owned)) ∨
      ∃ contextSlot, session.contextSlots.find? contextSlot = some id)

/-- The instance is the root of a held graph or active in one, a slot holds it, or it is above such
an instance. -/
inductive KeepsAlive (session : Session) (inst : Instance) : Prop where
  | root {live : LiveGraph} (hlive : session.HoldsGraph live) (hroot : live.root = inst)
  | active {live : LiveGraph} {component : ComponentId} (hlive : session.HoldsGraph live)
      (hactive : live.active.find? component = some inst)
  | handle {slot : String} (hslot : session.instance? slot = some inst)
  | aboveActive {live : LiveGraph} {component : ComponentId} {below : Instance}
      (hlive : session.HoldsGraph live) (hactive : live.active.find? component = some below)
      (habove : inst ∈ below.parents)
  | aboveHandle {slot : String} {below : Instance} (hslot : session.instance? slot = some below)
      (habove : inst ∈ below.parents)

variable {built : Graph} {known : Instance → Prop} {session : Session} {inst : Instance}

theorem mem_heldGraphs_iff {live : LiveGraph} :
    live ∈ session.heldGraphs ↔ session.HoldsGraph live := by
  simp only [heldGraphs, List.mem_filterMap, List.mem_append, Table.mem_values_iff, HoldsGraph]
  constructor
  · rintro ⟨id, hid | hid, hfind⟩
    · rcases hid with ⟨held, ⟨slot, hslot⟩, hgraph⟩
      cases held with
      | graph other owned =>
        cases hgraph
        exact ⟨id, hfind, Or.inl ⟨slot, owned, hslot⟩⟩
      | _ => simp at hgraph
    · exact ⟨id, hfind, Or.inr hid⟩
  · rintro ⟨id, hfind, ⟨slot, owned, hslot⟩ | hid⟩
    · exact ⟨id, Or.inl ⟨_, ⟨slot, hslot⟩, rfl⟩, hfind⟩
    · exact ⟨id, Or.inr hid, hfind⟩

theorem mem_heldInstances_iff :
    inst ∈ session.heldInstances ↔ ∃ slot, session.instance? slot = some inst := by
  simp only [heldInstances, List.mem_filterMap, Table.mem_values_iff]
  constructor
  · rintro ⟨held, ⟨slot, hslot⟩, hinst⟩
    cases held with
    | component other =>
      cases hinst
      exact ⟨slot, by simp [instance?, hslot]⟩
    | _ => simp at hinst
  · rintro ⟨slot, hslot⟩
    simp only [instance?] at hslot
    split at hslot
    · rename_i other hfound
      cases hslot
      exact ⟨_, ⟨slot, hfound⟩, rfl⟩
    · simp at hslot

theorem mem_held_iff :
    inst ∈ session.held ↔ (∃ slot, session.instance? slot = some inst) ∨
      ∃ live, session.HoldsGraph live ∧
        (live.root = inst ∨ ∃ component, live.active.find? component = some inst) := by
  simp only [held, List.mem_append, mem_heldInstances_iff, List.mem_flatMap, mem_heldGraphs_iff,
    LiveGraph.instances, List.mem_cons, Table.mem_values_iff, eq_comm]

/-- The stamps alive are those of the held instances and of the ones above them. -/
theorem mem_alive_iff {stamp : Nat} :
    stamp ∈ session.alive ↔
      ∃ holder ∈ session.held, ∃ other ∈ holder :: holder.parents, other.stamp = stamp := by
  have hlineage : ∀ holder : Instance,
      holder.lineage = (holder :: holder.parents).map Instance.frame := by
    intro holder
    simp [Instance.lineage, Instance.parents, Instance.map_frame_parentsOf]
  simp only [alive, List.mem_flatMap, hlineage, List.map_map, List.mem_map, Function.comp_apply,
    Instance.stamp]

section Alive

variable (h : session.Coherent built known) (hrooted : built.hierarchy.Rooted)

include h hrooted

theorem Coherent.known_of_mem_held (hmem : inst ∈ session.held) : known inst := by
  rcases mem_held_iff.1 hmem with ⟨slot, hslot⟩ | ⟨live, ⟨id, hfind, _⟩, hcase⟩
  · exact h.known_of_instance? hslot
  · have hlive := (h.graphs id live hfind).2
    rcases hcase with rfl | ⟨component, hactive⟩
    · exact hlive.known _ _ LiveGraph.inst?_root
    · exact hlive.known _ _ (hlive.linked.inst?_of_active hrooted hactive)

omit hrooted in
/-- Nothing is above a root, so only active instances and those in slots keep others. -/
theorem Coherent.keepsAlive_iff :
    session.KeepsAlive inst ↔ ∃ holder ∈ session.held, inst ∈ holder :: holder.parents := by
  constructor
  · intro hkept
    cases hkept with
    | root hlive hroot =>
      exact ⟨inst, mem_held_iff.2 (Or.inr ⟨_, hlive, Or.inl hroot⟩), List.mem_cons_self⟩
    | active hlive hactive =>
      exact ⟨inst, mem_held_iff.2 (Or.inr ⟨_, hlive, Or.inr ⟨_, hactive⟩⟩), List.mem_cons_self⟩
    | handle hslot => exact ⟨inst, mem_held_iff.2 (Or.inl ⟨_, hslot⟩), List.mem_cons_self⟩
    | aboveActive hlive hactive habove =>
      exact ⟨_, mem_held_iff.2 (Or.inr ⟨_, hlive, Or.inr ⟨_, hactive⟩⟩),
        List.mem_cons_of_mem _ habove⟩
    | aboveHandle hslot habove =>
      exact ⟨_, mem_held_iff.2 (Or.inl ⟨_, hslot⟩), List.mem_cons_of_mem _ habove⟩
  · rintro ⟨holder, hheld, hmem⟩
    rcases mem_held_iff.1 hheld with ⟨slot, hslot⟩ | ⟨live, hlive, hcase⟩
    · rcases List.mem_cons.1 hmem with rfl | habove
      · exact .handle hslot
      · exact .aboveHandle hslot habove
    · rcases hcase with rfl | ⟨component, hactive⟩
      · rcases hlive with ⟨id, hfind, hreferred⟩
        have htop := (h.graphs id live hfind).2.linked.top
        have hsame : inst = live.root := by
          simpa [Instance.parents_eq_nil htop] using hmem
        exact .root ⟨id, hfind, hreferred⟩ hsame.symm
      · rcases List.mem_cons.1 hmem with rfl | habove
        · exact .active hlive hactive
        · exact .aboveActive hlive hactive habove

/-- An instance is told by its stamp, so its stamp is alive only if it is. -/
theorem Coherent.mem_alive_iff_keepsAlive (hinst : known inst) :
    inst.stamp ∈ session.alive ↔ session.KeepsAlive inst := by
  simp only [mem_alive_iff, h.keepsAlive_iff]
  constructor
  · rintro ⟨holder, hheld, other, hmem, hstamp⟩
    have hother : known other := by
      have hholder : known holder := h.known_of_mem_held hrooted hheld
      rcases List.mem_cons.1 hmem with rfl | habove
      · exact hholder
      · exact h.census.of_mem_parents hholder habove
    have hsame : other = inst := h.census.distinct other inst hother hinst hstamp
    exact ⟨holder, hheld, hsame ▸ hmem⟩
  · rintro ⟨holder, hheld, hmem⟩
    exact ⟨holder, hheld, inst, hmem, rfl⟩

theorem Coherent.isAlive_iff (wiring : Wiring) (hinst : known inst) :
    (World.mk wiring session.alive).isAlive inst = true ↔ session.KeepsAlive inst := by
  simp [World.isAlive, h.mem_alive_iff_keepsAlive hrooted hinst]

theorem Coherent.upward (wiring : Wiring) : (World.mk wiring session.alive).Upward known := by
  intro inst hinst halive other habove
  rcases (h.keepsAlive_iff).1 ((h.isAlive_iff hrooted wiring hinst).1 halive) with
    ⟨holder, hheld, hmem⟩
  refine (h.isAlive_iff hrooted wiring (h.census.of_mem_parents hinst habove)).2 ?_
  refine (h.keepsAlive_iff).2 ⟨holder, hheld, ?_⟩
  exact Instance.upwards_subset hmem (List.mem_cons_of_mem _ habove)

end Alive

/-! ## Jobs -/

theorem Asks.step_eq {step : Step} {provider : Provider} (hasks : session.Asks step provider)
    (hrecalls : step.Recalls) :
    ∃ context into, session.step step =
      session.serveFor provider.host (.call provider context) provider.type into := by
  cases hasks with
  | stored hprovider =>
    simp only [Session.step, call, hprovider]
    exact ⟨_, _, rfl⟩
  | kept hvalue hprovider =>
    simp only [Session.step, deferred, hvalue, hprovider]
    exact ⟨_, _, rfl⟩
  | _ => exact hrecalls.elim

theorem Coherent.known_of_recalls (h : session.Coherent built known) {step : Step}
    {provider : Provider} (hasks : session.Asks step provider) (hrecalls : step.Recalls) :
    known provider.host := by
  cases hasks with
  | stored hprovider => exact h.known_of_provider? hprovider
  | kept hvalue hprovider =>
    exact h.known_of_reaches (.kept hvalue (List.mem_of_getElem? hprovider))
  | _ => exact hrecalls.elim

theorem serve_failed {live : LiveGraph} {job : Job} {type : ValueType} {into : Option String}
    {error : ResolveError} {store : Store}
    (hserve : (World.mk live.wiring session.alive).serve job session.store =
      (.error (.error error), store)) :
    (session.serve live job type into).1 = .failed error := by
  simp [Session.serve, hserve]

theorem outcome_of_serve_failed {live : LiveGraph} {job : Job} {type : ValueType}
    {into : Option String} {error : ResolveError}
    (hanswer : (session.serve live job type into).1 = .failed error) :
    ∃ store, (World.mk live.wiring session.alive).serve job session.store =
      (.error (.error error), store) := by
  simp only [Session.serve] at hanswer
  split at hanswer
  · simp at hanswer
  · rename_i error store hserve
    cases hanswer
    exact ⟨store, hserve⟩
  · simp at hanswer

section Jobs

variable (h : session.Coherent built known) (hrooted : built.hierarchy.Rooted)

include h hrooted

/-- A job that cannot do without its host is refused exactly if nothing keeps the host alive. -/
theorem Coherent.serveFor_dropped_iff {job : Job} (hjob : job.Known known) (hhost : known job.host)
    (hdead : ∀ live : LiveGraph, live.wiring.Fits → live.wiring.plan = .ofGraph built →
      (World.mk live.wiring session.alive).isAlive job.host = false →
        ∃ later, (World.mk live.wiring session.alive).serve job session.store =
          (.error (.error (.componentDropped job.host.component)), later))
    (type : ValueType) (into : Option String) :
    (session.serveFor job.host job type into).1 =
      .failed (.componentDropped job.host.component) ↔ ¬ session.KeepsAlive job.host := by
  rcases h.home job.host hhost with ⟨live, hfind⟩
  have hlive := (h.graphs _ live hfind).2
  have halive := h.isAlive_iff hrooted live.wiring hhost
  simp only [serveFor, hfind]
  constructor
  · intro hanswer hkept
    rcases outcome_of_serve_failed hanswer with ⟨later, hserve⟩
    exact World.serve_undropped h.census (h.upward hrooted live.wiring) hlive.fits hlive.plan hjob
      (halive.2 hkept) h.store hserve _ rfl
  · intro hnot
    rcases hdead live hlive.fits hlive.plan (Bool.eq_false_iff.2 (mt halive.1 hnot)) with
      ⟨later, hserve⟩
    exact serve_failed hserve

/-- Kept providers of entries without a cached value, by what keeps their host alive. -/
theorem Coherent.recall_dropped_iff {step : Step} {provider : Provider}
    (hasks : session.Asks step provider) (hrecalls : step.Recalls)
    (hneeds : World.NeedsHost (.ofGraph built) session.store provider) :
    (session.step step).1 = .failed (.componentDropped provider.host.component) ↔
      ¬ session.KeepsAlive provider.host := by
  rcases hasks.step_eq hrecalls with ⟨context, into, hstep⟩
  have hhost : known provider.host := h.known_of_recalls hasks hrecalls
  have hjob : (Job.call provider context).Known known := hhost
  simp only [hstep]
  refine h.serveFor_dropped_iff hrooted hjob hhost ?_ _ into
  intro live hfits hplan hdead
  exact World.serve_call_of_dropped hfits hplan hdead hneeds

theorem Coherent.create_dropped_iff {slot : String} {type : ValueType} {factory : AssistedFactory}
    (hslot : session.slots.find? slot = some (.value type (.factory factory)))
    (arguments : String) (into : Option String) :
    (session.step (.create slot arguments into)).1 =
      .failed (.componentDropped factory.host.component) ↔ ¬ session.KeepsAlive factory.host := by
  have hhost : known factory.host := h.slots slot _ hslot
  simp only [Session.step, create, hslot]
  have hjob : (Job.create factory arguments).Known known := hhost
  refine h.serveFor_dropped_iff hrooted hjob hhost ?_ _ into
  intro live _ _ hdead
  exact ⟨_, World.serve_create_of_dropped hdead arguments⟩

end Jobs

/-! ## Cached values -/

theorem Opens.cells {later : Session} (h : session.Opens later) :
    later.store.cells = session.store.cells := by
  cases h with
  | still => rfl
  | activated _ _ => rfl

/-- A value that is cached is answered by any live graph of the plan, whoever is alive. -/
theorem serve_ready {live : LiveGraph} {plan : Plan} {provider : Provider} {value : Value}
    (hfits : live.wiring.Fits) (hplan : live.wiring.plan = plan)
    (hkind : plan.kind? provider.host.component provider.key = some .scoped)
    (hready : session.store.cells.find? ⟨provider.host.stamp, provider.key⟩ = some (.ready value))
    (context : Context) (type : ValueType) (into : Option String) :
    (session.serve live (.call provider context) type into).1 =
      .value type (live.wiring.castAlong provider.casts value) := by
  have hserve : (World.mk live.wiring session.alive).serve (.call provider context)
      session.store =
        (.ok (live.wiring.castAlong provider.casts value), session.store.noteServed provider value) :=
    World.serve_call_of_ready hfits hplan hkind hready
  simp only [Session.serve, hserve]

/-- Every request that ends at an entry with a cached value is answered with that value, behind the
casts on the way. -/
theorem Coherent.answer_ready (h : session.Coherent built known)
    (hrooted : built.hierarchy.Rooted) {step : Step} {provider : Provider} {value : Value}
    (hasks : session.Asks step provider)
    (hkind : (Plan.ofGraph built).kind? provider.host.component provider.key = some .scoped)
    (hready : session.store.cells.find? ⟨provider.host.stamp, provider.key⟩ =
      some (.ready value)) :
    ∃ live, session.graphs.find? provider.host.rootStamp = some live ∧
      (session.step step).1 = .value provider.type (live.wiring.castAlong provider.casts value) := by
  rcases h.employs_of_asks hasks with ⟨live, middle, context, hemploys⟩
  rcases hemploys.goes h hrooted with ⟨more, hgoes, _, hlive⟩
  rcases hemploys.step_eq with ⟨into, hstep⟩
  -- The activation that a request may start with leaves the cached values as they are.
  simp only [← hemploys.opens.cells] at hready
  refine ⟨live, hemploys.home h hrooted, ?_⟩
  rw [hstep]
  exact serve_ready hlive.fits hlive.plan hkind hready context _ into

end Session

/-- In any reachable session, a kept provider without a cached value and a kept factory are refused
exactly if nothing keeps their host alive. A provider with a cached value answers it in every later
session, behind its casts. -/
theorem dropped_components_are_exact {manifest : Manifest} {config : Config}
    {compilation : Compilation} (hcompile : (compile manifest config).result = .ok compilation)
    {registrations : List (Key × Registration)} {session : Session}
    (hstart : Session.start compilation registrations = .ok session) (steps : List Step) :
    let plan := compilation.plan
    let now := (session.run steps).2
    (∀ step provider, now.Asks step provider → step.Recalls →
      World.NeedsHost plan now.store provider →
        ((now.step step).1 = .failed (.componentDropped provider.host.component) ↔
          ¬ now.KeepsAlive provider.host)) ∧
    (∀ slot type factory arguments into,
      now.slots.find? slot = some (.value type (.factory factory)) →
        ((now.step (.create slot arguments into)).1 =
          .failed (.componentDropped factory.host.component) ↔ ¬ now.KeepsAlive factory.host)) ∧
    ∀ provider value, plan.kind? provider.host.component provider.key = some .scoped →
      now.store.cells.find? ⟨provider.host.stamp, provider.key⟩ = some (.ready value) →
        ∀ more step, let later := (now.run more).2
          later.Asks step provider →
            ∃ live, later.graphs.find? provider.host.rootStamp = some live ∧
              (later.step step).1 =
                .value provider.type (live.wiring.castAlong provider.casts value) := by
  intro plan now
  rcases Session.run_coherent hcompile hstart steps with ⟨hplan, hrooted, known, hcoherent⟩
  have hplan : plan = .ofGraph compilation.graph := hplan
  refine ⟨?_, ?_, ?_⟩
  · intro step provider hasks hrecalls hneeds
    exact hcoherent.recall_dropped_iff hrooted hasks hrecalls (hplan ▸ hneeds)
  · intro slot type factory arguments into hslot
    exact hcoherent.create_dropped_iff hrooted hslot arguments into
  · intro provider value hkind hready more step later hasks
    rcases Session.run_leads hcoherent hrooted more with ⟨_, hgoes⟩
    have hpasses : now.Passes later := Session.run_passes hcoherent hrooted more
    exact hgoes.coherent.answer_ready hrooted hasks (hplan ▸ hkind) (hpasses.cells _ _ hready)

/-- The provider of a shelf is kept, while its cart is destroyed and its handle dropped. -/
def abandonedCart : List Step :=
  [.component "r" "Cart" (some "cart"),
    .provider (.component "cart") (.unqualified "Shelf") (.object "Shelf") (some "shelf"),
    .destroy "r" "Cart", .drop "cart"]

theorem abandoned_cart_is_dropped :
    let now := (shopSession.run abandonedCart).2
    let cart : Instance := ⟨⟨1, "Cart"⟩, [⟨0, "App"⟩]⟩
    (now.step (.call "shelf" Table.empty none)).1 = .failed (.componentDropped "Cart") ∧
      ¬ now.KeepsAlive cart := by
  intro now cart
  have hslot : now.provider? "shelf" =
      some ⟨cart, .unqualified "Shelf", [], .object "Shelf"⟩ := by
    decide +kernel
  have hneeds : World.NeedsHost shopCompilation.plan now.store
      ⟨cart, .unqualified "Shelf", [], .object "Shelf"⟩ :=
    Or.inr (Or.inr ⟨by decide +kernel, by decide +kernel⟩)
  have hanswer : (now.step (.call "shelf" Table.empty none)).1 =
      .failed (.componentDropped "Cart") := by
    decide +kernel
  have hexact := (dropped_components_are_exact compile_shopManifest start_shopRegistrations
    abandonedCart).1 (.call "shelf" Table.empty none) _ (.stored hslot) trivial hneeds
  exact ⟨hanswer, hexact.1 hanswer⟩

end ObjectGraph
