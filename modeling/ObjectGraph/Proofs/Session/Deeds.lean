import ObjectGraph.Proofs.Live.Scopes
import ObjectGraph.Session.Step

/-!
# Deeds — all that one step can do to a session

A step finds instances, after it has made some of one live graph active perhaps, and then has one job
served at most. Apart from that it fills or empties a slot, destroys instances, starts a live graph or
only answers. What every step keeps is shown deed by deed, without another look at the steps.

* `Session.Reaches` — instances that a session still holds on to;
* `Session.Opens`, `Session.Meets`, `Session.Offers` — the session in which a step goes on, the
  instances that it finds there and what it may put into a slot;
* `Session.Sends`, `Session.Seeks`, `Session.Employs` — the live graph, the lookup and the job of a
  request;
* `Session.Employs.step_eq` — a request that has a job against what comes of the job;
* `Session.of_serve` — what a job can do to a session;
* `Session.Does`, `Session.does_step` — the deed of every step.
-/

namespace ObjectGraph

/-- The step asks for a value: by its key, by a provider or by a factory. -/
def Step.Requests : Step → Prop
  | .get _ _ _ _ _ | .call _ _ _ | .deferred _ _ _ _ | .create _ _ _ | .inject _ _ _ _ _ => True
  | _ => False

/-- The type that a job is to yield. -/
def Job.type : Job → ValueType
  | .call provider _ => provider.type
  | .create factory _ => .object factory.product

/-- An answer that can be given without a job: neither a value nor that the request is stuck. -/
def Answer.Reports : Answer → Prop
  | .value _ _ | .stuck => False
  | _ => True

theorem Answer.Reports.ne_stuck {answer : Answer} (h : answer.Reports) : answer ≠ .stuck := by
  rintro rfl
  exact h

namespace Session

/-! ## Instances -/

/-- Instances that are active, that slots or cached values refer to, or that are above one of
these. -/
inductive Reaches (session : Session) : Instance → Prop where
  | active {id : Nat} {live : LiveGraph} {component : ComponentId} {inst : Instance}
      (hlive : session.graphs.find? id = some live)
      (hinst : live.inst? component = some inst) : session.Reaches inst
  | component {slot : String} {inst : Instance}
      (hslot : session.slots.find? slot = some (.component inst)) : session.Reaches inst
  | provider {slot : String} {provider : Provider}
      (hslot : session.slots.find? slot = some (.provider provider)) :
      session.Reaches provider.host
  | kept {slot : String} {type : ValueType} {serial : Nat} {kept : List Provider}
      {provider : Provider}
      (hslot : session.slots.find? slot = some (.value type (.object serial kept)))
      (hkept : provider ∈ kept) : session.Reaches provider.host
  | factory {slot : String} {type : ValueType} {factory : AssistedFactory}
      (hslot : session.slots.find? slot = some (.value type (.factory factory))) :
      session.Reaches factory.host
  | cached {id : EntryId} {serial : Nat} {kept : List Provider} {provider : Provider}
      (hcell : session.store.cells.find? id = some (.ready (.object serial kept)))
      (hkept : provider ∈ kept) : session.Reaches provider.host
  | parent {inst parent : Instance} (hinst : session.Reaches inst)
      (hparent : inst.parent? = some parent) : session.Reaches parent

/-- The session in which a step goes on: as it was, or with instances of a live graph made active. -/
inductive Opens (session : Session) : Session → Prop where
  | still : session.Opens session
  | activated {id : Nat} {live : LiveGraph} {component : ComponentId}
      {activation : LiveGraph.Activation} (hlive : session.graphs.find? id = some live)
      (hok : live.activate component session.store.nextStamp = .ok activation) :
      session.Opens (session.setGraph activation.graph activation.nextStamp)

/-- An instance that a step finds, in the session in which it goes on. -/
inductive Meets (session : Session) : Session → Instance → Prop where
  | handle {slot : String} {inst : Instance} (hinst : session.instance? slot = some inst) :
      session.Meets session inst
  | parent {slot : String} {inst parent : Instance} (hinst : session.instance? slot = some inst)
      (hparent : inst.parent? = some parent) : session.Meets session parent
  | root {id : Nat} {live : LiveGraph} (hlive : session.graphs.find? id = some live) :
      session.Meets session live.root
  | activated {id : Nat} {live : LiveGraph} {component : ComponentId}
      {activation : LiveGraph.Activation} (hlive : session.graphs.find? id = some live)
      (hok : live.activate component session.store.nextStamp = .ok activation) :
      session.Meets (session.setGraph activation.graph activation.nextStamp) activation.inst

/-- What a step puts into a slot without a job: a copy, a shared live graph, or what it has found. -/
inductive Offers (session : Session) : Session → Held → Prop where
  | copy {slot : String} {held : Held} (hslot : session.slots.find? slot = some held) :
      session.Offers session held
  | graph (id : Nat) : session.Offers session (.graph id false)
  | component {middle : Session} {inst : Instance} (hmeets : session.Meets middle inst) :
      session.Offers middle (.component inst)
  | provider {middle : Session} {inst : Instance} {id : Nat} {live : LiveGraph} {key : Key}
      {type : ValueType} {provider : Provider} (hmeets : session.Meets middle inst)
      (hlive : session.graphs.find? id = some live)
      (hprovider : live.wiring.provider inst key type = .ok provider) :
      session.Offers middle (.provider provider)

/-! ## Requests -/

/-- A request for a key is sent to a live graph, which is to find the instance for it. -/
inductive Sends (session : Session) : Step → LiveGraph → Key → ValueType → Context → Prop where
  | get {slot : String} {live : LiveGraph} {key : Key} {type : ValueType} {context : Context}
      {into : Option String} (hlive : session.graph? slot = some live) :
      session.Sends (.get (.graph slot) key type context into) live key type context
  | inject {contextSlot : String} {id : Nat} {live : LiveGraph} {key : Key} {type : ValueType}
      {context : Context} {into : Option String}
      (hid : session.contextSlots.find? contextSlot = some id)
      (hlive : session.graphs.find? id = some live) :
      session.Sends (.inject contextSlot key type context into) live key type context

/-- A request looks a key up from an instance, in the session in which that instance is active. -/
inductive Seeks (session : Session) :
    Step → LiveGraph → Session → Instance → Key → ValueType → Context → Prop where
  | own {slot : String} {live : LiveGraph} {inst : Instance} {key : Key} {type : ValueType}
      {context : Context} {into : Option String} (hinst : session.instance? slot = some inst)
      (hlive : session.graphs.find? inst.rootStamp = some live) :
      session.Seeks (.get (.component slot) key type context into) live session inst key type context
  | sent {step : Step} {live : LiveGraph} {middle : Session} {inst : Instance} {key : Key}
      {type : ValueType} {context : Context} (hsends : session.Sends step live key type context)
      (hdispatch : session.dispatch live key = .ok (inst, middle)) :
      session.Seeks step live middle inst key type context

/-- The job that a request has served by a live graph, in the session at that time. -/
inductive Employs (session : Session) : Step → LiveGraph → Session → Job → Prop where
  | sought {step : Step} {live : LiveGraph} {middle : Session} {inst : Instance} {key : Key}
      {type : ValueType} {context : Context} {provider : Provider}
      (hseeks : session.Seeks step live middle inst key type context)
      (hprovider : live.wiring.provider inst key type = .ok provider) :
      session.Employs step live middle (.call provider context)
  | stored {slot : String} {context : Context} {into : Option String} {provider : Provider}
      {live : LiveGraph} (hprovider : session.provider? slot = some provider)
      (hlive : session.graphs.find? provider.host.rootStamp = some live) :
      session.Employs (.call slot context into) live session (.call provider context)
  | kept {slot : String} {index serial : Nat} {context : Context} {into : Option String}
      {type : ValueType} {kept : List Provider} {provider : Provider} {live : LiveGraph}
      (hvalue : session.slots.find? slot = some (.value type (.object serial kept)))
      (hprovider : kept[index]? = some provider)
      (hlive : session.graphs.find? provider.host.rootStamp = some live) :
      session.Employs (.deferred slot index context into) live session (.call provider context)
  | creates {slot arguments : String} {into : Option String} {type : ValueType}
      {made : AssistedFactory} {live : LiveGraph}
      (hvalue : session.slots.find? slot = some (.value type (.factory made)))
      (hlive : session.graphs.find? made.host.rootStamp = some live) :
      session.Employs (.create slot arguments into) live session (.create made arguments)

/-! ## Deeds -/

/-- What a step does, with its answer and the session after it. A request that fails without a job says
why; of all other answers it matters only that there is no value. -/
inductive Does (session : Session) (step : Step) : Answer → Session → Prop where
  | serves {live : LiveGraph} {middle : Session} {job : Job} {type : ValueType}
      {into : Option String} (hemploys : session.Employs step live middle job) :
      Does session step (middle.serve live job type into).1 (middle.serve live job type into).2
  | refuses {live : LiveGraph} {middle : Session} {inst : Instance} {key : Key} {type : ValueType}
      {context : Context} {error : ResolveError}
      (hseeks : session.Seeks step live middle inst key type context)
      (hprovider : live.wiring.provider inst key type = .error error) :
      Does session step (.failed error) middle
  | unsent {live : LiveGraph} {key : Key} {type : ValueType} {context : Context}
      {error : ResolveError} (hsends : session.Sends step live key type context)
      (hdispatch : session.dispatch live key = .error error) :
      Does session step (.failed error) session
  | uninitialized {contextSlot : String} {key : Key} {type : ValueType} {context : Context}
      {into : Option String} (hstep : step = .inject contextSlot key type context into)
      (hnone : (session.contextSlots.find? contextSlot).bind session.graphs.find? = none) :
      Does session step (.failed (.context .notInitialized)) session
  | lost {inst : Instance} (hinst : session.Reaches inst)
      (hnone : session.graphs.find? inst.rootStamp = none) :
      Does session step (.failed (.componentDropped inst.component)) session
  | fills {middle : Session} {held : Held} {answer : Answer} (into : Option String)
      (hoffers : session.Offers middle held) (hother : ¬ step.Requests)
      (hreports : answer.Reports) : Does session step answer (middle.putIf into held)
  | empties {slot : String} {contextSlots : Table String Nat} {answer : Answer}
      (hother : ¬ step.Requests) (hreports : answer.Reports) :
      Does session step answer
        { session with slots := session.slots.erase slot, contextSlots := contextSlots }
  | destroys {slot : String} {component : ComponentId} {live : LiveGraph} {answer : Answer}
      (hstep : step = .destroy slot component) (hlive : session.graph? slot = some live)
      (hreports : answer.Reports) :
      Does session step answer
        (session.setGraph (live.destroy component).2 session.store.nextStamp)
  | builds {registrations : List (Key × Registration)} {into : String} {answer : Answer}
      (hstep : step = .build registrations into) (hreports : answer.Reports) :
      Does session step answer (session.build registrations into).2
  | answers {middle : Session} {answer : Answer} (hopens : session.Opens middle)
      (hreports : answer.Reports) (hfailed : step.Requests → ∀ error, answer ≠ .failed error) :
      Does session step answer middle

variable {session later : Session} {step : Step}

/-! ### Lookups -/

theorem find?_of_graph? {slot : String} {live : LiveGraph}
    (h : session.graph? slot = some live) : ∃ id, session.graphs.find? id = some live := by
  simp only [graph?] at h
  split at h
  · exact ⟨_, h⟩
  · simp at h

theorem find?_of_instance? {slot : String} {inst : Instance}
    (h : session.instance? slot = some inst) :
    session.slots.find? slot = some (.component inst) := by
  simp only [instance?] at h
  split at h
  · rename_i found hfound
    cases h
    exact hfound
  · simp at h

theorem find?_of_provider? {slot : String} {provider : Provider}
    (h : session.provider? slot = some provider) :
    session.slots.find? slot = some (.provider provider) := by
  simp only [provider?] at h
  split at h
  · rename_i found hfound
    cases h
    exact hfound
  · simp at h

/-- The instance that a key leads to is active before anything is served. -/
theorem dispatch_eq_ok {live : LiveGraph} {key : Key} {inst : Instance}
    (hok : session.dispatch live key = .ok (inst, later)) :
    ∃ component activation, live.activate component session.store.nextStamp = .ok activation ∧
      inst = activation.inst ∧
        later = session.setGraph activation.graph activation.nextStamp := by
  simp only [dispatch] at hok
  split at hok
  · simp at hok
  · rename_i activation hdispatch
    cases hok
    simp only [LiveGraph.dispatch] at hdispatch
    split at hdispatch
    · simp at hdispatch
    · exact ⟨_, activation, hdispatch, rfl, rfl⟩

theorem Sends.find? {live : LiveGraph} {key : Key} {type : ValueType} {context : Context}
    (h : session.Sends step live key type context) : ∃ id, session.graphs.find? id = some live := by
  cases h with
  | get hlive => exact find?_of_graph? hlive
  | inject _ hlive => exact ⟨_, hlive⟩

theorem Meets.of_dispatch {id : Nat} {live : LiveGraph} (hlive : session.graphs.find? id = some live)
    {key : Key} {inst : Instance} (hok : session.dispatch live key = .ok (inst, later)) :
    session.Meets later inst := by
  rcases dispatch_eq_ok hok with ⟨component, activation, hactivate, rfl, rfl⟩
  exact .activated hlive hactivate

theorem Meets.opens {inst : Instance} (h : session.Meets later inst) : session.Opens later := by
  cases h with
  | handle _ | parent _ _ | root _ => exact .still
  | activated hlive hok => exact .activated hlive hok

section Seeks

variable {live : LiveGraph} {inst : Instance} {key : Key} {type : ValueType} {context : Context}
  (h : session.Seeks step live later inst key type context)

include h

theorem Seeks.find? : ∃ id, session.graphs.find? id = some live := by
  cases h with
  | own _ hlive => exact ⟨_, hlive⟩
  | sent hsends _ => exact hsends.find?

theorem Seeks.meets : session.Meets later inst := by
  cases h with
  | own hinst _ => exact .handle hinst
  | sent hsends hdispatch =>
    rcases hsends.find? with ⟨id, hlive⟩
    exact .of_dispatch hlive hdispatch

/-- A request for a key goes on from the instance that was found. -/
theorem Seeks.step_eq :
    ∃ into, session.step step = later.getFrom live inst key type context into := by
  cases h with
  | @own _ _ _ _ _ _ into hinst hlive =>
    exact ⟨into, by simp only [Session.step, get, hinst, hlive]⟩
  | sent hsends hdispatch =>
    cases hsends with
    | @get _ _ _ _ _ into hlive =>
      exact ⟨into, by simp only [Session.step, get, hlive, getFromGraph, hdispatch]⟩
    | @inject _ _ _ _ _ _ into hid hlive =>
      exact ⟨into, by
        simp only [Session.step, inject, hid, Option.bind_some, hlive, getFromGraph, hdispatch]⟩

end Seeks

theorem Offers.opens {held : Held} (h : session.Offers later held) : session.Opens later := by
  cases h with
  | copy _ | graph _ => exact .still
  | component hmeets | provider hmeets _ _ => exact hmeets.opens

theorem Employs.opens {live : LiveGraph} {job : Job} (h : session.Employs step live later job) :
    session.Opens later := by
  cases h with
  | sought hseeks _ => exact hseeks.meets.opens
  | stored _ _ | kept _ _ _ | creates _ _ => exact .still

theorem Employs.find? {live : LiveGraph} {job : Job} (h : session.Employs step live later job) :
    ∃ id, session.graphs.find? id = some live := by
  cases h with
  | sought hseeks _ => exact hseeks.find?
  | stored _ hlive | kept _ _ hlive | creates _ hlive => exact ⟨_, hlive⟩

/-- A request that has a job is answered with what comes of it. -/
theorem Employs.step_eq {live : LiveGraph} {job : Job} (h : session.Employs step live later job) :
    ∃ into, session.step step = later.serve live job job.type into := by
  cases h with
  | sought hseeks hprovider =>
    rcases hseeks.step_eq with ⟨into, hstep⟩
    have htype := Wiring.type_of_providerWithin hprovider
    exact ⟨into, by simp only [hstep, getFrom, hprovider, Job.type, htype]⟩
  | @stored _ _ into _ _ hprovider hlive =>
    exact ⟨into, by simp only [Session.step, call, hprovider, serveFor, hlive, Job.type]⟩
  | @kept _ _ _ _ into _ _ _ _ hvalue hprovider hlive =>
    exact ⟨into, by simp only [Session.step, deferred, hvalue, hprovider, serveFor, hlive, Job.type]⟩
  | @creates _ _ into _ _ _ hvalue hlive =>
    exact ⟨into, by simp only [Session.step, create, hvalue, serveFor, hlive, Job.type]⟩

/-- A job changes the store only, whatever comes of it; its value may be put into a slot. -/
theorem of_serve {P : Session → Prop} {live : LiveGraph} {job : Job} {type : ValueType}
    {into : Option String}
    (hstore : ∀ outcome store,
      (World.mk live.wiring session.alive).serve job session.store = (outcome, store) →
        P { session with store := store })
    (hput : ∀ value store,
      (World.mk live.wiring session.alive).serve job session.store = (.ok value, store) →
        P { session with store := store } →
          P (({ session with store := store }).putIf into (.value type value))) :
    P (session.serve live job type into).2 := by
  simp only [serve]
  split
  · rename_i value store hserve
    exact hput value store hserve (hstore _ store hserve)
  · rename_i error store hserve
    exact hstore _ store hserve
  · rename_i fault store _ hserve
    exact hstore _ store hserve

/-! ### Steps -/

namespace Does

/-- A request is answered with anything but a failure, a value or that it is stuck. -/
theorem replies {answer : Answer} (hreports : answer.Reports)
    (hfailed : ∀ error, answer ≠ .failed error) : session.Does step answer session :=
  .answers .still hreports fun _ => hfailed

/-- A step that asks for no value answers as it likes. -/
theorem reports {answer : Answer} (hother : ¬ step.Requests) (hreports : answer.Reports) :
    session.Does step answer session :=
  .answers .still hreports fun hrequests => absurd hrequests hother

theorem getFrom {live : LiveGraph} {middle : Session} {inst : Instance} {key : Key}
    {type : ValueType} {context : Context}
    (hseeks : session.Seeks step live middle inst key type context) (into : Option String) :
    session.Does step (middle.getFrom live inst key type context into).1
      (middle.getFrom live inst key type context into).2 := by
  simp only [Session.getFrom]
  cases hprovider : live.wiring.provider inst key type with
  | error error => exact .refuses hseeks hprovider
  | ok provider => exact .serves (.sought hseeks hprovider)

theorem getFromGraph {live : LiveGraph} {key : Key} {type : ValueType} {context : Context}
    (hsends : session.Sends step live key type context) (into : Option String) :
    session.Does step (session.getFromGraph live key type context into).1
      (session.getFromGraph live key type context into).2 := by
  simp only [Session.getFromGraph]
  cases hdispatch : session.dispatch live key with
  | error error => exact .unsent hsends hdispatch
  | ok found => exact .getFrom (.sent hsends hdispatch) into

theorem serveFor {inst : Instance} (hinst : session.Reaches inst) {job : Job}
    (hemploys : ∀ live, session.graphs.find? inst.rootStamp = some live →
      session.Employs step live session job)
    (type : ValueType) (into : Option String) :
    session.Does step (session.serveFor inst job type into).1
      (session.serveFor inst job type into).2 := by
  simp only [Session.serveFor]
  cases hlive : session.graphs.find? inst.rootStamp with
  | none => exact .lost hinst hlive
  | some live => exact .serves (hemploys live hlive)

theorem providerFrom {middle : Session} {inst : Instance} {id : Nat} {live : LiveGraph}
    (hmeets : session.Meets middle inst) (hlive : session.graphs.find? id = some live)
    (hother : ¬ step.Requests) (key : Key) (type : ValueType) (into : Option String) :
    session.Does step (middle.providerFrom live.wiring inst key type into).1
      (middle.providerFrom live.wiring inst key type into).2 := by
  simp only [Session.providerFrom]
  cases hprovider : live.wiring.provider inst key type with
  | error error =>
    exact .answers hmeets.opens trivial fun hrequests => absurd hrequests hother
  | ok provider => exact .fills into (.provider hmeets hlive hprovider) hother trivial

theorem answerInstance {middle : Session} {inst : Instance} (hmeets : session.Meets middle inst)
    (hother : ¬ step.Requests) (into : Option String) :
    session.Does step (middle.answerInstance inst into).1 (middle.answerInstance inst into).2 :=
  .fills into (.component hmeets) hother trivial

theorem inspect (slot : String) {read : LiveGraph → Answer} (hother : ¬ step.Requests)
    (hread : ∀ live, (read live).Reports) :
    session.Does step (session.inspect slot read).1 (session.inspect slot read).2 := by
  simp only [Session.inspect]
  split
  · exact .reports hother trivial
  · exact .reports hother (hread _)

end Does

/-- Every step does one of the deeds. -/
theorem does_step (session : Session) (step : Step) :
    session.Does step (session.step step).1 (session.step step).2 := by
  have hidle : ∀ {answer : Answer}, ¬ step.Requests → answer.Reports →
      session.Does step answer session := .reports
  cases step with
  | get source key type context into =>
    cases source with
    | component slot =>
      simp only [Session.step, get]
      split
      · exact .replies trivial (by simp)
      · rename_i inst hinst
        split
        · rename_i hnone
          exact .lost (.component (find?_of_instance? hinst)) hnone
        · rename_i live hlive
          exact .getFrom (.own hinst hlive) into
    | graph slot =>
      simp only [Session.step, get]
      split
      · exact .replies trivial (by simp)
      · rename_i live hlive
        exact .getFromGraph (.get hlive) into
  | provider source key type into =>
    cases source with
    | component slot =>
      simp only [Session.step, provider]
      split
      · exact hidle id trivial
      · rename_i inst hinst
        split
        · exact hidle id trivial
        · rename_i live hlive
          exact .providerFrom (.handle hinst) hlive id key type into
    | graph slot =>
      simp only [Session.step, provider]
      split
      · exact hidle id trivial
      · rename_i live hlive
        rcases find?_of_graph? hlive with ⟨number, hfind⟩
        split
        · exact hidle id trivial
        · rename_i inst middle hdispatch
          exact .providerFrom (.of_dispatch hfind hdispatch) hfind id key type into
  | call slot context into =>
    simp only [Session.step, call]
    split
    · exact .replies trivial (by simp)
    · rename_i provider hprovider
      exact .serveFor (.provider (find?_of_provider? hprovider)) (fun _ => .stored hprovider) _ into
  | deferred slot index context into =>
    simp only [Session.step, deferred]
    split
    · rename_i type serial kept hvalue
      split
      · exact .replies trivial (by simp)
      · rename_i provider hprovider
        have hkept := List.mem_of_getElem? hprovider
        exact .serveFor (.kept hvalue hkept) (fun _ => .kept hvalue hprovider) _ into
    · exact .replies trivial (by simp)
  | create slot arguments into =>
    simp only [Session.step, create]
    split
    · rename_i type made hvalue
      exact .serveFor (.factory hvalue) (fun _ => .creates hvalue) _ into
    · exact .replies trivial (by simp)
  | component slot component into =>
    simp only [Session.step, Session.component]
    split
    · exact hidle id trivial
    · rename_i live hlive
      rcases find?_of_graph? hlive with ⟨number, hfind⟩
      split
      · exact hidle id trivial
      · rename_i activation hok
        exact .answerInstance (.activated hfind hok) id into
  | root slot into =>
    simp only [Session.step]
    split
    · exact hidle id trivial
    · rename_i live hlive
      rcases find?_of_graph? hlive with ⟨number, hfind⟩
      exact .answerInstance (.root hfind) id into
  | parent slot into =>
    simp only [Session.step, parent]
    split
    · exact hidle id trivial
    · rename_i inst hinst
      split
      · exact hidle id trivial
      · rename_i above hparent
        exact .answerInstance (.parent hinst hparent) id into
  | destroy slot component =>
    simp only [Session.step, destroy]
    split
    · exact hidle id trivial
    · rename_i live hlive
      exact .destroys rfl hlive trivial
  | active slot ids => exact .inspect slot id fun _ => trivial
  | contains slot key =>
    simp only [Session.step, contains]
    split <;> exact hidle id trivial
  | host slot key =>
    refine .inspect slot id ?_
    intro live
    simp only [hostAnswer]
    split <;> trivial
  | debug slot => exact .inspect slot id fun _ => trivial
  | drop slot => exact .empties id trivial
  | clone slot into =>
    simp only [Session.step, clone]
    split
    · exact hidle id trivial
    · exact hidle id trivial
    · rename_i held _ hslot
      exact .fills (some into) (.copy hslot) id trivial
  | build registrations into =>
    simp only [Session.step, buildInto]
    split
    · rename_i later hbuild
      have hdoes : session.Does (.build registrations into) (.flag true)
          (session.build registrations into).2 := .builds rfl trivial
      simpa only [hbuild] using hdoes
    · rename_i error later hbuild
      have hdoes : session.Does (.build registrations into) (.buildFailed error)
          (session.build registrations into).2 := .builds rfl trivial
      simpa only [hbuild] using hdoes
  | install contextSlot slot =>
    -- The slot is given up, whether the context slot was free or not.
    simp only [Session.step, install]
    split
    · split <;> exact .empties id trivial
    · exact hidle id trivial
  | isReady contextSlot => exact hidle id trivial
  | share contextSlot into =>
    simp only [Session.step, share]
    split
    · exact hidle id trivial
    · rename_i number _
      exact .fills (some into) (.graph number) id trivial
  | inject contextSlot key type context into =>
    simp only [Session.step, inject]
    split
    · rename_i hnone
      exact .uninitialized rfl hnone
    · rename_i live hlive
      rcases Option.bind_eq_some_iff.1 hlive with ⟨number, hnumber, hfind⟩
      exact .getFromGraph (.inject hnumber hfind) into

/-- Values come of jobs only. -/
theorem Does.of_value {type : ValueType} {value : Value}
    (h : session.Does step (.value type value) later) :
    ∃ live middle job asked into, session.Employs step live middle job ∧
      middle.serve live job asked into = (.value type value, later) := by
  generalize hanswer : Answer.value type value = answer at h
  cases h with
  | serves hemploys => exact ⟨_, _, _, _, _, hemploys, rfl⟩
  | refuses _ _ | unsent _ _ | uninitialized _ _ | lost _ _ => simp at hanswer
  | fills _ _ _ hreports | empties _ hreports | destroys _ _ hreports | builds _ hreports
  | answers _ hreports _ =>
    subst hanswer
    exact hreports.elim

end Session
end ObjectGraph
