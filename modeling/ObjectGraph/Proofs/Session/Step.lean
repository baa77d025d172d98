import ObjectGraph.Proofs.Live.Provider
import ObjectGraph.Proofs.Session.Coherent

/-!
# Steps — every request keeps a session coherent

The instances that a step finds are known by then, and so are those of the job that it has served and
of what it puts into a slot. Each deed leads to a coherent session, and so does any run.

* `Session.Leads` — a coherent session, whatever instances were made on the way;
* `Session.Coherent.known_of_reaches` — instances that a session holds on to are known;
* `Session.Meets.goes`, `Session.Employs.goes` — instances that a step finds, and the job that it has
  served;
* `Session.step_leads` — one step;
* `Session.run_leads` — any number of steps;
* `Session.start_coherent` — a session is coherent from the start;
* `Session.run_coherent` — the sessions of a compilation stay coherent.
-/

namespace ObjectGraph

namespace Session

/-- A later session is coherent, for the instances made until then. -/
def Leads (built : Graph) (known : Instance → Prop) (session later : Session) : Prop :=
  ∃ more, session.Goes built known more later

variable {built : Graph} {known : Instance → Prop} {session later : Session}

theorem Goes.leads {more : Instance → Prop} (h : session.Goes built known more later) :
    session.Leads built known later :=
  ⟨more, h⟩

theorem Leads.refl (h : session.Coherent built known) : session.Leads built known session :=
  (Goes.refl h).leads

theorem Goes.leads_trans {more : Instance → Prop} {last : Session}
    (h : session.Goes built known more later) (hlast : later.Leads built more last) :
    session.Leads built known last := by
  rcases hlast with ⟨most, hmost⟩
  exact ⟨most, h.trans hmost⟩

theorem Coherent.leads_putIf (h : session.Coherent built known) {held : Held}
    (hheld : held.Known known) (slot? : Option String) :
    session.Leads built known (session.putIf slot? held) := by
  have hserved : session.store.served <+: (session.putIf slot? held).store.served := by
    simp [store_putIf]
  exact ⟨known, fun _ hinst => hinst, h.putIf hheld slot?, hserved⟩


/-! ## Lookups -/

section Lookups

variable {middle : Session} {inst : Instance} {step : Step} {live : LiveGraph} {job : Job}
  {held : Held}

theorem Coherent.known_of_reaches (h : session.Coherent built known)
    (hreached : session.Reaches inst) : known inst := by
  induction hreached with
  | active hlive hinst => exact (h.graphs _ _ hlive).2.known _ _ hinst
  | component hslot => exact h.slots _ _ hslot
  | provider hslot => exact h.slots _ _ hslot
  | kept hslot hkept => exact h.slots _ _ hslot _ hkept
  | factory hslot => exact h.slots _ _ hslot
  | cached hcell hkept => exact h.store.books.values _ _ hcell _ hkept
  | parent _ hparent ih => exact h.census.parents _ _ ih hparent

theorem Coherent.known_of_instance? (h : session.Coherent built known) {slot : String}
    (hinst : session.instance? slot = some inst) : known inst :=
  h.known_of_reaches (.component (find?_of_instance? hinst))

theorem Coherent.known_of_provider? (h : session.Coherent built known) {slot : String}
    {provider : Provider} (hprovider : session.provider? slot = some provider) :
    known provider.host :=
  h.known_of_reaches (.provider (find?_of_provider? hprovider))

variable (h : session.Coherent built known) (hrooted : built.hierarchy.Rooted)

include h hrooted

theorem dispatch_goes {id : Nat} (hfind : session.graphs.find? id = some live) {key : Key}
    (hok : session.dispatch live key = .ok (inst, later)) :
    ∃ more, session.Goes built known more later ∧ more inst := by
  rcases dispatch_eq_ok hok with ⟨_, activation, hactivate, rfl, rfl⟩
  exact activate_goes h hrooted hfind hactivate

theorem Opens.stamps (hopens : session.Opens middle) :
    session.store.nextStamp ≤ middle.store.nextStamp := by
  cases hopens with
  | still => exact Nat.le_refl _
  | activated hlive hok =>
    have hgraph := (h.graphs _ _ hlive).2
    exact (LiveGraph.linked_activate hgraph.linked hrooted hgraph.plan hok).2.2.stamps

/-- The instances that a step makes active are known from then on. -/
theorem Opens.leads (hopens : session.Opens middle) : session.Leads built known middle := by
  cases hopens with
  | still => exact .refl h
  | activated hlive hok =>
    rcases activate_goes h hrooted hlive hok with ⟨more, hgoes, _⟩
    exact hgoes.leads

theorem Meets.goes (hmeets : session.Meets middle inst) :
    ∃ more, session.Goes built known more middle ∧ more inst := by
  cases hmeets with
  | handle hinst => exact ⟨known, .refl h, h.known_of_instance? hinst⟩
  | parent hinst hparent =>
    exact ⟨known, .refl h, h.census.parents _ _ (h.known_of_instance? hinst) hparent⟩
  | root hlive =>
    exact ⟨known, .refl h, (h.graphs _ _ hlive).2.known _ _ LiveGraph.inst?_root⟩
  | activated hlive hok => exact activate_goes h hrooted hlive hok

theorem Offers.goes (hoffers : session.Offers middle held) :
    ∃ more, session.Goes built known more middle ∧ held.Known more := by
  cases hoffers with
  | copy hslot => exact ⟨known, .refl h, h.slots _ _ hslot⟩
  | graph id => exact ⟨known, .refl h, trivial⟩
  | component hmeets => exact hmeets.goes h hrooted
  | provider hmeets _ hprovider =>
    rcases hmeets.goes h hrooted with ⟨more, hgoes, hinst⟩
    exact ⟨more, hgoes, hgoes.coherent.census.of_provider hinst hprovider⟩

/-- A key is looked up from an instance of the live graph that it was sent to. -/
theorem Seeks.home {key : Key} {type : ValueType} {context : Context}
    (hseeks : session.Seeks step live middle inst key type context) :
    session.graphs.find? inst.rootStamp = some live := by
  cases hseeks with
  | own _ hlive => exact hlive
  | sent hsends hdispatch =>
    rcases hsends.find? with ⟨id, hlive⟩
    rcases h.graphs id live hlive with ⟨hid, hgraph⟩
    rcases dispatch_eq_ok hdispatch with ⟨_, activation, hok, rfl, rfl⟩
    rcases LiveGraph.linked_activate hgraph.linked hrooted hgraph.plan hok with
      ⟨hlinked, hfound, hcontinues⟩
    have hstamp : activation.inst.rootStamp = id := by
      rw [hlinked.rootStamp_eq hrooted hfound, ← hid, LiveGraph.id, LiveGraph.id, hcontinues.root]
    simpa only [hstamp] using hlive

/-- A job is served by the live graph that its instance belongs to. -/
theorem Employs.home (hemploys : session.Employs step live middle job) :
    session.graphs.find? job.host.rootStamp = some live := by
  cases hemploys with
  | sought hseeks hprovider =>
    have hmem := (Wiring.hosted_of_providerWithin hprovider).1
    have hstamp := Instance.rootStamp_of_mem_upwards hmem
    simpa only [Job.host, hstamp] using hseeks.home h hrooted
  | stored _ hlive | kept _ _ hlive | creates _ hlive => exact hlive

/-- A job is served by a live graph of the session, for what is known by then. -/
theorem Employs.goes (hemploys : session.Employs step live middle job) :
    ∃ more, session.Goes built known more middle ∧ job.Known more ∧
      live.Coherent built more middle.store.nextStamp := by
  have hstill : ∀ {id : Nat}, session.graphs.find? id = some live → job.Known known →
      ∃ more, session.Goes built known more session ∧ job.Known more ∧
        live.Coherent built more session.store.nextStamp :=
    fun hlive hjob => ⟨known, .refl h, hjob, (h.graphs _ live hlive).2⟩
  cases hemploys with
  | sought hseeks hprovider =>
    rcases hseeks.find? with ⟨id, hlive⟩
    rcases hseeks.meets.goes h hrooted with ⟨more, hgoes, hinst⟩
    -- Time has passed for the live graph, but its wiring is the same.
    have hle : session.store.nextStamp ≤ middle.store.nextStamp := hseeks.meets.opens.stamps h hrooted
    exact ⟨more, hgoes, hgoes.coherent.census.of_provider hinst hprovider,
      (h.graphs id live hlive).2.mono hle hgoes.grown⟩
  | stored hprovider hlive => exact hstill hlive (h.known_of_provider? hprovider)
  | kept hvalue hprovider hlive =>
    exact hstill hlive (h.known_of_reaches (.kept hvalue (List.mem_of_getElem? hprovider)))
  | creates hvalue hlive => exact hstill hlive (h.known_of_reaches (.factory hvalue))

end Lookups

/-! ## Runs -/

theorem build_leads (h : session.Coherent built known) (hrooted : built.hierarchy.Rooted)
    (registrations : List (Key × Registration)) (slot : String) :
    session.Leads built known (session.build registrations slot).2 := by
  have hwarned := h.withSlots session.contextSlots
    (session.warnings ++ Blueprint.replacements [] registrations) h.slots
  simp only [build]
  split
  · exact ⟨known, fun _ hinst => hinst, hwarned, List.prefix_refl _⟩
  · rename_i wiring hwire
    have hfits := Blueprint.fits_of_wire hwire
    have hplan : wiring.plan = .ofGraph built := by
      simpa only [(Blueprint.wire_eq_ok hwire).2] using h.plan
    rcases startGraph_goes hwarned hrooted hfits hplan with ⟨more, hgoes⟩
    have hheld : (Held.graph session.store.nextStamp true).Known more := trivial
    exact ⟨more, hgoes.grown, hgoes.coherent.put hheld slot, List.prefix_refl _⟩

theorem Does.leads {step : Step} {answer : Answer} (hdoes : session.Does step answer later)
    (h : session.Coherent built known) (hrooted : built.hierarchy.Rooted) :
    session.Leads built known later := by
  cases hdoes with
  | serves hemploys =>
    rcases hemploys.goes h hrooted with ⟨more, hgoes, hjob, hlive⟩
    exact hgoes.leads_trans (serve_goes hgoes.coherent hlive.fits hlive.plan hjob _ _).leads
  | refuses hseeks _ => exact hseeks.meets.opens.leads h hrooted
  | unsent _ _ => exact .refl h
  | uninitialized _ _ => exact .refl h
  | lost _ _ => exact .refl h
  | fills into hoffers _ _ =>
    rcases hoffers.goes h hrooted with ⟨more, hgoes, hheld⟩
    exact hgoes.leads_trans (hgoes.coherent.leads_putIf hheld into)
  | empties _ _ => exact ⟨known, fun _ hinst => hinst, h.eraseSlot _ _, List.prefix_refl _⟩
  | destroys _ hlive _ =>
    rcases find?_of_graph? hlive with ⟨id, hfind⟩
    exact (destroy_goes h hrooted hfind _).leads
  | builds _ _ => exact build_leads h hrooted _ _
  | answers hopens _ _ => exact hopens.leads h hrooted

/-- One step, whatever is asked. -/
theorem step_leads (h : session.Coherent built known) (hrooted : built.hierarchy.Rooted)
    (step : Step) : session.Leads built known (session.step step).2 :=
  (does_step session step).leads h hrooted

theorem run_leads (h : session.Coherent built known) (hrooted : built.hierarchy.Rooted)
    (steps : List Step) : session.Leads built known (session.run steps).2 := by
  induction steps generalizing session known with
  | nil => exact .refl h
  | cons step rest ih =>
    -- The rest runs with the instances made so far.
    rcases step_leads h hrooted step with ⟨more, hgoes⟩
    exact hgoes.leads_trans (ih hgoes.coherent)

theorem run_append (session : Session) (first second : List Step) :
    (session.run (first ++ second)).2 = ((session.run first).2.run second).2 := by
  induction first generalizing session with
  | nil => rfl
  | cons step rest ih => exact ih (session.step step).2

theorem blank_coherent (built : Graph) :
    (blank (.ofGraph built)).Coherent built fun _ => False where
  plan := rfl
  census :=
    { parents := fun _ _ hknown _ => hknown
      distinct := fun _ _ hknown => hknown.elim
      below := fun _ hknown => hknown.elim }
  follows := fun _ hknown => hknown.elim
  home := fun _ hknown => hknown.elim
  store := Store.Consistent.empty
  graphs := by
    intro id live hfind
    simp [blank] at hfind
  slots := by
    intro slot held hheld
    simp [blank] at hheld

theorem start_eq_ok {compilation : Compilation} {registrations : List (Key × Registration)}
    (h : ((blank compilation.plan).build registrations "r").1 = .ok ()) :
    start compilation registrations =
      .ok ((blank compilation.plan).build registrations "r").2 := by
  simp only [start]
  generalize (blank compilation.plan).build registrations "r" = built at h
  rcases built with ⟨result, session⟩
  simp only at h
  subst h
  rfl

/-- A session of a compilation is coherent from the start. -/
theorem start_coherent {compilation : Compilation}
    (hplan : compilation.plan = .ofGraph compilation.graph)
    (hrooted : compilation.graph.hierarchy.Rooted)
    {registrations : List (Key × Registration)}
    (hstart : start compilation registrations = .ok session) :
    ∃ known, session.Coherent compilation.graph known := by
  have hbuild := build_leads (blank_coherent compilation.graph) hrooted registrations "r"
  simp only [start] at hstart
  split at hstart
  · rename_i hresult
    cases hstart
    simp only [← hplan, hresult] at hbuild
    rcases hbuild with ⟨more, hgoes⟩
    exact ⟨more, hgoes.coherent⟩
  · simp at hstart

/-- A compilation starts sessions that stay coherent, over the tree of its components. -/
theorem run_coherent {manifest : Manifest} {config : Config} {compilation : Compilation}
    (hcompile : (compile manifest config).result = .ok compilation)
    {registrations : List (Key × Registration)}
    (hstart : start compilation registrations = .ok session) (steps : List Step) :
    compilation.plan = .ofGraph compilation.graph ∧ compilation.graph.hierarchy.Rooted ∧
      ∃ known, (session.run steps).2.Coherent compilation.graph known := by
  rcases compile_eq_ok hcompile with ⟨hierarchy, hresolve, _, _, hgraph, hplan⟩
  have hrooted : compilation.graph.hierarchy.Rooted := by
    simpa only [hgraph, Manifest.graph] using Manifest.rooted_of_resolveHierarchy hresolve
  have hplan : compilation.plan = .ofGraph compilation.graph := by
    simp only [hplan, hgraph]
  -- The instances of the first session are known at its start, all others from then on.
  rcases start_coherent hplan hrooted hstart with ⟨known, hcoherent⟩
  rcases run_leads hcoherent hrooted steps with ⟨more, hgoes⟩
  exact ⟨hplan, hrooted, more, hgoes.coherent⟩

end Session
end ObjectGraph
