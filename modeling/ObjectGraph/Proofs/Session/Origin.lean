import ObjectGraph.Proofs.Live.Origin
import ObjectGraph.Proofs.Live.Wired
import ObjectGraph.Proofs.Session.Singleton
import ObjectGraph.Proofs.Session.Termination

/-!
# Contexts in cached values — what a scoped value was constructed from

A node that takes a value of the context is never scoped itself, but a scoped node may depend on
it, and then the context of the first request stays in the cache. All runs of a session are traced
along the edges of the graph, so nothing but such a dependency leads from a scoped value to a
context.

* `Session.Traced`, `Session.run_traced` — traced runs and discreet constructors, in every run;
* `Store.Consistent.madeFor_of_lists` — what a scoped entry yields is made for its node;
* `contexts_reach_scoped_values_through_dependencies` — the runs behind scoped values.
-/

namespace ObjectGraph

/-! ## Scoped nodes -/

/-- A node that takes a value of its site is not scoped. -/
theorem Node.Regular.context_eq_none {graph : Graph} {node : Node} (h : node.Regular)
    (hkind : ProviderKind.ofNode graph node = .scoped) : node.context = none := by
  by_contra hcontext
  simp only [ProviderKind.ofNode] at hkind
  rcases h.unscoped hcontext with hfactory | hruntime
  · simp only [hfactory] at hkind
    split at hkind <;> simp at hkind
  · have hscoped : graph.isScoped node = false := by
      simp only [Graph.isScoped, hruntime]
      split <;> rfl
    simp only [hscoped] at hkind
    repeat' split at hkind
    all_goals simp_all

namespace Session

variable {built : Graph} {known : Instance → Prop} {session later : Session}

/-! ## Traced sessions -/

/-- All constructors are discreet, and all runs were given what their nodes may see. -/
structure Traced (built : Graph) (session : Session) : Prop where
  discreet : ∀ id live, session.graphs.find? id = some live → live.wiring.Discreet
  runs : session.store.Traced built

namespace Traced

variable (h : session.Traced built)

include h

/-- Slots, context slots and warnings are no concern of the log. -/
theorem of_eq (hgraphs : later.graphs = session.graphs)
    (hlog : later.store.log = session.store.log) : later.Traced built where
  discreet := fun id live hfind => h.discreet id live (hgraphs ▸ hfind)
  runs := h.runs.of_log hlog

theorem putIf (slot? : Option String) (held : Held) : (session.putIf slot? held).Traced built := by
  cases slot? with
  | none => exact h
  | some slot => exact h.of_eq rfl rfl

theorem setGraph {live : LiveGraph} (hlive : live.wiring.Discreet) (nextStamp : Nat) :
    (session.setGraph live nextStamp).Traced built where
  discreet := Table.forall_insert h.discreet hlive
  runs := h.runs.of_log rfl

/-- A live graph that is wired like one of the session. -/
theorem setGraph_of_wiring {id : Nat} {live next : LiveGraph}
    (hfind : session.graphs.find? id = some live) (hwiring : next.wiring = live.wiring)
    (nextStamp : Nat) : (session.setGraph next nextStamp).Traced built :=
  h.setGraph (hwiring ▸ h.discreet id live hfind) nextStamp

theorem opens (hopens : session.Opens later) : later.Traced built := by
  cases hopens with
  | still => exact h
  | activated hlive hok => exact h.setGraph_of_wiring hlive (LiveGraph.wiring_of_activate hok) _

/-- A job of disciplined and discreet constructors logs traced runs only. -/
theorem serve (hsound : built.Sound) (hcoherent : session.Coherent built known) {live : LiveGraph}
    (hlive : live.Coherent built known session.store.nextStamp)
    (hdisciplined : live.wiring.Disciplined) (hdiscreet : live.wiring.Discreet) {job : Job}
    (hjob : job.Below built known built.size) (type : ValueType) (into : Option String) :
    (session.serve live job type into).2.Traced built := by
  have horderly := world_orderly hsound hcoherent hlive.plan hdisciplined session.alive
  have hserver := World.serveWithin_traces horderly hlive.fits hdiscreet live.wiring.depthBound
  apply of_serve (P := Traced built)
  · intro outcome store hserve
    exact ⟨h.discreet, hserver.traced hjob hcoherent.store h.runs hserve⟩
  · intro value store _ hserved
    exact hserved.putIf into _

theorem build (hcoherent : session.Coherent built known)
    {registrations : List (Key × Registration)}
    (haccepted : (Blueprint.ofList registrations).error? (.ofGraph built) = none →
      (Blueprint.ofList registrations).Discreet (.ofGraph built))
    (slot : String) : (session.build registrations slot).2.Traced built := by
  simp only [Session.build]
  split
  · exact h.of_eq rfl rfl
  · rename_i wiring hwire
    simp only [hcoherent.plan] at hwire
    rcases Blueprint.wire_eq_ok hwire with ⟨hnone, rfl⟩
    have hwiring : Wiring.Discreet
        ⟨.ofGraph built, (Blueprint.ofList registrations).registrations⟩ := haccepted hnone
    exact (h.setGraph hwiring (session.store.nextStamp + 1)).of_eq rfl rfl

end Traced

/-- Blueprints that are accepted during the steps are disciplined and discreet. -/
def Careful (plan : Plan) (steps : List Step) : Prop :=
  ∀ registrations into, .build registrations into ∈ steps →
    (Blueprint.ofList registrations).error? plan = none →
      (Blueprint.ofList registrations).Disciplined plan ∧
        (Blueprint.ofList registrations).Discreet plan

theorem Does.traced {step : Step} {answer : Answer} (hdoes : session.Does step answer later)
    (hsound : built.Sound) (h : session.Coherent built known) (hquiet : session.Quiet built)
    (htraced : session.Traced built) (hcareful : Careful (.ofGraph built) [step]) :
    later.Traced built := by
  cases hdoes with
  | serves hemploys =>
    rcases hemploys.goes h hsound.rooted with ⟨more, hgoes, hjob, hlive⟩
    rcases hemploys.find? with ⟨id, hfind⟩
    exact (htraced.opens hemploys.opens).serve hsound hgoes.coherent hlive
      (hquiet.disciplined id _ hfind) (htraced.discreet id _ hfind)
      (hquiet.below_of_employs hsound.keyed hemploys hjob) _ _
  | refuses hseeks _ => exact htraced.opens hseeks.meets.opens
  | unsent _ _ | uninitialized _ _ | lost _ _ => exact htraced
  | fills into hoffers _ _ => exact (htraced.opens hoffers.opens).putIf into _
  | empties _ _ => exact htraced.of_eq rfl rfl
  | destroys _ hlive _ =>
    rcases find?_of_graph? hlive with ⟨id, hfind⟩
    exact htraced.setGraph_of_wiring hfind (LiveGraph.destroy_keeps _ _).1 _
  | builds hbuild _ =>
    subst hbuild
    exact htraced.build h (fun hnone => (hcareful _ _ (List.mem_singleton_self _) hnone).2) _
  | answers hopens _ _ => exact htraced.opens hopens

theorem step_traced (hsound : built.Sound) (h : session.Coherent built known)
    (hquiet : session.Quiet built) (htraced : session.Traced built) {step : Step}
    (hcareful : Careful (.ofGraph built) [step]) : (session.step step).2.Traced built :=
  (does_step session step).traced hsound h hquiet htraced hcareful

theorem run_traced (hsound : built.Sound) (h : session.Coherent built known)
    (hquiet : session.Quiet built) (htraced : session.Traced built) {steps : List Step}
    (hcareful : Careful (.ofGraph built) steps) :
    (session.run steps).2.Quiet built ∧ (session.run steps).2.Traced built := by
  induction steps generalizing session known with
  | nil => exact ⟨hquiet, htraced⟩
  | cons step rest ih =>
    have hfirst : Careful (.ofGraph built) [step] := by
      intro registrations into hmem
      exact hcareful registrations into (List.mem_cons.2 (Or.inl (List.mem_singleton.1 hmem)))
    have hrest : Careful (.ofGraph built) rest := by
      intro registrations into hmem
      exact hcareful registrations into (List.mem_cons_of_mem _ hmem)
    have hproceeds : Proceeds built (session.step step) := by
      apply step_proceeds hsound h hquiet
      rintro registrations into rfl hnone
      exact (hfirst registrations into (List.mem_singleton_self _) hnone).1
    rcases step_leads h hsound.rooted step with ⟨more, hgoes⟩
    exact ih hgoes.coherent hproceeds.quiet (step_traced hsound h hquiet htraced hfirst) hrest

theorem blank_traced (built : Graph) : (blank (.ofGraph built)).Traced built where
  discreet := by
    intro id live hfind
    simp [blank] at hfind
  runs := by
    intro event hevent
    simp [blank, Store.empty] at hevent

theorem start_traced {compilation : Compilation}
    (hplan : compilation.plan = .ofGraph compilation.graph)
    {registrations : List (Key × Registration)}
    (hdiscreet : (Blueprint.ofList registrations).Discreet compilation.plan)
    (hstart : start compilation registrations = .ok session) :
    session.Traced compilation.graph := by
  simp only [hplan] at hdiscreet
  have hbuild := (blank_traced compilation.graph).build (blank_coherent compilation.graph)
    (fun _ => hdiscreet) "r"
  simp only [start] at hstart
  split at hstart
  · rename_i hresult
    cases hstart
    simpa only [← hplan, hresult] using hbuild
  · simp at hstart

end Session

/-- What a scoped entry yields is made for its node, with or without casts before the entry. -/
theorem Store.Consistent.madeFor_of_lists {graph : Graph} {known : Instance → Prop}
    {store : Store} (h : store.Consistent (.ofGraph graph) known) {wiring : Wiring}
    {provider : Provider} {value : Value} (hlists : store.Lists wiring provider value)
    (hkind : (Plan.ofGraph graph).kind? provider.host.component provider.key = some .scoped)
    {node : Node} (hlocal : graph.local? provider.host.component provider.key = some node) :
    value.MadeFor graph store.log node := by
  rcases hlists with ⟨made, hserved, rfl⟩
  refine (wiring.view_castAlong _ made).madeFor ?_
  have hyields : made ∈ store.yieldsAt provider.host.frame provider.key :=
    List.mem_map.2 ⟨_, List.mem_filter.2 ⟨hserved, by simp⟩, rfl⟩
  rcases h.scoped_history hkind with ⟨_, hnone⟩ | ⟨event, kept, hruns, hvalues⟩
  · simp [hnone] at hyields
  · have hmem : event ∈ store.runsAt provider.host.frame provider.key := by simp [hruns]
    rcases Store.mem_runsAt.1 hmem with ⟨hlog, hhost, hkey, _⟩
    rw [hvalues made hyields]
    refine ⟨event, hlog, rfl, ?_⟩
    rw [hhost, hkey]
    exact hlocal

/-! ## Compilations -/

/-- No scoped entry takes a value of the context itself. If constructors keep to what their nodes
declare, a scoped value is made by a run for its node, and an instance in it that was constructed
from a context belongs to a node that takes one, and that the node of the value reaches through a
chain of dependencies. -/
theorem contexts_reach_scoped_values_through_dependencies {manifest : Manifest} {config : Config}
    {compilation : Compilation} (hcompile : (compile manifest config).result = .ok compilation) :
    let graph := compilation.graph
    let plan := compilation.plan
    (∀ entry ∈ plan.entries, entry.kind = .scoped → entry.context = none) ∧
    ∀ (registrations : List (Key × Registration)) (session : Session),
      Session.start compilation registrations = .ok session →
      (Blueprint.ofList registrations).Disciplined plan →
      (Blueprint.ofList registrations).Discreet plan →
      ∀ before : List Step, Session.Careful plan before →
      ∀ step provider type value,
        (session.run before).2.Asks step provider →
        ((session.run before).2.step step).1 = .value type value →
        plan.kind? provider.host.component provider.key = some .scoped →
        ∃ node, graph.local? provider.host.component provider.key = some node ∧
          node.context = none ∧
          value.MadeFor graph ((session.run before).2.step step).2.store.log node ∧
          ∀ event, value.Contains ((session.run before).2.step step).2.store.log event →
            event.FromContext →
              ∃ target, graph.Reaches node target ∧ target.context ≠ none ∧
                graph.local? event.host.component event.key = some target := by
  intro graph plan
  rcases Compilation.sound hcompile with ⟨hsound, hplan, _⟩
  have hcontext : ∀ node ∈ graph.nodes, ProviderKind.ofNode graph node = .scoped →
      node.context = none := by
    intro node hnode hkind
    exact (Compilation.regular hcompile hnode).context_eq_none hkind
  refine ⟨?_, ?_⟩
  · intro entry hentry hkind
    simp only [plan, hplan] at hentry
    rcases (Plan.mem_entries_ofGraph hsound).1 hentry with ⟨node, hnode, rfl⟩
    simp [Entry.ofNode, hcontext node hnode hkind]
  · intro registrations session hstart hdisciplined hdiscreet before hcareful step provider type
      value hasks hvalue hscoped
    have hquiet := Session.start_quiet hplan hdisciplined hstart
    have htraced := Session.start_traced hplan hdiscreet hstart
    simp only [plan, hplan] at hcareful hscoped
    rcases Plan.exists_local?_of_kind? hsound hscoped with ⟨node, hlocal, hkind⟩
    refine ⟨node, hlocal, hcontext node (hsound.keyed.of_local? hlocal).1 hkind, ?_⟩
    rcases Session.start_coherent hplan hsound.rooted hstart with ⟨early, hfirst⟩
    rcases Session.run_leads hfirst hsound.rooted before with ⟨known, hbefore⟩
    rcases Session.run_traced hsound hfirst hquiet htraced hcareful with ⟨hrest, hruns⟩
    -- An answered request is no start of a live graph, so the step is as careful as those before.
    have hstill : Session.Careful (.ofGraph graph) [step] := by
      intro others into hmem
      cases List.mem_singleton.1 hmem
      cases hasks
    have hlater := Session.step_traced hsound hbefore.coherent hrest hruns hstill
    rcases Session.step_leads hbefore.coherent hsound.rooted step with ⟨more, hstep⟩
    rcases Session.served_of_value hbefore.coherent hsound.rooted hvalue hasks.ne_create with
      ⟨other, _, hother, _, hlists⟩
    cases hasks.unique hother
    have hmade := hstep.coherent.store.madeFor_of_lists hlists hscoped hlocal
    refine ⟨hmade, ?_⟩
    intro event hcontains hfrom
    rcases hmade.of_contains hstep.coherent.store.books.serials hlater.runs hcontains with
      ⟨target, hreaches, hfound, hnone⟩
    exact ⟨target, hreaches, fun hcontext => hnone hcontext hfrom, hfound⟩

/-- A type that is constructed in the root component. -/
def widget (type : TypeName) (parameters : List Parameter) : Declaration :=
  .injectable
    { type := .resolved type
      qualifier := none
      scope := none
      parameters := parameters
      supertypes := []
      bindsTo := []
      factory := none
      runtimeScoped := false
      contributesTo := ["App"] }

/-- A screen takes a handle of its site, and a window takes a screen. -/
def windowManifest : Manifest where
  entryPoint := "App"
  components := [⟨"App", some "Singleton", .component, []⟩]
  modules := []
  declarations :=
    [widget "Screen" [⟨"handle", .resolved "rt::CtxA", none, .runtimeContext, .direct⟩],
      widget "Window" [.regular "screen" (.resolved "Screen") none]]

def windowHierarchy : Hierarchy := ⟨"App", .ofList [("App", ⟨none, some "Singleton", [], 0⟩)]⟩

def windowCompilation : Compilation :=
  ⟨windowManifest, windowManifest.graph windowHierarchy,
    .ofGraph (windowManifest.graph windowHierarchy)⟩

theorem compile_windowManifest :
    (compile windowManifest .default).result = .ok windowCompilation := by
  have hresolve : (windowManifest.resolveHierarchy .default).1 = some windowHierarchy := by
    decide +kernel
  exact compile_eq_ok_of_errors hresolve (by decide +kernel)

/-- The window asks for the screen that its node depends on. -/
def windowRegistrations : List (Key × Registration) :=
  [(.unqualified "Screen", .construct (.object "rt::Alpha") (some "rt::CtxA") []),
    (.unqualified "Window", .construct (.object "rt::Alpha") none
      [.demand (.get (.unqualified "Screen") (.object "rt::Alpha")) .propagate])]

/-- The window asks for nothing, but takes a handle that its node does not declare. -/
def handleRegistrations : List (Key × Registration) :=
  [(.unqualified "Screen", .construct (.object "rt::Alpha") (some "rt::CtxA") []),
    (.unqualified "Window", .construct (.object "rt::Alpha") (some "rt::CtxA") [])]

def windowSession (registrations : List (Key × Registration)) : Session :=
  ((Session.blank windowCompilation.plan).build registrations "r").2

/-- A site with a handle asks for the window. -/
def windowRequest (handle : String) : Step :=
  .get (.graph "r") (.unqualified "Window") (.object "rt::Alpha")
    (Context.ofList [("rt::CtxA", handle)]) none

/-- The session once the first site has been served. -/
def shownWindow (registrations : List (Key × Registration)) : Session :=
  ((windowSession registrations).run [windowRequest "first"]).2

/-- The run that made the screen for the first site. -/
def firstScreen : Event :=
  ⟨2, .unqualified "Screen", ⟨0, "App"⟩, [], .context "first", false⟩

/-- The only window is given the screen of the first site. -/
def firstWindow : Event :=
  ⟨1, .unqualified "Window", ⟨0, "App"⟩, [.value (.object "rt::Alpha") (.object 2 [])], .nothing,
    false⟩

theorem second_window_contains_first_screen :
    ((shownWindow windowRegistrations).step (windowRequest "second")).1 =
        .value (.object "rt::Alpha") (.object firstWindow.serial []) ∧
      (Value.object firstWindow.serial []).Contains
        ((shownWindow windowRegistrations).step (windowRequest "second")).2.store.log
        firstScreen := by
  have hlog : ((shownWindow windowRegistrations).step (windowRequest "second")).2.store.log =
      [firstScreen, firstWindow] := by
    decide +kernel
  have hmade : (Value.object firstScreen.serial []).Contains [firstScreen, firstWindow]
      firstScreen :=
    .made (by simp)
  refine ⟨by decide +kernel, ?_⟩
  rw [hlog]
  exact .given (by simp) (List.mem_singleton_self _) hmade

/-- The run that made the window with the handle of the first site. -/
def handledWindow : Event :=
  ⟨1, .unqualified "Window", ⟨0, "App"⟩, [], .context "first", false⟩

/-- The window is scoped, but its screen takes a value of the context. The second site is answered
with the window that holds the screen of the first site, although all constructors keep to what
their nodes declare. A window that takes a handle of its own accord shows that of the first site as
well. -/
theorem second_site_sees_the_first_handle :
    (compile windowManifest .default).result = .ok windowCompilation ∧
      (∃ window screen, window ∈ windowCompilation.graph.nodes ∧
        ProviderKind.ofNode windowCompilation.graph window = .scoped ∧
          windowCompilation.graph.Edge window screen ∧ screen.context ≠ none) ∧
      (Blueprint.ofList windowRegistrations).Discreet windowCompilation.plan ∧
      ∀ registrations ∈ [windowRegistrations, handleRegistrations],
        Session.start windowCompilation registrations = .ok (windowSession registrations) ∧
        (Blueprint.ofList registrations).Disciplined windowCompilation.plan ∧
        ∃ value event,
          ((shownWindow registrations).step (windowRequest "second")).1 =
            .value (.object "rt::Alpha") value ∧
          value.Contains
            ((shownWindow registrations).step (windowRequest "second")).2.store.log event ∧
          event.extra = .context "first" := by
  have hedge : ∃ window ∈ windowCompilation.graph.nodes,
      ProviderKind.ofNode windowCompilation.graph window = .scoped ∧
        ∃ key ∈ window.dependencies,
          ((windowCompilation.graph.resolve? window.host key).any fun screen =>
            screen.context ≠ none) = true := by
    decide +kernel
  rcases hedge with ⟨window, hwindow, hkind, key, hkey, hany⟩
  rcases (Option.any_eq_true_iff_get _ _).1 hany with ⟨hsome, hcontext⟩
  refine ⟨compile_windowManifest, ⟨window, _, hwindow, hkind,
    ⟨hwindow, key, hkey, (Option.some_get hsome).symm⟩, by simpa using hcontext⟩,
    by decide +kernel, ?_⟩
  intro registrations hregistrations
  simp only [List.mem_cons, List.not_mem_nil, or_false] at hregistrations
  rcases hregistrations with rfl | rfl
  · rcases second_window_contains_first_screen with ⟨hvalue, hcontains⟩
    exact ⟨Session.start_eq_ok (by decide +kernel), by decide +kernel, _, firstScreen, hvalue,
      hcontains, rfl⟩
  · -- Without a request there is nothing to discipline, and the context is taken all the same.
    have hlog : ((shownWindow handleRegistrations).step (windowRequest "second")).2.store.log =
        [handledWindow] := by
      decide +kernel
    have hvalue : ((shownWindow handleRegistrations).step (windowRequest "second")).1 =
        .value (.object "rt::Alpha") (.object handledWindow.serial []) := by
      decide +kernel
    refine ⟨Session.start_eq_ok (by decide +kernel), by decide +kernel, _, handledWindow, hvalue,
      ?_, rfl⟩
    rw [hlog]
    exact .made (List.mem_singleton_self _)

/-- A request for the window ends at the entry of the window in the root instance. -/
theorem shownWindow_asks (handle : String) :
    (shownWindow windowRegistrations).Asks (windowRequest handle)
      ⟨⟨⟨0, "App"⟩, []⟩, .unqualified "Window", [], .object "rt::Alpha"⟩ := by
  have hasked : ((shownWindow windowRegistrations).graph? "r").bind (fun live =>
      ((shownWindow windowRegistrations).dispatch live (.unqualified "Window")).toOption.bind
        fun found => (live.wiring.provider found.1 (.unqualified "Window")
          (.object "rt::Alpha")).toOption) =
      some ⟨⟨⟨0, "App"⟩, []⟩, .unqualified "Window", [], .object "rt::Alpha"⟩ := by
    decide +kernel
  rcases Option.bind_eq_some_iff.1 hasked with ⟨live, hlive, hfound⟩
  cases hdispatch : (shownWindow windowRegistrations).dispatch live (.unqualified "Window") with
  | error error => simp [hdispatch, Except.toOption] at hfound
  | ok found =>
    cases hprovider : live.wiring.provider found.1 (.unqualified "Window")
        (.object "rt::Alpha") with
    | error error => simp [hdispatch, hprovider, Except.toOption] at hfound
    | ok provider =>
      simp only [hdispatch, hprovider, Except.toOption, Option.bind_some,
        Option.some.injEq] at hfound
      exact .ofGraph hlive hdispatch (hfound ▸ hprovider)

/-- The screen in the window is one that the node of the window depends on. -/
theorem window_reaches_its_screen :
    ∃ node, windowCompilation.graph.local? "App" (.unqualified "Window") = some node ∧
      ∃ target, windowCompilation.graph.Reaches node target ∧ target.context ≠ none ∧
        windowCompilation.graph.local? "App" (.unqualified "Screen") = some target := by
  have hstart : Session.start windowCompilation windowRegistrations =
      .ok (windowSession windowRegistrations) :=
    Session.start_eq_ok (by decide +kernel)
  have hcareful : Session.Careful windowCompilation.plan [windowRequest "first"] := by
    intro registrations into hbuild
    simp [windowRequest] at hbuild
  rcases second_window_contains_first_screen with ⟨hvalue, hcontains⟩
  rcases (contexts_reach_scoped_values_through_dependencies compile_windowManifest).2
    windowRegistrations _ hstart (by decide +kernel) (by decide +kernel) [windowRequest "first"]
    hcareful (windowRequest "second") _ _ _ (shownWindow_asks "second") hvalue
    (by decide +kernel) with
    ⟨node, hlocal, _, _, horigin⟩
  exact ⟨node, hlocal, horigin firstScreen hcontains (Or.inl ⟨"first", rfl⟩)⟩

end ObjectGraph
