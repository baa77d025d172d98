import ObjectGraph.Proofs.Live.Aliases
import ObjectGraph.Proofs.Session.Lookup

/-!
# Aliases of a session — requests for an alias are requests for its target

Whatever is asked of an instance by the key of an alias is asked by the key of its target of the
instance that hosts the alias. That instance is on the way up, so components between the two do not
matter, even if they host the target's key themselves.

* `Answer.cast` — an answer with its value as one of another type;
* `Session.getFrom_castBy` — a value behind a cast is the value, cast;
* `aliases_are_transparent` — aliases and chains of aliases in reachable sessions.
-/

namespace ObjectGraph

/-- The answer with its value cast to another type. Errors stay what they are. -/
def Answer.cast (type : ValueType) (conversion : Conversion) : Answer → Answer
  | .value _ found => .value type (conversion.apply found)
  | answer => answer

namespace Session

variable {session : Session} {live : LiveGraph} {inst host : Instance} {key target : Key}

/-- A call of a provider behind a cast does what a call of the provider that it stands before does, and
casts the answer. -/
theorem serve_castBy (provider : Provider) (key : Key) (context : Context) (type : ValueType)
    (into : Option String) :
    let asked := session.serve live (.call provider context) provider.type into
    let answered := session.serve live (.call (provider.castBy key type) context) type into
    answered.1 = asked.1.cast type (live.wiring.conversion key) ∧
      answered.2.store = asked.2.store := by
  simp only [serve, World.serve, World.serveWithin_castBy_eq]
  generalize World.serveWithin _ _ _ _ = result
  rcases result with ⟨fault | value, store⟩
  · cases fault <;> exact ⟨rfl, rfl⟩
  · simp [Except.map, Answer.cast]

/-- A request for the key of an alias with a cast is answered by the cast of what a request for its
target is answered by, and leaves the store that this request leaves. -/
theorem getFrom_castBy (h : live.wiring.Forwards inst key host target)
    {cast : ValueType × ValueType} (hcast : live.wiring.cast? key = some cast) (context : Context)
    (into : Option String) :
    let asked := session.getFrom live host target cast.1 context into
    let answered := session.getFrom live inst key cast.2 context into
    answered.1 = asked.1.cast cast.2 (live.wiring.conversion key) ∧
      answered.2.store = asked.2.store := by
  simp only [getFrom]
  cases hprovider : live.wiring.provider host target cast.1 with
  | error error =>
    simp only [h.failed cast hcast error hprovider]
    exact ⟨rfl, trivial⟩
  | ok provider =>
    have htype : provider.type = cast.1 := Wiring.type_of_providerWithin hprovider
    simp only [h.behind cast hcast provider hprovider, ← htype]
    exact serve_castBy provider key context cast.2 into

end Session

/-- In a reachable session an alias that an instance sees forwards to its target, looked up from the
only instance on the way up that belongs to the host of the alias. Without a cast the providers are the
same, and so are the answers to all requests; with a cast the provider is that of the target behind the
cast, a call of it is one call of that provider, with the same context, and the answer is the cast of
its value or its error. A chain of aliases composes these steps, over the provider of the node that it
ends at: one that is constructed, by a constructor for one type. The casts of the chain lead from that
type to the type that is asked for, and a call yields what they make, one after the other, of the value
of one call of that node. -/
theorem aliases_are_transparent {manifest : Manifest} {config : Config} {compilation : Compilation}
    (hcompile : (compile manifest config).result = .ok compilation)
    (hvalidate : config.validateDependencies = true)
    {registrations : List (Key × Registration)} {session : Session}
    (hstart : Session.start compilation registrations = .ok session) (before after : List Step)
    {inst : Instance} (hreached : (session.run before).2.Reaches inst) :
    let graph := compilation.graph
    let later := (session.run (before ++ after)).2
    ∃ live, later.graphs.find? inst.rootStamp = some live ∧
      ∀ key node, graph.resolve? inst.component key = some node → node.isAlias = true →
        (∃ host ∈ inst :: inst.parents, host.component = node.host ∧
          (∀ other ∈ inst :: inst.parents, other.component = node.host → other = host) ∧
          ∃ target, node.dependencies = [target] ∧ live.wiring.Forwards inst key host target ∧
            (live.wiring.cast? key = none → ∀ type into,
              later.providerFrom live.wiring inst key type into =
                later.providerFrom live.wiring host target type into ∧
              ∀ context, later.getFrom live inst key type context into =
                later.getFrom live host target type context into) ∧
            ∀ cast, live.wiring.cast? key = some cast →
              (∀ (alive : List Nat) (bound : Nat) (provider : Provider) (context : Context)
                  (store : Store),
                let world := World.mk live.wiring alive
                let made := world.serveWithin bound (.call provider context) store
                world.serveWithin bound (.call (provider.castBy key cast.2) context) store =
                  (made.1.map (live.wiring.conversion key).apply, made.2)) ∧
              ∀ context into,
                let asked := later.getFrom live host target cast.1 context into
                let answered := later.getFrom live inst key cast.2 context into
                answered.1 = asked.1.cast cast.2 (live.wiring.conversion key) ∧
                  answered.2.store = asked.2.store) ∧
        (∀ steps last, graph.followed? steps node = some last →
          ∃ host ∈ inst :: inst.parents, host.component = last.host ∧
            ∀ type, live.wiring.provider inst key type =
              (graph.aliasKeys steps node).foldr live.wiring.viaAlias
                (live.wiring.provider host last.key) type) ∧
        ∃ steps last, 0 < steps ∧ graph.followed? steps node = some last ∧ last.isAlias = false ∧
          ∃ host ∈ inst :: inst.parents, host.component = last.host ∧
            ∃ product, live.wiring.product? last.key = some product ∧
              (∀ type, live.wiring.provider host last.key type =
                if product = type then .ok ⟨host, last.key, [], type⟩
                else .error (.incorrectType last.key type.name)) ∧
              ∀ type provider, live.wiring.provider inst key type = .ok provider →
                let casts := live.wiring.castKeys (graph.aliasKeys steps node)
                provider = ⟨host, last.key, casts, type⟩ ∧
                live.wiring.Composes casts product type ∧
                ∀ (alive : List Nat) (bound : Nat) (context : Context) (store : Store),
                  let world := World.mk live.wiring alive
                  let made := world.serveWithin bound (.call ⟨host, last.key, [], product⟩ context)
                    store
                  world.serveWithin bound (.call provider context) store =
                    (made.1.map (live.wiring.castAlong casts), made.2) := by
  intro graph later
  rcases Session.run_home hcompile hstart before after hreached with
    ⟨known, live, hcoherent, hknown, hlive, hgraph⟩
  rcases Compilation.sound hcompile with ⟨hsound, _, hclosed⟩
  have hclosed : graph.Closed := hclosed hvalidate
  have hplan := hgraph.plan
  have hfollows : inst.Follows graph.hierarchy := hcoherent.follows inst hknown
  refine ⟨live, hlive, ?_⟩
  intro key node hresolve halias
  have hnode : node ∈ graph.nodes := (hsound.keyed.of_resolve? hresolve).1
  refine ⟨?_, ?_, ?_⟩
  · rcases hsound.aliased node hnode halias with ⟨target, hdependencies⟩
    have htarget : node.aliasTarget? = some target := by
      simp [Node.aliasTarget?, halias, hdependencies]
    rcases Wiring.provider_eq_viaAlias hsound hplan hfollows hresolve htarget with
      ⟨host, hmem, hcomponent, hvia⟩
    have hforwards := Wiring.forwards_of_viaAlias hvia
    refine ⟨host, hmem, hcomponent, ?_, target, hdependencies, hforwards, ?_, ?_⟩
    · intro other hother heq
      exact hfollows.eq_of_component_eq hsound.rooted hother hmem (heq.trans hcomponent.symm)
    · intro hcast type into
      have hsame := hforwards.same hcast type
      refine ⟨?_, ?_⟩
      · simp only [Session.providerFrom, hsame]
      · intro context
        simp only [Session.getFrom, hsame]
    · intro cast hcast
      refine ⟨?_, ?_⟩
      · intro alive bound provider context store world made
        exact world.serveWithin_castBy_eq bound provider key cast.2 context store
      · intro context into
        exact Session.getFrom_castBy hforwards hcast context into
  · intro steps last hfollowed
    rcases Wiring.provider_eq_foldr hsound hplan hfollows hresolve hfollowed with
      ⟨host, hmem, hcomponent, _, hchain⟩
    exact ⟨host, hmem, hcomponent, hchain⟩
  · exact Wiring.exists_end_of_alias hsound hplan hgraph.fits hclosed hfollows hresolve halias

/-! ## A yard -/

/-- A garage has an engine of its own, but its drive stands for the motor of the root. -/
def yardManifest : Manifest where
  entryPoint := "App"
  components :=
    [⟨"App", none, .component, []⟩, ⟨"Garage", none, .subcomponent, ["App"]⟩,
      ⟨"Car", none, .subcomponent, ["Garage"]⟩]
  modules := [⟨"Works", ["App"]⟩, ⟨"Shed", ["Garage"]⟩]
  declarations :=
    [.provides ⟨"Works", "engine", .resolved "Engine", none, none, [], false⟩,
      .binds ⟨"Works", "motor", .resolved "Motor", none,
        [.regular "engine" (.resolved "Engine") none], true⟩,
      .provides ⟨"Shed", "engine", .resolved "Engine", none, none, [], false⟩,
      .binds ⟨"Shed", "drive", .resolved "Drive", none,
        [.regular "motor" (.resolved "Motor") none], true⟩]

def yardHierarchy : Hierarchy :=
  ⟨"App", .ofList [("App", ⟨none, none, ["Garage"], 0⟩),
    ("Car", ⟨some "Garage", none, [], 2⟩), ("Garage", ⟨some "App", none, ["Car"], 1⟩)]⟩

def yardCompilation : Compilation :=
  ⟨yardManifest, yardManifest.graph yardHierarchy,
    .ofGraph (yardManifest.graph yardHierarchy)⟩

theorem compile_yardManifest :
    (compile yardManifest .default).result = .ok yardCompilation := by
  have hresolve : (yardManifest.resolveHierarchy .default).1 = some yardHierarchy := by
    decide +kernel
  exact compile_eq_ok_of_errors hresolve (by decide +kernel)

/-- A view that gives no access to what the object keeps. -/
def sealed : Conversion where
  apply
    | .object serial _ => .object serial []
    | .factory made => .factory made
  view
    | .object _ _ => .object (by simp)
    | .factory made => .factory made

/-- An engine keeps the provider of the motor, which the motor does not show. -/
def yardRegistrations : List (Key × Registration) :=
  [(.unqualified "Engine", .construct (.object "rt::Alpha") none
      [.demand (.provider (.unqualified "Engine") (.object "rt::Alpha") none) .propagate]),
    (.unqualified "Motor", .cast (.object "rt::Alpha") (.object "rt::Beta") sealed)]

def yardSession : Session :=
  ((Session.blank yardCompilation.plan).build yardRegistrations "r").2

theorem start_yardRegistrations :
    Session.start yardCompilation yardRegistrations = .ok yardSession :=
  Session.start_eq_ok (by decide +kernel)

def yardRoot : Instance := ⟨⟨0, "App"⟩, []⟩

def yardGarage : Instance := ⟨⟨1, "Garage"⟩, [⟨0, "App"⟩]⟩

def yardCar : Instance := ⟨⟨2, "Car"⟩, [⟨1, "Garage"⟩, ⟨0, "App"⟩]⟩

/-- The request of a car for its drive, once there is a car. -/
def driven : Answer × Session :=
  (yardSession.run [.component "r" "Car" (some "car")]).2.step
    (.get (.component "car") (.unqualified "Drive") (.object "rt::Beta") Table.empty none)

/-- The car sees the engine of the garage, but its drive leads to the engine of the root. What the engine
keeps is not seen behind the cast. -/
theorem drive_leads_past_the_garage :
    ∃ live, (yardSession.run [.component "r" "Car" (some "car")]).2.graphs.find? 0 = some live ∧
      live.wiring.provider yardCar (.unqualified "Engine") (.object "rt::Alpha") =
        .ok ⟨yardGarage, .unqualified "Engine", [], .object "rt::Alpha"⟩ ∧
      live.wiring.provider yardCar (.unqualified "Drive") (.object "rt::Beta") =
        .ok ⟨yardRoot, .unqualified "Engine", [.unqualified "Motor"], .object "rt::Beta"⟩ ∧
      driven.1 = .value (.object "rt::Beta") (.object 1 []) ∧
      driven.2.store.served = [⟨yardRoot, .unqualified "Engine",
        .object 1 [⟨yardRoot, .unqualified "Engine", [], .object "rt::Alpha"⟩]⟩] := by
  let steps : List Step := [.component "r" "Car" (some "car")]
  have hslot : (yardSession.run steps).2.slots.find? "car" = some (.component yardCar) := by
    decide +kernel
  have hdrive : ((yardCompilation.graph.resolve? "Car" (.unqualified "Drive")).any fun node =>
      node.isAlias && yardCompilation.graph.aliasKeys 2 node =
          [.unqualified "Drive", .unqualified "Motor"] &&
        (yardCompilation.graph.followed? 2 node).any fun last =>
          last.host = "App" && last.key = .unqualified "Engine") = true := by
    decide +kernel
  have hwiring : ((yardSession.run steps).2.graphs.find? 0).all (fun live =>
      live.wiring.cast? (.unqualified "Drive") = none &&
        live.wiring.cast? (.unqualified "Motor") =
          some (.object "rt::Alpha", .object "rt::Beta") &&
        live.wiring.provider yardRoot (.unqualified "Engine") (.object "rt::Alpha") =
          .ok ⟨yardRoot, .unqualified "Engine", [], .object "rt::Alpha"⟩ &&
        live.wiring.provider yardCar (.unqualified "Engine") (.object "rt::Alpha") =
          .ok ⟨yardGarage, .unqualified "Engine", [], .object "rt::Alpha"⟩) = true := by
    decide +kernel
  rcases aliases_are_transparent compile_yardManifest rfl start_yardRegistrations steps []
    (.component hslot) with ⟨live, hlive, haliases⟩
  have hlive : (yardSession.run steps).2.graphs.find? 0 = some live := hlive
  simp only [hlive, Option.all_some, Bool.and_eq_true, decide_eq_true_eq] at hwiring
  rcases hwiring with ⟨⟨⟨hplain, hcast⟩, hroot⟩, hengine⟩
  simp only [Option.any_eq_true, Bool.and_eq_true, decide_eq_true_eq] at hdrive
  rcases hdrive with ⟨node, hresolve, ⟨halias, hkeys⟩, last, hfollowed, happ, hkey⟩
  rcases (haliases (.unqualified "Drive") node hresolve halias).2.1 2 last hfollowed with
    ⟨host, hmem, hcomponent, hchain⟩
  -- Of the three instances on the way up only the root belongs to the component.
  have hhost : host = yardRoot := by
    rw [happ] at hcomponent
    simp only [yardCar, Instance.parents, Instance.parentsOf, List.mem_cons,
      List.not_mem_nil, or_false] at hmem
    rcases hmem with rfl | rfl | rfl
    · simp [Instance.component] at hcomponent
    · simp [Instance.component] at hcomponent
    · rfl
  refine ⟨live, hlive, hengine, (hchain _).trans ?_, by decide +kernel, by decide +kernel⟩
  simp [hkeys, hhost, hkey, Wiring.viaAlias, hplain, hcast, hroot, Provider.castBy]

end ObjectGraph
