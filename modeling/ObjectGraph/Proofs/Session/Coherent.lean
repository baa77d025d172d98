import ObjectGraph.Proofs.Compile.Stage
import ObjectGraph.Proofs.Hierarchy.Resolve
import ObjectGraph.Proofs.Live.Serve
import ObjectGraph.Proofs.Session.Deeds

/-!
# Sessions — what every step keeps

Whatever a session holds belongs to instances that were made in it. Its live graphs are linked, its
store is consistent, and every step keeps all of this while the list of served values grows.

* `Session.Coherent` — the invariant of a session;
* `Session.Goes` — a coherent session after another one;
* `Session.setGraph_goes` — a live graph takes the place of an earlier one or joins the others;
* `Session.activate_goes`, `Session.destroy_goes`, `Session.startGraph_goes` — where that happens;
* `Session.serve_goes` — a job is served.
-/

namespace ObjectGraph

/-- Whatever a slot holds belongs to instances of a census. -/
def Held.Known (known : Instance → Prop) : Held → Prop
  | .value _ stored => stored.Known known
  | .provider kept => known kept.host
  | .component inst => known inst
  | .graph _ _ => True

theorem Held.Known.mono {known more : Instance → Prop} {held : Held} (h : held.Known known)
    (hmore : ∀ inst, known inst → more inst) : held.Known more := by
  cases held with
  | value type stored => exact Value.Known.mono h hmore
  | provider kept => exact hmore _ h
  | component inst => exact hmore _ h
  | graph id owned => trivial

/-- A live graph of a plan: wired, linked and made of known instances. -/
structure LiveGraph.Coherent (built : Graph) (known : Instance → Prop) (nextStamp : Nat)
    (live : LiveGraph) : Prop where
  fits : live.wiring.Fits
  plan : live.wiring.plan = .ofGraph built
  linked : live.Linked built.hierarchy nextStamp
  known : ∀ component inst, live.inst? component = some inst → known inst

theorem LiveGraph.Coherent.mono {built : Graph} {known more : Instance → Prop}
    {nextStamp later : Nat} {live : LiveGraph} (h : live.Coherent built known nextStamp)
    (hle : nextStamp ≤ later) (hgrown : ∀ inst, known inst → more inst) :
    live.Coherent built more later where
  fits := h.fits
  plan := h.plan
  linked := h.linked.mono hle
  known := fun component inst hinst => hgrown inst (h.known component inst hinst)

namespace Session

/-- Known instances follow the tree of the components, each in a live graph of the session. -/
structure Coherent (built : Graph) (known : Instance → Prop) (session : Session) : Prop where
  plan : session.plan = .ofGraph built
  census : Census known session.store.nextStamp
  follows : ∀ inst, known inst → inst.Follows built.hierarchy
  home : ∀ inst, known inst → ∃ live, session.graphs.find? inst.rootStamp = some live
  store : session.store.Consistent (.ofGraph built) known
  graphs : ∀ id live, session.graphs.find? id = some live →
    live.id = id ∧ live.Coherent built known session.store.nextStamp
  slots : ∀ slot held, session.slots.find? slot = some held → held.Known known

/-- Instances may have been made meanwhile, and values may have been served. -/
structure Goes (built : Graph) (known more : Instance → Prop) (session later : Session) :
    Prop where
  grown : ∀ inst, known inst → more inst
  coherent : later.Coherent built more
  served : session.store.served <+: later.store.served

variable {built : Graph} {known more : Instance → Prop} {session later last : Session}

namespace Goes

theorem refl (h : session.Coherent built known) : session.Goes built known known session :=
  ⟨fun _ hinst => hinst, h, List.prefix_refl _⟩

theorem trans {most : Instance → Prop} (h : session.Goes built known more later)
    (hlast : later.Goes built more most last) : session.Goes built known most last :=
  ⟨fun inst hinst => hlast.grown inst (h.grown inst hinst), hlast.coherent,
    h.served.trans hlast.served⟩

end Goes

/-! ## Slots -/

namespace Coherent

/-- Slots may be filled with what is known and emptied at will. -/
theorem withSlots (h : session.Coherent built known) {slots : Table String Held}
    (contextSlots : Table String Nat) (warnings : List Warning)
    (hslots : ∀ slot held, slots.find? slot = some held → held.Known known) :
    { session with
      slots := slots
      contextSlots := contextSlots
      warnings := warnings }.Coherent built known :=
  ⟨h.plan, h.census, h.follows, h.home, h.store, h.graphs, hslots⟩

theorem put (h : session.Coherent built known) {held : Held} (hheld : held.Known known)
    (slot : String) : (session.put slot held).Coherent built known := by
  exact h.withSlots _ _ (Table.forall_insert h.slots hheld)

theorem putIf (h : session.Coherent built known) {held : Held} (hheld : held.Known known)
    (slot? : Option String) : (session.putIf slot? held).Coherent built known := by
  cases slot? with
  | none => exact h
  | some slot => exact h.put hheld slot

theorem eraseSlot (h : session.Coherent built known) (slot : String)
    (contextSlots : Table String Nat) :
    { session with
      slots := session.slots.erase slot
      contextSlots := contextSlots }.Coherent built known := by
  exact h.withSlots _ _ (Table.forall_erase h.slots slot)

end Coherent

@[simp]
theorem store_putIf (session : Session) (slot? : Option String) (held : Held) :
    (session.putIf slot? held).store = session.store := by
  cases slot? with
  | none => rfl
  | some slot => rfl

/-! ## Live graphs -/

/-- A live graph may be replaced by one whose new instances have new stamps. -/
theorem setGraph_goes (h : session.Coherent built known) (hrooted : built.hierarchy.Rooted)
    {live : LiveGraph} {nextStamp : Nat} (hstamps : session.store.nextStamp ≤ nextStamp)
    (hgrown : ∀ inst, known inst → more inst)
    (hnew : ∀ inst, more inst → known inst ∨
      (session.store.nextStamp ≤ inst.stamp ∧ ∃ component, live.inst? component = some inst))
    (hcensus : Census more nextStamp) (hlive : live.Coherent built more nextStamp) :
    session.Goes built known more (session.setGraph live nextStamp) where
  grown := hgrown
  coherent :=
    { plan := h.plan
      census := hcensus
      follows := by
        intro inst hinst
        rcases hnew inst hinst with hknown | ⟨_, component, hfound⟩
        · exact h.follows inst hknown
        · exact hlive.linked.follows hrooted hfound
      home := by
        -- The new instances belong to the graph itself, the others where they did before.
        intro inst hinst
        simp only [setGraph, Table.find?_insert]
        by_cases hroot : inst.rootStamp = live.id
        · exact ⟨live, if_pos hroot⟩
        · rcases hnew inst hinst with hknown | ⟨_, component, hfound⟩
          · simpa only [if_neg hroot] using h.home inst hknown
          · exact absurd (hlive.linked.rootStamp_eq hrooted hfound) hroot
      store := by
        refine (h.store.mono h.census hgrown ?_).withStamp nextStamp
        intro inst hinst
        rcases hnew inst hinst with hknown | ⟨hstamp, _⟩
        · exact Or.inl hknown
        · exact Or.inr hstamp
      graphs := by
        -- The other graphs are as they were, and the stamps that they use are still below.
        refine Table.forall_insert ?_ ⟨rfl, hlive⟩
        intro id other hother
        rcases h.graphs id other hother with ⟨hid, hcoherent⟩
        exact ⟨hid, hcoherent.mono hstamps hgrown⟩
      slots := fun slot held hheld => (h.slots slot held hheld).mono hgrown }
  served := List.prefix_refl _

/-- A linked graph whose new instances have new stamps makes its instances known. -/
theorem setGraph_joined_goes (h : session.Coherent built known)
    (hrooted : built.hierarchy.Rooted) {live : LiveGraph} {nextStamp : Nat}
    (hfits : live.wiring.Fits) (hplan : live.wiring.plan = .ofGraph built)
    (hlinked : live.Linked built.hierarchy nextStamp)
    (hstamps : session.store.nextStamp ≤ nextStamp)
    (hnew : ∀ component inst, live.inst? component = some inst →
      known inst ∨ session.store.nextStamp ≤ inst.stamp) :
    session.Goes built known (live.Joined known) (session.setGraph live nextStamp) := by
  have hcensus : Census (live.Joined known) nextStamp := hlinked.census h.census hstamps hnew
  have hlive : live.Coherent built (live.Joined known) nextStamp :=
    ⟨hfits, hplan, hlinked, fun component inst hfound => Or.inr ⟨component, hfound⟩⟩
  refine setGraph_goes h hrooted hstamps (fun _ hknown => Or.inl hknown) ?_ hcensus hlive
  intro inst hjoined
  rcases hjoined with hknown | ⟨component, hfound⟩
  · exact Or.inl hknown
  · rcases hnew component inst hfound with hknown | hstamp
    · exact Or.inl hknown
    · exact Or.inr ⟨hstamp, component, hfound⟩

theorem activate_goes (h : session.Coherent built known) (hrooted : built.hierarchy.Rooted)
    {id : Nat} {live : LiveGraph} (hfind : session.graphs.find? id = some live)
    {component : ComponentId} {activation : LiveGraph.Activation}
    (hok : live.activate component session.store.nextStamp = .ok activation) :
    ∃ more, session.Goes built known more
      (session.setGraph activation.graph activation.nextStamp) ∧ more activation.inst := by
  have hlive : live.Coherent built known session.store.nextStamp := (h.graphs id live hfind).2
  rcases LiveGraph.linked_activate hlive.linked hrooted hlive.plan hok with
    ⟨hlinked, hinst, hcontinues⟩
  have hfits : activation.graph.wiring.Fits := by
    simpa only [hcontinues.wiring] using hlive.fits
  have hplan : activation.graph.wiring.plan = .ofGraph built := by
    simpa only [hcontinues.wiring] using hlive.plan
  have hnew : ∀ component inst, activation.graph.inst? component = some inst →
      known inst ∨ session.store.nextStamp ≤ inst.stamp := by
    intro component inst hfound
    by_cases hroot : component = live.root.component
    · -- The root instance stays for good.
      have hsame : live.root = inst := by
        simpa [LiveGraph.inst?, hcontinues.root, hroot] using hfound
      exact Or.inl (hsame ▸ hlive.known _ _ LiveGraph.inst?_root)
    · have hactive : activation.graph.active.find? component = some inst := by
        simpa [LiveGraph.inst?, hcontinues.root, hroot] using hfound
      rcases hcontinues.made component inst hactive with hold | hstamp
      · exact Or.inl (hlive.known _ _ (hlive.linked.inst?_of_active hrooted hold))
      · exact Or.inr hstamp
  exact ⟨_, setGraph_joined_goes h hrooted hfits hplan hlinked hcontinues.stamps hnew,
    Or.inr ⟨component, hinst⟩⟩

theorem destroy_goes (h : session.Coherent built known) (hrooted : built.hierarchy.Rooted)
    {id : Nat} {live : LiveGraph} (hfind : session.graphs.find? id = some live)
    (component : ComponentId) :
    session.Goes built known known
      (session.setGraph (live.destroy component).2 session.store.nextStamp) := by
  have hlive : live.Coherent built known session.store.nextStamp := (h.graphs id live hfind).2
  have hwiring : (live.destroy component).2.wiring = live.wiring :=
    (live.destroy_keeps component).1
  have hlinked : (live.destroy component).2.Linked built.hierarchy session.store.nextStamp :=
    LiveGraph.linked_destroy hlive.linked hrooted hlive.plan component
  refine setGraph_goes h hrooted (Nat.le_refl _) (fun _ hknown => hknown)
    (fun _ hknown => Or.inl hknown) h.census ⟨?_, ?_, hlinked, ?_⟩
  · simpa only [hwiring] using hlive.fits
  · simpa only [hwiring] using hlive.plan
  · intro other inst hfound
    exact hlive.known other inst (LiveGraph.inst?_of_destroy hfound)

/-- A new live graph brings its root instance, which has a new stamp. -/
theorem startGraph_goes (h : session.Coherent built known) (hrooted : built.hierarchy.Rooted)
    {wiring : Wiring} (hfits : wiring.Fits) (hplan : wiring.plan = .ofGraph built) :
    ∃ more, session.Goes built known more
      (session.setGraph (.start wiring session.store.nextStamp) (session.store.nextStamp + 1)) := by
  have hroot : wiring.plan.root = built.hierarchy.root := by
    simp [hplan, Plan.ofGraph]
  have hlinked : (LiveGraph.start wiring session.store.nextStamp).Linked built.hierarchy
      (session.store.nextStamp + 1) := LiveGraph.linked_start wiring hroot
  refine ⟨_, setGraph_joined_goes h hrooted hfits hplan hlinked (Nat.le_succ _) ?_⟩
  intro component inst hfound
  have hsame : inst = (LiveGraph.start wiring session.store.nextStamp).root :=
    (LiveGraph.eq_root_of_start hfound).2
  subst hsame
  exact Or.inr (Nat.le_refl _)

/-! ## Requests -/

/-- A job for a live graph is served faithfully, and what it yields may be stored. -/
theorem serve_goes (h : session.Coherent built known) {live : LiveGraph}
    (hfits : live.wiring.Fits) (hplan : live.wiring.plan = .ofGraph built) {job : Job}
    (hjob : job.Known known) (type : ValueType) (into : Option String) :
    session.Goes built known known (session.serve live job type into).2 := by
  have hfaithful : Server.Faithful (.ofGraph built) known
      (World.mk live.wiring session.alive).serve :=
    World.serve_faithful h.census hfits hplan
  apply of_serve (P := session.Goes built known known)
  · -- Requests make no instances, so everything but the store is as it was.
    intro outcome store hserve
    have hgrows := hfaithful.grows hjob h.store hserve
    have hstamp : store.nextStamp = session.store.nextStamp := hgrows.extended.nextStamp
    refine ⟨fun _ hinst => hinst,
      ⟨h.plan, ?_, h.follows, h.home, hgrows.consistent, ?_, h.slots⟩, hgrows.extended.served⟩
    · simpa only [hstamp] using h.census
    · simpa only [hstamp] using h.graphs
  · intro value store hserve hgoes
    have hvalue : (Held.value type value).Known known := hfaithful.yields hjob h.store hserve
    exact ⟨hgoes.grown, hgoes.coherent.putIf hvalue into, by simpa using hgoes.served⟩

/-- A call that is answered with a value is in the history of the entry that it went to. -/
theorem lists_of_serve {live : LiveGraph} {provider : Provider} {context : Context}
    {type asked : ValueType} {into : Option String} {value : Value}
    (hresult : session.serve live (.call provider context) type into =
      (.value asked value, later)) : later.store.Lists live.wiring provider value := by
  simp only [serve] at hresult
  split at hresult
  · rename_i found store hserve
    cases hresult
    exact (World.served_of_serveWithin hserve).mono (by simp)
  · cases hresult
  · cases hresult

end Session
end ObjectGraph