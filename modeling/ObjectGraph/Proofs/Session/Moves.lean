import ObjectGraph.Proofs.Session.Step

/-!
# Moves — all that a step can do to live graphs and to the store

A step has jobs served, after it has activated instances of one live graph at most; or it destroys
instances of a live graph; or it starts one. Whatever a store holds by then stays there, no stamp is
used again, and a live graph never gets back an instance that it has lost.

* `Session.Serves` — a store that goes on while the live graphs stay as they are;
* `Session.Moves`, `Session.step_moves` — the four sorts of steps;
* `LiveGraph.Renews` — a later state of a live graph, with new instances only;
* `Session.Passes` — what holds from one session to any later one;
* `Session.Moves.find?` — one live graph before a step and after it;
* `Session.Moves.passes`, `Session.run_passes` — one step and any run.
-/

namespace ObjectGraph

/-- A live graph at a later time: what it has besides old instances has a new stamp. -/
structure LiveGraph.Renews (nextStamp : Nat) (live later : LiveGraph) : Prop where
  wiring : later.wiring = live.wiring
  root : later.root = live.root
  active : ∀ component inst, later.active.find? component = some inst →
    live.active.find? component = some inst ∨ nextStamp ≤ inst.stamp

namespace LiveGraph.Renews

variable {nextStamp : Nat} {live middle later : LiveGraph}

theorem refl (nextStamp : Nat) (live : LiveGraph) : live.Renews nextStamp live where
  wiring := rfl
  root := rfl
  active := fun _ _ hinst => Or.inl hinst

theorem trans {next : Nat} (h : live.Renews nextStamp middle) (hle : nextStamp ≤ next)
    (hlater : middle.Renews next later) : live.Renews nextStamp later where
  wiring := hlater.wiring.trans h.wiring
  root := hlater.root.trans h.root
  active := by
    intro component inst hinst
    rcases hlater.active component inst hinst with hold | hnew
    · exact h.active component inst hold
    · exact Or.inr (Nat.le_trans hle hnew)

end LiveGraph.Renews

namespace Session

/-- Nothing but the store has changed, if slots and warnings are left aside. -/
structure Serves (session later : Session) : Prop where
  graphs : later.graphs = session.graphs
  store : session.store.Extends later.store

/-- The live graphs after a step, up to what was served since. -/
inductive Moves (session : Session) (step : Step) (later : Session) : Prop where
  | serves (h : session.Serves later)
  | activates {id : Nat} {live : LiveGraph} {component : ComponentId}
      {activation : LiveGraph.Activation} (hfind : session.graphs.find? id = some live)
      (hok : live.activate component session.store.nextStamp = .ok activation)
      (h : (session.setGraph activation.graph activation.nextStamp).Serves later)
  | destroys {slot : String} {component : ComponentId} {live : LiveGraph}
      (hstep : step = .destroy slot component) (hlive : session.graph? slot = some live)
      (h : (session.setGraph (live.destroy component).2 session.store.nextStamp).Serves later)
  | starts {wiring : Wiring}
      (h : (session.setGraph (.start wiring session.store.nextStamp)
        (session.store.nextStamp + 1)).Serves later)

variable {built : Graph} {known : Instance → Prop} {session middle later : Session}
  {live : LiveGraph} {step : Step}

/-! ## Requests -/

namespace Serves

theorem of_eq (hgraphs : later.graphs = session.graphs) (hstore : later.store = session.store) :
    session.Serves later where
  graphs := hgraphs
  store := by
    simp only [hstore]
    exact .refl session.store

theorem refl (session : Session) : session.Serves session :=
  .of_eq rfl rfl

theorem putIf (h : session.Serves later) (slot? : Option String) (held : Held) :
    session.Serves (later.putIf slot? held) := by
  cases slot? with
  | none => exact h
  | some slot => exact ⟨h.graphs, h.store⟩

end Serves

theorem serve_serves (h : session.Coherent built known)
    (hlive : live.Coherent built known session.store.nextStamp) {job : Job}
    (hjob : job.Known known) (type : ValueType) (into : Option String) :
    session.Serves (session.serve live job type into).2 := by
  have hfaithful : Server.Faithful (.ofGraph built) known
      (World.mk live.wiring session.alive).serve :=
    World.serve_faithful h.census hlive.fits hlive.plan
  apply of_serve (P := session.Serves)
  · intro outcome store hserve
    exact ⟨rfl, (hfaithful.grows hjob h.store hserve).extended⟩
  · intro value store _ hserved
    exact hserved.putIf into _

/-! ## Steps -/

theorem Moves.of_eq (hgraphs : later.graphs = session.graphs)
    (hstore : later.store = session.store) : session.Moves step later :=
  .serves (.of_eq hgraphs hstore)

/-- A step goes on in the session that it has opened, whose store alone may change by then. -/
theorem Opens.moves (hopens : session.Opens middle) (hserves : middle.Serves later) :
    session.Moves step later := by
  cases hopens with
  | still => exact .serves hserves
  | activated hlive hok => exact .activates hlive hok hserves

theorem build_moves (session : Session) (registrations : List (Key × Registration))
    (slot : String) : session.Moves step (session.build registrations slot).2 := by
  simp only [build]
  split
  · exact .of_eq rfl rfl
  · exact .starts (.of_eq rfl rfl)

theorem Does.moves {answer : Answer} (hdoes : session.Does step answer later)
    (h : session.Coherent built known) (hrooted : built.hierarchy.Rooted) :
    session.Moves step later := by
  cases hdoes with
  | serves hemploys =>
    rcases hemploys.goes h hrooted with ⟨more, hgoes, hjob, hlive⟩
    exact hemploys.opens.moves (serve_serves hgoes.coherent hlive hjob _ _)
  | refuses hseeks _ => exact hseeks.meets.opens.moves (.refl later)
  | unsent _ _ => exact .of_eq rfl rfl
  | uninitialized _ _ => exact .of_eq rfl rfl
  | lost _ _ => exact .of_eq rfl rfl
  | fills into hoffers _ _ => exact hoffers.opens.moves ((Serves.refl _).putIf into _)
  | empties _ _ => exact .of_eq rfl rfl
  | destroys hstep hlive _ => exact .destroys hstep hlive (.refl _)
  | builds _ _ => exact build_moves session _ _
  | answers hopens _ _ => exact hopens.moves (.refl later)

/-- One step, whatever is asked. -/
theorem step_moves (h : session.Coherent built known) (hrooted : built.hierarchy.Rooted)
    (step : Step) : session.Moves step (session.step step).2 :=
  (does_step session step).moves h hrooted

/-! ## Later sessions -/

/-- From one session to a later one. -/
structure Passes (session later : Session) : Prop where
  stamps : session.store.nextStamp ≤ later.store.nextStamp
  cells : ∀ id cell, session.store.cells.find? id = some cell →
    later.store.cells.find? id = some cell
  log : session.store.log <+: later.store.log
  served : session.store.served <+: later.store.served
  graphs : ∀ id live, session.graphs.find? id = some live →
    ∃ next, later.graphs.find? id = some next ∧ live.Renews session.store.nextStamp next

namespace Passes

theorem refl (session : Session) : session.Passes session where
  stamps := Nat.le_refl _
  cells := fun _ _ hcell => hcell
  log := List.prefix_refl _
  served := List.prefix_refl _
  graphs := fun _ live hfind => ⟨live, hfind, .refl _ live⟩

theorem trans (h : session.Passes middle) (hlater : middle.Passes later) :
    session.Passes later where
  stamps := Nat.le_trans h.stamps hlater.stamps
  cells := fun id cell hcell => hlater.cells id cell (h.cells id cell hcell)
  log := h.log.trans hlater.log
  served := h.served.trans hlater.served
  graphs := by
    intro id live hfind
    rcases h.graphs id live hfind with ⟨next, hnext, hrenews⟩
    rcases hlater.graphs id next hnext with ⟨last, hlast, hagain⟩
    exact ⟨last, hlast, hrenews.trans h.stamps hagain⟩

end Passes

/-- A live graph after a step: the same, one with more instances, or one with fewer. -/
theorem Moves.find? (hmoves : session.Moves step later) (h : session.Coherent built known)
    (hrooted : built.hierarchy.Rooted) {id : Nat} (hfind : session.graphs.find? id = some live) :
    ∃ next, later.graphs.find? id = some next ∧
      (next = live ∨
        (∃ component activation,
          live.activate component session.store.nextStamp = .ok activation ∧
            next = activation.graph) ∨
        ∃ slot component, step = .destroy slot component ∧ session.graph? slot = some live ∧
          next = (live.destroy component).2) := by
  have hlive := h.graphs id live hfind
  cases hmoves with
  | serves hserves => exact ⟨live, hserves.graphs ▸ hfind, Or.inl rfl⟩
  | activates hother hok hserves =>
    rename_i otherId other component activation
    rcases h.graphs otherId other hother with ⟨hid, hcoherent⟩
    have hcontinues :=
      (LiveGraph.linked_activate hcoherent.linked hrooted hcoherent.plan hok).2.2
    have hplace : activation.graph.id = otherId := by
      simp only [← hid, LiveGraph.id, hcontinues.root]
    simp only [hserves.graphs, setGraph, Table.find?_insert, hplace]
    split
    · rename_i heq
      cases hfind.symm.trans (heq ▸ hother)
      exact ⟨_, rfl, Or.inr (Or.inl ⟨component, activation, hok, rfl⟩)⟩
    · exact ⟨live, hfind, Or.inl rfl⟩
  | destroys hstep hslot hserves =>
    rename_i slot component other
    rcases find?_of_graph? hslot with ⟨otherId, hother⟩
    have hplace : (other.destroy component).2.id = otherId := by
      simp only [← (h.graphs otherId other hother).1, LiveGraph.id,
        (other.destroy_keeps component).2]
    simp only [hserves.graphs, setGraph, Table.find?_insert, hplace]
    split
    · rename_i heq
      cases hfind.symm.trans (heq ▸ hother)
      exact ⟨_, rfl, Or.inr (Or.inr ⟨slot, component, hstep, hslot, rfl⟩)⟩
    · exact ⟨live, hfind, Or.inl rfl⟩
  | starts hserves =>
    -- The stamp of the new root is not in use yet.
    have hlt : live.root.stamp < session.store.nextStamp :=
      hlive.2.linked.below _ _ LiveGraph.inst?_root
    have hne : id ≠ session.store.nextStamp := by
      have hid : live.root.stamp = id := hlive.1
      omega
    refine ⟨live, ?_, Or.inl rfl⟩
    simpa [hserves.graphs, setGraph, Table.find?_insert, LiveGraph.start, LiveGraph.id,
      Instance.stamp, hne] using hfind

/-- A store goes on from where a move has left it, with stamps of its own. -/
theorem Moves.extends (hmoves : session.Moves step later) (h : session.Coherent built known)
    (hrooted : built.hierarchy.Rooted) :
    ∃ nextStamp, session.store.nextStamp ≤ nextStamp ∧
      { session.store with nextStamp := nextStamp }.Extends later.store := by
  cases hmoves with
  | serves hserves => exact ⟨_, Nat.le_refl _, hserves.store⟩
  | activates hfind hok hserves =>
    have hlive := (h.graphs _ _ hfind).2
    have hcontinues := (LiveGraph.linked_activate hlive.linked hrooted hlive.plan hok).2.2
    exact ⟨_, hcontinues.stamps, hserves.store⟩
  | destroys hstep hslot hserves => exact ⟨_, Nat.le_refl _, hserves.store⟩
  | starts hserves => exact ⟨_, Nat.le_succ _, hserves.store⟩

theorem Moves.passes (hmoves : session.Moves step later) (h : session.Coherent built known)
    (hrooted : built.hierarchy.Rooted) : session.Passes later := by
  rcases hmoves.extends h hrooted with ⟨nextStamp, hstamps, hextends⟩
  refine ⟨?_, hextends.cells, ?_, hextends.served, ?_⟩
  · simpa only [hextends.nextStamp] using hstamps
  · rcases hextends.log with ⟨events, hlog, _⟩
    exact ⟨events, hlog.symm⟩
  · intro id live hfind
    have hlive := (h.graphs id live hfind).2
    rcases hmoves.find? h hrooted hfind with ⟨next, hnext, hcase⟩
    refine ⟨next, hnext, ?_⟩
    rcases hcase with rfl | ⟨component, activation, hok, rfl⟩ | ⟨slot, component, _, _, rfl⟩
    · exact .refl _ _
    · have hcontinues := (LiveGraph.linked_activate hlive.linked hrooted hlive.plan hok).2.2
      exact ⟨hcontinues.wiring, hcontinues.root, hcontinues.made⟩
    · rcases live.destroy_keeps component with ⟨hwiring, hroot⟩
      exact ⟨hwiring, hroot, fun other inst hinst => Or.inl (LiveGraph.active_of_destroy hinst)⟩

theorem step_passes (h : session.Coherent built known) (hrooted : built.hierarchy.Rooted)
    (step : Step) : session.Passes (session.step step).2 :=
  (step_moves h hrooted step).passes h hrooted

theorem run_passes (h : session.Coherent built known) (hrooted : built.hierarchy.Rooted)
    (steps : List Step) : session.Passes (session.run steps).2 := by
  induction steps generalizing session known with
  | nil => exact .refl session
  | cons step rest ih =>
    rcases step_leads h hrooted step with ⟨more, hgoes⟩
    exact (step_passes h hrooted step).trans (ih hgoes.coherent)

end Session
end ObjectGraph
