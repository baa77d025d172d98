import ObjectGraph.Proofs.Session.Generations

/-!
# Destruction — the active subtree and nothing else

A destruction succeeds exactly for an active component. It takes out that component and whatever has it
among its ancestors, and what stays hangs below instances that stay. A destruction that does not succeed
changes nothing.

* `LiveGraph.destroy_of_inactive`, `LiveGraph.Linked.inactive` — what cannot be destroyed;
* `LiveGraph.Loses.find?_eq` — what is left, in terms of ancestors;
* `LiveGraph.Loses.stamp_ne` — nothing is left below a removed instance;
* `Session.setGraph_self` — a live graph put in its own place;
* `destruction_removes_the_active_subtree` — a destruction in any reachable session.
-/

namespace ObjectGraph

namespace LiveGraph

variable {hierarchy : Hierarchy} {live left : LiveGraph} {id : ComponentId} {nextStamp : Nat}

/-! ## What cannot be destroyed -/

theorem fst_destroy (live : LiveGraph) (id : ComponentId) :
    (live.destroy id).1 = live.active.contains id := by
  simp only [destroy]
  split
  · rename_i hactive
    exact hactive.symm
  · rename_i hinactive
    simp [hinactive]

theorem destroy_of_inactive (h : live.active.contains id = false) :
    live.destroy id = (false, live) := by
  simp [destroy, h]

/-- Neither the root nor anything outside the tree is among the active components. -/
theorem Linked.inactive (h : live.Linked hierarchy nextStamp) (hrooted : hierarchy.Rooted)
    (hid : id = hierarchy.root ∨ id ∉ hierarchy.components) :
    live.active.contains id = false := by
  by_contra hactive
  have hfound : live.active.find? id ≠ none := by
    simpa [Table.contains] using hactive
  rcases Option.ne_none_iff_exists'.1 hfound with ⟨inst, hinst⟩
  rcases hid with hroot | hnot
  · exact h.ne_root_of_active hrooted hinst (hroot.trans h.root.symm)
  · exact hnot (h.mem_components hrooted (h.inst?_of_active hrooted hinst))

/-! ## What is left -/

namespace Loses

variable (hloses : live.Loses hierarchy id left)

include hloses

theorem find?_eq (hrooted : hierarchy.Rooted) (hmem : id ∈ hierarchy.components)
    (other : ComponentId) :
    left.active.find? other =
      if other = id ∨ id ∈ hierarchy.ancestors other then none else live.active.find? other := by
  have hline : id ∈ hierarchy.lineage other ↔ other = id ∨ id ∈ hierarchy.ancestors other := by
    rw [hrooted.mem_lineage_iff]
    constructor
    · rintro ⟨_, rfl | habove⟩
      · exact Or.inl rfl
      · exact Or.inr habove
    · rintro (rfl | habove)
      · exact ⟨hmem, Or.inl rfl⟩
      · -- What has ancestors is a member.
        refine ⟨?_, Or.inr habove⟩
        by_contra hnot
        simp [Hierarchy.ancestors_of_not_mem hnot] at habove
  rw [hloses.active]
  simp only [hline]

/-- The way up from an instance that is left meets no removed instance. -/
theorem stamp_ne (h : live.Linked hierarchy nextStamp) (hleft : left.Linked hierarchy nextStamp)
    (hrooted : hierarchy.Rooted) {removed other : ComponentId} {gone inst above : Instance}
    (hgone : live.active.find? removed = some gone) (hnone : left.active.find? removed = none)
    (hinst : left.inst? other = some inst) (habove : above ∈ inst :: inst.parents) :
    above.stamp ≠ gone.stamp := by
  intro hstamp
  have hstays : left.inst? above.component = some above :=
    hleft.inst?_of_mem_upwards hrooted hinst habove
  have hbefore : live.inst? above.component = some above := by
    rcases root_or_active hstays with ⟨hroot, hsame⟩ | hactive
    · simp [inst?, hsame, hloses.root]
    · refine h.inst?_of_active hrooted ?_
      have hkept := hactive
      rw [hloses.active] at hkept
      split at hkept
      · simp at hkept
      · exact hkept
  -- One stamp is that of one component, which still has an instance and has none any more.
  have hsame : above.component = removed :=
    h.distinct _ _ above gone hbefore (h.inst?_of_active hrooted hgone) hstamp
  have hne : removed ≠ left.root.component := by
    rw [hloses.root]
    exact h.ne_root_of_active hrooted hgone
  simp [hsame, inst?_of_ne hne, hnone] at hstays

end Loses

end LiveGraph

namespace Session

/-! ## Sessions -/

/-- A live graph put in its own place changes nothing. -/
theorem setGraph_self {session : Session} {live : LiveGraph}
    (hfind : session.graphs.find? live.id = some live) :
    session.setGraph live session.store.nextStamp = session := by
  have hgraphs : session.graphs.insert live.id live = session.graphs := by
    apply Table.ext_find?
    intro other
    rw [Table.find?_insert]
    split
    · rename_i hsame
      rw [hsame, hfind]
    · rfl
  simp only [setGraph, hgraphs]

end Session

/-- A destruction answers whether the component was active. If it was, exactly the component and what
has it among its ancestors lose their instances, and no instance that is left hangs below a removed
one. If it was not, as the root and unknown components never are, nothing changes. -/
theorem destruction_removes_the_active_subtree {manifest : Manifest} {config : Config}
    {compilation : Compilation} (hcompile : (compile manifest config).result = .ok compilation)
    {registrations : List (Key × Registration)} {session : Session}
    (hstart : Session.start compilation registrations = .ok session) (steps : List Step)
    {graphId : Nat} {live : LiveGraph}
    (hfind : (session.run steps).2.graphs.find? graphId = some live) (id : ComponentId) :
    let plan := compilation.plan
    let hierarchy := compilation.graph.hierarchy
    let now := (session.run steps).2
    let active := live.active.contains id
    let left := (live.destroy id).2
    (live.destroy id).1 = active ∧
    (id = plan.root ∨ plan.component? id = none → active = false) ∧
    (active = false → left = live) ∧
    (active = true →
      left.wiring = live.wiring ∧ left.root = live.root ∧
      (∀ other, left.active.find? other =
        if other = id ∨ id ∈ hierarchy.ancestors other then none
        else live.active.find? other) ∧
      ∀ removed gone other inst, live.active.find? removed = some gone →
        left.active.find? removed = none → left.inst? other = some inst →
          ∀ above ∈ inst :: inst.parents, above.stamp ≠ gone.stamp) ∧
    ∀ slot, now.graph? slot = some live →
      let asked := now.step (.destroy slot id)
      asked.1 = .flag active ∧ (active = false → asked.2 = now) ∧ asked.2.store = now.store ∧
        asked.2.slots = now.slots ∧
        ∀ other, asked.2.graphs.find? other =
          if other = live.id then some left else now.graphs.find? other := by
  intro plan hierarchy now active left
  rcases Session.run_coherent hcompile hstart steps with ⟨hplan, hrooted, known, hcoherent⟩
  rcases hcoherent.graphs graphId live hfind with ⟨hid, hlive⟩
  have hlinked := hlive.linked
  have hleft : left.Linked hierarchy now.store.nextStamp :=
    LiveGraph.linked_destroy hlinked hrooted hlive.plan id
  have hkeeps : active = false → left = live := by
    intro hinactive
    simp only [left, LiveGraph.destroy_of_inactive hinactive]
  refine ⟨live.fst_destroy id, ?_, hkeeps, ?_, ?_⟩
  · intro hoff
    refine hlinked.inactive hrooted ?_
    rcases hoff with hroot | hnone
    · exact Or.inl (hroot.trans (congrArg Plan.root hplan))
    · refine Or.inr fun hmem => ?_
      simp [plan, hplan, Plan.component?_ofGraph, hmem] at hnone
  · intro hactive
    have hloses := LiveGraph.loses_destroy hlinked hrooted hlive.plan hactive
    have hmem : id ∈ hierarchy.components := by
      by_contra hnot
      have hinactive := hlinked.inactive hrooted (Or.inr hnot)
      simp only [active, hinactive, Bool.false_eq_true] at hactive
    refine ⟨hloses.wiring, hloses.root, hloses.find?_eq hrooted hmem, ?_⟩
    intro removed gone other inst hgone hnone hinst above habove
    exact hloses.stamp_ne hlinked hleft hrooted hgone hnone hinst habove
  · intro slot hslot asked
    have hasked : asked = (.flag (live.destroy id).1, now.setGraph left now.store.nextStamp) :=
      Session.destroy_eq hslot id
    have hplace : left.id = live.id := by
      simp only [left, LiveGraph.id, (live.destroy_keeps id).2]
    rw [hasked]
    refine ⟨by rw [live.fst_destroy], ?_, rfl, rfl, ?_⟩
    · intro hinactive
      rw [hkeeps hinactive]
      exact Session.setGraph_self (hid ▸ hfind)
    · intro other
      simp only [Session.setGraph, Table.find?_insert, hplace]

/-- A floor with a room, and a garden next to the floor. -/
def houseManifest : Manifest where
  entryPoint := "House"
  components :=
    [⟨"House", none, .component, []⟩, ⟨"Floor", none, .subcomponent, ["House"]⟩,
      ⟨"Room", none, .subcomponent, ["Floor"]⟩, ⟨"Garden", none, .subcomponent, ["House"]⟩]
  modules := []
  declarations := []

def houseHierarchy : Hierarchy :=
  ⟨"House", .ofList [("Floor", ⟨some "House", none, ["Room"], 1⟩),
    ("Garden", ⟨some "House", none, [], 1⟩),
    ("House", ⟨none, none, ["Floor", "Garden"], 0⟩), ("Room", ⟨some "Floor", none, [], 2⟩)]⟩

def houseCompilation : Compilation :=
  ⟨houseManifest, houseManifest.graph houseHierarchy,
    .ofGraph (houseManifest.graph houseHierarchy)⟩

theorem compile_houseManifest :
    (compile houseManifest .default).result = .ok houseCompilation := by
  have hresolve : (houseManifest.resolveHierarchy .default).1 = some houseHierarchy := by
    decide +kernel
  exact compile_eq_ok_of_errors hresolve (by decide +kernel)

def houseSession : Session :=
  ((Session.blank houseCompilation.plan).build [] "r").2

/-- A room and a garden are asked for, so the floor is active too. -/
def houseSteps : List Step :=
  [.component "r" "Room" none, .component "r" "Garden" none]

/-- The room goes with its floor, and the garden stays. -/
theorem room_goes_with_its_floor :
    ∃ live, (houseSession.run houseSteps).2.graph? "r" = some live ∧
      live.active.keys = ["Floor", "Garden", "Room"] ∧
      ((houseSession.run houseSteps).2.step (.destroy "r" "Floor")).1 = .flag true ∧
      (live.destroy "Floor").2.active.find? "Room" = none ∧
      (live.destroy "Floor").2.active.find? "Garden" = live.active.find? "Garden" := by
  have hstart : Session.start houseCompilation [] = .ok houseSession :=
    Session.start_eq_ok (by decide +kernel)
  have hlive : ((houseSession.run houseSteps).2.graph? "r").map
      (fun live => live.active.keys) = some ["Floor", "Garden", "Room"] := by
    decide +kernel
  rcases Option.map_eq_some_iff.1 hlive with ⟨live, hslot, hkeys⟩
  rcases Session.find?_of_graph? hslot with ⟨graphId, hfind⟩
  rcases destruction_removes_the_active_subtree compile_houseManifest hstart houseSteps hfind
    "Floor" with ⟨_, _, _, hremoves, hanswers⟩
  have hactive : live.active.contains "Floor" = true := by
    have hmem : "Floor" ∈ live.active.keys := by simp [hkeys]
    rcases live.active.mem_keys_iff.1 hmem with ⟨inst, hinst⟩
    simp [Table.contains, hinst]
  rcases hremoves hactive with ⟨_, _, hleft, _⟩
  have hroom : "Floor" ∈ houseCompilation.graph.hierarchy.ancestors "Room" := by
    decide +kernel
  have hgarden : "Floor" ∉ houseCompilation.graph.hierarchy.ancestors "Garden" := by
    decide +kernel
  refine ⟨live, hslot, hkeys, hactive ▸ (hanswers "r" hslot).1, ?_, ?_⟩
  · simpa [hroom] using hleft "Room"
  · simpa [hgarden] using hleft "Garden"

end ObjectGraph
