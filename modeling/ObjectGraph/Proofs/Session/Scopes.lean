import ObjectGraph.Proofs.Graph.Generated
import ObjectGraph.Proofs.Session.Step

/-!
# Active instances — the scopes of every live graph in every reachable session

Whatever was asked of a session, the active instances of its live graphs follow the tree of the
components, each below the instance that is active for the parent component.

* `LiveGraph.Coherent.activate_keeps` — activation replaces nothing;
* `active_instances_hang_together` — the scopes of a live graph at the end of any run.
-/

namespace ObjectGraph

namespace LiveGraph.Coherent

variable {built : Graph} {known : Instance → Prop} {nextStamp : Nat} {live : LiveGraph}
  {component : ComponentId}

/-- The parent that the plan names for an active component, and the instance it has. -/
theorem parent_active (h : live.Coherent built known nextStamp) {inst : Instance}
    (hinst : live.active.find? component = some inst) :
    ∃ entry parent, (Plan.ofGraph built).component? component = some entry ∧
      entry.parent = some parent ∧
        (parent = built.hierarchy.root → inst.parent? = some live.root) ∧
        (parent ≠ built.hierarchy.root →
          ∃ above, live.active.find? parent = some above ∧ inst.parent? = some above) := by
  rcases h.linked.parent component inst hinst with ⟨parent, above, hparent, habove, hlink⟩
  -- Whatever has a parent is a member, so the plan lists it.
  have hmem := Hierarchy.mem_components_of_parent? hparent
  refine ⟨.ofGraph built component, parent, ?_, hparent, ?_, ?_⟩
  · simp [Plan.component?_ofGraph, hmem]
  · rintro rfl
    have hroot : live.root = above := by
      simpa [inst?, h.linked.root] using habove
    simpa [hroot] using hlink
  · intro hne
    have hactive : live.active.find? parent = some above := by
      simpa [inst?, h.linked.root, hne] using habove
    exact ⟨above, hactive, hlink⟩

/-- Active instances stay as they are, and what is active already is what activation yields. -/
theorem activate_keeps (h : live.Coherent built known nextStamp)
    (hrooted : built.hierarchy.Rooted) {activation : Activation}
    (hok : live.activate component nextStamp = .ok activation) :
    (∀ other inst, live.active.find? other = some inst →
      activation.graph.active.find? other = some inst) ∧
    ∀ inst, live.inst? component = some inst → activation.inst = inst := by
  rcases linked_activate h.linked hrooted h.plan hok with ⟨_, hinst, hcontinues⟩
  refine ⟨hcontinues.kept, ?_⟩
  intro inst hactive
  -- The instance that activation yields is the one found in the graph that it leaves.
  have hkept : activation.graph.inst? component = some inst := by
    by_cases heq : component = live.root.component
    · simpa [inst?, hcontinues.root, heq] using hactive
    · have hfound : live.active.find? component = some inst := by
        simpa [inst?, heq] using hactive
      simpa [inst?, hcontinues.root, heq] using hcontinues.kept component inst hfound
  exact Option.some.inj (hinst.symm.trans hkept)

end LiveGraph.Coherent

theorem active_instances_hang_together {manifest : Manifest} {config : Config}
    {compilation : Compilation} (hcompile : (compile manifest config).result = .ok compilation)
    {registrations : List (Key × Registration)} {session : Session}
    (hstart : Session.start compilation registrations = .ok session) (steps : List Step)
    {id : Nat} {live : LiveGraph}
    (hlive : (session.run steps).2.graphs.find? id = some live) :
    let plan := compilation.plan
    let hierarchy := compilation.graph.hierarchy
    (live.wiring.plan = plan ∧ live.root.component = plan.root ∧ live.root.parent? = none) ∧
    (∀ component inst, live.active.find? component = some inst →
      component ≠ plan.root ∧ inst.component = component ∧
      (∃ entry parent, plan.component? component = some entry ∧ entry.parent = some parent ∧
        (parent = plan.root → inst.parent? = some live.root) ∧
        (parent ≠ plan.root →
          ∃ above, live.active.find? parent = some above ∧ inst.parent? = some above)) ∧
      inst.parents.map some = (hierarchy.ancestors component).map live.inst? ∧
      inst.parents.getLast? = some live.root) ∧
    (∀ a b first second, live.inst? a = some first → live.inst? b = some second →
      first.stamp = second.stamp → a = b) ∧
    (∀ component activation,
      live.activate component (session.run steps).2.store.nextStamp = .ok activation →
        (∀ other inst, live.active.find? other = some inst →
          activation.graph.active.find? other = some inst) ∧
        ∀ inst, live.inst? component = some inst → activation.inst = inst) := by
  intro plan hierarchy
  rcases Session.run_coherent hcompile hstart steps with ⟨hplan, hrooted, known, hcoherent⟩
  have hgraph : live.Coherent compilation.graph known (session.run steps).2.store.nextStamp :=
    (hcoherent.graphs id live hlive).2
  have hlinked := hgraph.linked
  have hroot : plan.root = hierarchy.root := by
    simp only [plan, hplan]
    rfl
  refine ⟨⟨?_, ?_, ?_⟩, ?_, hlinked.distinct, ?_⟩
  · exact hgraph.plan.trans hplan.symm
  · exact hlinked.root.trans hroot.symm
  · simp [Instance.parent?, hlinked.top]
  · intro component inst hinst
    have hne := hlinked.ne_root_of_active hrooted hinst
    have hfound := hlinked.inst?_of_active hrooted hinst
    refine ⟨?_, hlinked.component component inst hinst, ?_, hlinked.parents_eq hrooted hfound,
      hlinked.getLast?_parents hrooted hinst⟩
    · simpa [hroot, hlinked.root] using hne
    · have hparent := hgraph.parent_active hinst
      simp only [plan, hplan] at hroot ⊢
      simpa only [hroot] using hparent
  · intro component activation hok
    exact hgraph.activate_keeps hrooted hok

def shopRegistrations : List (Key × Registration) :=
  [(.unqualified "OrderFactory", .factory "Order" []),
    (.unqualified "SystemClock", .construct (.object "SystemClock") none []),
    (.unqualified "Clock", .cast (.object "SystemClock") (.object "Clock")),
    (.unqualified "Shelf", .construct (.object "Shelf") none
      [.demand (.get (.unqualified "Clock") (.object "Clock")) .propagate])]

def shopSession : Session :=
  ((Session.blank shopCompilation.plan).build shopRegistrations "r").2

theorem start_shopRegistrations :
    Session.start shopCompilation shopRegistrations = .ok shopSession :=
  Session.start_eq_ok (by decide +kernel)

theorem cart_hangs_below_the_root :
    ∃ live inst, (shopSession.run [.component "r" "Cart" none]).2.graphs.find? 0 = some live ∧
      live.active.find? "Cart" = some inst ∧ inst.parents.getLast? = some live.root := by
  have hactive : (((shopSession.run [.component "r" "Cart" none]).2.graphs.find? 0).bind
      fun live => live.active.find? "Cart").isSome = true := by
    decide +kernel
  rcases Option.isSome_iff_exists.1 hactive with ⟨inst, hbound⟩
  rcases Option.bind_eq_some_iff.1 hbound with ⟨live, hlive, hinst⟩
  have hscopes := (active_instances_hang_together compile_shopManifest start_shopRegistrations
    [.component "r" "Cart" none] hlive).2.1 "Cart" inst hinst
  exact ⟨live, inst, hlive, hinst, hscopes.2.2.2.2⟩

end ObjectGraph
