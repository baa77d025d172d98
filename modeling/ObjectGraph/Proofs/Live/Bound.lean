import Mathlib.Order.Nat
import ObjectGraph.Proofs.Live.Course
import ObjectGraph.Proofs.Live.Demand

/-!
# Bounds — a job that is brought to an end is served alike by any larger bound

Running out of rounds ends all scripts at once and reaches whoever asked. A result of another sort has
therefore been reached without the last round, and one more round leaves it as it is.

* `Server.Approximates` — a server that agrees on whatever another one brings to an end;
* `World.call_approximates`, `World.create_approximates` — jobs, whatever they call in turn;
* `World.serveWithin_of_le` — results under larger bounds.
-/

namespace ObjectGraph

/-- Whatever the first server brings to an end is served alike by the second one. -/
def Server.Approximates (first second : Server) : Prop :=
  ∀ {job : Job} {store : Store} {outcome : Outcome} {later : Store},
    first job store = (outcome, later) → outcome ≠ .error .exhausted →
      second job store = (outcome, later)

namespace World

variable {world : World} {first second : Server} {site : Site} {store later : Store}

section Approximation

variable (h : first.Approximates second)

include h

theorem request_approximates {key : Key} {type : ValueType} {context : Context}
    {outcome : Except Fault (Provider × Value)}
    (hresult : world.request first site key type context store = (outcome, later))
    (hend : outcome ≠ .error .exhausted) :
    world.request second site key type context store = (outcome, later) := by
  refine Requested.request_eq ?_
  cases requested_of_request hresult with
  | refused hprovider => exact .refused hprovider
  | fails _ hprovider hcall => exact .fails _ hprovider (h hcall (by simpa using hend))
  | answers _ hprovider hcall => exact .answers _ hprovider (h hcall (by simp))

theorem demand_approximates {wanted : Demand} {outcome : Except Fault Reply}
    (hresult : world.demand first site wanted store = (outcome, later))
    (hend : outcome ≠ .error .exhausted) :
    world.demand second site wanted store = (outcome, later) := by
  rcases demand_cases world site wanted with
    ⟨fixed, _, hfixed⟩ | ⟨key, type, context, reply, _, _, hrequest⟩ |
      ⟨key, product, arguments, rfl⟩
  · simpa only [hfixed] using hresult
  · -- What is done with the answer to a request does not depend on the server.
    simp only [hrequest] at hresult ⊢
    rcases hanswer : world.request first site key type context store with ⟨_ | ⟨_, _⟩, _⟩
    · simp only [hanswer, Reply.ofRequest] at hresult
      cases hresult
      simp only [request_approximates h hanswer (by simpa using hend), Reply.ofRequest]
    · simp only [hanswer, Reply.ofRequest] at hresult
      cases hresult
      simp only [request_approximates h hanswer (by simp), Reply.ofRequest]
  · simp only [demand] at hresult ⊢
    split at hresult
    · rename_i hrequest
      cases hresult
      simp only [request_approximates h hrequest (by simpa using hend)]
    · rename_i hrequest
      cases hresult
      simp only [request_approximates h hrequest (by simp)]
    · rename_i factory middle hrequest
      simp only [request_approximates h hrequest (by simp)]
      split at hresult
      · rename_i hcreate
        cases hresult
        simp only [h hcreate (by simpa using hend)]
      · rename_i hcreate
        cases hresult
        simp only [h hcreate (by simp)]

theorem runScript_approximates {call : Nat} {script : List Action} {progress last : Progress}
    {ending : Ending}
    (hresult : world.runScript first site call script progress store = (ending, last, later))
    (hend : ending ≠ .fault .exhausted) :
    world.runScript second site call script progress store = (ending, last, later) := by
  have hcourse := course_of_runScript hresult
  clear hresult
  -- The course is the same, because every demand is answered as before.
  refine Course.runScript_eq ?_
  induction hcourse with
  | done => exact .done
  | fails hcall => exact .fails hcall
  | passes hcall _ ih => exact .passes hcall (ih hend)
  | answered hdemand _ ih => exact .answered (demand_approximates h hdemand (by simp)) (ih hend)
  | returns hdemand => exact .returns (demand_approximates h hdemand (by simp))
  | wraps hdemand => exact .wraps (demand_approximates h hdemand (by simp))
  | notes hdemand _ ih => exact .notes (demand_approximates h hdemand (by simp)) (ih hend)
  | faults hdemand hfault =>
    exact .faults (demand_approximates h hdemand (by simpa using hend)) hfault

theorem construct_approximates {script : List Action} {extra : Extra} {outcome : Outcome}
    (hresult : world.construct first site script extra store = (outcome, later))
    (hend : outcome ≠ .error .exhausted) :
    world.construct second site script extra store = (outcome, later) := by
  refine Constructed.construct_eq ?_
  cases constructed_of_construct hresult with
  | yields hscript => exact .yields (runScript_approximates h hscript (by simp))
  | breaks hscript => exact .breaks (runScript_approximates h hscript (by simp))
  | faults hscript => exact .faults (runScript_approximates h hscript (by simpa using hend))

theorem constructAt_approximates {context : Option TypeName} {script : List Action}
    {outcome : Outcome}
    (hresult : world.constructAt first site context script store = (outcome, later))
    (hend : outcome ≠ .error .exhausted) :
    world.constructAt second site context script store = (outcome, later) := by
  rcases constructAt_cases world site context script with ⟨error, _, heq⟩ | ⟨extra, _, heq⟩
  · rw [heq] at hresult ⊢
    exact hresult
  · rw [heq] at hresult ⊢
    exact construct_approximates h hresult hend

omit h in
/-- The value of a cell does not depend on who would have constructed it. -/
theorem cached_approximates {id : EntryId} {fresh again : Store → Outcome × Store}
    (hfresh : ∀ {store : Store} {outcome : Outcome} {later : Store},
      fresh store = (outcome, later) → outcome ≠ .error .exhausted →
        again store = (outcome, later))
    {outcome : Outcome} (hresult : cached id fresh store = (outcome, later))
    (hend : outcome ≠ .error .exhausted) : cached id again store = (outcome, later) := by
  refine Recalled.cached_eq ?_
  cases recalled_of_cached hresult with
  | ready hready => exact .ready hready
  | building hbuilding => exact .building hbuilding
  | fills hnone hrun => exact .fills hnone (hfresh hrun (by simp))
  | clears hnone hrun => exact .clears hnone (hfresh hrun hend)
  | faults hnone hfault hrun => exact .faults hnone hfault (hfresh hrun hend)

/-! ## Jobs -/

theorem call_approximates {provider : Provider} {context : Context} {outcome : Outcome}
    (hresult : world.call first provider context store = (outcome, later))
    (hend : outcome ≠ .error .exhausted) :
    world.call second provider context store = (outcome, later) := by
  simp only [call] at hresult ⊢
  split at hresult
  · exact cached_approximates (constructAt_approximates h) hresult hend
  · exact constructAt_approximates h hresult hend
  · exact hresult
  · exact hresult

theorem create_approximates {factory : AssistedFactory} {arguments : String} {outcome : Outcome}
    (hresult : world.create first factory arguments store = (outcome, later))
    (hend : outcome ≠ .error .exhausted) :
    world.create second factory arguments store = (outcome, later) := by
  simp only [create] at hresult ⊢
  split at hresult
  · rename_i halive
    simp only [halive, if_true]
    split at hresult
    · exact construct_approximates h hresult hend
    · exact hresult
  · rename_i hdead
    simpa only [if_neg hdead] using hresult

end Approximation

/-- One round more changes no result but that of running out of rounds. -/
theorem serveWithin_approximates (bound : Nat) :
    (world.serveWithin bound).Approximates (world.serveWithin (bound + 1)) := by
  induction bound with
  | zero =>
    intro job store outcome later hresult hend
    cases hresult
    exact absurd rfl hend
  | succ bound ih =>
    intro job store outcome later hresult hend
    cases job with
    | call provider context =>
      apply Answered.serveWithin_eq
      cases answered_of_serveWithin hresult with
      | yields hcall => exact .yields (call_approximates ih hcall (by simp))
      | fails hcall => exact .fails (call_approximates ih hcall (by simpa using hend))
    | create factory arguments => exact create_approximates ih hresult hend

theorem serveWithin_of_le {bound more : Nat} (hle : bound ≤ more) {job : Job} {outcome : Outcome}
    (hresult : world.serveWithin bound job store = (outcome, later))
    (hend : outcome ≠ .error .exhausted) :
    world.serveWithin more job store = (outcome, later) := by
  induction more, hle using Nat.le_induction with
  | base => exact hresult
  | succ more hle ih => exact serveWithin_approximates more ih hend

end World
end ObjectGraph
