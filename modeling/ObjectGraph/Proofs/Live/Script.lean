import ObjectGraph.Proofs.Live.Course
import ObjectGraph.Proofs.Live.Demand
import ObjectGraph.Proofs.Live.Refusal

/-!
# Scripts — the action at which a constructor fails

A script fails at one action, after all actions before it have succeeded or were noted. That action
fails of its own accord, or with a demand, which is refused at the site or waits for a job that fails.

* `World.Refused`, `World.Waits` — demands that fail at the site, and the jobs that demands wait for;
* `World.demand_fails` — there is no third way;
* `World.Breaks`, `World.runScript_breaks` — the action at which a script fails;
* `World.runScript_append`, `World.Breaks.runScript_eq` — a script that comes to such an action.
-/

namespace ObjectGraph

/-- The instance that a demand has constructed first, and the context that its provider is called
with. -/
def Demand.request? (context : Context) : Demand → Option (Key × ValueType × Context)
  | .get key type => some (key, type, context)
  | .inject type => some (.ofType type, type, context)
  | .provider key type (some .withContext) => some (key, type, context)
  | .provider key type (some .withoutContext) => some (key, type, .empty)
  | .create key product _ => some (key, .factory product, context)
  | .provider _ _ none | .context _ | .contextIsEmpty | .contains _ | .parent => none

namespace World

/-- A demand is refused at the site itself. Only a cast makes an object pass for a factory, and nothing
can be created with it. -/
inductive Refused (world : World) (server : Server) (site : Site) (store : Store) :
    Demand → ResolveError → Prop where
  | lookup {wanted : Demand} {key : Key} {type : ValueType} {error : ResolveError}
      (hwanted : wanted.wanted? = some (key, type))
      (hprovider : world.wiring.provider site.host key type = .error error)
      (hrefuses : world.wiring.Refuses site.host key type error) :
      world.Refused server site store wanted error
  | context {type : TypeName} (hnone : site.context.find? type = none) :
      world.Refused server site store (.context type) (.missingRuntimeContext site.key type)
  | object {key : Key} {product : TypeName} {arguments : String} {provider : Provider} {serial : Nat}
      {kept : List Provider} {later : Store}
      (hrequest : world.request server site key (.factory product) site.context store =
        (.ok (provider, .object serial kept), later)) :
      world.Refused server site store (.create key product arguments)
        (.incorrectType key (ValueType.factory product).name)

/-- A demand has a job served: the call of a provider, then perhaps the creation by what it yields. -/
inductive Waits (world : World) (server : Server) (site : Site) (store : Store) :
    Demand → Job → Store → Prop where
  | call {wanted : Demand} {key : Key} {type : ValueType} {context : Context} {provider : Provider}
      (hrequest : wanted.request? site.context = some (key, type, context))
      (hprovider : world.wiring.provider site.host key type = .ok provider) :
      world.Waits server site store wanted (.call provider context) store
  | create {key : Key} {product : TypeName} {arguments : String} {provider : Provider}
      {made : AssistedFactory} {later : Store}
      (hrequest : world.request server site key (.factory product) site.context store =
        (.ok (provider, .factory made), later)) :
      world.Waits server site store (.create key product arguments) (.create made arguments) later

variable {world : World} {server : Server} {site : Site} {job : Job} {store later : Store}
  {error : ResolveError}

/-! ## Demands -/

section Demands

variable (hlookup : ∀ {key type error}, world.wiring.provider site.host key type = .error error →
  world.wiring.Refuses site.host key type error)

include hlookup

/-- What goes wrong with a request goes wrong with its lookup or with its call. -/
theorem request_fails {wanted : Demand} {key : Key} {type : ValueType} {context : Context}
    (hwanted : wanted.wanted? = some (key, type))
    (hasked : wanted.request? site.context = some (key, type, context))
    {outcome : Except Fault (Provider × Value)}
    (hresult : world.request server site key type context store = (outcome, later))
    (herror : outcome = .error (.error error)) :
    world.Refused server site store wanted error ∨ ∃ job middle,
      world.Waits server site store wanted job middle ∧
        (server job middle).1 = .error (.error error) := by
  subst herror
  cases requested_of_request hresult with
  | refused hother => exact Or.inl (.lookup hwanted hother (hlookup hother))
  | fails _ hprovider hcall => exact Or.inr ⟨_, _, .call hasked hprovider, by simp [hcall]⟩

/-- A demand fails at the site, or with a job that it waits for. -/
theorem demand_fails {wanted : Demand}
    (hresult : world.demand server site wanted store = (.error (.error error), later)) :
    world.Refused server site store wanted error ∨ ∃ job middle,
      world.Waits server site store wanted job middle ∧
        (server job middle).1 = .error (.error error) := by
  cases wanted with
  | get key type =>
    simp only [demand] at hresult
    split at hresult
    · rename_i fault last hrequest
      cases hresult
      exact request_fails hlookup rfl rfl hrequest rfl
    · simp at hresult
  | inject type =>
    simp only [demand] at hresult
    split at hresult
    · rename_i fault last hrequest
      cases hresult
      exact request_fails hlookup rfl rfl hrequest rfl
    · simp at hresult
  | provider key type call =>
    cases call with
    | none =>
      -- A provider that is not called is only looked up.
      simp only [demand] at hresult
      split at hresult
      · rename_i other hother
        cases hresult
        exact Or.inl (.lookup rfl hother (hlookup hother))
      · simp at hresult
    | some mode =>
      simp only [demand] at hresult
      split at hresult
      · rename_i fault last hrequest
        cases hresult
        cases mode <;> exact request_fails hlookup rfl rfl hrequest rfl
      · simp at hresult
  | create key product arguments =>
    simp only [demand] at hresult
    split at hresult
    · rename_i fault last hrequest
      cases hresult
      exact request_fails hlookup rfl rfl hrequest rfl
    · rename_i provider serial kept last hrequest
      cases hresult
      exact Or.inl (.object hrequest)
    · rename_i provider made middle hrequest
      refine Or.inr ⟨_, _, .create hrequest, ?_⟩
      split at hresult
      · rename_i fault last hcreate
        cases hresult
        simp [hcreate]
      · simp at hresult
  | context type =>
    simp only [demand] at hresult
    split at hresult
    · simp at hresult
    · rename_i hnone
      cases hresult
      exact Or.inl (.context hnone)
  | _ => simp [demand] at hresult

end Demands

theorem Refused.demand_eq {wanted : Demand}
    (h : world.Refused server site store wanted error) :
    (world.demand server site wanted store).1 = .error (.error error) := by
  cases h with
  | lookup hwanted hprovider _ => rw [demand_of_error hwanted hprovider]
  | context hnone => simp [demand, hnone]
  | object hrequest => simp [demand, hrequest]

/-- A demand is not answered if a job that it waits for fails. -/
theorem Waits.demand_eq {wanted : Demand} {middle : Store}
    (h : world.Waits server site store wanted job middle)
    (hfails : (server job middle).1 = .error (.error error)) :
    (world.demand server site wanted store).1 = .error (.error error) := by
  rcases hserve : server job middle with ⟨outcome, last⟩
  simp only [hserve] at hfails
  subst hfails
  cases h with
  | create hrequest => simp [demand, hrequest, hserve]
  | call hrequest hprovider =>
    -- Every demand of a value begins with a request, whose error is that of the whole demand.
    cases wanted with
    | provider key type call =>
      rcases call with _ | _ | _ <;> cases hrequest <;> simp [demand, request, hprovider, hserve]
    | get key type =>
      cases hrequest
      simp [demand, request, hprovider, hserve]
    | inject type =>
      cases hrequest
      simp [demand, request, hprovider, hserve]
    | create key product arguments =>
      cases hrequest
      simp [demand, request, hprovider, hserve]
    | _ => simp [Demand.request?] at hrequest

/-! ## Scripts -/

/-- Why a script ends with a failure at an action. -/
inductive Breaks (world : World) (server : Server) (site : Site) (call : Nat) (store : Store) :
    Action → Failure → Prop where
  | own {text : String} {calls : List Nat} {contexts : List String}
      (hcall : calls = [] ∨ call ∈ calls) :
      world.Breaks server site call store (.fail text calls contexts) (.custom text contexts)
  | returns {wanted : Demand} {error : ResolveError} {later : Store}
      (hdemand : world.demand server site wanted store = (.error (.error error), later)) :
      world.Breaks server site call store (.demand wanted .propagate) (.dependency error)
  | wraps {wanted : Demand} {error : ResolveError} {later : Store}
      (hdemand : world.demand server site wanted store = (.error (.error error), later)) :
      world.Breaks server site call store (.demand wanted .wrap) (.wrapped error)

/-- A script that fails has come to the action at which it fails. -/
theorem runScript_breaks {call : Nat} {script : List Action} {progress last : Progress}
    {failure : Failure}
    (hresult : world.runScript server site call script progress store =
      (.failure failure, last, later)) :
    ∃ before action rest middle reached, script = before ++ action :: rest ∧
      world.runScript server site call before progress store = (.success, reached, middle) ∧
        world.Breaks server site call middle action failure := by
  generalize hfailure : Ending.failure failure = ending at hresult
  have hcourse := course_of_runScript hresult
  clear hresult
  -- What comes after an action that has succeeded comes after it in the whole script.
  induction hcourse with
  | done | faults _ _ => simp at hfailure
  | fails hcall =>
    cases hfailure
    exact ⟨[], _, _, _, _, rfl, rfl, .own (by simpa [List.isEmpty_iff] using hcall)⟩
  | returns hdemand =>
    cases hfailure
    exact ⟨[], _, _, _, _, rfl, rfl, .returns hdemand⟩
  | wraps hdemand =>
    cases hfailure
    exact ⟨[], _, _, _, _, rfl, rfl, .wraps hdemand⟩
  | passes hcall _ ih =>
    rcases ih hfailure with ⟨before, action, after, middle, reached, rfl, hbefore, hbreaks⟩
    exact ⟨_ :: before, action, after, middle, reached, rfl,
      (Course.passes hcall (course_of_runScript hbefore)).runScript_eq, hbreaks⟩
  | answered hdemand _ ih =>
    rcases ih hfailure with ⟨before, action, after, middle, reached, rfl, hbefore, hbreaks⟩
    exact ⟨_ :: before, action, after, middle, reached, rfl,
      (Course.answered hdemand (course_of_runScript hbefore)).runScript_eq, hbreaks⟩
  | notes hdemand _ ih =>
    rcases ih hfailure with ⟨before, action, after, middle, reached, rfl, hbefore, hbreaks⟩
    exact ⟨_ :: before, action, after, middle, reached, rfl,
      (Course.notes hdemand (course_of_runScript hbefore)).runScript_eq, hbreaks⟩

/-- What succeeds leads to what comes next. -/
theorem runScript_append {call : Nat} {before : List Action} {progress reached : Progress}
    {middle : Store}
    (hbefore : world.runScript server site call before progress store = (.success, reached, middle))
    (rest : List Action) :
    world.runScript server site call (before ++ rest) progress store =
      world.runScript server site call rest reached middle := by
  rcases hrest : world.runScript server site call rest reached middle with ⟨ending, last, later⟩
  exact ((course_of_runScript hbefore).append (course_of_runScript hrest)).runScript_eq

/-- A script that comes to an action at which it breaks has failed. -/
theorem Breaks.runScript_eq {call : Nat} {before rest : List Action} {action : Action}
    {progress reached : Progress} {failure : Failure} {middle : Store}
    (h : world.Breaks server site call middle action failure)
    (hbefore : world.runScript server site call before progress store =
      (.success, reached, middle)) :
    ∃ last later, world.runScript server site call (before ++ action :: rest) progress store =
      (.failure failure, last, later) := by
  rw [runScript_append hbefore]
  cases h with
  | @own text calls contexts hcall =>
    have hfails : (calls.isEmpty || calls.contains call) = true := by
      simpa [List.isEmpty_iff] using hcall
    exact ⟨reached, middle, by simp only [runScript, if_pos hfails]⟩
  | returns hdemand => exact ⟨reached, _, by simp only [runScript, hdemand]; rfl⟩
  | wraps hdemand => exact ⟨reached, _, by simp only [runScript, hdemand]; rfl⟩

/-- Errors are handled by the script, so none is left when it ends with a fault. -/
theorem runScript_fault {call : Nat} {script : List Action} {progress last : Progress}
    {fault : Fault}
    (hresult : world.runScript server site call script progress store =
      (.fault fault, last, later)) (error : ResolveError) : fault ≠ .error error := by
  generalize hfault : Ending.fault fault = ending at hresult
  have hcourse := course_of_runScript hresult
  clear hresult
  induction hcourse with
  | done | fails _ | returns _ | wraps _ => simp at hfault
  | passes _ _ ih | answered _ _ ih | notes _ _ ih => exact ih hfault
  | faults _ hno =>
    cases hfault
    exact hno error

end World
end ObjectGraph
