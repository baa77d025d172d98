import ObjectGraph.Proofs.Live.Provider
import ObjectGraph.Proofs.Live.Serve

/-!
# Founded values — what stands behind the things that are handed out

Lookups end at entries that are constructed or lent by a factory, and only factory entries lend
factories. Values keep such providers only, cached or not, however deep constructions nest.

* `Provider.Founded`, `Value.Founded`, `Store.Founded` — what has an entry of the right kind behind it;
* `Wiring.founded_of_provider` — lookups;
* `Server.Founds`, `World.serveWithin_founds` — the servers of a world.
-/

namespace ObjectGraph

/-- Values come from entries of this kind. -/
def ProviderKind.Yields : ProviderKind → Prop
  | .scoped | .unscoped | .factory => True
  | .aliasOf | .assistedOnly => False

/-- The entry that the provider belongs to yields values. -/
def Provider.Founded (plan : Plan) (provider : Provider) : Prop :=
  ∃ kind, plan.kind? provider.host.component provider.key = some kind ∧ kind.Yields

/-- An object keeps founded providers, and a factory was lent by a factory entry. -/
def Value.Founded (plan : Plan) : Value → Prop
  | .object _ kept => ∀ provider ∈ kept, provider.Founded plan
  | .factory made => plan.kind? made.host.component made.key = some .factory

theorem Value.ViewOf.founded {plan : Plan} {value whole : Value} (h : value.ViewOf whole)
    (hwhole : whole.Founded plan) : value.Founded plan := by
  cases h with
  | object hsubset => exact fun provider hmem => hwhole provider (hsubset provider hmem)
  | factory made => exact hwhole

def Job.Founded (plan : Plan) : Job → Prop
  | .call provider _ => provider.Founded plan
  | .create made _ => (Value.factory made).Founded plan

namespace Store

/-- Whatever is cached is founded. -/
def Founded (plan : Plan) (store : Store) : Prop :=
  ∀ id value, store.cells.find? id = some (.ready value) → value.Founded plan

variable {plan : Plan} {store : Store} {id : EntryId}

theorem Founded.setCell (h : store.Founded plan) {cell : Cell}
    (hcell : ∀ value, cell = .ready value → value.Founded plan) :
    (store.setCell id cell).Founded plan := by
  intro other value hvalue
  simp only [Store.setCell, Table.find?_insert] at hvalue
  split at hvalue
  · exact hcell value (Option.some.inj hvalue)
  · exact h other value hvalue

theorem Founded.clearCell (h : store.Founded plan) : (store.clearCell id).Founded plan := by
  intro other value hvalue
  simp only [Store.clearCell, Table.find?_erase] at hvalue
  split at hvalue
  · simp at hvalue
  · exact h other value hvalue

end Store

/-- Jobs leave a founded store and yield founded values. -/
structure Server.Founds (plan : Plan) (server : Server) : Prop where
  store : ∀ {job : Job} {store later : Store} {outcome : Outcome}, store.Founded plan →
    server job store = (outcome, later) → later.Founded plan
  value : ∀ {job : Job} {store later : Store} {value : Value}, store.Founded plan →
    server job store = (.ok value, later) → value.Founded plan

/-! ## Lookups -/

namespace Wiring

variable {wiring : Wiring} {inst host : Instance} {key : Key} {type : ValueType}
  {provider : Provider}

theorem kind?_of_host? {entry : Entry} (hhost : wiring.host? inst key = some (host, entry)) :
    wiring.plan.kind? host.component key = some entry.kind := by
  have hfound : wiring.entry? host.component key = some entry := (Instance.search_eq_some hhost).2.1
  simp only [Wiring.entry?] at hfound
  simp [Plan.kind?, hfound]

theorem founded_of_providerWithin {bound : Nat}
    (h : wiring.providerWithin bound inst key type = .ok provider) :
    provider.Founded wiring.plan := by
  fun_induction wiring.providerWithin bound inst key type generalizing provider with
  | case4 _ _ _ _ _ hhost hkind | case7 _ _ _ _ _ hhost hkind | case10 _ _ _ _ _ hhost hkind =>
    cases h
    exact ⟨_, kind?_of_host? hhost, by simp [hkind, ProviderKind.Yields]⟩
  | case14 _ _ _ _ _ _ _ _ _ _ _ ih => exact ih h
  | case16 _ _ _ _ _ _ _ _ _ _ _ _ _ hprovider ih =>
    -- A cast changes the type of a provider, not its entry.
    cases h
    have hbehind := ih hprovider
    exact hbehind
  | _ => cases h

theorem founded_of_provider (h : wiring.provider inst key type = .ok provider) :
    provider.Founded wiring.plan :=
  founded_of_providerWithin h

end Wiring

/-! ## Constructors -/

namespace World

variable {plan : Plan} {world : World} {server : Server} {site : Site} {store later : Store}
  {outcome : Outcome}

section Constructors

variable (hplan : world.wiring.plan = plan) (hserver : server.Founds plan)
  (h : store.Founded plan)

include hplan hserver h

theorem request_founds {key : Key} {type : ValueType} {context : Context}
    {outcome : Except Fault (Provider × Value)}
    (hresult : world.request server site key type context store = (outcome, later)) :
    later.Founded plan ∧ ∀ provider value, outcome = .ok (provider, value) →
      provider.Founded plan ∧ value.Founded plan := by
  subst hplan
  cases requested_of_request hresult with
  | refused _ => exact ⟨h, by simp⟩
  | fails _ _ hcall => exact ⟨hserver.store h hcall, by simp⟩
  | answers _ hprovider hcall =>
    refine ⟨hserver.store h hcall, ?_⟩
    intro other yielded hok
    cases hok
    exact ⟨Wiring.founded_of_provider hprovider, hserver.value h hcall⟩

theorem demand_founds {wanted : Demand} {outcome : Except Fault Reply}
    (hresult : world.demand server site wanted store = (outcome, later)) :
    later.Founded plan ∧
      ∀ reply, outcome = .ok reply → ∀ provider ∈ reply.kept, provider.Founded plan := by
  cases demanded_of_demand hresult with
  | reads hreads =>
    refine ⟨h, ?_⟩
    intro reply hok provider hkept
    rcases hreads.kept reply hok provider hkept with ⟨key, type, hprovider⟩
    exact hplan ▸ Wiring.founded_of_provider hprovider
  | refused _ hrequest | mistyped hrequest =>
    exact ⟨(request_founds hplan hserver h hrequest).1, by simp⟩
  | shows _ hrequest _ hreply =>
    rcases request_founds hplan hserver h hrequest with ⟨hlater, hfound⟩
    refine ⟨hlater, ?_⟩
    intro other hok kept hkept
    cases hok
    cases List.mem_singleton.1 (hreply hkept)
    exact (hfound _ _ rfl).1
  | fails _ _ hrequest hcreate | creates _ _ hrequest hcreate =>
    -- Nothing is kept of a factory that was only used.
    exact ⟨hserver.store (request_founds hplan hserver h hrequest).1 hcreate, by simp⟩

theorem runScript_founds {call : Nat} {script : List Action} {progress last : Progress}
    {ending : Ending} (hkept : ∀ provider ∈ progress.kept, provider.Founded plan)
    (hresult : world.runScript server site call script progress store = (ending, last, later)) :
    later.Founded plan ∧ ∀ provider ∈ last.kept, provider.Founded plan := by
  have hcourse := course_of_runScript hresult
  clear hresult
  induction hcourse with
  | done | fails _ => exact ⟨h, hkept⟩
  | passes _ _ ih => exact ih h hkept
  | answered hdemand _ ih =>
    rcases demand_founds hplan hserver h hdemand with ⟨hmiddle, hreply⟩
    refine ih hmiddle ?_
    intro provider hprovider
    rcases List.mem_append.1 hprovider with hold | hnew
    · exact hkept provider hold
    · exact hreply _ rfl provider hnew
  | notes hdemand _ ih => exact ih (demand_founds hplan hserver h hdemand).1 hkept
  | returns hdemand | wraps hdemand | faults hdemand _ =>
    exact ⟨(demand_founds hplan hserver h hdemand).1, hkept⟩

theorem construct_founds {script : List Action} {extra : Extra}
    (hresult : world.construct server site script extra store = (outcome, later)) :
    later.Founded plan ∧ ∀ value, outcome = .ok value → value.Founded plan := by
  -- Numbers and events concern no cell.
  have hstart : (store.start site.constructorId).Founded plan := h
  cases constructed_of_construct hresult with
  | yields hscript =>
    rcases runScript_founds hplan hserver hstart (by simp) hscript with ⟨hinner, hkept⟩
    refine ⟨hinner, ?_⟩
    intro value hok
    cases hok
    exact hkept
  | breaks hscript | faults hscript =>
    exact ⟨(runScript_founds hplan hserver hstart (by simp) hscript).1, by simp⟩

theorem constructAt_founds {context : Option TypeName} {script : List Action}
    (hresult : world.constructAt server site context script store = (outcome, later)) :
    later.Founded plan ∧ ∀ value, outcome = .ok value → value.Founded plan := by
  rcases constructAt_cases world site context script with ⟨error, _, heq⟩ | ⟨extra, _, heq⟩
  · rw [heq] at hresult
    cases hresult
    exact ⟨h, by simp⟩
  · rw [heq] at hresult
    exact construct_founds hplan hserver h hresult

end Constructors

/-! ## Jobs -/

theorem cached_founds {id : EntryId} {fresh : Store → Outcome × Store}
    (hfresh : ∀ {store later : Store} {outcome : Outcome}, store.Founded plan →
      fresh store = (outcome, later) →
        later.Founded plan ∧ ∀ value, outcome = .ok value → value.Founded plan)
    (h : store.Founded plan) (hresult : cached id fresh store = (outcome, later)) :
    later.Founded plan ∧ ∀ value, outcome = .ok value → value.Founded plan := by
  have hbuild : (store.setCell id .building).Founded plan := h.setCell (by simp)
  cases recalled_of_cached hresult with
  | ready hready =>
    refine ⟨h, ?_⟩
    intro other hok
    cases hok
    exact h id _ hready
  | building _ => exact ⟨h, by simp⟩
  | fills _ hrun =>
    -- What was built is cached as it is handed out.
    rcases hfresh hbuild hrun with ⟨hinner, hvalue⟩
    refine ⟨hinner.setCell ?_, hvalue⟩
    intro other hready
    cases hready
    exact hvalue _ rfl
  | clears _ hrun => exact ⟨(hfresh hbuild hrun).1.clearCell, by simp⟩
  | faults _ _ hrun => exact ⟨(hfresh hbuild hrun).1, by simp⟩

section Jobs

variable (hplan : world.wiring.plan = plan) (hserver : server.Founds plan)
  (h : store.Founded plan)

include hplan hserver h

theorem call_founds {provider : Provider} {context : Context}
    (hresult : world.call server provider context store = (outcome, later)) :
    later.Founded plan ∧ ∀ value, outcome = .ok value → value.Founded plan := by
  cases called_of_call hresult with
  | caches _ _ hcached =>
    exact cached_founds (fun h hrun => constructAt_founds hplan hserver h hrun) h hcached
  | constructs _ _ hrun => exact constructAt_founds hplan hserver h hrun
  | lends hkind _ _ =>
    refine ⟨h, ?_⟩
    intro value hok
    cases hok
    exact hplan ▸ hkind
  | dropped _ _ | missing => exact ⟨h, by simp⟩

theorem create_founds {made : AssistedFactory} {arguments : String}
    (hresult : world.create server made arguments store = (outcome, later)) :
    later.Founded plan ∧ ∀ value, outcome = .ok value → value.Founded plan := by
  cases created_of_create hresult with
  | constructs _ _ hrun => exact construct_founds hplan hserver h hrun
  | dropped _ | missing => exact ⟨h, by simp⟩

end Jobs

/-! ## Servers -/

/-- However deep constructions may nest, what is kept and cached is founded. -/
theorem serveWithin_founds (hplan : world.wiring.plan = plan) (bound : Nat) :
    Server.Founds plan (world.serveWithin bound) := by
  have hboth : ∀ {job : Job} {store later : Store} {outcome : Outcome}, store.Founded plan →
      world.serveWithin bound job store = (outcome, later) →
        later.Founded plan ∧ ∀ value, outcome = .ok value → value.Founded plan := by
    induction bound with
    | zero =>
      intro job store later outcome h hresult
      cases hresult
      exact ⟨h, by simp⟩
    | succ bound ih =>
      have hserver : Server.Founds plan (world.serveWithin bound) :=
        ⟨fun h hresult => (ih h hresult).1, fun h hresult => (ih h hresult).2 _ rfl⟩
      intro job store later outcome h hresult
      cases job with
      | call provider context =>
        cases answered_of_serveWithin hresult with
        | yields hcall =>
          -- What is listed as served concerns no cell.
          rcases call_founds hplan hserver h hcall with ⟨hlater, hvalue⟩
          refine ⟨hlater, ?_⟩
          intro value hok
          cases hok
          exact (world.wiring.view_castAlong _ _).founded (hvalue _ rfl)
        | fails hcall => exact ⟨(call_founds hplan hserver h hcall).1, by simp⟩
      | create made arguments => exact create_founds hplan hserver h hresult
  exact ⟨fun h hresult => (hboth h hresult).1, fun h hresult => (hboth h hresult).2 _ rfl⟩

end World
end ObjectGraph
