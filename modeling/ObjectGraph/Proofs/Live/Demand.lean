import ObjectGraph.Live.Serve
import ObjectGraph.Proofs.Live.Instance

/-!
# Demands — what a constructor asks for and what its answer depends on

* `Demand.wanted?` — the key and the type of a demand for an instance or a provider;
* `Demand.instance?` — the key of a demand that has an instance constructed;
* `Demand.Reads` — an outcome that takes no job;
* `World.demand_of_error`, `World.demand_congr` — a demand and the provider that it looks up;
* `World.Requested` — how a request goes;
* `World.demand_cases`, `World.Demanded` — a demand and the jobs that it has served.
-/

namespace ObjectGraph

/-- What a demand looks up, if it is for an instance or a provider. -/
def Demand.wanted? : Demand → Option (Key × ValueType)
  | .get key type => some (key, type)
  | .inject type => some (.ofType type, type)
  | .provider key type _ => some (key, type)
  | .create key product _ => some (key, .factory product)
  | .context _ | .contextIsEmpty | .contains _ | .parent => none

/-- The key that an instance is demanded for. A provider that is only kept is not called. -/
def Demand.instance? : Demand → Option Key
  | .get key _ => some key
  | .inject type => some (.ofType type)
  | .provider key _ (some _) => some key
  | .create key _ _ => some key
  | .provider _ _ none | .context _ | .contextIsEmpty | .contains _ | .parent => none

/-- The answer to a request, as the script sees it. -/
def Reply.ofRequest (reply : Provider → Value → Reply)
    (result : Except Fault (Provider × Value) × Store) : Except Fault Reply × Store :=
  match result with
  | (.ok (provider, value), store) => (.ok (reply provider value), store)
  | (.error fault, store) => (.error fault, store)

/-- An outcome that takes no job: it is no fault and shows no instance, it shows a text only where
one is asked of the context, and what it keeps is found from the site. No component is missed for it
that was dropped. -/
structure Demand.Reads (world : World) (site : Site) (wanted : Demand)
    (outcome : Except Fault Reply) : Prop where
  errors : ∀ fault, outcome = .error fault → ∃ error, fault = .error error
  undropped : ∀ component, outcome ≠ .error (.error (.componentDropped component))
  values : ∀ reply type value, outcome = .ok reply → reply.saw ≠ .value type value
  texts : ∀ reply text, outcome = .ok reply → reply.saw = .text text →
    ∃ type, wanted = .context type
  kept : ∀ reply, outcome = .ok reply → ∀ provider ∈ reply.kept,
    ∃ key type, world.wiring.provider site.host key type = .ok provider

namespace Demand.Reads

variable {world : World} {site : Site} {wanted : Demand}

theorem ofError {error : ResolveError} (hundropped : ∀ component, error ≠ .componentDropped component) :
    wanted.Reads world site (.error (.error error)) where
  errors := fun _ hfault => ⟨error, (Except.error.inj hfault).symm⟩
  undropped := by simpa using hundropped
  values := fun _ _ _ hok => absurd hok (by simp)
  texts := fun _ _ hok => absurd hok (by simp)
  kept := fun _ hok => absurd hok (by simp)

theorem ofOk {reply : Reply} (hvalues : ∀ type value, reply.saw ≠ .value type value)
    (htexts : ∀ text, reply.saw = .text text → ∃ type, wanted = .context type)
    (hkept : ∀ provider ∈ reply.kept,
      ∃ key type, world.wiring.provider site.host key type = .ok provider) :
    wanted.Reads world site (.ok reply) where
  errors := by simp
  undropped := by simp
  values := by
    intro other type value hok
    cases hok
    exact hvalues type value
  texts := by
    intro other text hok
    cases hok
    exact htexts text
  kept := by
    intro other hok
    cases hok
    exact hkept

end Demand.Reads

namespace World

variable {world : World} {server : Server} {wanted : Demand} {key : Key} {type : ValueType}

/-! ## Lookups -/

theorem demand_of_error {site : Site} {error : ResolveError}
    (hwanted : wanted.wanted? = some (key, type))
    (herror : world.wiring.provider site.host key type = .error error) (store : Store) :
    world.demand server site wanted store = (.error (.error error), store) := by
  cases wanted with
  | provider other asked call =>
    cases hwanted
    cases call with
    | none => simp [demand, herror]
    | some mode => simp [demand, request, herror]
  | get other asked =>
    cases hwanted
    simp [demand, request, herror]
  | inject asked =>
    cases hwanted
    simp [demand, request, herror]
  | create other product arguments =>
    cases hwanted
    simp [demand, request, herror]
  | _ => simp [Demand.wanted?] at hwanted

/-- How a request goes. It is refused where no provider is found, and calls the provider otherwise. -/
inductive Requested (world : World) (server : Server) (site : Site) (key : Key) (type : ValueType)
    (context : Context) (store : Store) : Except Fault (Provider × Value) → Store → Prop where
  | refused {error : ResolveError}
      (hprovider : world.wiring.provider site.host key type = .error error) :
      Requested world server site key type context store (.error (.error error)) store
  | fails {fault : Fault} {later : Store} (provider : Provider)
      (hprovider : world.wiring.provider site.host key type = .ok provider)
      (hcall : server (.call provider context) store = (.error fault, later)) :
      Requested world server site key type context store (.error fault) later
  | answers {value : Value} {later : Store} (provider : Provider)
      (hprovider : world.wiring.provider site.host key type = .ok provider)
      (hcall : server (.call provider context) store = (.ok value, later)) :
      Requested world server site key type context store (.ok (provider, value)) later

variable {site : Site} {context : Context} {store later : Store}

theorem requested_of_request {outcome : Except Fault (Provider × Value)}
    (h : world.request server site key type context store = (outcome, later)) :
    world.Requested server site key type context store outcome later := by
  simp only [request] at h
  split at h
  · next hprovider =>
    cases h
    exact .refused hprovider
  · next hprovider =>
    split at h
    · next hcall =>
      cases h
      exact .fails _ hprovider hcall
    · next hcall =>
      cases h
      exact .answers _ hprovider hcall

theorem Requested.request_eq {outcome : Except Fault (Provider × Value)}
    (h : world.Requested server site key type context store outcome later) :
    world.request server site key type context store = (outcome, later) := by
  cases h with
  | refused hprovider => simp only [request, hprovider]
  | fails _ hprovider hcall => simp only [request, hprovider, hcall]
  | answers _ hprovider hcall => simp only [request, hprovider, hcall]

/-! ## Jobs -/

/-- A demand has no job served, or that of one request, or it creates with a requested factory. -/
theorem demand_cases (world : World) (site : Site) (wanted : Demand) :
    (∃ outcome, wanted.Reads world site outcome ∧
      ∀ server store, world.demand server site wanted store = (outcome, store)) ∨
    (∃ key type context reply, wanted.instance? = some key ∧
      (∀ provider value, (reply provider value).saw = .value type value ∧
        (reply provider value).kept ⊆ [provider]) ∧
      ∀ server store, world.demand server site wanted store =
        Reply.ofRequest reply (world.request server site key type context store)) ∨
    ∃ key product arguments, wanted = .create key product arguments := by
  cases wanted with
  | get key type =>
    refine Or.inr (Or.inl ⟨key, type, site.context,
      fun _ value => ⟨.value type value, []⟩, rfl, by simp, ?_⟩)
    intro server store
    simp only [demand, Reply.ofRequest]
    rcases world.request server site key type site.context store with ⟨_ | ⟨_, _⟩, _⟩ <;> rfl
  | inject type =>
    refine Or.inr (Or.inl ⟨.ofType type, type, site.context,
      fun _ value => ⟨.value type value, []⟩, rfl, by simp, ?_⟩)
    intro server store
    simp only [demand, Reply.ofRequest]
    rcases world.request server site (.ofType type) type site.context store with ⟨_ | ⟨_, _⟩, _⟩ <;>
      rfl
  | provider key type call =>
    cases call with
    | none =>
      left
      simp only [demand]
      cases hprovider : world.wiring.provider site.host key type with
      | error error =>
        have hundropped : ∀ component, error ≠ .componentDropped component := by
          rintro component rfl
          exact Wiring.providerWithin_ne_dropped component hprovider
        exact ⟨_, .ofError hundropped, fun _ _ => rfl⟩
      | ok provider =>
        have hkept : ∀ other ∈ [provider],
            ∃ key type, world.wiring.provider site.host key type = .ok other := by
          intro other hother
          cases List.mem_singleton.1 hother
          exact ⟨key, type, hprovider⟩
        exact ⟨_, .ofOk (by simp) (by simp) hkept, fun _ _ => rfl⟩
    | some mode =>
      -- The mode of the call decides the context of the request and nothing else.
      cases mode with
      | withContext =>
        refine Or.inr (Or.inl ⟨key, type, site.context,
          fun provider value => ⟨.value type value, [provider]⟩, rfl, by simp, ?_⟩)
        intro server store
        simp only [demand, Reply.ofRequest]
        rcases world.request server site key type site.context store with ⟨_ | ⟨_, _⟩, _⟩ <;> rfl
      | withoutContext =>
        refine Or.inr (Or.inl ⟨key, type, .empty,
          fun provider value => ⟨.value type value, [provider]⟩, rfl, by simp, ?_⟩)
        intro server store
        simp only [demand, Reply.ofRequest]
        rcases world.request server site key type .empty store with ⟨_ | ⟨_, _⟩, _⟩ <;> rfl
  | create key product arguments => exact Or.inr (Or.inr ⟨key, product, arguments, rfl⟩)
  | context type =>
    left
    simp only [demand]
    cases site.context.find? type with
    | some value => exact ⟨_, .ofOk (by simp) (fun _ _ => ⟨type, rfl⟩) (by simp), fun _ _ => rfl⟩
    | none => exact ⟨_, .ofError (by simp), fun _ _ => rfl⟩
  | contextIsEmpty => exact Or.inl ⟨_, .ofOk (by simp) (by simp) (by simp), fun _ _ => rfl⟩
  | contains key => exact Or.inl ⟨_, .ofOk (by simp) (by simp) (by simp), fun _ _ => rfl⟩
  | parent => exact Or.inl ⟨_, .ofOk (by simp) (by simp) (by simp), fun _ _ => rfl⟩

/-- How a demand goes. What is demanded by a key is requested first. A request that is answered shows
its value, unless a factory was requested to create with. -/
inductive Demanded (world : World) (server : Server) (site : Site) (store : Store) :
    Demand → Except Fault Reply → Store → Prop where
  | reads {wanted : Demand} {outcome : Except Fault Reply}
      (hreads : wanted.Reads world site outcome) :
      Demanded world server site store wanted outcome store
  | refused {wanted : Demand} {key : Key} {type : ValueType} {context : Context} {fault : Fault}
      {later : Store} (hinstance : wanted.instance? = some key)
      (hrequest : world.request server site key type context store = (.error fault, later)) :
      Demanded world server site store wanted (.error fault) later
  | shows {wanted : Demand} {key : Key} {type : ValueType} {context : Context}
      {provider : Provider} {value : Value} {reply : Reply} {later : Store}
      (hinstance : wanted.instance? = some key)
      (hrequest : world.request server site key type context store = (.ok (provider, value), later))
      (hsaw : reply.saw = .value type value) (hkept : reply.kept ⊆ [provider]) :
      Demanded world server site store wanted (.ok reply) later
  | mistyped {key : Key} {product : TypeName} {arguments : String} {provider : Provider}
      {serial : Nat} {kept : List Provider} {later : Store}
      (hrequest : world.request server site key (.factory product) site.context store =
        (.ok (provider, .object serial kept), later)) :
      Demanded world server site store (.create key product arguments)
        (.error (.error (.incorrectType key (ValueType.factory product).name))) later
  | fails {key : Key} {product : TypeName} {provider : Provider} {fault : Fault}
      {middle later : Store} (made : AssistedFactory) (arguments : String)
      (hrequest : world.request server site key (.factory product) site.context store =
        (.ok (provider, .factory made), middle))
      (hcreate : server (.create made arguments) middle = (.error fault, later)) :
      Demanded world server site store (.create key product arguments) (.error fault) later
  | creates {key : Key} {product : TypeName} {provider : Provider} {value : Value}
      {middle later : Store} (made : AssistedFactory) (arguments : String)
      (hrequest : world.request server site key (.factory product) site.context store =
        (.ok (provider, .factory made), middle))
      (hcreate : server (.create made arguments) middle = (.ok value, later)) :
      Demanded world server site store (.create key product arguments)
        (.ok ⟨.value (.object product) value, []⟩) later

theorem demanded_of_demand {outcome : Except Fault Reply}
    (h : world.demand server site wanted store = (outcome, later)) :
    world.Demanded server site store wanted outcome later := by
  rcases demand_cases world site wanted with
    ⟨fixed, hreads, hfixed⟩ | ⟨key, type, context, reply, hinstance, hreply, hrequest⟩ |
      ⟨key, product, arguments, rfl⟩
  · simp only [hfixed] at h
    cases h
    exact .reads hreads
  · simp only [hrequest] at h
    rcases hanswer : world.request server site key type context store with ⟨answer, middle⟩
    simp only [hanswer] at h
    rcases answer with fault | ⟨provider, value⟩
    · cases h
      exact .refused hinstance hanswer
    · cases h
      exact .shows hinstance hanswer (hreply provider value).1 (hreply provider value).2
  · simp only [demand] at h
    split at h
    · next hanswer =>
      cases h
      exact .refused rfl hanswer
    · next hanswer =>
      cases h
      exact .mistyped hanswer
    · next hanswer =>
      split at h
      · next hcreate =>
        cases h
        exact .fails _ _ hanswer hcreate
      · next hcreate =>
        cases h
        exact .creates _ _ hanswer hcreate

end World
end ObjectGraph
