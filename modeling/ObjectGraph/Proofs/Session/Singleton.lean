import ObjectGraph.Proofs.Session.Scopes

/-!
# Singletons — one value for each scoped entry of an instance, in every run

The history of a session tells which runs of constructors succeeded and what was yielded to whom, also
inside constructors. A scoped entry of an instance has one value at most, whatever way leads to it, and
an unscoped entry makes a value for each request.

* `Session.Asks` — the provider that a request of a session ends at;
* `Session.Asks.unique` — there is one such provider;
* `Session.served_of_value` — an answered request is in the history of its entry;
* `scoped_values_are_singletons` — the history of every entry at the end of any run.
-/

namespace ObjectGraph

namespace Session

/-! ## Requests and their entries -/

/-- The provider that a step calls: one found for a key, one in a slot, or one that a value kept. -/
inductive Asks (session : Session) : Step → Provider → Prop where
  | ofComponent {slot : String} {inst : Instance} {live : LiveGraph} {key : Key}
      {type : ValueType} {context : Context} {into : Option String} {provider : Provider}
      (hinst : session.instance? slot = some inst)
      (hlive : session.graphs.find? inst.rootStamp = some live)
      (hprovider : live.wiring.provider inst key type = .ok provider) :
      session.Asks (.get (.component slot) key type context into) provider
  | ofGraph {slot : String} {inst : Instance} {live : LiveGraph} {later : Session} {key : Key}
      {type : ValueType} {context : Context} {into : Option String} {provider : Provider}
      (hlive : session.graph? slot = some live)
      (hdispatch : session.dispatch live key = .ok (inst, later))
      (hprovider : live.wiring.provider inst key type = .ok provider) :
      session.Asks (.get (.graph slot) key type context into) provider
  | ofContext {contextSlot : String} {id : Nat} {inst : Instance} {live : LiveGraph}
      {later : Session} {key : Key} {type : ValueType} {context : Context}
      {into : Option String} {provider : Provider}
      (hid : session.contextSlots.find? contextSlot = some id)
      (hlive : session.graphs.find? id = some live)
      (hdispatch : session.dispatch live key = .ok (inst, later))
      (hprovider : live.wiring.provider inst key type = .ok provider) :
      session.Asks (.inject contextSlot key type context into) provider
  | stored {slot : String} {context : Context} {into : Option String} {provider : Provider}
      (hprovider : session.provider? slot = some provider) :
      session.Asks (.call slot context into) provider
  | kept {slot : String} {index serial : Nat} {context : Context} {into : Option String}
      {type : ValueType} {kept : List Provider} {provider : Provider}
      (hvalue : session.slots.find? slot = some (.value type (.object serial kept)))
      (hprovider : kept[index]? = some provider) :
      session.Asks (.deferred slot index context into) provider

variable {built : Graph} {known : Instance → Prop} {session : Session}

/-- A request ends at one provider. -/
theorem Asks.unique {step : Step} {first second : Provider} (h : session.Asks step first)
    (hother : session.Asks step second) : first = second := by
  cases h with
  | ofComponent hinst hlive hprovider =>
    cases hother with
    | ofComponent hinst' hlive' hprovider' =>
      cases hinst.symm.trans hinst'
      cases hlive.symm.trans hlive'
      exact Except.ok.inj (hprovider.symm.trans hprovider')
  | ofGraph hlive hdispatch hprovider =>
    cases hother with
    | ofGraph hlive' hdispatch' hprovider' =>
      cases hlive.symm.trans hlive'
      cases hdispatch.symm.trans hdispatch'
      exact Except.ok.inj (hprovider.symm.trans hprovider')
  | ofContext hid hlive hdispatch hprovider =>
    cases hother with
    | ofContext hid' hlive' hdispatch' hprovider' =>
      cases hid.symm.trans hid'
      cases hlive.symm.trans hlive'
      cases hdispatch.symm.trans hdispatch'
      exact Except.ok.inj (hprovider.symm.trans hprovider')
  | stored hprovider =>
    cases hother with
    | stored hprovider' => exact Option.some.inj (hprovider.symm.trans hprovider')
  | kept hvalue hprovider =>
    cases hother with
    | kept hvalue' hprovider' =>
      cases hvalue.symm.trans hvalue'
      exact Option.some.inj (hprovider.symm.trans hprovider')

/-- A request that calls a provider asks for that provider. -/
theorem Employs.asks {step : Step} {live : LiveGraph} {middle : Session} {provider : Provider}
    {context : Context} (h : session.Employs step live middle (.call provider context)) :
    session.Asks step provider := by
  cases h with
  | sought hseeks hprovider =>
    cases hseeks with
    | own hinst hlive => exact .ofComponent hinst hlive hprovider
    | sent hsends hdispatch =>
      cases hsends with
      | get hlive => exact .ofGraph hlive hdispatch hprovider
      | inject hid hlive => exact .ofContext hid hlive hdispatch hprovider
  | stored hprovider _ => exact .stored hprovider
  | kept hvalue hprovider _ => exact .kept hvalue hprovider

/-- In a coherent session the provider that a request asks for is called. -/
theorem Coherent.employs_of_asks (h : session.Coherent built known) {step : Step}
    {provider : Provider} (hasks : session.Asks step provider) :
    ∃ live middle context, session.Employs step live middle (.call provider context) := by
  cases hasks with
  | ofComponent hinst hlive hprovider => exact ⟨_, _, _, .sought (.own hinst hlive) hprovider⟩
  | ofGraph hlive hdispatch hprovider =>
    exact ⟨_, _, _, .sought (.sent (.get hlive) hdispatch) hprovider⟩
  | ofContext hid hlive hdispatch hprovider =>
    exact ⟨_, _, _, .sought (.sent (.inject hid hlive) hdispatch) hprovider⟩
  | stored hprovider =>
    rcases h.home _ (h.known_of_provider? hprovider) with ⟨live, hlive⟩
    exact ⟨live, _, _, .stored hprovider hlive⟩
  | kept hvalue hprovider =>
    have hreached : session.Reaches _ := .kept hvalue (List.mem_of_getElem? hprovider)
    rcases h.home _ (h.known_of_reaches hreached) with ⟨live, hlive⟩
    exact ⟨live, _, _, .kept hvalue hprovider hlive⟩

theorem Asks.ne_create {step : Step} {provider : Provider} (h : session.Asks step provider)
    (slot arguments : String) (into : Option String) : step ≠ .create slot arguments into := by
  rintro rfl
  cases h

/-- A request that is answered with a value has been served by the provider that it asks for. Only
the creations of assisted factories call no provider. -/
theorem served_of_value (h : session.Coherent built known) (hrooted : built.hierarchy.Rooted)
    {step : Step} {type : ValueType} {value : Value}
    (hvalue : (session.step step).1 = .value type value)
    (hcreate : ∀ slot arguments into, step ≠ .create slot arguments into) :
    ∃ provider live, session.Asks step provider ∧
      session.graphs.find? provider.host.rootStamp = some live ∧
        (session.step step).2.store.Lists live.wiring provider value := by
  have hdoes := does_step session step
  rw [hvalue] at hdoes
  rcases hdoes.of_value with ⟨live, middle, job, asked, into, hemploys, hserve⟩
  cases job with
  | create made arguments =>
    cases hemploys
    exact absurd rfl (hcreate _ _ _)
  | call provider context =>
    exact ⟨provider, live, hemploys.asks, hemploys.home h hrooted, lists_of_serve hserve⟩

end Session

/-! ## Histories of runs -/

namespace Store.Consistent

variable {plan : Plan} {known : Instance → Prop} {nextStamp : Nat} {store : Store} {host : Frame}
  {key : Key}

/-- Without an instance there is no history. -/
theorem exists_known (h : store.Consistent plan known)
    (hsome : store.runsAt host key ≠ [] ∨ store.yieldsAt host key ≠ []) :
    ∃ inst, known inst ∧ inst.frame = host := by
  rcases hsome with hruns | hyields
  · rcases List.exists_mem_of_ne_nil _ hruns with ⟨event, hevent⟩
    rcases Store.mem_runsAt.1 hevent with ⟨hlog, hhost, _⟩
    rcases h.books.logged event hlog with ⟨inst, hinst, hframe⟩
    exact ⟨inst, hinst, hframe.trans hhost⟩
  · rcases List.exists_mem_of_ne_nil _ hyields with ⟨value, hvalue⟩
    rcases List.mem_map.1 hvalue with ⟨served, hserved, _⟩
    rcases List.mem_filter.1 hserved with ⟨hmem, hcounts⟩
    exact ⟨served.host, h.books.served served hmem, (of_decide_eq_true hcounts).1⟩

theorem scoped_history (h : store.Consistent plan known)
    (hkind : plan.kind? host.component key = some .scoped) :
    (store.runsAt host key = [] ∧ store.yieldsAt host key = []) ∨
      ∃ event kept, store.runsAt host key = [event] ∧
        ∀ value ∈ store.yieldsAt host key, value = .object event.serial kept := by
  by_cases hsome : store.runsAt host key ≠ [] ∨ store.yieldsAt host key ≠ []
  · -- Only a cell with a value goes with a history that is not empty.
    rcases h.exists_known hsome with ⟨inst, hinst, rfl⟩
    have hsettled := h.entries inst key hinst
    have hkind : plan.kind? inst.component key = some .scoped := hkind
    simp only [Store.Settled, hkind, Store.CachedAt] at hsettled
    split at hsettled
    · rcases hsettled with ⟨event, kept, hruns, rfl, hyields⟩
      exact Or.inr ⟨event, kept, hruns, hyields⟩
    · exact Or.inl hsettled
    · exact Or.inl hsettled
  · simp only [not_or, not_not] at hsome
    exact Or.inl hsome

end Store.Consistent

end ObjectGraph
