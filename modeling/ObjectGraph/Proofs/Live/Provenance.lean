import ObjectGraph.Proofs.Live.Serve

/-!
# Provenance — every value belongs to the instance whose entry it was asked of

An object was made by a run for that instance, and an assisted factory belongs to it. Nothing else is
ever yielded, neither by the call of a provider nor by a creation.

* `Value.MadeBy` — a value of an entry of one instance;
* `Store.Consistent.madeBy_of_served` — what the history lists;
* `World.madeBy_of_serveWithin` — what a job yields.
-/

namespace ObjectGraph

/-- An object comes from a successful run at the instance, and a factory is one of its own. -/
def Value.MadeBy (log : List Event) (host : Instance) (key : Key) : Value → Prop
  | .object serial _ => ∃ event ∈ log, event.serial = serial ∧ event.host = host.frame ∧
      event.key = key ∧ event.failed = false
  | .factory made => made.host = host ∧ made.key = key

variable {plan : Plan} {known : Instance → Prop} {nextStamp : Nat} {store later : Store}
  {host : Instance} {key : Key} {value : Value}

/-- The run behind a value is behind all its views. -/
theorem Value.ViewOf.madeBy {log : List Event} {whole : Value} (h : value.ViewOf whole)
    (hwhole : whole.MadeBy log host key) : value.MadeBy log host key := by
  cases h with
  | object _ => exact hwhole
  | factory made => exact hwhole

theorem Value.MadeBy.of_runsAt {event : Event} {kept : List Provider}
    (hrun : event ∈ store.runsAt host.frame key) :
    (Value.object event.serial kept).MadeBy store.log host key := by
  rcases Store.mem_runsAt.1 hrun with ⟨hlog, hhost, hkey, hsucceeded⟩
  exact ⟨event, hlog, rfl, hhost, hkey, hsucceeded⟩

/-- The kind of an entry decides where its values come from. -/
theorem Store.Settled.madeBy (h : store.Settled plan host key)
    (hvalue : value ∈ store.yieldsAt host.frame key) : value.MadeBy store.log host key := by
  have hnone : store.yieldsAt host.frame key = [] → value.MadeBy store.log host key := by
    intro hnil
    simp [hnil] at hvalue
  simp only [Store.Settled, Store.CachedAt, Store.FreshAt, Store.LentAt] at h
  split at h
  · -- A scoped entry yields the value of its only run.
    split at h
    · rcases h with ⟨event, kept, hruns, hcached, hyields⟩
      rw [hyields value hvalue, hcached]
      exact .of_runsAt (by simp [hruns])
    · exact hnone h.2
    · exact hnone h.2
  · -- An unscoped entry yields a value for each run.
    have hserial : value.serial? ∈
        (store.runsAt host.frame key).map fun event => some event.serial :=
      h ▸ List.mem_map_of_mem hvalue
    rcases List.mem_map.1 hserial with ⟨event, hrun, heq⟩
    cases value with
    | object serial kept =>
      cases heq
      exact .of_runsAt hrun
    | factory made => simp [Value.serial?] at heq
  · rcases h value hvalue with ⟨made, rfl, hown, hkey⟩
    exact ⟨hown, hkey⟩
  · exact hnone h
  · exact hnone h
  · exact hnone h

theorem Store.Consistent.madeBy_of_served (h : store.Consistent plan known) {served : Served}
    (hserved : served ∈ store.served) :
    served.value.MadeBy store.log served.host served.key := by
  have hhost : known served.host := h.books.served served hserved
  refine (h.entries served.host served.key hhost).madeBy ?_
  exact List.mem_map.2 ⟨served, List.mem_filter.2 ⟨hserved, by simp⟩, rfl⟩

theorem Store.Consistent.madeBy_of_lists (h : store.Consistent plan known) {wiring : Wiring}
    {provider : Provider} (hlists : store.Lists wiring provider value) :
    value.MadeBy store.log provider.host provider.key := by
  rcases hlists with ⟨made, hserved, rfl⟩
  exact (wiring.view_castAlong _ made).madeBy (h.madeBy_of_served hserved)

namespace World

variable {world : World}

/-- However deep constructions may nest, a job yields a value of its own entry. -/
theorem madeBy_of_serveWithin (census : Census known nextStamp) (hfits : world.wiring.Fits)
    (hplan : world.wiring.plan = plan) {bound : Nat} {job : Job} (hjob : job.Known known)
    (h : store.Consistent plan known)
    (hresult : world.serveWithin bound job store = (.ok value, later)) :
    value.MadeBy later.log job.host job.key := by
  cases job with
  | call provider context =>
    have hfaithful := serveWithin_faithful census hfits hplan bound
    have hlater := (hfaithful.grows hjob h hresult).consistent
    exact hlater.madeBy_of_lists (served_of_serveWithin hresult)
  | create factory arguments =>
    cases bound with
    | zero => simp [serveWithin] at hresult
    | succ bound =>
      simp only [serveWithin, create] at hresult
      split at hresult
      · have hhost : known factory.host := hjob
        split at hresult
        · cases construct_ends census (serveWithin_faithful census hfits hplan bound) hhost h
            hresult with
          | success hsuccess =>
            exact ⟨_, List.mem_append_right _ (List.mem_singleton_self _), rfl, hsuccess.host,
              hsuccess.key, hsuccess.succeeded⟩
        · simp at hresult
      · simp at hresult

end World
end ObjectGraph
