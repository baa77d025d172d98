import ObjectGraph.Proofs.Compile.Sound
import ObjectGraph.Proofs.Live.Located

/-!
# Wired plans — which compilations have constructors that fit

A registration is shared by all components that host its key, so the entries of a key must agree on
what they call for: a constructor, a factory or neither. Then it is enough to register for every
hosted key what its entries call for.

* `ProviderKind.call`, `Plan.Uniform` — what an entry calls for, and plans without disagreement;
* `Supplier.blueprint` — a blueprint that registers what is called for;
* `Plan.uniform_of_wire` — constructors that fit a plan make its entries agree;
* `Supplier.exists_wire` — a uniform plan is wired by any supplier.
-/

namespace ObjectGraph

/-! ## What is called for -/

/-- The sorts of registrations. A cast changes the type of a value that is made elsewhere, so it
counts as none. -/
inductive Call where
  | constructor
  | factory
  | nothing
  deriving DecidableEq, Repr

def ProviderKind.call : ProviderKind → Call
  | .scoped | .unscoped => .constructor
  | .factory => .factory
  | .aliasOf | .assistedOnly => .nothing

/-- What a key without or with a registration answers. -/
def Call.ofRegistration? : Option Registration → Call
  | some (.construct _ _ _) => .constructor
  | some (.factory _ _) => .factory
  | some (.cast _ _ _) | none => .nothing

namespace Plan

def entries (plan : Plan) : List Entry :=
  plan.components.flatMap (·.providers)

/-- Entries of one key call for the same, in whatever components they stand. -/
def Uniform (plan : Plan) : Prop :=
  ∀ first ∈ plan.entries, ∀ second ∈ plan.entries, first.key = second.key →
    first.kind.call = second.kind.call

instance (plan : Plan) : Decidable plan.Uniform :=
  inferInstanceAs (Decidable (∀ first ∈ plan.entries, ∀ second ∈ plan.entries,
    first.key = second.key → first.kind.call = second.kind.call))

/-- Whether some component hosts a node of the key that only its factory builds. -/
def isAssistedOnly (plan : Plan) (key : Key) : Bool :=
  plan.entries.any fun entry => entry.key = key && entry.kind = .assistedOnly

end Plan

/-- Something to register for every key, whatever the key may call for. -/
structure Supplier where
  type : Key → ValueType
  context : Key → Option TypeName
  script : Key → List Action
  product : Key → TypeName
  cast : Key → Option (ValueType × ValueType × Conversion)

namespace Supplier

/-- What is registered for the key of an entry. A cast may be left out, and has to be where the key
is one without a registration elsewhere. -/
def registration? (supplier : Supplier) (plan : Plan) (entry : Entry) : Option Registration :=
  match entry.kind with
  | .scoped | .unscoped =>
    some (.construct (supplier.type entry.key) (supplier.context entry.key)
      (supplier.script entry.key))
  | .factory => some (.factory (supplier.product entry.key) (supplier.script entry.key))
  | .aliasOf =>
    if plan.isAssistedOnly entry.key then none
    else (supplier.cast entry.key).map fun cast => .cast cast.1 cast.2.1 cast.2.2
  | .assistedOnly => none

def blueprint (supplier : Supplier) (plan : Plan) : Blueprint :=
  .ofList (plan.entries.filterMap fun entry =>
    (supplier.registration? plan entry).map fun registration => (entry.key, registration))

end Supplier

/-! ## Blueprints that fit -/

namespace Blueprint

variable {blueprint : Blueprint} {plan : Plan}

theorem exists_wire_iff :
    (∃ wiring, blueprint.wire plan = .ok wiring) ↔
      blueprint.unknownKey? plan = none ∧
        ∀ component ∈ plan.components, ∀ entry ∈ component.providers,
          blueprint.entryError? component.id entry = none := by
  have hnone : (∃ wiring, blueprint.wire plan = .ok wiring) ↔ blueprint.error? plan = none := by
    simp only [wire]
    cases blueprint.error? plan <;> simp
  rw [hnone, error?]
  cases blueprint.unknownKey? plan <;> simp

/-- An entry has no error only if it calls for what is registered. -/
theorem call_of_entryError? {component : ComponentId} {entry : Entry}
    (h : blueprint.entryError? component entry = none) :
    entry.kind.call = .ofRegistration? (blueprint.registrations.find? entry.key) := by
  simp only [entryError?] at h
  split at h <;> simp_all [ProviderKind.call, Call.ofRegistration?]

end Blueprint

theorem Plan.mem_entries_iff {plan : Plan} {entry : Entry} :
    entry ∈ plan.entries ↔ ∃ component ∈ plan.components, entry ∈ component.providers :=
  List.mem_flatMap

/-- One registration cannot answer two calls. -/
theorem Plan.uniform_of_wire {blueprint : Blueprint} {plan : Plan} {wiring : Wiring}
    (h : blueprint.wire plan = .ok wiring) : plan.Uniform := by
  have hcall : ∀ entry ∈ plan.entries, entry.kind.call =
      .ofRegistration? (blueprint.registrations.find? entry.key) := by
    intro entry hentry
    rcases Plan.mem_entries_iff.1 hentry with ⟨component, hcomponent, hprovider⟩
    exact Blueprint.call_of_entryError?
      ((Blueprint.exists_wire_iff.1 ⟨wiring, h⟩).2 component hcomponent entry hprovider)
  intro first hfirst second hsecond hkey
  rw [hcall first hfirst, hcall second hsecond, hkey]

/-! ## Hosted keys -/

theorem Graph.Sound.contains_dispatch {graph : Graph} (h : graph.Sound) {node : Node}
    (hnode : node ∈ graph.nodes) : graph.dispatch.contains node.key = true :=
  (h.isSome_dispatch_iff node.key).2 ⟨node.host, node, h.keyed.mem_nodes_iff.1 hnode⟩

/-- The entries of a plan are made of the nodes that the components host. -/
theorem Plan.mem_entries_ofGraph {graph : Graph} (h : graph.Sound) {entry : Entry} :
    entry ∈ (ofGraph graph).entries ↔ ∃ node ∈ graph.nodes, entry = Entry.ofNode graph node := by
  simp only [Plan.mem_entries_iff, ofGraph, List.mem_map]
  constructor
  · rintro ⟨_, ⟨component, _, rfl⟩, hentry⟩
    rcases Option.map_eq_some_iff.1 ((ComponentPlan.mem_providers_iff h.keyed).1 hentry) with
      ⟨node, hlocal, rfl⟩
    exact ⟨node, (h.keyed.of_local? hlocal).1, rfl⟩
  · rintro ⟨node, hnode, rfl⟩
    have hlocal : graph.local? node.host node.key = some node := h.keyed.mem_nodes_iff.1 hnode
    refine ⟨_, ⟨node.host, h.hosted node hnode, rfl⟩, ?_⟩
    exact (ComponentPlan.mem_providers_iff h.keyed).2 (by simp [Entry.ofNode, hlocal])

/-! ## Suppliers -/

/-- The last registration of a key stays. -/
theorem Blueprint.find?_ofList (registrations : List (Key × Registration)) (key : Key) :
    (ofList registrations).registrations.find? key =
      (registrations.reverse.find? fun entry => entry.1 = key).map (·.2) := by
  have hfold : ∀ list : List (Key × Registration),
      (list.foldr (fun entry table => table.insert entry.1 entry.2)
        (Table.empty : Table Key Registration)).find? key =
        (list.find? fun entry => entry.1 = key).map (·.2) := by
    intro list
    induction list with
    | nil => rfl
    | cons first rest ih =>
      simp only [List.foldr_cons, Table.find?_insert, List.find?_cons, ih]
      by_cases hkey : first.1 = key
      · simp [hkey]
      · simp [hkey, Ne.symm hkey]
  simpa only [ofList, List.foldl_eq_foldr_reverse] using hfold registrations.reverse

namespace Supplier

variable {supplier : Supplier} {plan : Plan}

theorem registration?_congr (h : plan.Uniform) {first second : Entry}
    (hfirst : first ∈ plan.entries) (hsecond : second ∈ plan.entries)
    (hkey : first.key = second.key) :
    supplier.registration? plan first = supplier.registration? plan second := by
  have hcall := h first hfirst second hsecond hkey
  have hassisted : ∀ entry ∈ plan.entries, entry.kind = .assistedOnly →
      plan.isAssistedOnly entry.key = true := by
    intro entry hentry hkind
    exact List.any_eq_true.2 ⟨entry, hentry, by simp [hkind]⟩
  -- Different kinds call for the same only in the first two cases and the last two.
  have h1 := hassisted first hfirst
  have h2 := hassisted second hsecond
  simp only [registration?]
  rw [hkey] at h1 ⊢
  cases hk : first.kind <;> cases hk' : second.kind <;> simp_all [ProviderKind.call]

theorem find?_blueprint (h : plan.Uniform) {entry : Entry} (hentry : entry ∈ plan.entries) :
    (supplier.blueprint plan).registrations.find? entry.key =
      supplier.registration? plan entry := by
  -- Whatever is registered for the key stems from an entry of that key.
  have hfrom : ∀ pair ∈ plan.entries.filterMap fun entry =>
      (supplier.registration? plan entry).map fun registration => (entry.key, registration),
      pair.1 = entry.key → supplier.registration? plan entry = some pair.2 := by
    intro pair hpair hkey
    rcases List.mem_filterMap.1 hpair with ⟨other, hother, hmade⟩
    rcases Option.map_eq_some_iff.1 hmade with ⟨registration, hregistration, rfl⟩
    rw [← hregistration]
    exact registration?_congr h hentry hother hkey.symm
  rw [blueprint, Blueprint.find?_ofList]
  cases hfound : List.find? _ _ with
  | some pair =>
    have hkey : pair.1 = entry.key := by
      simpa using List.find?_some hfound
    have hmem := List.mem_reverse.1 (List.mem_of_find?_eq_some hfound)
    exact (hfrom pair hmem hkey).symm
  | none =>
    cases hregistration : supplier.registration? plan entry with
    | none => rfl
    | some registration =>
      have hmem : (entry.key, registration) ∈ plan.entries.filterMap fun entry =>
          (supplier.registration? plan entry).map fun registration => (entry.key, registration) :=
        List.mem_filterMap.2 ⟨entry, hentry, by simp [hregistration]⟩
      have hnot := List.find?_eq_none.1 hfound _ (List.mem_reverse.2 hmem)
      simp at hnot

/-- What is registered for the key of an entry fits the entry. -/
theorem entryError?_eq_none (h : plan.Uniform) {entry : Entry} (hentry : entry ∈ plan.entries)
    (component : ComponentId) :
    (supplier.blueprint plan).entryError? component entry = none := by
  rw [Blueprint.entryError?, find?_blueprint h hentry]
  cases hkind : entry.kind with
  | aliasOf =>
    have hcast : supplier.registration? plan entry = none ∨
        ∃ source target conversion,
          supplier.registration? plan entry = some (.cast source target conversion) := by
      simp only [registration?, hkind]
      split
      · exact .inl rfl
      · cases supplier.cast entry.key with
        | none => exact .inl rfl
        | some cast => exact .inr ⟨cast.1, cast.2.1, cast.2.2, rfl⟩
    rcases hcast with hnone | ⟨source, target, conversion, hsome⟩
    · simp only [hnone]
    · simp only [hsome]
  | «scoped» => simp [registration?, hkind]
  | unscoped => simp [registration?, hkind]
  | factory => simp [registration?, hkind]
  | assistedOnly => simp [registration?, hkind]

theorem exists_wire (h : plan.Uniform)
    (hdispatch : ∀ entry ∈ plan.entries, plan.dispatch.contains entry.key = true) :
    ∃ wiring, (supplier.blueprint plan).wire plan = .ok wiring := by
  refine Blueprint.exists_wire_iff.2 ⟨?_, ?_⟩
  · apply List.find?_eq_none.2
    intro key hkey
    -- Only keys of entries are registered.
    rcases (Table.mem_keys_iff _).1 hkey with ⟨registration, hfound⟩
    rw [blueprint, Blueprint.find?_ofList] at hfound
    rcases Option.map_eq_some_iff.1 hfound with ⟨pair, hpair, _⟩
    rcases List.mem_filterMap.1 (List.mem_reverse.1 (List.mem_of_find?_eq_some hpair)) with
      ⟨entry, hentry, hmade⟩
    rcases Option.map_eq_some_iff.1 hmade with ⟨_, _, rfl⟩
    have hkey : entry.key = key := by
      simpa using List.find?_some hpair
    simp [← hkey, hdispatch entry hentry]
  · intro component hcomponent entry hentry
    exact entryError?_eq_none h (Plan.mem_entries_iff.2 ⟨component, hcomponent, hentry⟩) _

end Supplier

/-! ## Compilations -/

/-- The plan of a compilation is wired by some blueprint exactly if the entries of each key call for
the same sort of registration in all components that host it. Then every blueprint that registers
for each hosted key what its entries call for does. -/
theorem uniform_plans_can_be_wired {manifest : Manifest} {config : Config}
    {compilation : Compilation} (hcompile : (compile manifest config).result = .ok compilation) :
    let plan := compilation.plan
    ((∃ blueprint wiring, Blueprint.wire blueprint plan = .ok wiring) ↔ plan.Uniform) ∧
    (plan.Uniform → ∀ supplier : Supplier,
      (∃ wiring, (supplier.blueprint plan).wire plan = .ok wiring) ∧
        ∀ entry ∈ plan.entries, (supplier.blueprint plan).registrations.find? entry.key =
          supplier.registration? plan entry) := by
  intro plan
  rcases Compilation.sound hcompile with ⟨hsound, hplan, _⟩
  have hdispatch : ∀ entry ∈ plan.entries, plan.dispatch.contains entry.key = true := by
    intro entry hentry
    simp only [plan, hplan] at hentry ⊢
    rcases (Plan.mem_entries_ofGraph hsound).1 hentry with ⟨node, hnode, rfl⟩
    exact hsound.contains_dispatch hnode
  have hwired : plan.Uniform → ∀ supplier : Supplier,
      ∃ wiring, (supplier.blueprint plan).wire plan = .ok wiring := by
    intro huniform supplier
    exact supplier.exists_wire huniform hdispatch
  refine ⟨⟨?_, ?_⟩, ?_⟩
  · rintro ⟨blueprint, wiring, hwire⟩
    exact Plan.uniform_of_wire hwire
  · intro huniform
    let supplier : Supplier :=
      ⟨fun _ => .object "rt::Alpha", fun _ => none, fun _ => [], fun _ => "rt::Alpha",
        fun _ => none⟩
    rcases hwired huniform supplier with ⟨wiring, hwire⟩
    exact ⟨_, wiring, hwire⟩
  · intro huniform supplier
    exact ⟨hwired huniform supplier, fun entry hentry => supplier.find?_blueprint huniform hentry⟩

/-- A type without parameters, bound to some interfaces. -/
def storage (type : TypeName) (interfaces : List TypeName) (host : ComponentId) : Declaration :=
  .injectable
    { type := .resolved type
      qualifier := none
      scope := none
      parameters := []
      supertypes := interfaces
      bindsTo := interfaces.map .resolved
      factory := none
      runtimeScoped := false
      contributesTo := [host] }

/-- Two components below the root, of which the left one builds a store of its own. -/
def siblings (right : Declaration) : Manifest where
  entryPoint := "App"
  components :=
    [⟨"App", some "Singleton", .component, []⟩, ⟨"Left", none, .subcomponent, ["App"]⟩,
      ⟨"Right", none, .subcomponent, ["App"]⟩]
  modules := []
  declarations := [storage "Store" [] "Left", right]

def siblingHierarchy : Hierarchy :=
  ⟨"App", .ofList [("App", ⟨none, some "Singleton", ["Left", "Right"], 0⟩),
    ("Left", ⟨some "App", none, [], 1⟩), ("Right", ⟨some "App", none, [], 1⟩)]⟩

def siblingCompilation (right : Declaration) : Compilation :=
  ⟨siblings right, (siblings right).graph siblingHierarchy,
    .ofGraph ((siblings right).graph siblingHierarchy)⟩

/-- Both siblings build a store, with a constructor that they share. -/
theorem two_stores_are_wired :
    (compile (siblings (storage "Store" [] "Right")) .default).result =
        .ok (siblingCompilation (storage "Store" [] "Right")) ∧
      ∃ blueprint wiring,
        Blueprint.wire blueprint (siblingCompilation (storage "Store" [] "Right")).plan =
          .ok wiring := by
  have hresolve : ((siblings (storage "Store" [] "Right")).resolveHierarchy .default).1 =
      some siblingHierarchy := by
    decide +kernel
  have hcompile := compile_eq_ok_of_errors hresolve (by decide +kernel)
  have huniform : (siblingCompilation (storage "Store" [] "Right")).plan.Uniform := by
    decide +kernel
  exact ⟨hcompile, (uniform_plans_can_be_wired hcompile).1.2 huniform⟩

/-- The right sibling binds the store to a disk, so no registration of the store suits both. -/
theorem bound_store_cannot_be_wired :
    (compile (siblings (storage "Disk" ["Store"] "Right")) .default).result =
        .ok (siblingCompilation (storage "Disk" ["Store"] "Right")) ∧
      ∀ blueprint wiring,
        Blueprint.wire blueprint (siblingCompilation (storage "Disk" ["Store"] "Right")).plan ≠
          .ok wiring := by
  have hresolve : ((siblings (storage "Disk" ["Store"] "Right")).resolveHierarchy .default).1 =
      some siblingHierarchy := by
    decide +kernel
  have hcompile := compile_eq_ok_of_errors hresolve (by decide +kernel)
  have hdiffer : ¬ (siblingCompilation (storage "Disk" ["Store"] "Right")).plan.Uniform := by
    decide +kernel
  refine ⟨hcompile, ?_⟩
  intro blueprint wiring hwire
  exact hdiffer (Plan.uniform_of_wire hwire)

end ObjectGraph
