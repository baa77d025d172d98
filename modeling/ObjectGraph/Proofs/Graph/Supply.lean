import Mathlib.Data.List.Induction
import Mathlib.Data.List.Perm.Basic
import ObjectGraph.Graph.Classify

/-!
# Supplies — where each parameter goes

Splitting parameters is one pass over them. What has been collected when it comes to a parameter, and the
faults found so far, depend on the parameters before it alone, so everything here is by induction on the
parameters from the end: one lemma says what one more parameter adds.

* `Supply.ofParameters`, `supply_splitParameters` — what is collected, faults or not;
* `Parameter.fault?`, `parameterFaults`, `errors_splitParameters` — what is wrong with each parameter;
* `Suppliable`, `errors_splitParameters_eq_nil_iff` — parameters that can be supplied;
* `Supply.Exact` — the parameters of each sort in order, and each parameter in one place;
* `parameters_are_split_exactly` — all of it for any list of parameters.
-/

namespace ObjectGraph

/-! ## One parameter -/

namespace Parameter

/-- The key of a regular parameter that asks for it in the given way. -/
def requestedKey? (request : Request) (parameter : Parameter) : Option Key :=
  if parameter.kind = .regular ∧ parameter.request = request then parameter.key? else none

/-- What the caller is to hand over, if the type is known. -/
def assistedEntry? (parameter : Parameter) : Option (String × TypeRef) :=
  if parameter.kind = .assisted then
    parameter.type.name?.map fun _ => (parameter.name, parameter.type)
  else none

/-- What the site is to hand over, if the type is known. -/
def contextEntry? (parameter : Parameter) : Option (String × TypeName) :=
  if parameter.kind = .runtimeContext then
    parameter.type.name?.map fun name => (parameter.name, name)
  else none

/-- What is wrong with a parameter behind others: its type is unknown, or it is a runtime context and one
of the others, whose type is known, is one already. -/
def fault? (declaration : String) (earlier : List Parameter) (parameter : Parameter) :
    Option GraphError :=
  match parameter.type with
  | .unresolved raw => some (.unresolvedType declaration raw)
  | .resolved _ =>
    if parameter.kind = .runtimeContext ∧
        ∃ other ∈ earlier, other.kind = .runtimeContext ∧ other.type.name?.isSome = true then
      some (.multipleRuntimeContexts declaration)
    else none

theorem isSome_contextEntry? (parameter : Parameter) :
    parameter.contextEntry?.isSome = true ↔
      parameter.kind = .runtimeContext ∧ parameter.type.name?.isSome = true := by
  unfold contextEntry?
  split
  · next hkind => simp [hkind]
  · next hkind => simp [hkind]

end Parameter

namespace Split

/-- A parameter is appended to the entries of its sort. A context stays the first one. -/
theorem supply_add (declaration : String) (split : Split) (parameter : Parameter) :
    (split.add declaration parameter).supply =
      { dependencies := split.supply.dependencies ++ (parameter.requestedKey? .direct).toList
        deferred := split.supply.deferred ++ (parameter.requestedKey? .deferred).toList
        assisted := split.supply.assisted ++ parameter.assistedEntry?.toList
        context := split.supply.context.or parameter.contextEntry? } := by
  rcases parameter with ⟨name, type, qualifier, kind, request⟩
  cases type with
  | unresolved raw =>
    -- Nothing is collected for an unknown type, whatever the kind of the parameter.
    simp [add, fail, Parameter.requestedKey?, Parameter.key?, Parameter.assistedEntry?,
      Parameter.contextEntry?, TypeRef.name?]
  | resolved type =>
    cases kind with
    | regular =>
      cases request <;>
        simp [add, Parameter.requestedKey?, Parameter.key?, Parameter.assistedEntry?,
          Parameter.contextEntry?, TypeRef.name?]
    | assisted =>
      simp [add, Parameter.requestedKey?, Parameter.assistedEntry?, Parameter.contextEntry?,
        TypeRef.name?]
    | runtimeContext =>
      rcases split with ⟨⟨dependencies, deferred, assisted, context⟩, errors⟩
      cases context <;>
        simp [add, fail, Parameter.requestedKey?, Parameter.assistedEntry?,
          Parameter.contextEntry?, TypeRef.name?]

theorem errors_add (declaration : String) {split : Split} {earlier : List Parameter}
    (h : split.supply.context.isSome = true ↔
      ∃ other ∈ earlier, other.kind = .runtimeContext ∧ other.type.name?.isSome = true)
    (parameter : Parameter) :
    (split.add declaration parameter).errors =
      split.errors ++ (parameter.fault? declaration earlier).toList := by
  rcases parameter with ⟨name, type, qualifier, kind, request⟩
  cases type with
  | unresolved raw => simp [add, fail, Parameter.fault?]
  | resolved type =>
    cases kind with
    | regular => cases request <;> simp [add, Parameter.fault?]
    | assisted => simp [add, Parameter.fault?]
    | runtimeContext =>
      simp only [Parameter.fault?, ← h]
      cases hcontext : split.supply.context <;> simp [add, fail, hcontext]

end Split

/-! ## All parameters -/

/-- The parameters of known types by how they are supplied. Of several contexts the first one counts. -/
def Supply.ofParameters (parameters : List Parameter) : Supply where
  dependencies := parameters.filterMap (Parameter.requestedKey? .direct)
  deferred := parameters.filterMap (Parameter.requestedKey? .deferred)
  assisted := parameters.filterMap Parameter.assistedEntry?
  context := parameters.findSome? Parameter.contextEntry?

/-- What is wrong with the parameters, each seen behind those before it. -/
def parameterFaults (declaration : String) (parameters : List Parameter) : List GraphError :=
  parameters.zipIdx.filterMap fun entry =>
    entry.1.fault? declaration (parameters.take entry.2)

section Splits

variable (declaration : String)

theorem splitParameters_concat (earlier : List Parameter) (parameter : Parameter) :
    splitParameters declaration (earlier ++ [parameter]) =
      (splitParameters declaration earlier).add declaration parameter := by
  simp [splitParameters]

theorem parameterFaults_concat (earlier : List Parameter) (parameter : Parameter) :
    parameterFaults declaration (earlier ++ [parameter]) =
      parameterFaults declaration earlier ++ (parameter.fault? declaration earlier).toList := by
  -- A parameter before the last one sees the same parameters as without the last one.
  have hearlier : (earlier.zipIdx.filterMap fun entry =>
      entry.1.fault? declaration ((earlier ++ [parameter]).take entry.2)) =
        parameterFaults declaration earlier := by
    refine List.filterMap_congr ?_
    intro entry hentry
    have hlt : entry.2 < earlier.length := by
      have hposition := (List.mem_zipIdx hentry).2.1
      omega
    have htake : (earlier ++ [parameter]).take entry.2 = earlier.take entry.2 :=
      List.take_append_of_le_length (Nat.le_of_lt hlt)
    simp only [htake]
  have hlast : (earlier ++ [parameter]).take earlier.length = earlier := by simp
  simp only [parameterFaults, List.zipIdx_append, List.filterMap_append] at hearlier ⊢
  rw [hearlier]
  cases hfault : parameter.fault? declaration earlier <;> simp [hlast, hfault]

theorem supply_splitParameters (parameters : List Parameter) :
    (splitParameters declaration parameters).supply = Supply.ofParameters parameters := by
  induction parameters using List.reverseRecOn with
  | nil => rfl
  | append_singleton earlier parameter ih =>
    have hone {α : Type} (part? : Parameter → Option α) :
        [parameter].filterMap part? = (part? parameter).toList := by
      cases hpart : part? parameter <;> simp [hpart]
    simp only [splitParameters_concat, Split.supply_add, ih, Supply.ofParameters,
      List.filterMap_append, List.findSome?_append, hone]
    simp

/-- A context is collected exactly if some parameter of a known type is one. -/
theorem isSome_context_splitParameters (parameters : List Parameter) :
    (splitParameters declaration parameters).supply.context.isSome = true ↔
      ∃ other ∈ parameters, other.kind = .runtimeContext ∧ other.type.name?.isSome = true := by
  simp only [supply_splitParameters, Supply.ofParameters, List.findSome?_isSome_iff,
    Parameter.isSome_contextEntry?]

theorem errors_splitParameters (parameters : List Parameter) :
    (splitParameters declaration parameters).errors = parameterFaults declaration parameters := by
  induction parameters using List.reverseRecOn with
  | nil => rfl
  | append_singleton earlier parameter ih =>
    calc (splitParameters declaration (earlier ++ [parameter])).errors
      _ = ((splitParameters declaration earlier).add declaration parameter).errors := by
        rw [splitParameters_concat]
      _ = (splitParameters declaration earlier).errors ++
          (parameter.fault? declaration earlier).toList :=
        Split.errors_add declaration (isSome_context_splitParameters declaration earlier) parameter
      _ = parameterFaults declaration (earlier ++ [parameter]) := by
        rw [ih, parameterFaults_concat]

end Splits

/-! ## Parameters that can be supplied -/

/-- All types are known, and the site is asked for one context at most. -/
def Suppliable (parameters : List Parameter) : Prop :=
  (∀ parameter ∈ parameters, parameter.type.name?.isSome = true) ∧
    parameters.countP (·.kind = .runtimeContext) ≤ 1

/-- One more parameter is without fault if its type is known and it is not a second context. -/
theorem Parameter.fault?_eq_none_iff {declaration : String} {earlier : List Parameter}
    (hknown : ∀ other ∈ earlier, other.type.name?.isSome = true) (parameter : Parameter) :
    parameter.fault? declaration earlier = none ↔
      parameter.type.name?.isSome = true ∧
        (parameter.kind = .runtimeContext → earlier.countP (·.kind = .runtimeContext) = 0) := by
  have hnone : earlier.countP (·.kind = .runtimeContext) = 0 ↔
      ∀ other ∈ earlier, other.kind ≠ .runtimeContext := by
    simp [List.countP_eq_zero]
  rw [hnone]
  rcases parameter with ⟨name, type, qualifier, kind, request⟩
  cases type with
  | unresolved raw => simp [fault?, TypeRef.name?]
  | resolved type =>
    -- Among known types the contexts are those of that kind.
    have hcontexts : (∃ other ∈ earlier, other.kind = .runtimeContext ∧
        other.type.name?.isSome = true) ↔ ∃ other ∈ earlier, other.kind = .runtimeContext := by
      refine exists_congr fun other => and_congr_right fun hother => ?_
      simp only [hknown other hother, and_true]
    simp only [fault?, hcontexts]
    by_cases hkind : kind = .runtimeContext
    · simp [hkind, TypeRef.name?]
    · simp [hkind, TypeRef.name?]

theorem suppliable_concat_iff (declaration : String) (earlier : List Parameter)
    (parameter : Parameter) : Suppliable (earlier ++ [parameter]) ↔
      Suppliable earlier ∧ parameter.fault? declaration earlier = none := by
  constructor
  · rintro ⟨hknown, hcount⟩
    rcases List.forall_mem_append.1 hknown with ⟨hearlier, hparameter⟩
    rw [List.countP_append] at hcount
    refine ⟨⟨hearlier, by omega⟩, (parameter.fault?_eq_none_iff hearlier).2 ⟨?_, ?_⟩⟩
    · exact hparameter parameter (List.mem_singleton_self parameter)
    · -- There is room for one context only, and this is it.
      intro hkind
      have hone : [parameter].countP (·.kind = .runtimeContext) = 1 := by simp [hkind]
      omega
  · rintro ⟨⟨hearlier, hcount⟩, hfault⟩
    rcases (parameter.fault?_eq_none_iff hearlier).1 hfault with ⟨hknown, hfirst⟩
    refine ⟨List.forall_mem_append.2 ⟨hearlier, by simpa using hknown⟩, ?_⟩
    rw [List.countP_append]
    by_cases hkind : parameter.kind = .runtimeContext
    · simp [hkind, hfirst hkind]
    · simpa [hkind] using hcount

theorem parameterFaults_eq_nil_iff (declaration : String) (parameters : List Parameter) :
    parameterFaults declaration parameters = [] ↔ Suppliable parameters := by
  induction parameters using List.reverseRecOn with
  | nil => simp [parameterFaults, Suppliable]
  | append_singleton earlier parameter ih =>
    rw [parameterFaults_concat, List.append_eq_nil_iff, ih, Option.toList_eq_nil_iff,
      suppliable_concat_iff declaration]

theorem errors_splitParameters_eq_nil_iff (declaration : String) (parameters : List Parameter) :
    (splitParameters declaration parameters).errors = [] ↔ Suppliable parameters := by
  rw [errors_splitParameters, parameterFaults_eq_nil_iff]

/-! ## Exact supplies -/

/-- A parameter as what a constructor is handed for it. -/
inductive Argument where
  | constructed (key : Key)
  | deferred (key : Key)
  | assisted (name : String) (type : TypeRef)
  | context (name : String) (type : TypeName)
  deriving DecidableEq, Repr

/-- What a parameter of a known type is supplied with. -/
def Parameter.argument (parameter : Parameter) : Argument :=
  match parameter.kind, parameter.request with
  | .regular, .direct => .constructed ⟨parameter.type.text, parameter.qualifier⟩
  | .regular, .deferred => .deferred ⟨parameter.type.text, parameter.qualifier⟩
  | .assisted, _ => .assisted parameter.name parameter.type
  | .runtimeContext, _ => .context parameter.name parameter.type.text

/-- Everything that is supplied, sort by sort. -/
def Supply.arguments (supply : Supply) : List Argument :=
  supply.dependencies.map .constructed ++ supply.deferred.map .deferred ++
    supply.assisted.map (fun entry => .assisted entry.1 entry.2) ++
    supply.context.toList.map fun entry => .context entry.1 entry.2

/-- Each sort holds the parameters of this sort in their order, and altogether each parameter is there
once. -/
structure Supply.Exact (supply : Supply) (parameters : List Parameter) : Prop where
  dependencies_eq : supply.dependencies =
    (parameters.filter fun parameter =>
      parameter.kind = .regular ∧ parameter.request = .direct).map fun parameter =>
        ⟨parameter.type.text, parameter.qualifier⟩
  deferred_eq : supply.deferred =
    (parameters.filter fun parameter =>
      parameter.kind = .regular ∧ parameter.request = .deferred).map fun parameter =>
        ⟨parameter.type.text, parameter.qualifier⟩
  assisted_eq : supply.assisted =
    (parameters.filter fun parameter => parameter.kind = .assisted).map fun parameter =>
      (parameter.name, parameter.type)
  context_eq : supply.context.toList =
    (parameters.filter fun parameter => parameter.kind = .runtimeContext).map fun parameter =>
      (parameter.name, parameter.type.text)
  arguments_perm : supply.arguments.Perm (parameters.map Parameter.argument)

/-- The parameters sort by sort. -/
def parametersBySort (parameters : List Parameter) : List Parameter :=
  parameters.filter (fun parameter => parameter.kind = .regular ∧ parameter.request = .direct) ++
    parameters.filter (fun parameter =>
      parameter.kind = .regular ∧ parameter.request = .deferred) ++
    parameters.filter (fun parameter => parameter.kind = .assisted) ++
    parameters.filter fun parameter => parameter.kind = .runtimeContext

theorem parametersBySort_perm (parameters : List Parameter) :
    (parametersBySort parameters).Perm parameters := by
  rw [List.perm_iff_count]
  intro counted
  induction parameters with
  | nil => rfl
  | cons parameter rest ih =>
    -- The first parameter is counted in its own sort and in no other one.
    rcases parameter with ⟨name, type, qualifier, kind, request⟩
    simp only [parametersBySort, List.count_append, List.filter_cons, List.count_cons] at ih ⊢
    cases kind with
    | regular =>
      cases request with
      | direct =>
        simp only [reduceCtorEq, and_false, and_self, decide_true, decide_false,
          Bool.false_eq_true, ↓reduceIte, List.count_cons]
        omega
      | deferred =>
        simp only [reduceCtorEq, and_false, and_self, decide_true, decide_false,
          Bool.false_eq_true, ↓reduceIte, List.count_cons]
        omega
    | assisted =>
      simp only [reduceCtorEq, false_and, decide_true, decide_false, Bool.false_eq_true,
        ↓reduceIte, List.count_cons]
      omega
    | runtimeContext =>
      simp only [reduceCtorEq, false_and, decide_true, decide_false, Bool.false_eq_true,
        ↓reduceIte, List.count_cons]
      omega

section Known

variable {parameters : List Parameter}

section Sorts

variable (hknown : ∀ parameter ∈ parameters, parameter.type.name?.isSome = true)

include hknown

/-- Among known types a sort of parameters yields an entry for each of them. -/
theorem filterMap_known {α : Type} (sort : Parameter → Prop) [DecidablePred sort]
    (entry : Parameter → TypeName → α) :
    (parameters.filterMap fun parameter =>
      if sort parameter then parameter.type.name?.map (entry parameter) else none) =
      (parameters.filter sort).map fun parameter => entry parameter parameter.type.text := by
  have hentries : ∀ parameter ∈ parameters.filter sort,
      parameter.type.name?.map (entry parameter) =
        some (entry parameter parameter.type.text) := by
    intro parameter hparameter
    have hsome := hknown parameter (List.mem_of_mem_filter hparameter)
    cases htype : parameter.type with
    | unresolved raw => simp [htype, TypeRef.name?] at hsome
    | resolved name => simp [TypeRef.name?, TypeRef.text]
  calc (parameters.filterMap fun parameter =>
        if sort parameter then parameter.type.name?.map (entry parameter) else none)
    _ = (parameters.filter sort).filterMap fun parameter =>
        parameter.type.name?.map (entry parameter) := by
      simp only [List.filterMap_filter, decide_eq_true_eq]
    _ = (parameters.filter sort).filterMap fun parameter =>
        some (entry parameter parameter.type.text) := List.filterMap_congr hentries
    _ = (parameters.filter sort).map fun parameter => entry parameter parameter.type.text := by
      rw [List.filterMap_eq_map']

theorem filterMap_requestedKey? (request : Request) :
    parameters.filterMap (Parameter.requestedKey? request) =
      (parameters.filter fun parameter =>
        parameter.kind = .regular ∧ parameter.request = request).map fun parameter =>
          ⟨parameter.type.text, parameter.qualifier⟩ :=
  filterMap_known hknown (fun parameter => parameter.kind = .regular ∧ parameter.request = request)
    fun parameter name => (⟨name, parameter.qualifier⟩ : Key)

theorem filterMap_assistedEntry? :
    parameters.filterMap Parameter.assistedEntry? =
      (parameters.filter fun parameter => parameter.kind = .assisted).map fun parameter =>
        (parameter.name, parameter.type) :=
  filterMap_known hknown (fun parameter => parameter.kind = .assisted) fun parameter _ =>
    (parameter.name, parameter.type)

theorem filterMap_contextEntry? :
    parameters.filterMap Parameter.contextEntry? =
      (parameters.filter fun parameter => parameter.kind = .runtimeContext).map fun parameter =>
        (parameter.name, parameter.type.text) :=
  filterMap_known hknown (fun parameter => parameter.kind = .runtimeContext) fun parameter name =>
    (parameter.name, name)

end Sorts

/-- The context is the only parameter of its sort. -/
theorem toList_findSome?_contextEntry? (h : Suppliable parameters) :
    (parameters.findSome? Parameter.contextEntry?).toList =
      (parameters.filter fun parameter => parameter.kind = .runtimeContext).map fun parameter =>
        (parameter.name, parameter.type.text) := by
  have hlength : (parameters.filter fun parameter => parameter.kind = .runtimeContext).length ≤ 1 :=
    List.countP_eq_length_filter ▸ h.2
  rw [← List.head?_filterMap, filterMap_contextEntry? h.1]
  cases hcontexts : parameters.filter fun parameter => parameter.kind = .runtimeContext with
  | nil => simp
  | cons first others =>
    have hothers : others = [] := by
      rw [hcontexts, List.length_cons] at hlength
      exact List.eq_nil_of_length_eq_zero (by omega)
    simp [hothers]

/-- Each sort consists of what its parameters are supplied with. -/
theorem Supply.arguments_ofParameters (h : Suppliable parameters) :
    (Supply.ofParameters parameters).arguments =
      (parametersBySort parameters).map Parameter.argument := by
  have hsort {sort : Parameter → Prop} [DecidablePred sort] {entry : Parameter → Argument}
      (hentry : ∀ parameter, sort parameter → entry parameter = parameter.argument) :
      (parameters.filter sort).map entry = (parameters.filter sort).map Parameter.argument := by
    refine List.map_congr_left fun parameter hparameter => hentry parameter ?_
    simpa using (List.mem_filter.1 hparameter).2
  simp only [arguments, ofParameters, filterMap_requestedKey? h.1, filterMap_assistedEntry? h.1,
    toList_findSome?_contextEntry? h, parametersBySort, List.map_append, List.map_map]
  congr 1
  · congr 1
    · congr 1
      · exact hsort fun parameter hkind => by simp [Parameter.argument, hkind]
      · exact hsort fun parameter hkind => by simp [Parameter.argument, hkind]
    · exact hsort fun parameter hkind => by simp [Parameter.argument, hkind]
  · exact hsort fun parameter hkind => by simp [Parameter.argument, hkind]

/-- What is collected from parameters that can be supplied leaves none of them out. -/
theorem Supply.exact_ofParameters (h : Suppliable parameters) :
    (Supply.ofParameters parameters).Exact parameters where
  dependencies_eq := filterMap_requestedKey? h.1 .direct
  deferred_eq := filterMap_requestedKey? h.1 .deferred
  assisted_eq := filterMap_assistedEntry? h.1
  context_eq := toList_findSome?_contextEntry? h
  arguments_perm :=
    arguments_ofParameters h ▸ (parametersBySort_perm parameters).map Parameter.argument

end Known

/-! ## The split -/

theorem Split.supply?_eq_some {split : Split} {supply : Supply} (h : split.supply? = some supply) :
    split.errors = [] ∧ split.supply = supply := by
  simpa [Split.supply?] using h

theorem Split.errors_ne_nil_of_supply? {split : Split} (h : split.supply? = none) :
    split.errors ≠ [] := by
  simpa [Split.supply?] using h

theorem isSome_supply?_splitParameters (declaration : String) (parameters : List Parameter) :
    (splitParameters declaration parameters).supply?.isSome = true ↔ Suppliable parameters := by
  rw [← errors_splitParameters_eq_nil_iff declaration]
  simp [Split.supply?]

theorem exact_of_supply? {declaration : String} {parameters : List Parameter} {supply : Supply}
    (h : (splitParameters declaration parameters).supply? = some supply) :
    supply.Exact parameters := by
  rcases Split.supply?_eq_some h with ⟨herrors, hsupply⟩
  have hsuppliable := (errors_splitParameters_eq_nil_iff declaration parameters).1 herrors
  rw [← hsupply, supply_splitParameters]
  exact Supply.exact_ofParameters hsuppliable

/-- Parameters are supplied exactly if their types are known and at most one of them is a runtime context.
Then each sort holds its parameters in order, and each parameter is in one place. In any case the errors
are those of the parameters, in order: an unknown type each, whatever is asked for, and a further context
for each one of a known type behind the first one of a known type. -/
theorem parameters_are_split_exactly (declaration : String) (parameters : List Parameter) :
    ((splitParameters declaration parameters).supply?.isSome = true ↔
      (∀ parameter ∈ parameters, parameter.type.name?.isSome = true) ∧
        parameters.countP (·.kind = .runtimeContext) ≤ 1) ∧
    (∀ supply, (splitParameters declaration parameters).supply? = some supply →
      supply.Exact parameters) ∧
    (splitParameters declaration parameters).errors =
      parameters.zipIdx.filterMap fun entry =>
        entry.1.fault? declaration (parameters.take entry.2) :=
  ⟨isSome_supply?_splitParameters declaration parameters, fun _ => exact_of_supply?,
    errors_splitParameters declaration parameters⟩

/-- Parameters of every sort: one is deferred, one comes from the caller and one from the site. -/
def screenParameters : List Parameter :=
  [⟨"clock", .resolved "Clock", some "Utc", .regular, .direct⟩,
    ⟨"api", .resolved "Api", none, .regular, .deferred⟩,
    ⟨"handle", .resolved "Handle", none, .runtimeContext, .direct⟩,
    ⟨"title", .resolved "String", none, .assisted, .direct⟩,
    ⟨"log", .resolved "Log", none, .regular, .direct⟩]

def screenSupply : Supply where
  dependencies := [.qualified "Clock" "Utc", .unqualified "Log"]
  deferred := [.unqualified "Api"]
  assisted := [("title", .resolved "String")]
  context := some ("handle", "Handle")

/-- All five are supplied, and none of them twice. -/
theorem screen_parameters_are_supplied :
    (splitParameters "Screen" screenParameters).supply? = some screenSupply ∧
      screenSupply.Exact screenParameters ∧
      (splitParameters "Screen" screenParameters).errors = [] := by
  have hsupply : (splitParameters "Screen" screenParameters).supply? = some screenSupply := by
    decide +kernel
  rcases parameters_are_split_exactly "Screen" screenParameters with ⟨_, hexact, herrors⟩
  exact ⟨hsupply, hexact screenSupply hsupply, herrors.trans (by decide +kernel)⟩

/-- A context of an unknown type is not the first one. -/
example : (splitParameters "Twice"
    [⟨"zeroth", .unresolved "Handel", none, .runtimeContext, .direct⟩,
      ⟨"first", .resolved "Handle", none, .runtimeContext, .direct⟩,
      ⟨"api", .unresolved "Apl", none, .regular, .deferred⟩,
      ⟨"second", .resolved "Handle", none, .runtimeContext, .direct⟩]).errors =
    [.unresolvedType "Twice" "Handel", .unresolvedType "Twice" "Apl",
      .multipleRuntimeContexts "Twice"] := by
  decide +kernel

end ObjectGraph
