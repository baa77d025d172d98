import ObjectGraph.Compile
import ObjectGraph.Proofs.Graph.Supply
import ObjectGraph.Proofs.Index

/-!
# Stages — where a diagnostic comes from

Every cause of failure belongs to one stage of a compilation, and every stage reports causes of its
own only. The errors of a compilation are therefore told apart by their stage alone.

* `GraphError.stage` — the stage of a cause;
* `GraphError.isFault`, `Manifest.faults_classifyAt` — causes that one declaration is reason enough for;
* `Manifest.stage_of_mem_indexErrors` and its companions — what each stage reports;
* `compile_errors`, `filter_stage_compile` — the errors of a compilation, stage by stage;
* `exists_hierarchy_of_mem_errors` — what takes a hierarchy to be found;
* `mem_compile_errors_iff`, `filterMap_compile_errors` — one cause, one stage.
-/

namespace ObjectGraph

inductive Stage where
  | contributions
  | hierarchy
  | scopes
  | classification
  | orphans
  | shadowing
  | dependencies
  | cycles
  deriving DecidableEq, Repr

def GraphError.stage : GraphError → Stage
  | .unresolvedScopeReference _ _ | .unknownModule _ _ => .contributions
  | .unknownEntryPoint _ | .noRoot _ | .multipleRoots _ | .multipleParents _ _
  | .cyclicHierarchy _ => .hierarchy
  | .ambiguousScope _ _ _ => .scopes
  | .invalidBindTarget _ _ | .invalidBindsArity _ _ | .nonAbstractBinds _
  | .missingAssistedFactory _ | .assistedProvides _ | .assistedFactoryMismatch _ _ _
  | .multipleRuntimeContexts _ | .unresolvedType _ _ | .duplicateBinding _ _ => .classification
  | .orphanDeclaration _ => .orphans
  | .shadowedBinding _ _ _ => .shadowing
  | .directAssistedDependency _ _ | .unsatisfiedDependency _ _ _ => .dependencies
  | .cyclicDependency _ => .cycles

/-- All errors of a list belong to one stage. -/
def OfStage (stage : Stage) (errors : List GraphError) : Prop :=
  ∀ error ∈ errors, error.stage = stage

namespace OfStage

variable {stage : Stage}

theorem nil : OfStage stage [] := by
  intro error h
  simp at h

theorem append {first second : List GraphError} (hfirst : OfStage stage first)
    (hsecond : OfStage stage second) : OfStage stage (first ++ second) := by
  intro error h
  rcases List.mem_append.1 h with h | h
  · exact hfirst error h
  · exact hsecond error h

theorem singleton {error : GraphError} (h : error.stage = stage) : OfStage stage [error] := by
  intro other hother
  rcases List.mem_singleton.1 hother with rfl
  exact h

end OfStage

/-! ## Contributions -/

namespace Manifest

variable (manifest : Manifest)

theorem stage_of_unresolvedTarget? {entry : Contribution} {error : GraphError}
    (h : manifest.unresolvedTarget? entry = some error) : error.stage = .contributions := by
  simp only [unresolvedTarget?] at h
  split at h
  · simp at h
  · cases h
    rfl

theorem stage_of_mem_indexErrors : OfStage .contributions manifest.indexErrors := by
  apply OfStage.append
  · intro error h
    rcases List.mem_filterMap.1 h with ⟨entry, _, herror⟩
    exact manifest.stage_of_unresolvedTarget? herror
  · intro error h
    rcases List.mem_flatMap.1 h with ⟨⟨declaration, position⟩, _, herror⟩
    simp only [declarationIndexErrors] at herror
    split at herror
    · -- The targets of an injectable are checked like those of a component.
      rcases List.mem_filterMap.1 herror with ⟨entry, _, herror⟩
      exact manifest.stage_of_unresolvedTarget? herror
    · split at herror
      · simp at herror
      · rcases List.mem_singleton.1 herror with rfl
        rfl

/-! ## Hierarchies -/

theorem stage_of_mem_severalParents : OfStage .hierarchy manifest.severalParents := by
  intro error h
  rcases List.mem_filterMap.1 h with ⟨component, _, herror⟩
  simp only at herror
  split at herror
  · cases herror
    rfl
  · simp at herror

theorem stage_of_mem_detachedErrors (hierarchy : Hierarchy) :
    OfStage .hierarchy (manifest.detachedErrors hierarchy) := by
  simp only [detachedErrors]
  split
  · exact OfStage.nil
  · exact OfStage.singleton rfl

end Manifest

theorem Hierarchy.stage_of_mem_ambiguousScopes (hierarchy : Hierarchy) :
    OfStage .scopes hierarchy.ambiguousScopes := by
  intro error h
  rcases List.mem_filterMap.1 h with ⟨member, _, herror⟩
  rcases Option.bind_eq_some_iff.1 herror with ⟨scope, _, herror⟩
  rcases Option.map_eq_some_iff.1 herror with ⟨ancestor, _, rfl⟩
  rfl

theorem Hierarchy.stage_of_mem_scopeReport (hierarchy : Hierarchy) (config : Config) :
    OfStage .scopes (hierarchy.scopeReport config).errors := by
  simp only [Hierarchy.scopeReport]
  split
  · exact hierarchy.stage_of_mem_ambiguousScopes
  · exact OfStage.nil

/-- A hierarchy is resolved with errors of the tree first and errors of its scopes second. -/
theorem Manifest.resolveHierarchy_eq_some {manifest : Manifest} {config : Config}
    {hierarchy : Hierarchy} (h : (manifest.resolveHierarchy config).1 = some hierarchy) :
    manifest.isComponent manifest.entryPoint = true ∧
      manifest.rootCandidates = [hierarchy.root] ∧
      hierarchy = manifest.treeAt hierarchy.root ∧
      (manifest.resolveHierarchy config).2.errors =
        (manifest.severalParents ++ manifest.detachedErrors hierarchy) ++
          (hierarchy.scopeReport config).errors := by
  simp only [resolveHierarchy] at h ⊢
  split at h
  · rename_i hentry
    split at h
    · rename_i root hroot
      simp only [Option.some.injEq] at h
      subst h
      simp [hentry, hroot, treeAt, Report.ofErrors]
    · simp at h
    · simp at h
  · simp at h

/-! ## Classification -/

/-- A fault of one declaration, whatever the others are. A duplicate key takes two nodes. -/
def GraphError.isFault : GraphError → Bool
  | .invalidBindTarget _ _ | .invalidBindsArity _ _ | .nonAbstractBinds _
  | .missingAssistedFactory _ | .assistedProvides _ | .assistedFactoryMismatch _ _ _
  | .multipleRuntimeContexts _ | .unresolvedType _ _ => true
  | _ => false

/-- All errors of a list are faults. -/
def Faults (errors : List GraphError) : Prop :=
  ∀ error ∈ errors, error.isFault = true

theorem Faults.ofStage {errors : List GraphError} (h : Faults errors) :
    OfStage .classification errors := by
  intro error herror
  have hfault := h error herror
  cases error <;> first | rfl | exact absurd hfault Bool.false_ne_true

theorem Faults.nil : Faults [] :=
  List.forall_mem_nil _

theorem Faults.append {first second : List GraphError} (hfirst : Faults first)
    (hsecond : Faults second) : Faults (first ++ second) :=
  List.forall_mem_append.2 ⟨hfirst, hsecond⟩

theorem Faults.singleton {error : GraphError} (h : error.isFault = true) : Faults [error] :=
  List.forall_mem_singleton.2 h

theorem Parameter.isFault_of_fault? {declaration : String} {earlier : List Parameter}
    {parameter : Parameter} {error : GraphError}
    (h : parameter.fault? declaration earlier = some error) : error.isFault = true := by
  unfold fault? at h
  split at h
  · cases h
    rfl
  · split at h
    · cases h
      rfl
    · simp at h

theorem faults_splitParameters (declaration : String) (parameters : List Parameter) :
    Faults (splitParameters declaration parameters).errors := by
  rw [errors_splitParameters]
  intro error herror
  rcases List.mem_filterMap.1 herror with ⟨entry, _, hfault⟩
  exact Parameter.isFault_of_fault? hfault

namespace Injectable

theorem isFault_of_bindingTarget {injectable : Injectable} {type : TypeName} {interface : TypeRef}
    {error : GraphError} (h : injectable.bindingTarget type interface = .error error) :
    error.isFault = true := by
  simp only [bindingTarget] at h
  split at h
  · cases h
    rfl
  · split at h
    · simp at h
    · cases h
      rfl

theorem isFault_of_matchedContract {injectable : Injectable} {type : TypeName} {supply : Supply}
    {error : GraphError} (h : injectable.matchedContract type supply = .error error) :
    error.isFault = true := by
  simp only [matchedContract] at h
  split at h
  · cases h
    rfl
  · split at h
    · cases h
      rfl
    · split at h
      · cases h
        rfl
      · simp at h

theorem faults_factory? (injectable : Injectable) (place : Placement) (type : TypeName)
    (supply : Supply) : Faults (injectable.factory? place type supply).errors := by
  simp only [factory?]
  split
  · exact Faults.nil
  · split
    · exact Faults.nil
    · rename_i error herror
      exact Faults.singleton (isFault_of_matchedContract herror)

theorem faults_classify (injectable : Injectable) (place : Placement) :
    Faults (injectable.classify place).errors := by
  unfold classify
  split
  · exact Faults.singleton rfl
  · rename_i type _
    simp only
    split
    · exact faults_splitParameters type injectable.parameters
    · -- The interfaces come before the factory.
      refine Faults.append ?_ (injectable.faults_factory? place type _)
      intro error h
      rcases List.mem_filterMap.1 h with ⟨target, htarget, herror⟩
      rcases List.mem_map.1 htarget with ⟨interface, _, rfl⟩
      cases hbound : injectable.bindingTarget type interface with
      | ok key => simp [hbound, errorOf?] at herror
      | error other =>
        simp [hbound, errorOf?] at herror
        subst herror
        exact isFault_of_bindingTarget hbound

end Injectable

theorem ProvidesFunction.faults_classify (function : ProvidesFunction) (place : Placement) :
    Faults (function.classify place).errors := by
  unfold ProvidesFunction.classify
  simp only
  split
  · exact Faults.singleton rfl
  · split
    · exact faults_splitParameters _ _
    · split
      · exact Faults.nil
      · exact Faults.singleton rfl

theorem BindsFunction.faults_classify (function : BindsFunction) (place : Placement) :
    Faults (function.classify place).errors := by
  unfold BindsFunction.classify
  simp only
  split
  · split
    · split
      · exact Faults.singleton rfl
      · exact Faults.singleton rfl
      · exact Faults.nil
    · exact Faults.singleton rfl
  · exact Faults.singleton rfl

theorem Manifest.faults_classifyAt (manifest : Manifest) (place : Placement) :
    Faults (manifest.classifyAt place).errors := by
  simp only [classifyAt]
  cases manifest.declarations[place.position]? with
  | none => exact Faults.nil
  | some declaration =>
    cases declaration with
    | injectable i => exact i.faults_classify place
    | provides f => exact f.faults_classify place
    | binds f => exact f.faults_classify place

namespace Draft

theorem stage_of_mem_insert {draft : Draft} (h : OfStage .classification draft.errors)
    (node : Node) : OfStage .classification (draft.insert node).errors := by
  simp only [Draft.insert]
  split
  · exact h.append (OfStage.singleton rfl)
  · exact h

theorem stage_of_mem_add {draft : Draft} (h : OfStage .classification draft.errors)
    {classified : Classified} (hclassified : OfStage .classification classified.errors) :
    OfStage .classification (draft.add classified).errors := by
  -- The refused nodes are reported after what the classification reports.
  refine List.foldlRecOn classified.nodes Draft.insert
    (motive := fun draft : Draft => OfStage .classification draft.errors) ?_ ?_
  · exact h.append hclassified
  · intro draft hdraft node _
    exact stage_of_mem_insert hdraft node

end Draft

theorem Manifest.stage_of_mem_draft (manifest : Manifest) (hierarchy : Hierarchy) :
    OfStage .classification (manifest.draft hierarchy).errors := by
  refine List.foldlRecOn (manifest.visits hierarchy) _
    (motive := fun draft : Draft => OfStage .classification draft.errors) OfStage.nil ?_
  intro draft hdraft place _
  exact Draft.stage_of_mem_add hdraft (manifest.faults_classifyAt place).ofStage

/-! ## Checks -/

theorem Manifest.stage_of_mem_orphans (manifest : Manifest) :
    OfStage .orphans manifest.orphans := by
  intro error h
  rcases List.mem_filterMap.1 h with ⟨entry, _, herror⟩
  split at herror
  · cases herror
    rfl
  · simp at herror

namespace Graph

variable (graph : Graph)

theorem stage_of_mem_shadowingReport (config : Config) :
    OfStage .shadowing (graph.shadowingReport config).errors := by
  simp only [shadowingReport]
  split
  · exact OfStage.nil
  · exact OfStage.nil
  · intro error h
    rcases List.mem_filterMap.1 h with ⟨node, _, herror⟩
    rcases Option.map_eq_some_iff.1 herror with ⟨ancestor, _, rfl⟩
    rfl

theorem stage_of_mem_dependencyErrors (config : Config) :
    OfStage .dependencies (graph.dependencyErrors config) := by
  intro error h
  rcases List.mem_flatMap.1 h with ⟨node, _, h⟩
  rcases List.mem_filterMap.1 h with ⟨key, _, herror⟩
  simp only [dependencyError?] at herror
  split at herror
  · split at herror
    · cases herror
      rfl
    · simp at herror
  · split at herror
    · cases herror
      rfl
    · simp at herror

theorem stage_of_mem_cycleErrors : OfStage .cycles graph.cycleErrors := by
  intro error h
  rcases List.mem_map.1 h with ⟨cycle, _, rfl⟩
  rfl

end Graph

/-! ## Compilations -/

/-- The errors of a compilation; none if it succeeds. -/
def CompileResult.errors (result : CompileResult) : List GraphError :=
  match result.result with
  | .ok _ => []
  | .error errors => errors

theorem compile_errors_eq_analyze (manifest : Manifest) (config : Config) :
    (compile manifest config).errors = (manifest.analyze config).2.errors := by
  simp only [compile]
  split
  · rename_i heq
    simp [CompileResult.errors, heq]
  · rename_i heq
    simp [CompileResult.errors, heq]

/-- The errors of a compilation with a hierarchy, one stage after the other. -/
theorem compile_errors {manifest : Manifest} {config : Config} {hierarchy : Hierarchy}
    (h : (manifest.resolveHierarchy config).1 = some hierarchy) :
    (compile manifest config).errors =
      manifest.indexErrors ++ (manifest.severalParents ++ manifest.detachedErrors hierarchy) ++
        (hierarchy.scopeReport config).errors ++ (manifest.draft hierarchy).errors ++
        manifest.orphans ++ ((manifest.graph hierarchy).shadowingReport config).errors ++
        (manifest.graph hierarchy).dependencyErrors config ++
        (manifest.graph hierarchy).cycleErrors := by
  simp only [compile_errors_eq_analyze, Manifest.analyze]
  have herrors := (Manifest.resolveHierarchy_eq_some h).2.2.2
  -- With a hierarchy the later stages are run, each on the graph of the hierarchy.
  generalize manifest.resolveHierarchy config = resolved at h herrors
  rcases resolved with ⟨found, report⟩
  simp only at h herrors
  subst h
  simp [herrors, Manifest.indexReport_eq, Manifest.graphReport, Report.ofErrors,
    Manifest.graph, List.append_assoc]

/-- Without a hierarchy nothing is reported but what keeps it from being one. -/
theorem Manifest.stage_of_mem_unresolved {manifest : Manifest} {config : Config}
    (h : (manifest.resolveHierarchy config).1 = none) :
    OfStage .hierarchy (manifest.resolveHierarchy config).2.errors := by
  simp only [resolveHierarchy] at h ⊢
  split at h
  · rename_i hentry
    simp only [hentry, if_true]
    split at h
    · simp at h
    · exact manifest.stage_of_mem_severalParents.append (OfStage.singleton rfl)
    · exact manifest.stage_of_mem_severalParents.append (OfStage.singleton rfl)
  · rename_i hentry
    rw [if_neg hentry]
    exact OfStage.singleton rfl

/-- A cause of a later stage is only found over a hierarchy. -/
theorem exists_hierarchy_of_mem_errors {manifest : Manifest} {config : Config} {error : GraphError}
    (hmem : error ∈ (compile manifest config).errors) (hindex : error.stage ≠ .contributions)
    (hresolve : error.stage ≠ .hierarchy) :
    ∃ hierarchy, (manifest.resolveHierarchy config).1 = some hierarchy := by
  cases hfound : (manifest.resolveHierarchy config).1 with
  | some hierarchy => exact ⟨hierarchy, rfl⟩
  | none =>
    have hunresolved := Manifest.stage_of_mem_unresolved hfound
    simp only [compile_errors_eq_analyze, Manifest.analyze] at hmem
    generalize manifest.resolveHierarchy config = resolved at hfound hunresolved hmem
    rcases resolved with ⟨found, report⟩
    simp only at hfound
    subst hfound
    simp only [Manifest.indexReport_eq, Report.errors_append, List.mem_append] at hmem
    rcases hmem with hmem | hmem
    · exact absurd (manifest.stage_of_mem_indexErrors error hmem) hindex
    · exact absurd (hunresolved error hmem) hresolve

/-- What each stage reports of a manifest with a hierarchy. -/
def Manifest.stageErrors (manifest : Manifest) (config : Config) (hierarchy : Hierarchy) :
    Stage → List GraphError
  | .contributions => manifest.indexErrors
  | .hierarchy => manifest.severalParents ++ manifest.detachedErrors hierarchy
  | .scopes => (hierarchy.scopeReport config).errors
  | .classification => (manifest.draft hierarchy).errors
  | .orphans => manifest.orphans
  | .shadowing => ((manifest.graph hierarchy).shadowingReport config).errors
  | .dependencies => (manifest.graph hierarchy).dependencyErrors config
  | .cycles => (manifest.graph hierarchy).cycleErrors

theorem Manifest.stage_of_mem_stageErrors (manifest : Manifest) (config : Config)
    (hierarchy : Hierarchy) (stage : Stage) :
    OfStage stage (manifest.stageErrors config hierarchy stage) := by
  cases stage with
  | contributions => exact manifest.stage_of_mem_indexErrors
  | hierarchy =>
    exact manifest.stage_of_mem_severalParents.append (manifest.stage_of_mem_detachedErrors _)
  | scopes => exact hierarchy.stage_of_mem_scopeReport config
  | classification => exact manifest.stage_of_mem_draft hierarchy
  | orphans => exact manifest.stage_of_mem_orphans
  | shadowing => exact (manifest.graph hierarchy).stage_of_mem_shadowingReport config
  | dependencies => exact (manifest.graph hierarchy).stage_of_mem_dependencyErrors config
  | cycles => exact (manifest.graph hierarchy).stage_of_mem_cycleErrors

section OneStage

variable {manifest : Manifest} {config : Config} {hierarchy : Hierarchy}
  (h : (manifest.resolveHierarchy config).1 = some hierarchy)

include h

/-- The errors of one stage are told apart from all others. -/
theorem filter_stage_compile (stage : Stage) :
    (compile manifest config).errors.filter (fun error => error.stage = stage) =
      manifest.stageErrors config hierarchy stage := by
  have hfilter : ∀ other, (manifest.stageErrors config hierarchy other).filter
      (fun error => error.stage = stage) =
        if other = stage then manifest.stageErrors config hierarchy other else [] := by
    intro other
    have hstage := manifest.stage_of_mem_stageErrors config hierarchy other
    split
    · rename_i hsame
      exact List.filter_eq_self.2 fun error herror => by simp [hstage error herror, hsame]
    · rename_i hother
      exact List.filter_eq_nil_iff.2 fun error herror => by simp [hstage error herror, hother]
  have hstages : (compile manifest config).errors =
      [Stage.contributions, .hierarchy, .scopes, .classification, .orphans, .shadowing,
        .dependencies, .cycles].flatMap (manifest.stageErrors config hierarchy) := by
    simp [compile_errors h, Manifest.stageErrors]
  simp only [hstages, List.filter_flatMap, hfilter]
  cases stage <;> simp

theorem mem_compile_errors_iff {error : GraphError} :
    error ∈ (compile manifest config).errors ↔
      error ∈ manifest.stageErrors config hierarchy error.stage := by
  simp only [← filter_stage_compile h, List.mem_filter, decide_true, and_true]

/-- What is read off the errors of a compilation, if it is read off one stage only. -/
theorem filterMap_compile_errors {α : Type} {f : GraphError → Option α} {stage : Stage}
    (hf : ∀ error, f error ≠ none → error.stage = stage) :
    (compile manifest config).errors.filterMap f =
      (manifest.stageErrors config hierarchy stage).filterMap f := by
  have hskipped : (fun error => if decide (error.stage = stage) = true then f error else none) = f := by
    funext error
    by_cases hstage : error.stage = stage
    · simp [hstage]
    · cases hfound : f error with
      | none => simp
      | some value => exact absurd (hf error (by simp [hfound])) hstage
  rw [← filter_stage_compile h stage, List.filterMap_filter, hskipped]

end OneStage

/-- A compilation that succeeds has found no errors, and its graph is the one of its hierarchy. -/
theorem compile_eq_ok {manifest : Manifest} {config : Config} {compilation : Compilation}
    (h : (compile manifest config).result = .ok compilation) :
    ∃ hierarchy, (manifest.resolveHierarchy config).1 = some hierarchy ∧
      (compile manifest config).errors = [] ∧ compilation.manifest = manifest ∧
      compilation.graph = manifest.graph hierarchy ∧
      compilation.plan = .ofGraph (manifest.graph hierarchy) := by
  have herrors : (compile manifest config).errors = [] := by
    simp [CompileResult.errors, h]
  simp only [compile] at h
  split at h
  · -- No errors and a hierarchy, which is the one that was resolved.
    rename_i hierarchy warnings heq
    cases h
    refine ⟨hierarchy, ?_, herrors, rfl, rfl, rfl⟩
    have hfound : (manifest.analyze config).1 = some hierarchy := by
      simp only [heq]
    simp only [Manifest.analyze] at hfound
    split at hfound
    · simp at hfound
    · rename_i hresolve
      simpa [hresolve] using hfound
  · simp at h

/-- With a hierarchy and without errors a compilation succeeds. -/
theorem compile_eq_ok_of_errors {manifest : Manifest} {config : Config} {hierarchy : Hierarchy}
    (h : (manifest.resolveHierarchy config).1 = some hierarchy)
    (herrors : (compile manifest config).errors = []) :
    (compile manifest config).result =
      .ok ⟨manifest, manifest.graph hierarchy, .ofGraph (manifest.graph hierarchy)⟩ := by
  have hanalyze : (manifest.analyze config).1 = some hierarchy := by
    simp only [Manifest.analyze]
    split
    · rename_i hresolve
      simp [hresolve] at h
    · rename_i hresolve
      simpa [hresolve] using h
  simp only [compile_errors_eq_analyze] at herrors
  generalize hanalysis : manifest.analyze config = analysis at hanalyze herrors
  rcases analysis with ⟨found, errors, warnings⟩
  simp only at hanalyze herrors
  subst hanalyze herrors
  simp [compile, hanalysis]

end ObjectGraph
