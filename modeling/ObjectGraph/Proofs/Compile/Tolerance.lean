import ObjectGraph.Proofs.Graph.Generated

/-!
# Tolerance — a configuration only filters what a compilation finds

Every stage looks for the same things under every configuration. The configuration decides which of
the findings count as errors and which of the others are voiced as warnings; it neither adds a
finding nor moves one.

* `Config.tolerates`, `Config.voices` — findings that are no errors, and those that warn instead;
* `Config.report` — a list of findings as a configuration reports them;
* `Manifest.exists_findings` — all stages report one list of findings, whatever the configuration;
* `config_filters_findings` — errors and warnings are filters of the strictest errors, and a
  compilation that succeeds does not depend on its configuration.
-/

namespace ObjectGraph

theorem Report.append_assoc (first second third : Report) :
    first ++ second ++ third = first ++ (second ++ third) := by
  have herrors := List.append_assoc first.errors second.errors third.errors
  have hwarnings := List.append_assoc first.warnings second.warnings third.warnings
  exact congrArg₂ Report.mk herrors hwarnings

/-! ## What a configuration lets pass -/

namespace Config

/-- Findings that are not errors. -/
def tolerates (config : Config) : GraphError → Bool
  | .ambiguousScope _ _ _ => !config.rejectAmbiguousScopes
  | .shadowedBinding _ _ _ => config.shadowing != .deny
  | .unsatisfiedDependency _ _ _ => !config.validateDependencies
  | _ => false

/-- Findings that are warnings. An unsatisfied dependency that is not checked is passed over. -/
def voices (config : Config) : GraphError → Bool
  | .ambiguousScope _ _ _ => !config.rejectAmbiguousScopes
  | .shadowedBinding _ _ _ => config.shadowing == .warn
  | _ => false

def report (config : Config) (findings : List GraphError) : Report where
  errors := findings.filter fun finding => !config.tolerates finding
  warnings := (findings.filter config.voices).map .tolerated

@[simp]
theorem strict_tolerates (finding : GraphError) : Config.strict.tolerates finding = false := by
  cases finding <;> rfl

@[simp]
theorem strict_voices (finding : GraphError) : Config.strict.voices finding = false := by
  cases finding <;> rfl

@[simp]
theorem report_strict (findings : List GraphError) :
    Config.strict.report findings = .ofErrors findings := by
  simp [report, Report.ofErrors]

theorem report_append (config : Config) (first second : List GraphError) :
    config.report (first ++ second) = config.report first ++ config.report second := by
  simp only [report, List.filter_append, List.map_append]
  rfl

/-- An error, a warning, and a finding that is passed over. -/
example : Config.report ⟨.warn, true, false⟩
    [.shadowedBinding ⟨"Clock", none⟩ "Cart" "App", .ambiguousScope "Visit" "Cart" "App",
      .unsatisfiedDependency ⟨"Disk", none⟩ ⟨"Clock", none⟩ "Cart"] =
    ⟨[.ambiguousScope "Visit" "Cart" "App"],
      [.tolerated (.shadowedBinding ⟨"Clock", none⟩ "Cart" "App")]⟩ := by
  decide +kernel

end Config

/-! ## Stages -/

/-- Stages that may find what some configuration lets pass. -/
def Stage.isLenient : Stage → Bool
  | .scopes | .shadowing | .dependencies => true
  | .contributions | .hierarchy | .classification | .orphans | .cycles => false

namespace Config

variable (config : Config)

/-- Findings that a configuration treats alike are reported together. -/
theorem report_of_forall {findings : List GraphError} {tolerated voiced : Bool}
    (h : ∀ finding ∈ findings,
      config.tolerates finding = tolerated ∧ config.voices finding = voiced) :
    config.report findings =
      ⟨if tolerated then [] else findings, if voiced then findings.map .tolerated else []⟩ := by
  have hfilter : ∀ (passes : GraphError → Bool) (value : Bool),
      (∀ finding ∈ findings, passes finding = value) →
        findings.filter passes = if value then findings else [] := by
    intro passes value hvalue
    rw [List.filter_congr hvalue]
    cases value <;> simp
  have herrors := hfilter (fun finding => !config.tolerates finding) (!tolerated) (by
    intro finding hfinding
    rw [(h finding hfinding).1])
  have hwarnings := hfilter config.voices voiced fun finding hfinding => (h finding hfinding).2
  simp only [report, herrors, hwarnings]
  cases tolerated <;> cases voiced <;> rfl

theorem passes_of_stage {error : GraphError} (h : error.stage.isLenient = false) :
    config.tolerates error = false ∧ config.voices error = false := by
  cases error <;> first | exact ⟨rfl, rfl⟩ | simp [GraphError.stage, Stage.isLenient] at h

/-- What the other stages find is an error under every configuration. -/
theorem report_of_stage {stage : Stage} {errors : List GraphError} (h : OfStage stage errors)
    (hstage : stage.isLenient = false) : config.report errors = .ofErrors errors := by
  have hpasses : ∀ error ∈ errors,
      config.tolerates error = false ∧ config.voices error = false := by
    intro error herror
    exact config.passes_of_stage (by simpa only [h error herror] using hstage)
  exact config.report_of_forall hpasses

end Config

theorem Hierarchy.scopeReport_eq_report (hierarchy : Hierarchy) (config : Config) :
    hierarchy.scopeReport config = config.report hierarchy.ambiguousScopes := by
  have hall : ∀ finding ∈ hierarchy.ambiguousScopes,
      config.tolerates finding = !config.rejectAmbiguousScopes ∧
        config.voices finding = !config.rejectAmbiguousScopes := by
    intro finding hfinding
    have hstage := hierarchy.stage_of_mem_ambiguousScopes finding hfinding
    cases finding <;> simp [GraphError.stage] at hstage
    exact ⟨rfl, rfl⟩
  rw [config.report_of_forall hall, scopeReport]
  cases config.rejectAmbiguousScopes <;> rfl

namespace Graph

variable (graph : Graph) (config : Config)

theorem shadowingReport_eq_report :
    graph.shadowingReport config = config.report graph.shadowed := by
  have hall : ∀ finding ∈ graph.shadowed,
      config.tolerates finding = (config.shadowing != .deny) ∧
        config.voices finding = (config.shadowing == .warn) := by
    intro finding hfinding
    rcases List.mem_filterMap.1 hfinding with ⟨node, _, hshadowed⟩
    rcases Option.map_eq_some_iff.1 hshadowed with ⟨ancestor, _, rfl⟩
    exact ⟨rfl, rfl⟩
  rw [config.report_of_forall hall, shadowingReport]
  cases config.shadowing <;> rfl

theorem dependencyError?_eq_filter (node : Node) (key : Key) :
    graph.dependencyError? config node key =
      (graph.dependencyError? .strict node key).filter fun error => !config.tolerates error := by
  simp only [dependencyError?]
  cases graph.resolve? node.host key with
  | none => simp [Config.strict, Option.filter_some, Config.tolerates]
  | some target =>
    -- A type that only its factory builds is never tolerated.
    by_cases hassisted : target.isAssisted <;>
      simp [hassisted, Option.filter_some, Config.tolerates]

theorem dependencyErrors_eq_report :
    .ofErrors (graph.dependencyErrors config) = config.report (graph.dependencyErrors .strict) := by
  have herrors : (graph.dependencyErrors .strict).filter (fun error => !config.tolerates error) =
      graph.dependencyErrors config := by
    simp only [dependencyErrors, List.filter_flatMap, List.filter_filterMap,
      ← graph.dependencyError?_eq_filter config]
  have hwarnings : (graph.dependencyErrors .strict).filter config.voices = [] := by
    apply List.filter_eq_nil_iff.2
    intro error herror
    have hstage := graph.stage_of_mem_dependencyErrors .strict error herror
    -- Neither of the two findings of this stage is ever a warning.
    cases error <;> simp [GraphError.stage, Config.voices] at hstage ⊢
  simp only [Config.report, herrors, hwarnings, List.map_nil, Report.ofErrors]

end Graph

/-! ## All stages -/

namespace Manifest

variable (manifest : Manifest)

/-- Whether there is a hierarchy does not depend on the configuration. -/
theorem resolveHierarchy_eq_report :
    ∃ found findings, ∀ config : Config,
      manifest.resolveHierarchy config = (found, config.report findings) := by
  have hfixed : ∀ errors, OfStage .hierarchy errors → ∀ config : Config,
      .ofErrors errors = config.report errors := by
    intro errors herrors config
    exact (config.report_of_stage herrors rfl).symm
  have hparents := manifest.stage_of_mem_severalParents
  simp only [resolveHierarchy]
  split
  · split
    · rename_i root _
      refine ⟨some (manifest.treeAt root), manifest.severalParents ++
        manifest.detachedErrors (manifest.treeAt root) ++ (manifest.treeAt root).ambiguousScopes,
        fun config => ?_⟩
      rw [hfixed _ (hparents.append (manifest.stage_of_mem_detachedErrors _)),
        Hierarchy.scopeReport_eq_report, ← config.report_append]
    · exact ⟨none, _, fun config =>
        congrArg _ (hfixed _ (hparents.append (OfStage.singleton rfl)) config)⟩
    · exact ⟨none, _, fun config =>
        congrArg _ (hfixed _ (hparents.append (OfStage.singleton rfl)) config)⟩
  · exact ⟨none, _, fun config => congrArg _ (hfixed _ (OfStage.singleton rfl) config)⟩

theorem graphReport_eq_report (hierarchy : Hierarchy) :
    ∃ findings, ∀ config : Config,
      manifest.graphReport config hierarchy = config.report findings := by
  let graph := manifest.graph hierarchy
  refine ⟨(manifest.draft hierarchy).errors ++ manifest.orphans ++ graph.shadowed ++
    (graph.dependencyErrors .strict ++ graph.cycleErrors), fun config => ?_⟩
  have hdraft := config.report_of_stage (manifest.stage_of_mem_draft hierarchy) rfl
  have horphans := config.report_of_stage manifest.stage_of_mem_orphans rfl
  have hcycles := config.report_of_stage graph.stage_of_mem_cycleErrors rfl
  simp only [config.report_append, hdraft, horphans, hcycles, ← graph.shadowingReport_eq_report,
    ← graph.dependencyErrors_eq_report]
  rfl

/-- All stages report one list of findings; repeated contributions are warnings of their own. -/
theorem exists_findings :
    ∃ found findings, ∀ config : Config, manifest.analyze config =
      (found, ⟨[], manifest.indexReport.warnings⟩ ++ config.report findings) := by
  rcases manifest.resolveHierarchy_eq_report with ⟨found, early, hearly⟩
  have hindex : ∀ config : Config, manifest.indexReport =
      ⟨[], manifest.indexReport.warnings⟩ ++ config.report manifest.indexErrors := by
    intro config
    rw [config.report_of_stage manifest.stage_of_mem_indexErrors rfl, indexReport_eq]
    exact congrArg (Report.mk _) (List.append_nil _).symm
  cases found with
  | none =>
    refine ⟨none, manifest.indexErrors ++ early, fun config => ?_⟩
    simp only [analyze, hearly, config.report_append, ← Report.append_assoc, ← hindex config]
  | some hierarchy =>
    rcases manifest.graphReport_eq_report hierarchy with ⟨late, hlate⟩
    refine ⟨some hierarchy, manifest.indexErrors ++ early ++ late, fun config => ?_⟩
    simp only [analyze, hearly, hlate, config.report_append, ← Report.append_assoc,
      ← hindex config]

end Manifest

/-! ## Compilations -/

theorem compile_warnings_eq_analyze (manifest : Manifest) (config : Config) :
    (compile manifest config).warnings = (manifest.analyze config).2.warnings := by
  simp only [compile]
  split
  · rename_i heq
    simp [heq]
  · rename_i heq
    simp [heq]

theorem Manifest.errors_of_resolveHierarchy_eq_none {manifest : Manifest} {config : Config}
    (h : (manifest.resolveHierarchy config).1 = none) :
    (manifest.resolveHierarchy config).2.errors ≠ [] := by
  simp only [resolveHierarchy] at h ⊢
  split
  · split <;> simp_all [Report.ofErrors]
  · simp [Report.ofErrors]

/-- A compilation fails only with errors. -/
theorem compile_succeeds_iff (manifest : Manifest) (config : Config) :
    (∃ compilation, (compile manifest config).result = .ok compilation) ↔
      (compile manifest config).errors = [] := by
  constructor
  · rintro ⟨compilation, hcompile⟩
    simp [CompileResult.errors, hcompile]
  · intro herrors
    cases hresolve : (manifest.resolveHierarchy config).1 with
    | some hierarchy => exact ⟨_, compile_eq_ok_of_errors hresolve herrors⟩
    | none =>
      have hfound := Manifest.errors_of_resolveHierarchy_eq_none hresolve
      simp only [compile_errors_eq_analyze, Manifest.analyze] at herrors
      split at herrors
      · rename_i hreport
        simp [hreport] at herrors hfound
        exact absurd herrors.2 hfound
      · rename_i hreport
        simp [hreport] at hresolve

/-- Two configurations agree on the hierarchy, hence on the graph of a compilation. -/
theorem graph_of_compile {manifest : Manifest} {config other : Config}
    {first second : Compilation} (hfirst : (compile manifest config).result = .ok first)
    (hsecond : (compile manifest other).result = .ok second) :
    first.graph = second.graph ∧ first.plan = second.plan := by
  rcases compile_eq_ok hfirst with ⟨hierarchy, hresolve, _, _, hgraph, hplan⟩
  rcases compile_eq_ok hsecond with ⟨hierarchy', hresolve', _, _, hgraph', hplan'⟩
  rcases manifest.resolveHierarchy_eq_report with ⟨found, findings, hfound⟩
  simp only [hfound] at hresolve hresolve'
  have hsame : hierarchy = hierarchy' := Option.some.inj (hresolve.symm.trans hresolve')
  rw [hgraph, hgraph', hplan, hplan', hsame]
  exact ⟨rfl, rfl⟩

theorem not_mem_laterTargets (finding : GraphError) (earlier rest : List Contribution) :
    .tolerated finding ∉ Manifest.laterTargets earlier rest := by
  induction rest generalizing earlier with
  | nil => simp [Manifest.laterTargets]
  | cons entry rest ih =>
    simp only [Manifest.laterTargets]
    split
    · simpa using ih _
    · exact ih _

/-- The configuration only filters what a compilation finds. Under every configuration the errors
are those of the strictest one, in the same order, without the tolerated ones, and a compilation
succeeds if none is left. The warnings are those of the strictest configuration, none of which is
about a finding, followed by the voiced findings in the order and with the texts of the errors. Two
configurations under which a compilation succeeds give the same graph and plan. -/
theorem config_filters_findings (manifest : Manifest) :
    (∀ config, (compile manifest config).errors =
        (compile manifest .strict).errors.filter fun error => !config.tolerates error) ∧
    (∀ config, (∃ compilation, (compile manifest config).result = .ok compilation) ↔
        (compile manifest config).errors = []) ∧
    (∀ config, (compile manifest config).warnings =
        (compile manifest .strict).warnings ++
          ((compile manifest .strict).errors.filter config.voices).map .tolerated) ∧
    (∀ finding, .tolerated finding ∉ (compile manifest .strict).warnings) ∧
    (∀ config, (compile manifest config).warnings.map Warning.message =
        (compile manifest .strict).warnings.map Warning.message ++
          ((compile manifest .strict).errors.filter config.voices).map GraphError.message) ∧
    ∀ config other first second, (compile manifest config).result = .ok first →
      (compile manifest other).result = .ok second →
        first.graph = second.graph ∧ first.plan = second.plan := by
  rcases manifest.exists_findings with ⟨found, findings, hfindings⟩
  have herrors : ∀ config, (compile manifest config).errors =
      findings.filter fun error => !config.tolerates error := by
    intro config
    rw [compile_errors_eq_analyze, hfindings]
    rfl
  have hwarnings : ∀ config, (compile manifest config).warnings =
      manifest.indexReport.warnings ++ (findings.filter config.voices).map .tolerated := by
    intro config
    rw [compile_warnings_eq_analyze, hfindings]
    rfl
  -- The strictest configuration reports every finding as an error.
  have hstrict : (compile manifest .strict).errors = findings := by
    simp [herrors]
  have hindex : (compile manifest .strict).warnings = manifest.indexReport.warnings := by
    simp [hwarnings]
  rw [hstrict, hindex]
  refine ⟨herrors, compile_succeeds_iff manifest, hwarnings, ?_, ?_, ?_⟩
  · intro finding
    rw [Manifest.indexReport_eq]
    exact not_mem_laterTargets finding [] manifest.knownContributions
  · intro config
    rw [hwarnings, List.map_append, List.map_map]
    rfl
  · intro config other first second
    exact graph_of_compile

/-- The shop with one scope for both components and a clock of its own in the cart, which depends on
a disk that nobody provides. -/
def untidyShop : Manifest :=
  { shopManifest with
    components :=
      [⟨"App", some "Singleton", .component, []⟩, ⟨"Cart", some "Singleton", .subcomponent, ["App"]⟩]
    declarations := shopManifest.declarations.take 4 ++
      [.provides ⟨"Stock", "clock", .resolved "SystemClock", none, none,
        [.regular "disk" (.resolved "Disk") none], false⟩] }

theorem untidy_shop_compiles_tolerantly :
    (compile untidyShop .strict).errors =
      [.ambiguousScope "Singleton" "Cart" "App",
        .shadowedBinding ⟨"SystemClock", none⟩ "Cart" "App",
        .unsatisfiedDependency ⟨"Disk", none⟩ ⟨"SystemClock", none⟩ "Cart"] ∧
    (compile untidyShop .default).errors =
      [.ambiguousScope "Singleton" "Cart" "App",
        .unsatisfiedDependency ⟨"Disk", none⟩ ⟨"SystemClock", none⟩ "Cart"] ∧
    (compile untidyShop ⟨.warn, false, false⟩).warnings =
      [.severalHosts "Stock" "Cart" "App", .tolerated (.ambiguousScope "Singleton" "Cart" "App"),
        .tolerated (.shadowedBinding ⟨"SystemClock", none⟩ "Cart" "App")] ∧
    ∃ first second, (compile untidyShop ⟨.warn, false, false⟩).result = .ok first ∧
      (compile untidyShop ⟨.allow, false, false⟩).result = .ok second ∧
      first.graph = second.graph ∧ first.plan = second.plan := by
  rcases config_filters_findings untidyShop with ⟨herrors, hsuccess, hwarnings, _, _, hsame⟩
  have hstrict : (compile untidyShop .strict).errors =
      [.ambiguousScope "Singleton" "Cart" "App",
        .shadowedBinding ⟨"SystemClock", none⟩ "Cart" "App",
        .unsatisfiedDependency ⟨"Disk", none⟩ ⟨"SystemClock", none⟩ "Cart"] := by
    decide +kernel
  have hindex : (compile untidyShop .strict).warnings = [.severalHosts "Stock" "Cart" "App"] := by
    decide +kernel
  have hsucceeds : ∀ shadowing, shadowing ≠ .deny →
      ∃ compilation, (compile untidyShop ⟨shadowing, false, false⟩).result = .ok compilation := by
    intro shadowing hshadowing
    rw [hsuccess, herrors, hstrict]
    simp [Config.tolerates, hshadowing]
  rcases hsucceeds .warn (by decide) with ⟨first, hfirst⟩
  rcases hsucceeds .allow (by decide) with ⟨second, hsecond⟩
  refine ⟨hstrict, ?_, ?_, first, second, hfirst, hsecond, hsame _ _ first second hfirst hsecond⟩
  · rw [herrors, hstrict]
    rfl
  · rw [hwarnings, hstrict, hindex]
    rfl

end ObjectGraph
