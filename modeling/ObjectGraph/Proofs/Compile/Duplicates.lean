import ObjectGraph.Proofs.Conservation
import ObjectGraph.Proofs.Graph.Drafts
import ObjectGraph.Proofs.Graph.Sources

/-!
# Duplicates — keys that a component is given more than once

A declaration makes one node at most in each of its roles, and it makes them whenever it is visited. A
component visits each declaration as often as the unit of the declaration names it. So a key is reported
if two roles make it, or if the unit of a role that makes it names its host again.

* `Role`, `Declaration.nodeIn?`, `Declaration.nodes_classify` — the nodes of a declaration by role;
* `Manifest.Generates`, `Manifest.Collides` — the roles that make a key, and two different ones;
* `Manifest.count_visitsOf` — how often a declaration is visited;
* `Manifest.occurrences`, `Manifest.two_le_length_occurrences_iff` — every role of every visit;
* `duplicates_are_repeated_visits_or_roles` — what is reported.
-/

namespace ObjectGraph

/-! ## Lists -/

section Lists

variable {α β : Type} [BEq α] [LawfulBEq α] [BEq β] [LawfulBEq β]

/-- An entry that only one record brings along is there as often as its record. -/
theorem count_flatMap_of_owner {block : α → List β} {record : α} {entry : β} {records : List α}
    (howner : ∀ other ∈ records, other ≠ record → entry ∉ block other) :
    (records.flatMap block).count entry = records.count record * (block record).count entry := by
  -- Each further record adds the whole of its own count, or nothing.
  induction records with
  | nil => simp
  | cons first rest ih =>
    have hrest := ih fun other hother => howner other (List.mem_cons_of_mem _ hother)
    simp only [List.flatMap_cons, List.count_append, hrest]
    by_cases hsame : first = record
    · subst hsame
      rw [List.count_cons_self, Nat.succ_mul, Nat.add_comm]
    · have hnone : (block first).count entry = 0 :=
        List.count_eq_zero.2 (howner first (by simp) hsame)
      rw [hnone, Nat.zero_add, List.count_cons_of_ne hsame]

/-- Two places of a list hold different entries or one entry twice. -/
theorem two_le_length_iff {entries : List α} :
    2 ≤ entries.length ↔
      (∃ first ∈ entries, ∃ second ∈ entries, first ≠ second) ∨
        ∃ entry, 2 ≤ entries.count entry := by
  constructor
  · intro h
    match entries, h with
    | first :: second :: rest, _ =>
      by_cases hsame : first = second
      · exact Or.inr ⟨first, by simp [hsame]⟩
      · exact Or.inl ⟨first, by simp, second, by simp, hsame⟩
  · rintro (⟨first, hfirst, second, hsecond, hne⟩ | ⟨entry, hcount⟩)
    · match entries with
      | [] => simp at hfirst
      | [only] =>
        simp only [List.mem_singleton] at hfirst hsecond
        exact absurd (hfirst.trans hsecond.symm) hne
      | _ :: _ :: _ => simp
    · exact Nat.le_trans hcount List.count_le_length

end Lists

/-! ## Roles -/

/-- What a node is for its declaration: the main one, its factory, or the interface at an index of the
list of interfaces. -/
inductive Role where
  | own
  | factory
  | interface (index : Nat)
  deriving DecidableEq, Repr

/-- The node that an injectable makes in a role. -/
def Injectable.nodeIn? (injectable : Injectable) (place : Placement) (role : Role) : Option Node :=
  match injectable.type with
  | .unresolved _ => none
  | .resolved type =>
    (splitParameters type injectable.parameters).supply?.bind fun supply =>
      match role with
      | .own => some (injectable.ownNode place type supply)
      | .factory => (injectable.factory? place type supply).nodes.head?
      | .interface index =>
        (injectable.bindsTo[index]?.bind fun interface =>
          (injectable.bindingTarget type interface).toOption).map
            (Injectable.aliasNode (injectable.ownNode place type supply))

namespace Declaration

/-- A function makes its main node only. -/
def nodeIn? (place : Placement) : Declaration → Role → Option Node
  | .injectable i, role => i.nodeIn? place role
  | .provides f, .own => (f.classify place).nodes.head?
  | .binds f, .own => (f.classify place).nodes.head?
  | .provides _, _ | .binds _, _ => none

def roles : Declaration → List Role
  | .injectable i => .own :: .factory :: i.bindsTo.zipIdx.map fun entry => .interface entry.2
  | .provides _ | .binds _ => [.own]

theorem nodup_roles (declaration : Declaration) : declaration.roles.Nodup := by
  cases declaration with
  | injectable i =>
    have hindices : (i.bindsTo.zipIdx.map fun entry => Role.interface entry.2).Nodup := by
      have hpositions : (i.bindsTo.zipIdx.map Prod.snd).Nodup := by
        rw [List.zipIdx_map_snd]
        exact List.nodup_range'
      simpa only [List.map_map, Function.comp_def] using
        hpositions.map fun _ _ => Role.interface.inj
    simp [roles, hindices]
  | provides f => simp [roles]
  | binds f => simp [roles]

end Declaration

theorem Injectable.nodes_factory? (injectable : Injectable) (place : Placement) (type : TypeName)
    (supply : Supply) :
    (injectable.factory? place type supply).nodes =
      (injectable.factory? place type supply).nodes.head?.toList := by
  simp only [factory?]
  split
  · rfl
  · split
    · rfl
    · rfl

theorem ProvidesFunction.nodes_classify (function : ProvidesFunction) (place : Placement) :
    (function.classify place).nodes = (function.classify place).nodes.head?.toList := by
  simp only [classify]
  split
  · rfl
  · split
    · rfl
    · split
      · rfl
      · rfl

theorem BindsFunction.nodes_classify (function : BindsFunction) (place : Placement) :
    (function.classify place).nodes = (function.classify place).nodes.head?.toList := by
  unfold classify
  simp only
  split
  · split
    · split
      · rfl
      · rfl
      · rfl
    · rfl
  · rfl

/-- Each role makes one node at most, and no node is made otherwise. -/
theorem Declaration.nodes_classify (declaration : Declaration) (place : Placement) :
    (declaration.classify place).nodes =
      declaration.roles.filterMap (declaration.nodeIn? place) := by
  cases declaration with
  | injectable i =>
    change (i.classify place).nodes =
      (Role.own :: Role.factory :: i.bindsTo.zipIdx.map fun entry => Role.interface entry.2).filterMap
        (i.nodeIn? place)
    rcases i.supplied_or_errors place with ⟨type, supply, hsupplied⟩ | ⟨hnil, herrors⟩
    · -- The interfaces are those entries of the list that can be bound, in their order.
      have hinterfaces : (i.bindsTo.zipIdx.map fun entry => Role.interface entry.2).filterMap
          (i.nodeIn? place) =
            (i.interfaces type).map (Injectable.aliasNode (i.ownNode place type supply)) := by
        have hentry : ∀ entry ∈ i.bindsTo.zipIdx, i.nodeIn? place (.interface entry.2) =
            ((i.bindingTarget type entry.1).toOption).map
              (Injectable.aliasNode (i.ownNode place type supply)) := by
          intro entry hentry
          have hfound : i.bindsTo[entry.2]? = some entry.1 := List.mem_zipIdx_iff_getElem?.1 hentry
          simp [Injectable.nodeIn?, hsupplied.type_eq, hsupplied.supply_eq, hfound]
        calc (i.bindsTo.zipIdx.map fun entry => Role.interface entry.2).filterMap (i.nodeIn? place)
            = i.bindsTo.zipIdx.filterMap fun entry => ((i.bindingTarget type entry.1).toOption).map
                (Injectable.aliasNode (i.ownNode place type supply)) := by
              rw [List.filterMap_map]
              exact List.filterMap_congr hentry
          _ = (i.bindsTo.zipIdx.map Prod.fst).filterMap fun interface =>
                ((i.bindingTarget type interface).toOption).map
                  (Injectable.aliasNode (i.ownNode place type supply)) := by
              rw [List.filterMap_map]
              rfl
          _ = (i.interfaces type).map (Injectable.aliasNode (i.ownNode place type supply)) := by
              rw [List.zipIdx_map_fst, Injectable.interfaces, List.filterMap_map,
                List.map_filterMap]
              rfl
      simp only [List.filterMap_cons, hinterfaces, hsupplied.classify_eq, Injectable.nodeIn?,
        hsupplied.type_eq, hsupplied.supply_eq, Option.bind_some, List.cons_append]
      rw [i.nodes_factory? place type supply]
      cases (i.factory? place type supply).nodes.head? <;> simp
    · -- Without a supply no role makes anything.
      have hnone : ∀ role, i.nodeIn? place role = none := by
        intro role
        cases htype : i.type with
        | unresolved raw => simp [Injectable.nodeIn?, htype]
        | resolved type =>
          cases hsupply : (splitParameters type i.parameters).supply? with
          | none => simp only [Injectable.nodeIn?, htype, hsupply, Option.bind_none]
          | some supply =>
            have hsupplied : i.Supplied type supply := ⟨htype, hsupply⟩
            simp [hsupplied.classify_eq] at hnil
      simp [hnil, List.filterMap_eq_nil_iff.2 fun role _ => hnone role]
  | provides f =>
    calc (f.classify place).nodes
        = (f.classify place).nodes.head?.toList := f.nodes_classify place
      _ = [Role.own].filterMap (nodeIn? place (.provides f)) := by
        simp only [List.filterMap_eq_flatMap_toList, List.flatMap_singleton, nodeIn?]
  | binds f =>
    calc (f.classify place).nodes
        = (f.classify place).nodes.head?.toList := f.nodes_classify place
      _ = [Role.own].filterMap (nodeIn? place (.binds f)) := by
        simp only [List.filterMap_eq_flatMap_toList, List.flatMap_singleton, nodeIn?]

namespace Manifest

variable (manifest : Manifest) (hierarchy : Hierarchy) (component : ComponentId) (key : Key)

/-- The node that the declaration at a position makes for a component in a role. -/
def nodeIn? (position : Nat) (role : Role) : Option Node :=
  manifest.declarations[position]?.bind fun declaration =>
    declaration.nodeIn? (placeAt hierarchy component position) role

/-- The component hosts the declaration at a position, which makes a node of the key in a role. -/
structure Generates (position : Nat) (role : Role) : Prop where
  member : component ∈ hierarchy.components
  hosted : manifest.hostOf? position = some component
  made : ∃ node, manifest.nodeIn? hierarchy component position role = some node ∧ node.key = key

/-- Two roles of declarations that the component hosts make nodes of one key. -/
def Collides : Prop :=
  ∃ first second : Nat × Role, first ≠ second ∧
    manifest.Generates hierarchy component key first.1 first.2 ∧
    manifest.Generates hierarchy component key second.1 second.2

/-- The unit of the declaration at a position names a component more than once. -/
def NamesAgain (position : Nat) : Prop :=
  ∃ unit, manifest.unitAt? position = some unit ∧ 2 ≤ (manifest.targetsOf unit).count component

/-- Each unit names its host once, though it may name other components any number of times. -/
def NamesHostsOnce : Prop :=
  ∀ unit host, manifest.hostOfUnit? unit = some host → (manifest.targetsOf unit).count host = 1

/-- The roles in which the visits of a component make nodes of a key, visit by visit. -/
def occurrences : List (Nat × Role) :=
  (manifest.visitsOf component).flatMap fun position =>
    (((manifest.declarations[position]?.map Declaration.roles).getD []).filter fun role =>
      (manifest.nodeIn? hierarchy component position role).any fun node => node.key = key).map
        fun role => (position, role)

variable {manifest hierarchy component key}

/-! ## Visits -/

/-- A component visits a declaration as often as the unit of the declaration names it. -/
theorem count_visitsOf {position : Nat} {unit : ContributionUnit}
    (hhost : manifest.hostOf? position = some component)
    (hunit : manifest.unitAt? position = some unit) :
    (manifest.visitsOf component).count position = (manifest.targetsOf unit).count component := by
  have hunitHost : manifest.hostOfUnit? unit = some component := by
    simpa [hostOf?, hunit] using hhost
  -- No other unit brings the position along, and its own unit does so once.
  have howner : ∀ other ∈ (manifest.unitsOf component).filter fun unit =>
      manifest.hostOfUnit? unit = some component,
      other ≠ unit → position ∉ manifest.positionsOf other := by
    intro other hother hne hposition
    have hotherHost : manifest.hostOfUnit? other = some component := by
      simpa using (List.mem_filter.1 hother).2
    have hsame := (mem_positionsOf_iff hotherHost).1 hposition
    exact hne (Option.some.inj (hsame.symm.trans hunit))
  have hone : (manifest.positionsOf unit).count position = 1 := by
    have hmem : position ∈ manifest.positionsOf unit := (mem_positionsOf_iff hunitHost).2 hunit
    refine List.count_eq_one_of_mem ?_ hmem
    cases unit with
    | injectable other => simp [positionsOf]
    | moduleUnit id => exact (increasing_members id).imp Nat.ne_of_lt
    | component id => simp [positionsOf]
  calc (manifest.visitsOf component).count position
      = ((manifest.unitsOf component).filter fun unit =>
          manifest.hostOfUnit? unit = some component).count unit *
            (manifest.positionsOf unit).count position := count_flatMap_of_owner howner
    _ = (manifest.unitsOf component).count unit := by
        rw [hone, Nat.mul_one, List.count_filter (by simpa using hunitHost)]
    _ = (manifest.targetsOf unit).count component := count_unitsOf_eq_count_targetsOf unit component

theorem flatMap_visits : ((manifest.visits hierarchy).flatMap fun place =>
    (manifest.classifyAt place).nodes) =
      hierarchy.components.flatMap (manifest.visitedNodes hierarchy) := by
  simp only [visits_eq, List.flatMap_assoc, List.flatMap_map]
  rfl

/-! ## Occurrences -/

theorem countP_nodes_classifyAt (position : Nat) :
    (manifest.classifyAt (placeAt hierarchy component position)).nodes.countP
        (fun node => node.key = key) =
      ((manifest.declarations[position]?.map Declaration.roles).getD []).countP fun role =>
        (manifest.nodeIn? hierarchy component position role).any fun node => node.key = key := by
  simp only [classifyAt, nodeIn?, placeAt]
  cases manifest.declarations[position]? with
  | none => rfl
  | some declaration =>
    simp only [Option.map_some, Option.getD_some, declaration.nodes_classify, List.countP_filterMap,
      Option.bind_some]
    apply List.countP_congr
    intro role _
    cases declaration.nodeIn? ⟨position, component, hierarchy.scope? component⟩ role <;> simp

theorem countP_visitedNodes :
    (manifest.visitedNodes hierarchy component).countP (fun node => node.key = key) =
      (manifest.occurrences hierarchy component key).length := by
  simp only [visitedNodes, occurrences, List.countP_flatMap, List.length_flatMap, List.length_map,
    ← List.countP_eq_length_filter]
  congr 1
  apply List.map_congr_left
  intro position _
  exact countP_nodes_classifyAt position

theorem mem_roles_of_nodeIn? {position : Nat} {role : Role} {node : Node}
    (h : manifest.nodeIn? hierarchy component position role = some node) :
    role ∈ (manifest.declarations[position]?.map Declaration.roles).getD [] := by
  rcases Option.bind_eq_some_iff.1 h with ⟨declaration, hfound, hnode⟩
  simp only [hfound, Option.map_some, Option.getD_some]
  cases declaration with
  | provides f => cases role <;> simp_all [Declaration.nodeIn?, Declaration.roles]
  | binds f => cases role <;> simp_all [Declaration.nodeIn?, Declaration.roles]
  | injectable i =>
    cases role with
    | own => simp [Declaration.roles]
    | factory => simp [Declaration.roles]
    | interface index =>
      -- The index is one of the list of interfaces, otherwise there is nothing to be bound to.
      have hindex : index < i.bindsTo.length := by
        by_contra hlarge
        have hnone : i.bindsTo[index]? = none := List.getElem?_eq_none (by omega)
        simp only [Declaration.nodeIn?, Injectable.nodeIn?, hnone] at hnode
        split at hnode
        · simp at hnode
        · simp at hnode
      refine List.mem_cons_of_mem _ (List.mem_cons_of_mem _ (List.mem_map.2 ?_))
      exact ⟨(i.bindsTo[index], index),
        List.mem_zipIdx_iff_getElem?.2 (List.getElem?_eq_getElem hindex), rfl⟩

/-- The roles that a component is visited for are those that generate the key. -/
theorem mem_occurrences_iff (hmem : component ∈ hierarchy.components) {position : Nat} {role : Role} :
    (position, role) ∈ manifest.occurrences hierarchy component key ↔
      manifest.Generates hierarchy component key position role := by
  simp only [occurrences, List.mem_flatMap, List.mem_map, List.mem_filter, mem_visitsOf_iff,
    Prod.mk.injEq, Option.any_eq_true, decide_eq_true_eq]
  constructor
  · rintro ⟨_, hhost, _, ⟨_, node, hnode, hkey⟩, rfl, rfl⟩
    exact ⟨hmem, hhost, node, hnode, hkey⟩
  · rintro ⟨_, hhost, node, hnode, hkey⟩
    exact ⟨position, hhost, role, ⟨mem_roles_of_nodeIn? hnode, node, hnode, hkey⟩, rfl, rfl⟩

/-- A role that generates the key occurs in every visit of its declaration, once in each of them. -/
theorem count_occurrences {position : Nat} {role : Role}
    (h : manifest.Generates hierarchy component key position role) :
    (manifest.occurrences hierarchy component key).count (position, role) =
      (manifest.visitsOf component).count position := by
  rcases h.made with ⟨node, hnode, hkey⟩
  have hroles : ((manifest.declarations[position]?.map Declaration.roles).getD []).Nodup := by
    cases manifest.declarations[position]? with
    | none => exact List.nodup_nil
    | some declaration => exact declaration.nodup_roles
  have hone : ((((manifest.declarations[position]?.map Declaration.roles).getD []).filter fun role =>
      (manifest.nodeIn? hierarchy component position role).any fun node => node.key = key).map
        fun role => (position, role)).count (position, role) = 1 := by
    refine List.count_eq_one_of_mem ((hroles.filter _).map fun _ _ hsame => (Prod.mk.inj hsame).2) ?_
    exact List.mem_map.2
      ⟨role, List.mem_filter.2 ⟨mem_roles_of_nodeIn? hnode, by simp [hnode, hkey]⟩, rfl⟩
  rw [occurrences, count_flatMap_of_owner, hone, Nat.mul_one]
  -- The position of an occurrence is the one that was visited.
  intro other _ hne hother
  rcases List.mem_map.1 hother with ⟨_, _, hsame⟩
  exact hne (Prod.mk.inj hsame).1

/-- A key occurs twice if two roles generate it, or one role whose declaration is visited again. -/
theorem two_le_length_occurrences_iff (hmem : component ∈ hierarchy.components) :
    2 ≤ (manifest.occurrences hierarchy component key).length ↔
      manifest.Collides hierarchy component key ∨
        ∃ position role, manifest.Generates hierarchy component key position role ∧
          manifest.NamesAgain component position := by
  have hagain : ∀ {position role}, manifest.Generates hierarchy component key position role →
      (manifest.NamesAgain component position ↔
        2 ≤ (manifest.visitsOf component).count position) := by
    intro position role hgenerates
    constructor
    · rintro ⟨unit, hunit, hcount⟩
      rwa [count_visitsOf hgenerates.hosted hunit]
    · intro hcount
      rcases Option.bind_eq_some_iff.1 hgenerates.hosted with ⟨unit, hunit, _⟩
      exact ⟨unit, hunit, by rwa [← count_visitsOf hgenerates.hosted hunit]⟩
  rw [two_le_length_iff]
  refine or_congr ?_ ?_
  · constructor
    · rintro ⟨first, hfirst, second, hsecond, hne⟩
      exact ⟨first, second, hne, (mem_occurrences_iff hmem).1 hfirst,
        (mem_occurrences_iff hmem).1 hsecond⟩
    · rintro ⟨first, second, hne, hfirst, hsecond⟩
      exact ⟨first, (mem_occurrences_iff hmem).2 hfirst, second,
        (mem_occurrences_iff hmem).2 hsecond, hne⟩
  · constructor
    · rintro ⟨⟨position, role⟩, hcount⟩
      have hpos : 0 < (manifest.occurrences hierarchy component key).count (position, role) := by
        omega
      have hgenerates := (mem_occurrences_iff hmem).1 (List.count_pos_iff.1 hpos)
      rw [count_occurrences hgenerates] at hcount
      exact ⟨position, role, hgenerates, (hagain hgenerates).2 hcount⟩
    · rintro ⟨position, role, hgenerates, hnames⟩
      refine ⟨(position, role), ?_⟩
      rw [count_occurrences hgenerates]
      exact (hagain hgenerates).1 hnames

/-! ## Errors -/

/-- A key is reported once for each of its occurrences but the first one. -/
theorem count_duplicates_draft (hnodup : hierarchy.components.Nodup)
    (hmem : component ∈ hierarchy.components) :
    (manifest.draft hierarchy).errors.count (.duplicateBinding key component) =
      (manifest.occurrences hierarchy component key).length - 1 := by
  have hids : ((manifest.visitedNodes hierarchy component).map Node.id).count ⟨component, key⟩ =
      (manifest.occurrences hierarchy component key).length := by
    rw [← countP_visitedNodes, List.count_eq_countP, List.countP_map]
    apply List.countP_congr
    intro node hnode
    have hhost := host_of_mem_visitedNodes hnode
    simp [Node.id, hhost]
  have howner : ∀ other ∈ hierarchy.components, other ≠ component →
      (⟨component, key⟩ : NodeId) ∉ (manifest.visitedNodes hierarchy other).map Node.id := by
    intro other _ hne hid
    rcases List.mem_map.1 hid with ⟨node, hnode, hsame⟩
    exact hne ((host_of_mem_visitedNodes hnode).symm.trans (congrArg NodeId.host hsame))
  rw [(received_draft manifest _).count_duplicates ⟨component, key⟩, flatMap_visits,
    List.map_flatMap, count_flatMap_of_owner howner, List.count_eq_one_of_mem hnodup hmem, hids,
    Nat.one_mul]

theorem duplicateBinding_mem_draft_iff (hnodup : hierarchy.components.Nodup) :
    .duplicateBinding key component ∈ (manifest.draft hierarchy).errors ↔
      component ∈ hierarchy.components ∧
        2 ≤ (manifest.occurrences hierarchy component key).length := by
  by_cases hmem : component ∈ hierarchy.components
  · rw [← List.count_pos_iff, count_duplicates_draft hnodup hmem]
    simp only [hmem, true_and]
    omega
  · -- No node is offered for a component next to the hierarchy.
    simp only [hmem, false_and, iff_false, ← List.count_pos_iff, Nat.not_lt, Nat.le_zero]
    have hnone : (⟨component, key⟩ : NodeId) ∉ (((manifest.visits hierarchy).flatMap fun place =>
        (manifest.classifyAt place).nodes).map Node.id) := by
      rw [flatMap_visits]
      intro hid
      rcases List.mem_map.1 hid with ⟨node, hnode, hsame⟩
      rcases List.mem_flatMap.1 hnode with ⟨other, hother, hnode⟩
      have hhost : node.host = component := congrArg NodeId.host hsame
      exact hmem (hhost ▸ (host_of_mem_visitedNodes hnode).symm ▸ hother)
    simp [(received_draft manifest _).count_duplicates ⟨component, key⟩,
      List.count_eq_zero.2 hnone]

/-- Only units with a target list have a host. -/
theorem namesHostsOnce_of_units (h : ∀ unit ∈ manifest.units,
    (manifest.hostOfUnit? unit).all fun host => (manifest.targetsOf unit).count host = 1) :
    manifest.NamesHostsOnce := by
  intro unit host hhost
  rcases (mem_targetsOf_iff.1 (mem_targetsOf_of_hostOfUnit? hhost)).2 with ⟨entry, hentry, rfl, _⟩
  simpa [hhost] using h entry.unit (unit_mem_units_of_mem_contributions hentry)

end Manifest

/-- A key is reported as a duplicate if two roles of hosted declarations generate it, or if a role
generates it whose unit names its host again, since each such name is a visit. With units that name their
hosts once every hosted declaration is visited once, and collisions are all that is reported. -/
theorem duplicates_are_repeated_visits_or_roles {manifest : Manifest} {config : Config}
    {hierarchy : Hierarchy} (h : (manifest.resolveHierarchy config).1 = some hierarchy) :
    (∀ key component,
      .duplicateBinding key component ∈ (compile manifest config).errors ↔
        manifest.Collides hierarchy component key ∨
          ∃ position role, manifest.Generates hierarchy component key position role ∧
            manifest.NamesAgain component position) ∧
    (∀ position component unit, manifest.hostOf? position = some component →
      manifest.unitAt? position = some unit →
        (manifest.visitsOf component).count position = (manifest.targetsOf unit).count component) ∧
    (manifest.NamesHostsOnce →
      (∀ position component, manifest.hostOf? position = some component →
        (manifest.visitsOf component).count position = 1) ∧
      ∀ key component,
        .duplicateBinding key component ∈ (compile manifest config).errors ↔
          manifest.Collides hierarchy component key) := by
  have hreported : ∀ key component,
      .duplicateBinding key component ∈ (compile manifest config).errors ↔
        manifest.Collides hierarchy component key ∨
          ∃ position role, manifest.Generates hierarchy component key position role ∧
            manifest.NamesAgain component position := by
    intro key component
    have hdraft : .duplicateBinding key component ∈ (compile manifest config).errors ↔
        component ∈ hierarchy.components ∧
          2 ≤ (manifest.occurrences hierarchy component key).length :=
      (mem_compile_errors_iff h).trans
        (Manifest.duplicateBinding_mem_draft_iff Hierarchy.nodup_components)
    rw [hdraft]
    constructor
    · rintro ⟨hmem, hoften⟩
      exact (Manifest.two_le_length_occurrences_iff hmem).1 hoften
    · intro hcause
      -- Whatever generates a node belongs to a component of the hierarchy.
      have hmem : component ∈ hierarchy.components := by
        rcases hcause with ⟨_, _, _, hfirst, _⟩ | ⟨_, _, hgenerates, _⟩
        · exact hfirst.member
        · exact hgenerates.member
      exact ⟨hmem, (Manifest.two_le_length_occurrences_iff hmem).2 hcause⟩
  refine ⟨hreported, fun _ _ _ => Manifest.count_visitsOf, fun honce => ⟨?_, ?_⟩⟩
  · intro position component hhost
    rcases Option.bind_eq_some_iff.1 hhost with ⟨unit, hunit, hunitHost⟩
    rw [Manifest.count_visitsOf hhost hunit, honce unit component hunitHost]
  · intro key component
    rw [hreported, or_iff_left]
    rintro ⟨position, role, hgenerates, unit, hunit, hcount⟩
    have hunitHost : manifest.hostOfUnit? unit = some component := by
      simpa [Manifest.hostOf?, hunit] using hgenerates.hosted
    have hone := honce unit component hunitHost
    omega

/-- An injectable clock, and a module that provides another one. -/
def twoClocksManifest : Manifest where
  entryPoint := "App"
  components := [⟨"App", none, .component, []⟩]
  modules := [⟨"Times", ["App", "Elsewhere", "Elsewhere"]⟩]
  declarations :=
    [.injectable ⟨.resolved "Clock", none, none, [], [], [], none, false, ["App"]⟩,
      .provides ⟨"Times", "clock", .resolved "Clock", none, none, [], false⟩]

def clockHierarchy : Hierarchy := ⟨"App", .ofList [("App", ⟨none, none, [], 0⟩)]⟩

theorem second_clock_is_reported :
    (twoClocksManifest.resolveHierarchy .default).1 = some clockHierarchy ∧
      twoClocksManifest.NamesHostsOnce ∧
      .duplicateBinding (.unqualified "Clock") "App" ∈
        (compile twoClocksManifest .default).errors ∧
      (twoClocksManifest.visitsOf "App").count 1 = 1 := by
  have hresolve : (twoClocksManifest.resolveHierarchy .default).1 = some clockHierarchy := by
    decide +kernel
  have honce : twoClocksManifest.NamesHostsOnce :=
    Manifest.namesHostsOnce_of_units (by decide +kernel)
  rcases (duplicates_are_repeated_visits_or_roles hresolve).2.2 honce with ⟨hvisits, hreported⟩
  have hgenerates : ∀ position ∈ [0, 1], twoClocksManifest.Generates clockHierarchy "App"
      (.unqualified "Clock") position .own := by
    intro position hposition
    rcases List.mem_pair.1 hposition with rfl | rfl
    · exact ⟨by decide, by decide +kernel, _, rfl, rfl⟩
    · exact ⟨by decide, by decide +kernel, _, rfl, rfl⟩
  refine ⟨hresolve, honce, (hreported _ _).2 ⟨(0, .own), (1, .own), by decide, ?_, ?_⟩,
    hvisits 1 "App" (by decide +kernel)⟩
  · exact hgenerates 0 (by simp)
  · exact hgenerates 1 (by simp)

/-- The only declaration of the clock names its component twice. -/
def clockManifest : Manifest where
  entryPoint := "App"
  components := [⟨"App", none, .component, []⟩]
  modules := []
  declarations := [.injectable ⟨.resolved "Clock", none, none, [], [], [], none, false, ["App", "App"]⟩]

/-- A clock that names its component twice is visited twice and collides with itself. -/
theorem repeated_clock_collides_with_itself :
    (clockManifest.resolveHierarchy .default).1 = some clockHierarchy ∧
      .duplicateBinding (.unqualified "Clock") "App" ∈ (compile clockManifest .default).errors ∧
      ¬ clockManifest.Collides clockHierarchy "App" (.unqualified "Clock") ∧
      (clockManifest.visitsOf "App").count 0 = 2 := by
  have honly : ∀ position role, clockManifest.Generates clockHierarchy "App" (.unqualified "Clock")
      position role → (position, role) = (0, .own) := by
    rintro position role ⟨_, hhost, node, hnode, _⟩
    have hposition : position = 0 := Nat.lt_one_iff.1 (Manifest.lt_length_of_hostOf? hhost)
    subst hposition
    cases role with
    | own => rfl
    | factory => exact absurd (hnode.symm.trans rfl) (Option.some_ne_none node)
    | interface index => exact absurd (hnode.symm.trans rfl) (Option.some_ne_none node)
  refine ⟨by decide +kernel, by decide +kernel, ?_, by decide +kernel⟩
  rintro ⟨first, second, hne, hfirst, hsecond⟩
  exact hne ((honly _ _ hfirst).trans (honly _ _ hsecond).symm)

end ObjectGraph
