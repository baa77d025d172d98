import Mathlib.Data.List.Forall2
import ObjectGraph.Graph.Build
import ObjectGraph.Proofs.Graph.Supply

/-!
# Outlines — what a declaration says about its nodes

A declaration alone tells which keys it serves, which of them belong to a factory and which are
aliases of what. A classification without errors yields nodes of exactly these outlines.

* `Outline`, `Node.outline` — a node without its parameters and scope;
* `Declaration.outlines` — the outlines that a declaration asks for;
* `Declaration.outlineCount` — how many there are;
* `Declaration.map_outline_classify` — classification without errors yields them.
-/

namespace ObjectGraph

/-- A key that a component is to host. An alias lists the keys that it forwards to. -/
structure Outline where
  key : Key
  source : Nat
  host : ComponentId
  isFactory : Bool
  forwards : Option (List Key)
  deriving DecidableEq, Repr

def Outline.id (outline : Outline) : NodeId := ⟨outline.host, outline.key⟩

def Node.outline (node : Node) : Outline where
  key := node.key
  source := node.source
  host := node.host
  isFactory := node.isFactory
  forwards := if node.isAlias then some node.dependencies else none

/-! ## Outlines of declarations -/

namespace Injectable

def hasAssisted (injectable : Injectable) : Bool :=
  injectable.parameters.any fun parameter => parameter.kind = .assisted

/-- The type itself, its factory if a caller supplies some of the parameters, and an alias for each
interface that it is bound to. -/
def outlines (injectable : Injectable) (position : Nat) (host : ComponentId) : List Outline :=
  match injectable.type.name? with
  | none => []
  | some type =>
    let main : Key := ⟨type, injectable.qualifier⟩
    let factories := if injectable.hasAssisted then injectable.factory.toList else []
    let interfaces := injectable.bindsTo.filterMap TypeRef.name?
    ⟨main, position, host, false, none⟩ ::
      factories.map (fun contract => ⟨.unqualified contract.type, position, host, true, none⟩) ++
      interfaces.map fun interface =>
        ⟨⟨interface, injectable.qualifier⟩, position, host, false, some [main]⟩

end Injectable

def ProvidesFunction.outlines (function : ProvidesFunction) (position : Nat) (host : ComponentId) :
    List Outline :=
  function.returns.name?.toList.map fun type =>
    ⟨⟨type, function.qualifier⟩, position, host, false, none⟩

/-- An alias of the key that the only parameter stands for. -/
def BindsFunction.outlines (function : BindsFunction) (position : Nat) (host : ComponentId) :
    List Outline :=
  match function.returns.name?, function.parameters with
  | some interface, [implementation] =>
    implementation.key?.toList.map fun target =>
      ⟨⟨interface, function.qualifier⟩, position, host, false, some [target]⟩
  | _, _ => []

namespace Declaration

def outlines (position : Nat) (host : ComponentId) : Declaration → List Outline
  | .injectable i => i.outlines position host
  | .provides f => f.outlines position host
  | .binds f => f.outlines position host

/-- An injectable has a node of its own, one for its factory and one for each bound interface. -/
def outlineCount : Declaration → Nat
  | .injectable i => 1 + (if i.hasAssisted then 1 else 0) + i.bindsTo.length
  | .provides _ => 1
  | .binds _ => 1

end Declaration

/-! ## Injectables -/

namespace Injectable

variable {injectable : Injectable} {place : Placement}

theorem hasAssisted_iff {type : TypeName} {supply : Supply}
    (h : (splitParameters type injectable.parameters).supply? = some supply) :
    injectable.hasAssisted = !supply.assisted.isEmpty := by
  simp only [(exact_of_supply? h).assisted_eq]
  by_cases hany : injectable.hasAssisted = true
  · have hne : injectable.parameters.filter (·.kind = .assisted) ≠ [] := by
      simpa [hasAssisted, List.filter_eq_nil_iff] using hany
    simp [hany, hne]
  · have hnil : injectable.parameters.filter (·.kind = .assisted) = [] := by
      simpa [hasAssisted, List.filter_eq_nil_iff] using hany
    simp [hany, hnil]

theorem eq_some_of_matchedContract {type : TypeName} {supply : Supply} {contract : FactoryContract}
    (h : injectable.matchedContract type supply = .ok contract) :
    injectable.factory = some contract := by
  simp only [matchedContract] at h
  split at h
  · simp at h
  · rename_i other hother
    split at h
    · simp at h
    · split at h
      · simp at h
      · cases h
        exact hother

/-- Without errors the factory node is there exactly if a parameter is assisted. -/
theorem map_outline_factory? {type : TypeName} {supply : Supply}
    (hsplit : (splitParameters type injectable.parameters).supply? = some supply)
    (h : (injectable.factory? place type supply).errors = []) :
    (injectable.factory? place type supply).nodes.map Node.outline =
        (if injectable.hasAssisted then injectable.factory.toList else []).map (fun contract =>
          ⟨.unqualified contract.type, place.position, place.host, true, none⟩) ∧
      (injectable.factory? place type supply).nodes.length =
        if injectable.hasAssisted then 1 else 0 := by
  simp only [hasAssisted_iff hsplit]
  simp only [factory?] at h ⊢
  cases hempty : supply.assisted.isEmpty with
  | true => simp
  | false =>
    cases hmatched : injectable.matchedContract type supply with
    | error error => simp [hempty, hmatched, Classified.ofErrors] at h
    | ok contract =>
      -- The contract that matches is the one that the injectable names.
      have hfactory := eq_some_of_matchedContract hmatched
      simp [hfactory, Classified.ofNode, factoryNode, Node.outline, Node.bare]

/-- Without errors every entry of the target list is an interface. -/
theorem filterMap_toOption_bindingTarget {type : TypeName} {interfaces : List TypeRef}
    (h : (interfaces.map (injectable.bindingTarget type)).filterMap errorOf? = []) :
    (interfaces.map (injectable.bindingTarget type)).filterMap Except.toOption =
        (interfaces.filterMap TypeRef.name?).map (fun name => ⟨name, injectable.qualifier⟩) ∧
      (interfaces.filterMap TypeRef.name?).length = interfaces.length := by
  induction interfaces with
  | nil => simp
  | cons interface rest ih =>
    cases hbound : injectable.bindingTarget type interface with
    | error error => simp [hbound, errorOf?] at h
    | ok key =>
      have hrest : (rest.map (injectable.bindingTarget type)).filterMap errorOf? = [] := by
        simpa [hbound, errorOf?] using h
      rcases ih hrest with ⟨hkeys, hlength⟩
      cases interface with
      | unresolved raw => simp [bindingTarget] at hbound
      | resolved name =>
        -- The alias has the qualifier of the injectable itself.
        have hkey : key = ⟨name, injectable.qualifier⟩ := by
          unfold bindingTarget at hbound
          simp only at hbound
          split at hbound
          · cases hbound
            rfl
          · simp at hbound
        subst hkey
        simp [hbound, hkeys, hlength, Except.toOption, TypeRef.name?]

theorem map_outline_classify (h : (injectable.classify place).errors = []) :
    (injectable.classify place).nodes.map Node.outline =
        injectable.outlines place.position place.host ∧
      (injectable.classify place).nodes.length =
        (Declaration.injectable injectable).outlineCount := by
  simp only [classify] at h ⊢
  cases htype : injectable.type with
  | unresolved raw => simp [htype, Classified.ofErrors] at h
  | resolved type =>
    simp only [htype] at h ⊢
    cases hsplit : (splitParameters type injectable.parameters).supply? with
    | none =>
      simp only [hsplit, Classified.ofErrors] at h
      exact absurd h (Split.errors_ne_nil_of_supply? hsplit)
    | some supply =>
      -- The node of the type, then the factory, then the interfaces.
      simp only [hsplit, List.append_eq_nil_iff] at h ⊢
      rcases h with ⟨htargets, hfactory⟩
      rcases map_outline_factory? hsplit hfactory with ⟨hfactories, hcount⟩
      rcases filterMap_toOption_bindingTarget htargets with ⟨hinterfaces, hlength⟩
      constructor
      · simp only [List.map_cons, List.map_append, hfactories, hinterfaces, outlines, htype,
          TypeRef.name?, List.map_map]
        rfl
      · simp only [List.length_cons, List.length_append, hcount, hinterfaces, List.length_map,
          hlength, Declaration.outlineCount]
        omega

end Injectable

/-! ## Functions -/

theorem ProvidesFunction.map_outline_classify {function : ProvidesFunction} {place : Placement}
    (h : (function.classify place).errors = []) :
    (function.classify place).nodes.map Node.outline =
        function.outlines place.position place.host ∧
      (function.classify place).nodes.length = (Declaration.provides function).outlineCount := by
  simp only [ProvidesFunction.classify] at h ⊢
  cases htype : function.returns with
  | unresolved raw => simp [htype, Classified.ofErrors] at h
  | resolved type =>
    simp only [htype] at h ⊢
    split at h
    · rename_i hsplit
      exact absurd h (Split.errors_ne_nil_of_supply? hsplit)
    · split at h
      · rename_i hempty
        simp [hempty, Classified.ofNode, ProvidesFunction.outlines, htype, TypeRef.name?,
          Node.outline, constructedNode, Node.bare, Declaration.outlineCount]
      · simp [Classified.ofErrors] at h

theorem BindsFunction.map_outline_classify {function : BindsFunction} {place : Placement}
    (h : (function.classify place).errors = []) :
    (function.classify place).nodes.map Node.outline =
        function.outlines place.position place.host ∧
      (function.classify place).nodes.length = (Declaration.binds function).outlineCount := by
  unfold BindsFunction.classify at h ⊢
  simp only at h ⊢
  split at h
  · rename_i habstract
    split at h
    · rename_i implementation hparameters
      cases hreturns : function.returns with
      | unresolved raw => simp [hreturns, Classified.ofErrors] at h
      | resolved interface =>
        cases htype : implementation.type with
        | unresolved raw => simp [hreturns, htype, Classified.ofErrors] at h
        | resolved type =>
          simp [habstract, hparameters, hreturns, htype, Classified.ofNode,
            BindsFunction.outlines, TypeRef.name?, Parameter.key?, Node.outline, Node.bare,
            Declaration.outlineCount]
    · simp [Classified.ofErrors] at h
  · simp [Classified.ofErrors] at h

/-- A classification without errors yields exactly the outlined nodes. -/
theorem Declaration.map_outline_classify {declaration : Declaration} {place : Placement}
    (h : (declaration.classify place).errors = []) :
    (declaration.classify place).nodes.map Node.outline =
        declaration.outlines place.position place.host ∧
      (declaration.classify place).nodes.length = declaration.outlineCount := by
  cases declaration with
  | injectable i => exact Injectable.map_outline_classify h
  | provides f => exact ProvidesFunction.map_outline_classify h
  | binds f => exact BindsFunction.map_outline_classify h

theorem Declaration.mem_outlines {declaration : Declaration} {position : Nat}
    {host : ComponentId} {outline : Outline} (h : outline ∈ declaration.outlines position host) :
    outline.source = position ∧ outline.host = host := by
  cases declaration with
  | injectable i =>
    simp only [outlines, Injectable.outlines] at h
    split at h
    · simp at h
    · simp only [List.cons_append, List.mem_cons, List.mem_append, List.mem_map] at h
      rcases h with rfl | ⟨contract, _, rfl⟩ | ⟨interface, _, rfl⟩
      · exact ⟨rfl, rfl⟩
      · exact ⟨rfl, rfl⟩
      · exact ⟨rfl, rfl⟩
  | provides f =>
    rcases List.mem_map.1 h with ⟨type, _, rfl⟩
    exact ⟨rfl, rfl⟩
  | binds f =>
    simp only [outlines, BindsFunction.outlines] at h
    split at h
    · rcases List.mem_map.1 h with ⟨target, _, rfl⟩
      exact ⟨rfl, rfl⟩
    · simp at h

theorem Declaration.outlineCount_pos (declaration : Declaration) :
    0 < declaration.outlineCount := by
  cases declaration with
  | injectable i =>
    simp only [outlineCount]
    omega
  | provides f => exact Nat.one_pos
  | binds f => exact Nat.one_pos

end ObjectGraph
