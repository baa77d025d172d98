import ObjectGraph.Diagnostic
import ObjectGraph.Manifest
import ObjectGraph.Table

/-!
# Contributions — which component each declaration is handed to

Components, modules and injectables name the components that they contribute to; a function goes
with its module. The first known target of a unit hosts it. Of several declarations of one component
or module identity the last one decides everything but the targets, which are merged.

The target lists are read once, in the order of the manifest. Each known target is filed twice, under
the component and under the unit, and whatever is wrong is reported when it is met.

* `ContributionUnit` — what is contributed as one;
* `ContributionIndex.contribute`, `ContributionIndex.enroll` — one target list, one function;
* `Manifest.index` — everything that a manifest contributes;
* `Manifest.unitsOf`, `Manifest.targetsOf` — the index read in either direction;
* `Manifest.hostOf?`, `Manifest.members` — the host of a declaration, the functions of a module.
-/

namespace ObjectGraph

/-! ## Units -/

inductive ContributionUnit where
  | injectable (position : Nat)
  | moduleUnit (id : ModuleId)
  | component (id : ComponentId)
  deriving DecidableEq, Repr

namespace ContributionUnit

/-- Injectables come before modules, and modules before components. -/
def rank : ContributionUnit → Nat
  | .injectable _ => 0
  | .moduleUnit _ => 1
  | .component _ => 2

def position : ContributionUnit → Nat
  | .injectable position => position
  | .moduleUnit _ | .component _ => 0

def identity : ContributionUnit → String
  | .injectable _ => ""
  | .moduleUnit id => id
  | .component id => id

instance : Ord ContributionUnit where
  compare := compareLex (compareOn rank) (compareLex (compareOn position) (compareOn identity))

instance : Std.TransOrd ContributionUnit :=
  inferInstanceAs (Std.TransCmp (compareLex (compareOn rank)
    (compareLex (compareOn position) (compareOn identity))))

instance : Std.LawfulEqOrd ContributionUnit where
  eq_of_compare {a b} h := by
    -- The rank tells the kinds apart, and within a kind one of the other two fields decides.
    obtain ⟨hrank, hrest⟩ := Ordering.then_eq_eq.1 h
    obtain ⟨hposition, hidentity⟩ := Ordering.then_eq_eq.1 hrest
    have hrank : a.rank = b.rank := Std.LawfulEqCmp.eq_of_compare hrank
    have hposition : a.position = b.position := Std.LawfulEqCmp.eq_of_compare hposition
    have hidentity : a.identity = b.identity := Std.LawfulEqCmp.eq_of_compare hidentity
    cases a <;> cases b <;> simp_all [rank, position, identity]

end ContributionUnit

namespace Manifest

/-! ## Known identities -/

def componentIds (manifest : Manifest) : List ComponentId :=
  sortedDistinct (manifest.components.map (·.id))

def isComponent (manifest : Manifest) (id : ComponentId) : Bool :=
  manifest.components.any fun component => component.id = id

def isModule (manifest : Manifest) (id : ModuleId) : Bool :=
  manifest.modules.any fun moduleDeclaration => moduleDeclaration.id = id

/-- The last declaration of a component, which decides its scope and kind. -/
def effectiveComponent? (manifest : Manifest) (id : ComponentId) : Option ComponentDeclaration :=
  manifest.components.findRev? fun component => component.id = id

end Manifest

/-! ## The index -/

/-- What the target lists read so far come to. Each declared component has an entry from the start; a
unit or a module has one as soon as something is filed under it. -/
structure ContributionIndex where
  contributions : Table ComponentId (List ContributionUnit)
  hosts : Table ContributionUnit (List ComponentId)
  members : Table ModuleId (List Nat)
  report : Report

namespace ContributionIndex

def start (ids : List ComponentId) : ContributionIndex where
  contributions := .ofList (ids.map fun id => (id, []))
  hosts := .empty
  members := .empty
  report := .empty

/-- Files one target of a unit. The name is the contributing declaration's, for diagnostics. -/
def contributeTo (unit : ContributionUnit) (name : String) (index : ContributionIndex)
    (target : ComponentId) : ContributionIndex :=
  if index.contributions.contains target then
    { index with
      contributions := index.contributions.push target unit
      hosts := index.hosts.push unit target
      report := match (index.hosts.group unit).head? with
        | some host => index.report ++ ⟨[], [.severalHosts name host target]⟩
        | none => index.report }
  else
    { index with
      report := index.report ++ .ofErrors [.unresolvedScopeReference name target] }

/-- Reads the target list of a unit. -/
def contribute (index : ContributionIndex) (unit : ContributionUnit) (name : String)
    (targets : List ComponentId) : ContributionIndex :=
  targets.foldl (contributeTo unit name) index

/-- Makes a function a member of its module. -/
def enroll (index : ContributionIndex) (manifest : Manifest) (name : String) (id : ModuleId)
    (position : Nat) : ContributionIndex :=
  if manifest.isModule id then
    { index with members := index.members.push id position }
  else
    { index with report := index.report ++ .ofErrors [.unknownModule name id] }

def addComponent (index : ContributionIndex) (component : ComponentDeclaration) :
    ContributionIndex :=
  index.contribute (.component component.id) component.id component.contributesTo

def addModule (index : ContributionIndex) (moduleDeclaration : ModuleDeclaration) :
    ContributionIndex :=
  index.contribute (.moduleUnit moduleDeclaration.id) moduleDeclaration.id
    moduleDeclaration.contributesTo

/-- A function has no targets of its own, so its module is all there is to check. -/
def addDeclaration (manifest : Manifest) (index : ContributionIndex) (entry : Declaration × Nat) :
    ContributionIndex :=
  match entry.1 with
  | .injectable i => index.contribute (.injectable entry.2) entry.1.displayName i.contributesTo
  | .provides f => index.enroll manifest entry.1.displayName f.moduleId entry.2
  | .binds f => index.enroll manifest entry.1.displayName f.moduleId entry.2

/-- The first of the components that a unit is contributed to. -/
def host? (index : ContributionIndex) (unit : ContributionUnit) : Option ComponentId :=
  (index.hosts.find? unit).bind List.head?

end ContributionIndex

namespace Manifest

/-- Components first, then modules, then declarations, each in the order of the manifest. -/
def index (manifest : Manifest) : ContributionIndex :=
  let afterComponents := manifest.components.foldl ContributionIndex.addComponent
    (.start manifest.componentIds)
  let afterModules := manifest.modules.foldl ContributionIndex.addModule afterComponents
  manifest.declarations.zipIdx.foldl (ContributionIndex.addDeclaration manifest) afterModules

/-! ## Both directions -/

def unitsOf (manifest : Manifest) (component : ComponentId) : List ContributionUnit :=
  manifest.index.contributions.group component

def targetsOf (manifest : Manifest) (unit : ContributionUnit) : List ComponentId :=
  manifest.index.hosts.group unit

/-- The first known target of a unit. -/
def hostOfUnit? (manifest : Manifest) (unit : ContributionUnit) : Option ComponentId :=
  manifest.index.host? unit

/-- The unit that the declaration at a position goes with: itself or its module. -/
def unitAt? (manifest : Manifest) (position : Nat) : Option ContributionUnit :=
  manifest.declarations[position]?.map fun declaration =>
    match declaration.moduleId? with
    | none => .injectable position
    | some id => .moduleUnit id

def hostOf? (manifest : Manifest) (position : Nat) : Option ComponentId :=
  (manifest.unitAt? position).bind manifest.hostOfUnit?

/-- Positions of the functions of a declared module. -/
def members (manifest : Manifest) (id : ModuleId) : List Nat :=
  manifest.index.members.group id

/-- Unknown targets, unknown modules and units with several hosts. -/
def indexReport (manifest : Manifest) : Report :=
  manifest.index.report

end Manifest
end ObjectGraph
