import ObjectGraph.Key

/-!
# Instances — live components

An instance of a component holds its parent instance, so it is known by the frames from itself up to
the root. Stamps are never used twice.

* `Instance.lineage`, `Instance.parent?` — upwards;
* `Instance.search` — the nearest instance upwards with something to find.
-/

namespace ObjectGraph

structure Frame where
  stamp : Nat
  component : ComponentId
  deriving DecidableEq, Repr

structure Instance where
  frame : Frame
  above : List Frame
  deriving DecidableEq, Repr

namespace Instance

def component (inst : Instance) : ComponentId := inst.frame.component

def stamp (inst : Instance) : Nat := inst.frame.stamp

def lineage (inst : Instance) : List Frame := inst.frame :: inst.above

def parent? (inst : Instance) : Option Instance :=
  match inst.above with
  | [] => none
  | frame :: above => some ⟨frame, above⟩

/-- The stamp of the root instance, which every instance of one live graph shares. -/
def rootStamp (inst : Instance) : Nat := (inst.above.getLast?.getD inst.frame).stamp

/-- The nearest instance upwards for whose component `find` has a result, with that result. -/
def search {α : Type} (find : ComponentId → Option α) : Frame → List Frame → Option (Instance × α)
  | frame, above =>
    match find frame.component, above with
    | some found, above => some (⟨frame, above⟩, found)
    | none, [] => none
    | none, next :: above => search find next above

end Instance
end ObjectGraph
