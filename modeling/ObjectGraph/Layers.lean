import ObjectGraph.Live.Context
import ObjectGraph.Live.Error

/-!
# Layers — scoped providers around other providers

Layer 0 runs a closure, which has a state of its own and may fail. Every other layer is scoped: it wraps
an earlier layer and keeps the first value that one yields.

* `Closure` — what a run yields and the state that it leaves;
* `Layers.call` — a call of one layer;
* `Layers.run` — calls one after the other;
* `numberedClosure` — a closure that yields the number of its call.
-/

namespace ObjectGraph

/-- What one run yields for a context, and the state in which the next run finds the closure. -/
abbrev Closure (σ α ε : Type) := σ → Context → Except ε α × σ

/-- `inner` holds the wrapped layer of the layers 1, 2 and so on; `cached` holds their values. The state
is that of the closure, which has been run `calls` times. -/
structure Layers (σ α : Type) where
  inner : List Nat
  cached : List (Option α)
  calls : Nat
  state : σ

namespace Layers

variable {σ α ε : Type}

/-- Layers that hold no value yet, around a closure in a state. -/
def start (inner : List Nat) (state : σ) : Layers σ α :=
  ⟨inner, inner.map fun _ => none, 0, state⟩

/-- Layers that hold no value yet, around a closure that numbers its calls. -/
def ofList (inner : List Nat) : Layers Nat α := start inner 0

/-- The value that a scoped layer holds. -/
def value? (layers : Layers σ α) (index : Nat) : Option α :=
  (layers.cached[index]?).join

def runClosure (closure : Closure σ α ε) (context : Context) (layers : Layers σ α) :
    Except ε α × Layers σ α :=
  let (result, state) := closure layers.state context
  (result, ⟨layers.inner, layers.cached, layers.calls + 1, state⟩)

/-- Calls a layer. A wrapped layer comes before the one around it, so the number of a layer bounds
the depth of the calls below it; a layer that wraps none runs the closure. -/
def callWithin (closure : Closure σ α ε) (context : Context) :
    Nat → Nat → Layers σ α → Except ε α × Layers σ α
  | _, 0, layers => runClosure closure context layers
  | 0, _ + 1, layers => runClosure closure context layers
  | bound + 1, index + 1, layers =>
    match layers.value? index with
    | some value => (.ok value, layers)
    -- Nothing is kept when the wrapped layer fails, so the next call tries again.
    | none =>
      match callWithin closure context bound ((layers.inner[index]?).getD 0) layers with
      | (.ok value, layers) =>
        (.ok value, { layers with cached := layers.cached.set index (some value) })
      | (.error error, layers) => (.error error, layers)

def call (closure : Closure σ α ε) (layers : Layers σ α) (layer : Nat) (context : Context) :
    Except ε α × Layers σ α :=
  callWithin closure context layer layer layers

/-- Results of calls, each with the number of runs of the closure so far. -/
def run (closure : Closure σ α ε) (layers : Layers σ α) :
    List (Nat × Context) → List (Except ε α × Nat)
  | [] => []
  | (layer, context) :: rest =>
    let (result, layers) := layers.call closure layer context
    (result, layers.calls) :: layers.run closure rest

end Layers

/-! ## A closure -/

/-- Its state is the number of its calls. It yields the number of the call and the context value of a
type, and fails on the listed calls. -/
def numberedClosure (failing : List Nat) (type : TypeName) :
    Closure Nat (Nat × Option String) ResolveError := fun calls context =>
  let call := calls + 1
  if failing.contains call then (.error (.noProviderFound (.unqualified s!"call{call}")), call)
  else (.ok (call, context.find? type), call)

end ObjectGraph
