/-! # Changes in place

A computation in place changes a state as it goes. A fault ends it, and what has been changed by
then stays changed.

* `InPlace ε σ α` — such computations, with `on` for the outcome and the state that is left.
* `ask`, `attempt` — to look at the state, and to replace it, where either may fail.
* `onPart` — a computation in place on a part of the state.
* `result` — what a computation comes to where a state that a fault has left is of no use.
-/

namespace Adventure

/-- A computation that changes a state of type `σ` in place. -/
abbrev InPlace (ε σ α : Type) := ExceptT ε (StateM σ) α

namespace InPlace

variable {ε σ τ α : Type}

/-- The outcome, and the state that is left. -/
def on (x : InPlace ε σ α) (s : σ) : Except ε α × σ := x.run.run s

/-- What can be told from the state. -/
def ask (f : σ → Except ε α) : InPlace ε σ α := do
  match f (← get) with
  | .ok a => return a
  | .error fault => throw fault

/-- Replaces the state, unless there is nothing to replace it by. -/
def attempt (f : σ → Except ε σ) : InPlace ε σ Unit := do
  set (← ask f)

/-- Takes place on a part of the state, if it has that part. What is left of the part is put back
after a fault too. -/
def onPart (part : σ → Except ε τ) (put : τ → σ → σ) (x : InPlace ε τ α) : InPlace ε σ α := fun s =>
  match part s with
  | .error fault => (.error fault, s)
  | .ok p =>
    let (outcome, p) := x.on p
    (outcome, put p s)

/-- The same with other faults. -/
def mapFault {ε' : Type} (f : ε → ε') (x : InPlace ε σ α) : InPlace ε' σ α := fun s =>
  let (outcome, s) := x.on s
  (outcome.mapError f, s)

/-- The answer with the state that is left, or the fault. -/
def result (x : InPlace ε σ α) (s : σ) : Except ε (α × σ) :=
  match x.on s with
  | (.ok a, t) => .ok (a, t)
  | (.error fault, _) => .error fault

end InPlace

end Adventure
