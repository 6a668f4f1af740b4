import Validium.Duration

/-!
The signal by which a caller gives an operation up. Once fired it stays fired. An
operation awaits each of its steps under the signal: nothing is begun after it has fired,
and a step during which it fires counts as cut short, whatever it has done by then.

Operations change a world `W`, which holds all that they share with others.
-/
namespace Validium

inductive Cancelled where
  | cancelled
  deriving DecidableEq, Repr

def Cancelled.message : String := "operation cancelled"

structure Signal (W : Type) where
  fired : W → Bool

abbrev Interruptible (W α : Type) := ExceptT Cancelled (StateM W) α

namespace Signal

variable {W α : Type}

def never : Signal W := ⟨fun _ => false⟩

def isFired (s : Signal W) : StateM W Bool := do
  return s.fired (← get)

/-- Takes a step unless the signal has fired, and keeps its result unless it fires
meanwhile. -/
def await (s : Signal W) (step : StateM W α) : Interruptible W α := do
  if ← s.isFired then throw .cancelled
  let a ← step
  if ← s.isFired then throw .cancelled
  return a

/-- Takes a step that, once begun, runs on without the caller: the signal cuts short only
the waiting for it. -/
def awaitBegun (s : Signal W) (step : StateM W α) : Interruptible W α := do
  let a ← step
  if ← s.isFired then throw .cancelled
  return a

end Signal

structure Clock (W : Type) where
  /-- Lets time pass; the signal may fire meanwhile and end the wait. -/
  sleep : Duration → StateM W Unit
  /-- The delay taken for one of the given length, somewhat shorter or longer. -/
  spread : Duration → StateM W Duration

/-- The end of work that may break down. Whoever did not hand it to a worker of its own breaks
down with it. -/
inductive Completion (α : Type) where
  | returned (a : α)
  | brokeDown
  deriving DecidableEq, Repr

namespace Completion

variable {α β : Type}

def map (f : α → β) : Completion α → Completion β
  | .returned a => .returned (f a)
  | .brokeDown => .brokeDown

@[simp] theorem map_returned (f : α → β) (a : α) : (returned a).map f = .returned (f a) := rfl

@[simp] theorem map_brokeDown (f : α → β) : (brokeDown : Completion α).map f = .brokeDown := rfl

end Completion

end Validium
