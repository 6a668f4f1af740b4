import Validium.Signal

/-!
A clock that stands still unless time is spent on it, and the instant at which a signal is
to fire. Whoever waits under the signal stops at that instant; whoever does not is only
told afterwards. A signal due at the very end of a span has not fired within it.
-/
namespace Validium.Rehearsal

structure Timer where
  /-- The time, in nanoseconds. -/
  now : Nat
  fired : Bool
  /-- When the signal is to fire, unless it has. -/
  due : Option Nat
  deriving DecidableEq, Repr

namespace Timer

def start : Timer := ⟨0, false, none⟩

def longest : Nat := 30 * 365 * 86400 * 1000000000

def fire (t : Timer) : Timer := { t with fired := true, due := none }

/-- Sets the signal to fire after a span, unless it is due earlier. -/
def fireAfter (t : Timer) (span : Nat) : Timer :=
  let due := t.now + min span longest
  if t.fired then t else { t with due := some (t.due.elim due (min due)) }

def firesWithin (t : Timer) (span : Nat) : Bool :=
  match t.due with
  | some d => d < t.now + span
  | none => false

def elapse (t : Timer) (span : Nat) : Timer :=
  let later := { t with now := t.now + span }
  if t.firesWithin span then later.fire else later

/-- Waits for a span or until the signal fires. -/
def wait (t : Timer) (span : Nat) : Timer :=
  let span := min span longest
  if t.fired then t
  else if t.firesWithin span then { t.fire with now := max t.now (t.due.getD 0) }
  else { t with now := t.now + span }

def renew (t : Timer) : Timer := { t with fired := false, due := none }

end Timer

end Validium.Rehearsal
