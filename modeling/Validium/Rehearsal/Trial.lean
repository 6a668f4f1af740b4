import Validium.Rehearsal.Timer
import Validium.Retry

/-!
Attempts with scripted ends. Attempt number `k` ends as entry `k` of the script says, and
the last entry holds for all later attempts. Attempts take no time, waits do.
-/
namespace Validium.Rehearsal

structure Trial where
  timer : Timer
  /-- The numbers of the attempts so far, last first. -/
  calls : List UInt32
  deriving DecidableEq, Repr

namespace Trial

variable {ε α : Type}

def pacing : Retry.Pacing (StateM Trial) where
  fired := return (← get).timer.fired
  sleep d := modify fun t => { t with timer := t.timer.wait d.toNanos }
  spread d := return d

def outcome? (script : List α) (attempt : UInt32) : Option α :=
  match script[attempt.toNat - 1]? with
  | some a => some a
  | none => script.getLast?

/-- One attempt; in the one with the number `firing` the signal fires. A script without
entries never succeeds. -/
def attempt (script : List (Except ε α)) (none : ε) (firing : Option UInt32) (n : UInt32) :
    StateM Trial (Except ε α) := do
  modify fun t => { t with calls := n :: t.calls }
  if firing = some n then modify fun t => { t with timer := t.timer.fire }
  return (outcome? script n).getD (.error none)

end Trial

end Validium.Rehearsal
