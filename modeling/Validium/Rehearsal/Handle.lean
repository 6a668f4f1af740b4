import Validium.Rehearsal.Timer

/-!
A handle that fires a signal, and tokens that watch it. A handle that is given up never
fires again, but what it has set off already stays so. Some tokens watch no handle at all.
-/
namespace Validium.Rehearsal

structure Handle where
  timer : Timer
  isHeld : Bool
  /-- Which tokens watch the handle. -/
  tokens : List Bool
  deriving DecidableEq, Repr

namespace Handle

def start : Handle := ⟨.start, true, [true]⟩

/-- Fires, and tells whether there was a handle to fire. -/
def fire : StateM Handle Bool := do
  let h ← get
  if h.isHeld then set { h with timer := h.timer.fire }
  return h.isHeld

def giveUp : StateM Handle Unit := modify fun h => { h with isHeld := false }

def addToken (watches : Bool) : StateM Handle Nat := do
  modify fun h => { h with tokens := h.tokens ++ [watches] }
  return (← get).tokens.length

def token : StateM Handle Nat := do
  let h ← get
  if h.isHeld then addToken true else return h.tokens.length

def watches (h : Handle) (n : Nat) : Bool := h.tokens[n]?.getD false

def copy (n : Nat) : StateM Handle Nat := do
  addToken ((← get).watches n)

def signal (n : Nat) : Signal Handle := ⟨fun h => h.watches n && h.timer.fired⟩

def sleep (n span : Nat) : StateM Handle Unit := modify fun h =>
  { h with timer := if h.watches n then h.timer.wait span else h.timer.elapse span }

def fireAfter (span : Nat) : StateM Handle Unit := modify fun h =>
  if h.isHeld then { h with timer := h.timer.fireAfter span } else h

def work (n span : Nat) : Interruptible Handle Unit :=
  (signal n).await (sleep n span)

def await (n span : Nat) : StateM Handle Bool := do
  if !(signal n).fired (← get) then sleep n span
  return (signal n).fired (← get)

end Handle

end Validium.Rehearsal
