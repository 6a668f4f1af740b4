import Validium.Signal

/-!
Repeating an attempt that failed. There is a budget of attempts, a wait between each two,
and a rule that tells which failures are worth another attempt. The signal is looked at
before every attempt and cuts the waits short.
-/
namespace Validium.Retry

inductive Backoff where
  /-- Doubled each time, and spread so that callers do not meet. -/
  | exponential
  | fixed
  deriving DecidableEq, Repr

structure Policy where
  maxAttempts : UInt32
  baseDelay : Duration
  backoff : Backoff
  deriving DecidableEq

namespace Policy

def exponential (maxAttempts : UInt32) (baseDelay : Duration) : Policy :=
  ⟨maxAttempts, baseDelay, .exponential⟩

def fixed (maxAttempts : UInt32) (interval : Duration) : Policy :=
  ⟨maxAttempts, interval, .fixed⟩

def standard : Policy := exponential 5 (.ofSeconds 1)

def attempts (p : Policy) : UInt32 := max 1 p.maxAttempts

/-- The wait after a failed attempt, counted from one, before it is spread. Doubling ends
where the factor would not fit 32 bits. -/
def nominalDelay (p : Policy) (attempt : UInt32) : Duration :=
  match p.backoff with
  | .fixed => p.baseDelay
  | .exponential =>
    let shift : UInt32 := if attempt = 0 then 0 else attempt - 1
    let factor : UInt32 := if shift < 32 then (1 : UInt32) <<< shift else 0xffffffff
    p.baseDelay.scale factor

end Policy

inductive Error (ε : Type) where
  | cancelled
  | exhausted (attempts : UInt32) (last : ε)
  | fatal (attempt : UInt32) (error : ε)
  deriving DecidableEq, Repr

namespace Error

variable {ε : Type}

def message (text : ε → String) : Error ε → String
  | .cancelled => Cancelled.message
  | .exhausted attempts last => s!"failed after {attempts.toNat} attempts: " ++ text last
  | .fatal attempt error =>
    s!"non-retryable failure on attempt {attempt.toNat}: " ++ text error

def inner? : Error ε → Option ε
  | .cancelled => none
  | .exhausted _ last => some last
  | .fatal _ error => some error

def isCancelled : Error ε → Bool
  | .cancelled => true
  | _ => false

end Error

structure Pacing (m : Type → Type) where
  fired : m Bool
  sleep : Duration → m Unit
  spread : Duration → m Duration

variable {m : Type → Type} [Monad m] {ε α : Type}

def delay (p : Policy) (pacing : Pacing m) (attempt : UInt32) : m Duration :=
  match p.backoff with
  | .fixed => return p.nominalDelay attempt
  | .exponential => pacing.spread (p.nominalDelay attempt)

/-- Makes attempt number `attempt` and, should it fail, at most `left` more. -/
def runFrom (p : Policy) (pacing : Pacing m) (op : UInt32 → m (Except ε α))
    (retryable : ε → Bool) : Nat → UInt32 → m (Except (Error ε) α)
  | left, attempt => do
    if ← pacing.fired then return .error .cancelled
    match ← op attempt with
    | .ok value => return .ok value
    | .error e =>
      if !retryable e then return .error (.fatal attempt e)
      match left with
      | 0 => return .error (.exhausted p.attempts e)
      | left + 1 =>
        pacing.sleep (← delay p pacing attempt)
        if ← pacing.fired then return .error .cancelled
        runFrom p pacing op retryable left (attempt + 1)

def runIf (p : Policy) (pacing : Pacing m) (op : UInt32 → m (Except ε α))
    (retryable : ε → Bool) : m (Except (Error ε) α) :=
  runFrom p pacing op retryable (p.attempts.toNat - 1) 1

/-- Repeats after every failure. -/
def run (p : Policy) (pacing : Pacing m) (op : UInt32 → m (Except ε α)) :
    m (Except (Error ε) α) :=
  runIf p pacing op fun _ => true

variable {W : Type}

def Pacing.ofClock (signal : Signal W) (clock : Clock W) : Pacing (StateM W) :=
  ⟨signal.isFired, clock.sleep, clock.spread⟩

def Pacing.interruptible (signal : Signal W) (clock : Clock W) :
    Pacing (ExceptT Cancelled (StateM W)) :=
  ⟨signal.isFired, fun d => signal.await (clock.sleep d), fun d => clock.spread d⟩

end Validium.Retry
