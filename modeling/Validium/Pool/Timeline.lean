import Validium.Pool

/-!
A run of the pool against the clock. Jobs get their permits in the order in which they are
listed, each as soon as one is free, and a job that ends hands its permit on at that very
instant. From the times that jobs take follow when each begins and ends, how many are in
hand at a time, and whether all are done before the signal fires.
-/
namespace Validium.Pool

structure TimedJob (α : Type) where
  time : Nat
  result : Completion α
  deriving Repr

structure Span where
  start : Nat
  finish : Nat
  deriving DecidableEq, Repr

namespace Timeline

def least (ns : List Nat) : Nat := ns.min?.getD 0

/-- The spans of jobs that take these times. The permits given out so far are free again at
the instants in `busy`; the first jobs find permits that nobody has had. -/
def spansFrom (permits : Nat) : List Nat → List Nat → List Span
  | _, [] => []
  | busy, time :: times =>
    if busy.length < permits then ⟨0, time⟩ :: spansFrom permits (time :: busy) times
    else
      let start := least busy
      ⟨start, start + time⟩ :: spansFrom permits ((start + time) :: busy.erase start) times

def spans (permits : Nat) (times : List Nat) : List Span :=
  spansFrom permits [] times

def length (s : List Span) : Nat :=
  (s.map Span.finish).foldl max 0

/-- How many jobs are in hand just after each job begins, itself included; `before` are
the jobs that began earlier. -/
def inHandFrom : List Span → List Span → List Nat
  | _, [] => []
  | before, s :: rest =>
    ((before.filter fun t => s.start < t.finish).length + 1) :: inHandFrom (s :: before) rest

def peak (s : List Span) : Nat :=
  (inHandFrom [] s).foldl max 0

end Timeline

structure Account (α : Type) where
  result : Except Halt (List (Completion α))
  peak : Nat
  /-- The number of jobs that got a permit. -/
  started : Nat
  deriving Repr

variable {α : Type}

/-- A run whose signal fires at an instant, if it does. A job may still begin at that
instant, and a run that ends at it is cut short all the same. -/
def account (concurrency : UInt64) (firesAt : Option Nat) (jobs : List (TimedJob α)) :
    Account α :=
  let spans := Timeline.spans (permits concurrency) (jobs.map TimedJob.time)
  if firesAt = some 0 then ⟨.error .cancelled, 0, 0⟩
  else if maxPermits < permits concurrency then ⟨.error .overcommitted, 0, 0⟩
  else
    let begun := spans.filter fun s => firesAt.all (s.start ≤ ·)
    let result := if firesAt.any (· ≤ Timeline.length spans) then .error .cancelled
      else .ok (jobs.map TimedJob.result)
    ⟨result, Timeline.peak begun, begun.length⟩

end Validium.Pool
