import Validium.Signal

/-!
Working through a list of jobs with a bounded number in hand at a time. Every job has a
slot in the order of the jobs, so the results do not depend on the order in which the jobs
end. The signal ends the whole run, and a run cut short has no results.
-/
namespace Validium.Pool

inductive Halt where
  | cancelled
  /-- More permits are asked for than there can be. -/
  | overcommitted
  deriving DecidableEq, Repr

def Halt.message : Halt → String
  | .cancelled => Cancelled.message
  | .overcommitted => "more permits than there can be"

def maxPermits : Nat := (UInt64.size - 1) >>> 3

/-- Jobs in hand at a time: at least one. -/
def permits (concurrency : UInt64) : Nat := max 1 concurrency.toNat

variable {W α : Type}

/-- Runs the jobs in order and collects their ends, looking at the signal after each. -/
def collect (signal : Signal W) :
    List (StateM W (Completion α)) → StateM W (Except Halt (List (Completion α)))
  | [] => return .ok []
  | job :: rest => do
    let result ← job
    if ← signal.isFired then return .error .cancelled
    match ← collect signal rest with
    | .error halt => return .error halt
    | .ok results => return .ok (result :: results)

/-- Runs all jobs, unless the signal has fired already. Jobs share nothing but the world,
so one of the orders that the permits allow is the order in which they are listed. -/
def run (signal : Signal W) (concurrency : UInt64) (jobs : List (StateM W (Completion α))) :
    StateM W (Except Halt (List (Completion α))) := do
  if ← signal.isFired then return .error .cancelled
  if maxPermits < permits concurrency then return .error .overcommitted
  collect signal jobs

end Validium.Pool
