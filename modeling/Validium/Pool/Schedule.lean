import Validium.Pool
import Validium.Steps

/-!
Every way in which a run of the pool can go. Each job gets a worker of its own, which waits
for a permit, works step by step on the world that all workers share, and gives its permit
back when it ends. The caller hands out the jobs in order, then looks at the signal and polls
for a worker that has ended, in turns, until all have been joined or the signal has fired.
Workers and caller take their steps in any order, and the signal may fire between any two.
-/
namespace Validium

namespace Completion

variable {α : Type}

def value? : Completion α → Option α
  | .returned a => some a
  | .brokeDown => none

/-- A slot left empty belongs to a worker that broke down. -/
def ofSlot : Option α → Completion α
  | some a => .returned a
  | none => .brokeDown

end Completion

namespace Pool

/-- Work done in steps. A step changes the world, and what is left to do may depend on how
the step found it. -/
inductive Work (W α : Type) where
  | ended (result : Completion α)
  | step (effect : W → W) (next : W → Work W α)

namespace Work

variable {W α : Type}

def run : Work W α → StateM W (Completion α)
  | .ended result => pure result
  | .step effect next => fun w => (next w).run (effect w)

def ofAction (action : StateM W (Completion α)) : Work W α :=
  .step (fun w => (action w).2) (fun w => .ended (action w).1)

/-- The ends that work can come to, whatever others do to the world meanwhile. -/
inductive Ends : Work W α → Completion α → Prop
  | ended (result : Completion α) : Ends (.ended result) result
  | step (effect : W → W) (next : W → Work W α) (w : W) (result : Completion α) :
      Ends (next w) result → Ends (.step effect next) result

end Work

inductive Worker (W α : Type) where
  | waiting (work : Work W α)
  /-- It holds a permit. -/
  | running (rest : Work W α)
  | finished (result : Completion α)
  | joined (result : Completion α)
  /-- Dropped before it had a permit. -/
  | withdrawn
  /-- Dropped while it held a permit. -/
  | aborted

namespace Worker

variable {W α : Type}

def isRunning : Worker W α → Bool
  | .running _ => true
  | _ => false

def isFinished : Worker W α → Bool
  | .finished _ => true
  | _ => false

def isJoined : Worker W α → Bool
  | .joined _ => true
  | _ => false

end Worker

inductive Caller (W α : Type) where
  | entering (jobs : List (Work W α))
  /-- Handing out the jobs that are left. -/
  | spawning (left : List (Work W α))
  /-- About to look at the signal. -/
  | looking
  /-- About to ask for a worker that has ended, the signal not having fired at the last look. -/
  | polling
  /-- Asleep until a worker ends or the signal fires. -/
  | parked
  | ended (result : Except Halt (List (Completion α)))

structure State (W α : Type) where
  world : W
  workers : List (Worker W α)
  /-- The results of the workers that returned, in the order of the jobs. -/
  slots : List (Option α)
  free : Nat
  caller : Caller W α
  fired : Bool

namespace State

variable {W α : Type}

def initial (limit : Nat) (jobs : List (Work W α)) (w : W) (fired : Bool) : State W α :=
  ⟨w, [], List.replicate jobs.length none, limit, .entering jobs, fired⟩

def running (s : State W α) : Nat := s.workers.countP Worker.isRunning

end State

inductive Act where
  | start
  | progress
  | finish
  | drop
  deriving DecidableEq, Repr

inductive Event where
  | fire
  /-- What the worker with this number does. -/
  | turn (i : Nat) (act : Act)
  | spawn
  /-- The caller joins the worker with this number. -/
  | join (i : Nat)
  /-- The caller goes on without touching a worker. -/
  | move
  deriving DecidableEq, Repr

variable {W α : Type}

/-- What a worker does with the world and the free permits. A worker ends in the same way
whether it returns or breaks down. -/
inductive Turn : Act → W → Nat → Worker W α → W → Nat → Worker W α → Prop
  | start (w : W) (free : Nat) (work : Work W α) :
      Turn .start w (free + 1) (.waiting work) w free (.running work)
  | progress (w : W) (free : Nat) (effect : W → W) (next : W → Work W α) :
      Turn .progress w free (.running (.step effect next)) (effect w) free (.running (next w))
  | finish (w : W) (free : Nat) (result : Completion α) :
      Turn .finish w free (.running (.ended result)) w (free + 1) (.finished result)
  | withdraw (w : W) (free : Nat) (work : Work W α) :
      Turn .drop w free (.waiting work) w free .withdrawn
  | abort (w : W) (free : Nat) (rest : Work W α) :
      Turn .drop w free (.running rest) w (free + 1) .aborted

/-- Where the caller goes from a state when it touches no worker. -/
inductive Move (limit : Nat) (s : State W α) : Caller W α → Prop
  | refuse (jobs : List (Work W α)) (hat : s.caller = .entering jobs) (hfired : s.fired = true) :
      Move limit s (.ended (.error .cancelled))
  | overcommit (jobs : List (Work W α)) (hat : s.caller = .entering jobs)
      (hfired : s.fired = false) (hover : maxPermits < limit) :
      Move limit s (.ended (.error .overcommitted))
  | enter (jobs : List (Work W α)) (hat : s.caller = .entering jobs) (hfired : s.fired = false)
      (hlimit : limit ≤ maxPermits) : Move limit s (.spawning jobs)
  | spawned (hat : s.caller = .spawning []) : Move limit s .looking
  | giveUp (hat : s.caller = .looking) (hfired : s.fired = true) :
      Move limit s (.ended (.error .cancelled))
  | look (hat : s.caller = .looking) (hfired : s.fired = false) : Move limit s .polling
  | conclude (hat : s.caller = .polling) (hall : ∀ worker ∈ s.workers, worker.isJoined = true) :
      Move limit s (.ended (.ok (s.slots.map Completion.ofSlot)))
  | park (hat : s.caller = .polling) (hnone : ∀ worker ∈ s.workers, worker.isFinished = false)
      (hsome : ∃ worker ∈ s.workers, worker.isJoined = false) : Move limit s .parked
  | wake (hat : s.caller = .parked)
      (hnews : s.fired = true ∨ ∃ worker ∈ s.workers, worker.isFinished = true) :
      Move limit s .looking

inductive Step (limit : Nat) : State W α → Event → State W α → Prop
  | fire (s : State W α) (hfired : s.fired = false) : Step limit s .fire { s with fired := true }
  /-- Workers are dropped only after the caller has given up. -/
  | turn (s : State W α) (i : Nat) (act : Act) (worker worker' : Worker W α) (w : W) (free : Nat)
      (hworker : s.workers[i]? = some worker)
      (hturn : Turn act s.world s.free worker w free worker')
      (hdrop : act = .drop → s.caller = .ended (.error .cancelled)) :
      Step limit s (.turn i act)
        { s with world := w, free := free, workers := s.workers.set i worker' }
  | spawn (s : State W α) (work : Work W α) (left : List (Work W α))
      (hat : s.caller = .spawning (work :: left)) :
      Step limit s .spawn
        { s with workers := s.workers ++ [.waiting work], caller := .spawning left }
  /-- A worker that broke down leaves its slot empty. -/
  | join (s : State W α) (i : Nat) (result : Completion α) (hat : s.caller = .polling)
      (hworker : s.workers[i]? = some (.finished result)) :
      Step limit s (.join i)
        { s with
          workers := s.workers.set i (.joined result)
          slots := s.slots.set i result.value?
          caller := .looking }
  | move (s : State W α) (caller : Caller W α) (hmove : Move limit s caller) :
      Step limit s .move { s with caller := caller }

abbrev Run (limit : Nat) : State W α → List Event → State W α → Prop := Steps (Step limit)

end Pool

end Validium
