import Validium.Chain.Memory
import Validium.Steps

/-!
Every way in which calls to one chain in memory can go together. A submission looks whether
submissions are refused, makes its block and reads the hash of this block, each by itself: what
others do comes before, between or after these steps. To make a block, to refuse submissions and
to set the delay of calls is one step each.
-/
namespace Validium.Chain.Memory

def refuse (m : Memory) (reason : String) : Memory := { m with rejectReason := some reason }

def delay (m : Memory) (d : Duration) : Memory := { m with latency := some d }

namespace Traffic

inductive Stage where
  | called
  /-- Nothing has refused it. -/
  | admitted
  /-- Has made the block of this number. -/
  | placed (number : UInt32)
  | ended (result : Completion (Except Error Inclusion))

structure Submission where
  blob : Bytes
  stage : Stage

/-- What a submission does next, and where it is then. One whose block is not there breaks
down. -/
def advance (blob : Bytes) (m : Memory) : Stage → Option (Memory × Stage)
  | .called =>
    match m.rejectReason with
    | some reason => some (m, .ended (.returned (.error (.rejected reason))))
    | none => some (m, .admitted)
  | .admitted =>
    let (number, m) := m.pushBlock [blob]
    some (m, .placed number)
  | .placed number =>
    match m.block? number with
    | some b => some (m, .ended (.returned (.ok ⟨number, b.hash, inherents⟩)))
    | none => some (m, .ended .brokeDown)
  | .ended _ => none

end Traffic

structure Traffic where
  memory : Memory
  submissions : List Traffic.Submission

namespace Traffic

inductive Event where
  | call (blob : Bytes)
  /-- The submission with this number takes a step. -/
  | turn (i : Nat)
  | push (blobs : List Bytes)
  | refuse (reason : String)
  | delay (d : Duration)
  deriving DecidableEq

inductive Step : Traffic → Event → Traffic → Prop
  | call (t : Traffic) (blob : Bytes) :
      Step t (.call blob) { t with submissions := t.submissions ++ [⟨blob, .called⟩] }
  | turn (t : Traffic) (i : Nat) (s : Submission) (m : Memory) (stage : Stage)
      (hs : t.submissions[i]? = some s)
      (hturn : advance s.blob t.memory s.stage = some (m, stage)) :
      Step t (.turn i) ⟨m, t.submissions.set i { s with stage := stage }⟩
  | push (t : Traffic) (blobs : List Bytes) :
      Step t (.push blobs) { t with memory := (t.memory.pushBlock blobs).2 }
  | refuse (t : Traffic) (reason : String) :
      Step t (.refuse reason) { t with memory := t.memory.refuse reason }
  | delay (t : Traffic) (d : Duration) : Step t (.delay d) { t with memory := t.memory.delay d }

abbrev Run : Traffic → List Event → Traffic → Prop := Steps Step

def start : Traffic := ⟨empty, []⟩

end Traffic

end Validium.Chain.Memory
