import Validium.Attestation.Reader
import Validium.Chain.Memory
import Validium.DataLayer.OfSettings
import Validium.Rehearsal.Server
import Validium.Rehearsal.Timer
import Validium.Store.FileSystem
import Validium.Store.Memory

/-!
A closed world in which every operation of the library can be played through: a timer with
one signal, servers that answer from scripts, stores, a chain, and a table of records. All
that an operation did can be read off the world afterwards.
-/
namespace Validium.Rehearsal

inductive Mishap where
  | breakdown
  | cancellation
  | failure (message : String)
  deriving DecidableEq, Repr

/-- A mishap by its name, or by the message of the failure. -/
def Mishap.ofText : String → Mishap
  | "panic" => .breakdown
  | "cancelled" => .cancellation
  | message => .failure message

inductive Outage where
  /-- The worker of every call breaks down. -/
  | breakdown
  | unavailable (reason : String)
  deriving DecidableEq, Repr

def Outage.ofText? : String → Option Outage
  | "" => none
  | "panic" => some .breakdown
  | reason => some (.unavailable reason)

structure World where
  timer : Timer
  servers : List Server
  files : Store.FileSystem
  memory : Store.Memory
  /-- The keys whose objects cannot be worked on. -/
  mishaps : List (String × Mishap)
  isUnhealthy : Bool
  chain : Chain.Memory
  outage : Option Outage
  records : Attestation.Table

namespace World

def start (directories : List Disk.Path) : World where
  timer := .start
  servers := []
  files := ⟨⟨directories.map fun p => (p, .directory)⟩, 1, 0⟩
  memory := .empty
  mishaps := []
  isUnhealthy := false
  chain := .empty
  outage := none
  records := .empty

def timerPart : Part World Timer := ⟨World.timer, fun t w => { w with timer := t }⟩

def filesPart : Part World Store.FileSystem := ⟨World.files, fun f w => { w with files := f }⟩

def memoryPart : Part World Store.Memory := ⟨World.memory, fun m w => { w with memory := m }⟩

def chainPart : Part World Chain.Memory := ⟨World.chain, fun c w => { w with chain := c }⟩

def recordsPart : Part World Attestation.Table :=
  ⟨World.records, fun t w => { w with records := t }⟩

def onTimer (f : Timer → Timer) : StateM World Unit :=
  modify fun w => { w with timer := f w.timer }

def signal : Signal World := ⟨fun w => w.timer.fired⟩

def clock : Clock World where
  sleep d := onTimer (·.wait d.toNanos)
  spread d := return d

def exchangeTime : Nat := 1

def exchange (r : Http.Request) : StateM World Http.Outcome := do
  onTimer (·.elapse exchangeTime)
  let w ← get
  match Server.deliver r w.servers with
  | (none, _) => return .failed .unreachable
  | (some turn, servers) =>
    set { w with servers }
    if turn.fires then onTimer Timer.fire
    if turn.reaction = .silence then onTimer (·.wait r.timeout.toNanos)
    return turn.reaction.outcome

def network : Network World := ⟨exchange⟩

def surroundings : Surroundings World := ⟨network, clock, filesPart⟩

def requestsTo (w : World) (address : Url) : List Http.Request :=
  ((w.servers.find? fun s => s.address == address).map Server.log).getD []

end World

end Validium.Rehearsal
