import Validium.Rehearsal.World

/-!
A store whose objects, and a chain whose calls, go wrong when the world says so.
-/
namespace Validium.Rehearsal

def Mishap.outcome {α : Type} : Mishap → Completion (Except Store.Fault α)
  | .breakdown => .brokeDown
  | .cancellation => .returned (.error .cancelled)
  | .failure message => .returned (.error (.backend "faulty" message))

def Outage.outcome {α : Type} : Outage → Completion (Except Chain.Error α)
  | .breakdown => .brokeDown
  | .unavailable reason => .returned (.error (.unavailable reason))

namespace World

def guarded {α : Type} (key : String) (work : StateM World (Completion (Except Store.Fault α))) :
    StateM World (Completion (Except Store.Fault α)) := do
  match (← get).mishaps.lookup key with
  | some mishap => return mishap.outcome
  | none => work

def fallible (inner : Store.Objects World) : Store.Objects World where
  name := inner.name
  put key body expires := guarded key (inner.put key body expires)
  get key := guarded key (inner.get key)
  health := do
    if (← get).isUnhealthy then return .error (.backend "faulty" "down")
    else inner.health

def call {α : Type} (work : StateM World (Completion (Except Chain.Error α))) :
    StateM World (Completion (Except Chain.Error α)) := do
  match (← get).outage with
  | some outage => return outage.outcome
  | none => work

def chainClient : Chain World :=
  let inner : Chain World := Chain.Memory.chain chainPart fun d => onTimer (·.elapse d.toNanos)
  { submit := fun blob => call (inner.submit blob)
    fetch := fun block index kind => call (inner.fetch block index kind) }

def recordReader : Attestation.Reader World := Attestation.Table.reader recordsPart

end World

end Validium.Rehearsal
