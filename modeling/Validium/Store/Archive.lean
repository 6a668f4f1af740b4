import Validium.Keccak
import Validium.Pool
import Validium.Store.Object

/-!
A store of batches by content: the key of a body is the digest of the body behind a fixed
head. A body read back is compared with the digest that was asked for. Operations on
several items keep one slot for each and tell which of them failed.
-/
namespace Validium.Store

structure Policy where
  /-- What every key starts with. -/
  keyHead : String
  /-- Items worked on at a time; zero means the usual number. -/
  concurrency : UInt64
  /-- Whether the store is told when an object may go. -/
  discardAfterTimeout : Bool
  deriving DecidableEq, Repr

namespace Policy

def usualConcurrency : UInt64 := 5

def standard : Policy := ⟨"", usualConcurrency, false⟩

def effectiveConcurrency (p : Policy) : UInt64 :=
  if p.concurrency = 0 then usualConcurrency else p.concurrency

end Policy

structure Slots (α : Type) where
  values : List (Option α)
  errors : Incomplete
  deriving Repr

namespace Slots

variable {α : Type}

def isComplete (s : Slots α) : Bool := s.errors.failures.isEmpty

def failuresFrom : Nat → List String → List (Except Fault α) → List Failure
  | index, key :: keys, .error fault :: results =>
    ⟨index, key, fault⟩ :: failuresFrom (index + 1) keys results
  | index, _ :: keys, .ok _ :: results => failuresFrom (index + 1) keys results
  | _, _, _ => []

def ofResults (keys : List String) (results : List (Except Fault α)) : Slots α :=
  { values := results.map Except.toOption
    errors := ⟨results.length, failuresFrom 0 keys results⟩ }

/-- Every value must be there; an empty slot without a failure is one of its own. -/
def allFrom : Nat → List (Option α) → Except Error (List α)
  | _, [] => .ok []
  | index, none :: _ => .error (.fault (.worker s!"item {index} produced no value"))
  | index, some a :: rest => (allFrom (index + 1) rest).map (a :: ·)

def toResult (s : Slots α) : Except Error (List α) :=
  if s.isComplete then allFrom 0 s.values else .error (.incomplete s.errors)

end Slots

structure Archive (W : Type) where
  objects : Objects W
  policy : Policy

namespace Archive

variable {W : Type}

def keyOf (p : Policy) (hash : Hash) : String := p.keyHead ++ hash.digits

def objectKey (m : Archive W) (hash : Hash) : String := keyOf m.policy hash

/-- Keeps a body under a digest, which is not compared with it. -/
def put (m : Archive W) (body : Bytes) (hash : Hash) (expires : Option Nat) :
    StateM W (Completion (Except Fault Unit)) :=
  let expires := if m.policy.discardAfterTimeout then expires else none
  m.objects.put (m.objectKey hash) body expires

def verify (key : String) (hash : Hash) (body : Bytes) : Except Fault Bytes :=
  if keccak body = hash then .ok body else .error (.corrupt key)

def getByHash (m : Archive W) (hash : Hash) : StateM W (Completion (Except Fault Bytes)) := do
  return (← m.objects.get (m.objectKey hash)).map (· >>= verify (m.objectKey hash) hash)

def each {α : Type} (m : Archive W) (signal : Signal W) (keys : List String)
    (jobs : List (StateM W (Completion (Except Fault α)))) :
    StateM W (Except Pool.Halt (Slots α)) := do
  match ← Pool.run signal m.policy.effectiveConcurrency jobs with
  | .error halt => return .error halt
  | .ok results => return .ok (Slots.ofResults keys (results.map settle))

def putMultiple (m : Archive W) (signal : Signal W) (bodies : List Bytes) :
    StateM W (Except Pool.Halt (Slots Hash)) :=
  let job (body : Bytes) : StateM W (Completion (Except Fault Hash)) := do
    let hash := keccak body
    match ← m.objects.put (m.objectKey hash) body none with
    | .brokeDown => return .brokeDown
    | .returned result => return .returned (result.map fun _ => hash)
  m.each signal (bodies.map fun body => m.objectKey (keccak body)) (bodies.map job)

def getMultiple (m : Archive W) (signal : Signal W) (hashes : List Hash) :
    StateM W (Except Pool.Halt (Slots Bytes)) :=
  let job (hash : Hash) : StateM W (Completion (Except Fault Bytes)) := do
    match ← m.objects.get (m.objectKey hash) with
    | .brokeDown => return .brokeDown
    | .returned result => return .returned (result >>= verify (m.objectKey hash) hash)
  m.each signal (hashes.map m.objectKey) (hashes.map job)

def health (m : Archive W) : StateM W (Except Fault Unit) := m.objects.health

end Archive

end Validium.Store
