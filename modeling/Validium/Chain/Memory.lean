import Validium.Chain.Basic
import Validium.Keccak
import Validium.World

/-!
A chain held in memory. Each submission makes a block of its own, in which it follows one
other extrinsic; blocks are counted from one. The hash of a block covers its number and the
digests of its blobs.
-/
namespace Validium.Chain

structure Memory.Block where
  hash : Hash
  submissions : List Bytes
  deriving DecidableEq, Repr

structure Memory where
  blocks : List Memory.Block
  rejectReason : Option String
  latency : Option Duration
  deriving DecidableEq

namespace Memory

def empty : Memory := ⟨[], none, none⟩

/-- Extrinsics that stand before the submissions of every block. -/
def inherents : UInt32 := 1

def height (m : Memory) : UInt32 := UInt32.ofNat m.blocks.length

def preimage (number : UInt32) (blobs : List Bytes) : Bytes :=
  Bytes.ofNat 4 number.toNat ++ blobs.flatMap fun b => (keccak b).bytes

def nextNumber (m : Memory) : UInt32 := m.height + 1

def pushBlock (m : Memory) (blobs : List Bytes) : UInt32 × Memory :=
  let number := m.nextNumber
  (number, { m with blocks := m.blocks ++ [⟨keccak (preimage number blobs), blobs⟩] })

def block? (m : Memory) (number : UInt32) : Option Block :=
  if number = 0 then none else m.blocks[number.toNat - 1]?

def blockHash (m : Memory) (number : UInt32) : Hash :=
  match m.block? number with
  | some b => b.hash
  | none => Word.zero

def submit (m : Memory) (blob : Bytes) : Except Error Inclusion × Memory :=
  match m.rejectReason with
  | some reason => (.error (.rejected reason), m)
  | none =>
    let (number, m) := m.pushBlock [blob]
    (.ok ⟨number, m.blockHash number, inherents⟩, m)

def position? (index : UInt32) : IndexKind → Option Nat
  | .leaf => some index.toNat
  | .extrinsic => if index < inherents then none else some (index - inherents).toNat

def fetch (m : Memory) (number index : UInt32) (kind : IndexKind) : Except Error Bytes :=
  match m.block? number with
  | none => .error (.unknownBlock number)
  | some block =>
    match (position? index kind).bind fun p => block.submissions[p]? with
    | some blob => .ok blob
    | none => .error (.noBlob number index.toNat kind)

/-- The memory as a chain, in a world that has it as a part; `delay` lets the time of a
call pass. -/
def chain {W : Type} (part : Part W Memory) (delay : Duration → StateM W Unit) : Chain W :=
  let pass : StateM W Unit := do
    match (part.view (← get)).latency with
    | some d => delay d
    | none => return ()
  { submit := fun blob => do
      pass
      part.run fun m =>
        let (r, m) := m.submit blob
        (.returned r, m)
    fetch := fun number index kind => do
      pass
      part.run fun m => (.returned (m.fetch number index kind), m) }

end Memory

end Validium.Chain
