import Validium.Json.Value
import Validium.Signal
import Validium.Word

/-!
The chain that keeps blobs. A blob is submitted and finalized in a block, and is read back
by the block's number and a place in the block: its place among all extrinsics, or among
the submissions alone.
-/
namespace Validium

inductive IndexKind where
  | extrinsic
  | leaf
  deriving DecidableEq, Repr

namespace IndexKind

def title : IndexKind → String
  | .extrinsic => "extrinsic index"
  | .leaf => "leaf index"

def name : IndexKind → String
  | .extrinsic => "by_extrinsic_index"
  | .leaf => "by_leaf_index"

end IndexKind

/-- Where a submitted blob was finalized; the place counts all extrinsics. -/
structure Inclusion where
  blockNumber : UInt32
  blockHash : Hash
  index : UInt32
  deriving DecidableEq, Repr

def Inclusion.toJson (i : Inclusion) : Json.Value :=
  .ofFields [
    ("blockNumber", .ofNat i.blockNumber.toNat), ("blockHash", .string i.blockHash.text),
    ("txIndex", .ofNat i.index.toNat)]

inductive Chain.Error where
  | rejected (reason : String)
  | unavailable (reason : String)
  | noBlob (block : UInt32) (index : Nat) (kind : IndexKind)
  | unknownBlock (block : UInt32)
  /-- The worker that made the call broke down. -/
  | worker
  deriving DecidableEq, Repr

def Chain.Error.message : Chain.Error → String
  | .rejected reason => "transaction rejected: " ++ reason
  | .unavailable reason => "chain unavailable: " ++ reason
  | .noBlob block index kind => s!"no blob at {kind.title} {index} in block {block.toNat}"
  | .unknownBlock block => s!"unknown block {block.toNat}"
  | .worker => "chain worker failed: task panicked"

/-- A client of the chain. Its calls are made by workers and, once begun, run to their end. -/
structure Chain (W : Type) where
  submit : Bytes → StateM W (Completion (Except Chain.Error Inclusion))
  fetch : UInt32 → UInt32 → IndexKind → StateM W (Completion (Except Chain.Error Bytes))

def Chain.settle {α : Type} : Completion (Except Chain.Error α) → Except Chain.Error α
  | .returned r => r
  | .brokeDown => .error .worker

end Validium
