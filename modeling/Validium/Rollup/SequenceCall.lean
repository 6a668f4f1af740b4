import Validium.Abi.Reader
import Validium.Abi.Selector
import Validium.Abi.Writer
import Validium.Json.Value

/-!
The call by which a rollup sequences batches. Its six head words lead to the list of
batches, each four words in place, and to the data availability message at the end. The
hash of a batch's transactions is the key under which its data is kept.
-/
namespace Validium.Rollup

structure Batch where
  transactionsHash : Hash
  forcedGlobalExitRoot : Hash
  forcedTimestamp : UInt64
  forcedBlockHash : Hash
  deriving DecidableEq, Repr

structure SequenceCall where
  batches : List Batch
  leafCount : UInt32
  maxTimestamp : UInt64
  expectedHash : Hash
  coinbase : { b : Bytes // b.length = 20 }
  message : Bytes
  deriving DecidableEq

namespace SequenceCall

inductive Error where
  /-- The data is too short for a selector or has another one. -/
  | otherCall
  | malformed (fault : Abi.Error)
  deriving DecidableEq, Repr

def Error.message : Error → String
  | .otherCall => "calldata is not a sequenceBatchesValidium call"
  | .malformed fault => "malformed sequenceBatchesValidium calldata: " ++ fault.message

def Error.causes : Error → List String
  | .otherCall => []
  | .malformed fault => [fault.message]

def selector : Bytes :=
  Abi.selector
    ("sequenceBatchesValidium((bytes32,bytes32,uint64,bytes32)[]," ++
      "uint32,uint64,bytes32,address,bytes)")

def batchSize : UInt64 := 128

def readBatch (r : Abi.Region) (start : UInt64) : Except Abi.Error Batch := do
  let transactionsHash ← r.wordAt start
  let forcedGlobalExitRoot ← r.wordAt (start + 32)
  let forcedTimestamp ← r.uintAt (start + 64) 64
  let forcedBlockHash ← r.wordAt (start + 96)
  return ⟨transactionsHash, forcedGlobalExitRoot, UInt64.ofNat forcedTimestamp, forcedBlockHash⟩

def readBatches (r : Abi.Region) : Nat → UInt64 → Except Abi.Error (List Batch)
  | 0, _ => .ok []
  | count + 1, start => do
    let batch ← readBatch r start
    let rest ← readBatches r count (start + batchSize)
    return batch :: rest

/-- The last twenty bytes of a word whose other bytes are zero. -/
def readAddress (r : Abi.Region) (offset : UInt64) :
    Except Abi.Error { b : Bytes // b.length = 20 } := do
  let w ← r.wordAt offset
  if (w.bytes.take 12).any (· != 0) then .error (.overflow offset.toNat 160)
  else return ⟨w.bytes.drop 12, by simp [w.length_bytes]⟩

/-- Reads the arguments. The batches come first, then the address, the place of the
message and the words that stand alone, and the message last. -/
def readArguments (data : Bytes) : Except Abi.Error SequenceCall := do
  let r : Abi.Region := ⟨data⟩
  let batchesAt ← r.offsetAt 0
  let count ← r.offsetAt batchesAt
  let start := batchesAt + 32
  if r.room start batchSize.toNat < count.toNat then
    .error (.outOfRange batchesAt.toNat count.toNat)
  else
    let batches ← readBatches r count.toNat start
    let coinbase ← readAddress r 128
    let messageAt ← r.offsetAt 160
    let leafCount ← r.uintAt 32 32
    let maxTimestamp ← r.uintAt 64 64
    let expectedHash ← r.wordAt 96
    let message ← r.bytesAt messageAt
    return {
      batches, leafCount := UInt32.ofNat leafCount, maxTimestamp := UInt64.ofNat maxTimestamp
      expectedHash, coinbase, message }

def decode (data : Bytes) : Except Error SequenceCall :=
  if data.length < 4 ∨ data.take 4 ≠ selector then .error .otherCall
  else (readArguments (data.drop 4)).mapError .malformed

def batchesAt : Nat := 192

def messageAt (c : SequenceCall) : Nat :=
  batchesAt + 32 + c.batches.length * batchSize.toNat

def batchPieces (b : Batch) : List Abi.Piece :=
  [.word b.transactionsHash, .word b.forcedGlobalExitRoot, .number b.forcedTimestamp.toNat,
    .word b.forcedBlockHash]

def addressWord (c : SequenceCall) : Word :=
  ⟨List.replicate 12 0 ++ c.coinbase.val, by simp [c.coinbase.property]⟩

def encode (c : SequenceCall) : Bytes :=
  Abi.write ([.raw selector, .number batchesAt, .number c.leafCount.toNat,
    .number c.maxTimestamp.toNat, .word c.expectedHash, .word c.addressWord,
    .number c.messageAt, .number c.batches.length] ++
    c.batches.flatMap batchPieces ++ [.bytes c.message])

def transactionsHashes (c : SequenceCall) : List Hash :=
  c.batches.map Batch.transactionsHash

def batchJson (b : Batch) : Json.Value :=
  Json.Value.ofFields [
    ("transactionsHash", .string b.transactionsHash.text),
    ("forcedGlobalExitRoot", .string b.forcedGlobalExitRoot.text),
    ("forcedTimestamp", .ofNat b.forcedTimestamp.toNat),
    ("forcedBlockHashL1", .string b.forcedBlockHash.text)]

def toFields (c : SequenceCall) : List (String × Json.Value) := [
  ("batches", .array (c.batches.map batchJson)),
  ("l1InfoTreeLeafCount", .ofNat c.leafCount.toNat),
  ("maxSequenceTimestamp", .ofNat c.maxTimestamp.toNat),
  ("expectedFinalAccInputHash", .string c.expectedHash.text),
  ("l2Coinbase", .string (Hex.encode0x c.coinbase.val)),
  ("dataAvailabilityMessage", .string (Hex.encode0x c.message))]

def toJson (c : SequenceCall) : Json.Value :=
  Json.Value.ofFields c.toFields

end SequenceCall

end Validium.Rollup
