import Validium.Message.Basic
import Validium.Proofs.Abi.Reading
import Validium.Rollup.SequenceCall

/-!
The standard layout of contract data, by recursion over types. A row of components has a
head and a tail: what has a fixed length stands in the head, everything else stands in the
tail, in order, and the head tells where it starts. The writers compute their few layouts
with fixed offsets; here they are shown to produce the standard one for all values.
-/
namespace Validium.Abi

inductive Shape where
  | uint (bits : Nat)
  | bytes32
  | address
  | bytes
  | array (item : Shape)
  | tuple (parts : List Shape)

namespace Shape

mutual
def isDynamic : Shape → Bool
  | .uint _ => false
  | .bytes32 => false
  | .address => false
  | .bytes => true
  | .array _ => true
  | .tuple parts => anyDynamic parts

def anyDynamic : List Shape → Bool
  | [] => false
  | s :: rest => s.isDynamic || anyDynamic rest
end

mutual
def Value : Shape → Type
  | .uint bits => BitVec bits
  | .bytes32 => Word
  | .address => { b : Bytes // b.length = 20 }
  | .bytes => Bytes
  | .array item => List item.Value
  | .tuple parts => Values parts

def Values : List Shape → Type
  | [] => Unit
  | s :: rest => s.Value × Values rest
end

structure Slot where
  dynamic : Bool
  encoding : Bytes

def Slot.headLength (s : Slot) : Nat := if s.dynamic then 32 else s.encoding.length

def heads : Nat → List Slot → Bytes
  | _, [] => []
  | next, s :: rest =>
    if s.dynamic then (Word.ofNat next).bytes ++ heads (next + s.encoding.length) rest
    else s.encoding ++ heads next rest

def tails (slots : List Slot) : Bytes := (slots.filter Slot.dynamic).flatMap Slot.encoding

/-- The tail starts behind the head, and places count from the start of the row. -/
def row (slots : List Slot) : Bytes :=
  heads (slots.map Slot.headLength).sum slots ++ tails slots

def measured (data : Bytes) : Bytes :=
  (Word.ofNat data.length).bytes ++ data ++ List.replicate ((32 - data.length % 32) % 32) 0

mutual
def encode : (s : Shape) → s.Value → Bytes
  | .uint _, n => (Word.ofNat n.toNat).bytes
  | .bytes32, w => w.bytes
  | .address, a => List.replicate 12 0 ++ a.val
  | .bytes, data => measured data
  | .array item, values =>
    (Word.ofNat values.length).bytes ++
      row (values.map fun value => ⟨item.isDynamic, item.encode value⟩)
  | .tuple parts, values => row (slots parts values)

def slots : (parts : List Shape) → Values parts → List Slot
  | [], _ => []
  | s :: rest, (value, values) => ⟨s.isDynamic, s.encode value⟩ :: slots rest values
end

def arguments (parts : List Shape) (values : Values parts) : Bytes :=
  encode (.tuple parts) values

theorem heads_static (next : Nat) (slots : List Slot) (h : ∀ s ∈ slots, s.dynamic = false) :
    heads next slots = slots.flatMap Slot.encoding := by
  induction slots with
  | nil => rfl
  | cons s rest ih =>
    have hs : s.dynamic = false := h s List.mem_cons_self
    have hrest := ih fun t ht => h t (List.mem_cons_of_mem s ht)
    simp [heads, hs, hrest]

theorem row_static (slots : List Slot) (h : ∀ s ∈ slots, s.dynamic = false) :
    row slots = slots.flatMap Slot.encoding := by
  have hnone : slots.filter Slot.dynamic = [] := by
    simpa [List.filter_eq_nil_iff] using h
  rw [row, heads_static _ slots h, tails, hnone, List.flatMap_nil, List.append_nil]

/-- Items of a fixed length stand one behind the other. -/
theorem encode_array_static (item : Shape) (values : List item.Value)
    (h : item.isDynamic = false) :
    encode (.array item) values =
      (Word.ofNat values.length).bytes ++ values.flatMap item.encode := by
  have hrow := row_static (values.map fun value => ⟨item.isDynamic, item.encode value⟩)
    (by simp [h])
  rw [List.flatMap_map] at hrow
  exact congrArg ((Word.ofNat values.length).bytes ++ ·) hrow

end Shape

theorem Piece.encode_bytes_eq_measured (data : Bytes) :
    (Piece.bytes data).encode = Shape.measured data := by
  have hpad : paddedLength data.length - data.length = (32 - data.length % 32) % 32 := by
    unfold paddedLength
    omega
  rw [Piece.encode, Shape.measured, hpad]

theorem Piece.encode_words_eq_encode (items : List Word) :
    (Piece.words items).encode = Shape.encode (.array .bytes32) items := by
  rw [Shape.encode_array_static .bytes32 items (by simp [Shape.isDynamic])]
  rfl

theorem encodeSingle_eq_arguments (data : Bytes) :
    encodeSingle data = Shape.arguments [.bytes] (data, ()) := by
  simp [encodeSingle, Piece.encode_bytes_eq_measured, Shape.arguments, Shape.encode,
    Shape.slots, Shape.row, Shape.heads, Shape.tails, Shape.Slot.headLength, Shape.isDynamic]

end Validium.Abi

namespace Validium.Message

open Abi

def BlobPointer.shapes : List Shape := [.uint 8, .uint 32, .uint 32, .bytes32]

def BlobPointer.values (p : BlobPointer) : Shape.Values shapes :=
  (p.version.toBitVec, p.blockHeight.toBitVec, p.extrinsicIndex.toBitVec, p.commitment, ())

theorem BlobPointer.encode_eq_arguments (p : BlobPointer) :
    p.encode = Shape.arguments shapes p.values := by
  simp [encode, shapes, values, Shape.arguments, Shape.encode, Shape.slots, Shape.row,
    Shape.heads, Shape.tails, Shape.Slot.headLength, Shape.isDynamic]

def InclusionProof.shape : Shape :=
  .tuple [.array .bytes32, .array .bytes32, .bytes32, .uint 256, .bytes32, .bytes32, .bytes32,
    .uint 256]

def InclusionProof.value (p : InclusionProof) : shape.Value :=
  (p.dataRootProof, p.leafProof, p.rangeHash, p.dataRootIndex, p.blobRoot, p.bridgeRoot,
    p.leaf, p.leafIndex, ())

theorem InclusionProof.encode_eq_arguments (p : InclusionProof) :
    p.encode = Shape.arguments [shape] (p.value, ()) := by
  have htuple : shape.encode p.value = Shape.row [
      ⟨true, (Piece.words p.dataRootProof).encode⟩, ⟨true, (Piece.words p.leafProof).encode⟩,
      ⟨false, p.rangeHash.bytes⟩, ⟨false, (Word.ofNat p.dataRootIndex.toNat).bytes⟩,
      ⟨false, p.blobRoot.bytes⟩, ⟨false, p.bridgeRoot.bytes⟩, ⟨false, p.leaf.bytes⟩,
      ⟨false, (Word.ofNat p.leafIndex.toNat).bytes⟩] := by
    rw [Piece.encode_words_eq_encode, Piece.encode_words_eq_encode]
    simp [shape, value, Shape.slots, Shape.isDynamic, Shape.encode]
  have hdynamic : shape.isDynamic = true := by
    simp [shape, Shape.isDynamic, Shape.anyDynamic]
  have hsecond : 256 + (32 + 32 * p.dataRootProof.length) = p.leafProofAt := by
    simp only [leafProofAt, dataRootProofAt]
    omega
  simp [encode, dataRootProofAt, Shape.arguments, Shape.encode, Shape.slots, htuple, hdynamic,
    Shape.row, Shape.heads, Shape.tails, Shape.Slot.headLength, Word.length_bytes, hsecond]

end Validium.Message

namespace Validium.Rollup

open Abi

def Batch.shape : Shape := .tuple [.bytes32, .bytes32, .uint 64, .bytes32]

def Batch.value (b : Batch) : shape.Value :=
  (b.transactionsHash, b.forcedGlobalExitRoot, b.forcedTimestamp.toBitVec, b.forcedBlockHash, ())

namespace SequenceCall

def shapes : List Shape :=
  [.array Batch.shape, .uint 32, .uint 64, .bytes32, .address, .bytes]

def values (c : SequenceCall) : Shape.Values shapes :=
  (c.batches.map Batch.value, c.leafCount.toBitVec, c.maxTimestamp.toBitVec, c.expectedHash,
    c.coinbase, c.message, ())

theorem write_batchPieces (b : Batch) :
    write (batchPieces b) = Batch.shape.encode b.value := by
  simp [batchPieces, Batch.shape, Batch.value, Shape.encode, Shape.slots, Shape.isDynamic,
    Shape.row, Shape.heads, Shape.tails]

theorem length_write_batches (batches : List Batch) :
    (write (batches.flatMap batchPieces)).length = batches.length * 128 := by
  induction batches with
  | nil => rfl
  | cons b rest ih =>
    rw [List.flatMap_cons, write_append, List.length_append, ih]
    simp [batchPieces, Word.length_bytes]
    omega

/-- The batches stand in place one behind the other, since a batch has a fixed length. -/
theorem encode_batches_eq_write (batches : List Batch) :
    Shape.encode (.array Batch.shape) (batches.map Batch.value) =
      (Word.ofNat batches.length).bytes ++ write (batches.flatMap batchPieces) := by
  have hitems : write (batches.flatMap batchPieces) =
      (batches.map Batch.value).flatMap Batch.shape.encode := by
    induction batches with
    | nil => rfl
    | cons b rest ih =>
      rw [List.flatMap_cons, write_append, ih, write_batchPieces]
      rfl
  rw [Shape.encode_array_static _ _
    (by simp [Batch.shape, Shape.isDynamic, Shape.anyDynamic]), List.length_map, hitems]

theorem encode_eq_arguments (c : SequenceCall) :
    c.encode = selector ++ Shape.arguments shapes c.values := by
  have hslots : Shape.slots shapes c.values = [
      ⟨true, (Word.ofNat c.batches.length).bytes ++ write (c.batches.flatMap batchPieces)⟩,
      ⟨false, (Word.ofNat c.leafCount.toNat).bytes⟩,
      ⟨false, (Word.ofNat c.maxTimestamp.toNat).bytes⟩, ⟨false, c.expectedHash.bytes⟩,
      ⟨false, c.addressWord.bytes⟩, ⟨true, (Piece.bytes c.message).encode⟩] := by
    rw [← encode_batches_eq_write, Piece.encode_bytes_eq_measured]
    simp [shapes, values, Shape.slots, Shape.isDynamic, Shape.encode, addressWord]
  have hlast : 192 + (32 + c.batches.length * 128) = c.messageAt := by
    have hsize : batchSize.toNat = 128 := rfl
    rw [messageAt, batchesAt, hsize]
    omega
  simp [encode, batchesAt, Shape.arguments, Shape.encode, hslots, Shape.row, Shape.heads,
    Shape.tails, Shape.Slot.headLength, Word.length_bytes, length_write_batches, hlast,
    write_append, Piece.encode]

end SequenceCall

end Validium.Rollup

namespace Validium.Abi

open Message Rollup

/-- Every writer of contract data produces the standard layout of its arguments. -/
theorem writers_eq_standard_layout :
    (∀ data : Bytes, encodeSingle data = Shape.arguments [.bytes] (data, ())) ∧
    (∀ p : BlobPointer, p.encode = Shape.arguments BlobPointer.shapes p.values) ∧
    (∀ p : InclusionProof,
      p.encode = Shape.arguments [InclusionProof.shape] (p.value, ())) ∧
    (∀ c : SequenceCall,
      c.encode = SequenceCall.selector ++ Shape.arguments SequenceCall.shapes c.values) :=
  ⟨encodeSingle_eq_arguments, BlobPointer.encode_eq_arguments,
    InclusionProof.encode_eq_arguments, SequenceCall.encode_eq_arguments⟩

end Validium.Abi
