import Validium.Message.Kind
import Validium.Abi.Reader
import Validium.Abi.Writer
import Validium.Json.Value

/-!
A proof that a blob's leaf is part of a data root and of a range of roots, in the form that
the attestation contract takes: the argument list of one tuple whose first two parts are
lists of words that follow its eight head words.
-/
namespace Validium.Message

structure InclusionProof where
  dataRootProof : List Hash
  leafProof : List Hash
  rangeHash : Hash
  dataRootIndex : BitVec 256
  blobRoot : Hash
  bridgeRoot : Hash
  leaf : Hash
  leafIndex : BitVec 256
  deriving DecidableEq, Repr

namespace InclusionProof

/-- Where the first list starts in the tuple: behind its head. -/
def dataRootProofAt : Nat := 256

def leafProofAt (p : InclusionProof) : Nat :=
  dataRootProofAt + 32 + p.dataRootProof.length * 32

def encode (p : InclusionProof) : Bytes :=
  Abi.write [.number 32,
    .number dataRootProofAt, .number p.leafProofAt, .word p.rangeHash,
    .number p.dataRootIndex.toNat, .word p.blobRoot, .word p.bridgeRoot, .word p.leaf,
    .number p.leafIndex.toNat, .words p.dataRootProof, .words p.leafProof]

def read (data : Bytes) : Except Abi.Error InclusionProof := do
  let outer : Abi.Region := ⟨data⟩
  let tuple ← outer.sub (← outer.offsetAt 0)
  let dataRootProof ← tuple.wordsAt (← tuple.offsetAt 0)
  let leafProof ← tuple.wordsAt (← tuple.offsetAt 32)
  let rangeHash ← tuple.wordAt 64
  let dataRootIndex ← tuple.numberAt 96
  let blobRoot ← tuple.wordAt 128
  let bridgeRoot ← tuple.wordAt 160
  let leaf ← tuple.wordAt 192
  let leafIndex ← tuple.numberAt 224
  return {
    dataRootProof, leafProof, rangeHash, dataRootIndex := BitVec.ofNat 256 dataRootIndex
    blobRoot, bridgeRoot, leaf, leafIndex := BitVec.ofNat 256 leafIndex }

def decode (data : Bytes) : Except FormatError InclusionProof :=
  (read data).mapError (.payload .inclusionProof)

/-- A number as the fewest hexadecimal digits after `0x`. -/
def quantity (n : BitVec 256) : Json.Value :=
  .string (String.ofList ('0' :: 'x' :: Nat.toDigits 16 n.toNat))

def hashes (hs : List Hash) : Json.Value :=
  .array (hs.map fun h => .string h.text)

def toJson (p : InclusionProof) : Json.Value :=
  Json.Value.ofFields [
    ("dataRootProof", hashes p.dataRootProof), ("leafProof", hashes p.leafProof),
    ("rangeHash", .string p.rangeHash.text), ("dataRootIndex", quantity p.dataRootIndex),
    ("blobRoot", .string p.blobRoot.text), ("bridgeRoot", .string p.bridgeRoot.text),
    ("leaf", .string p.leaf.text), ("leafIndex", quantity p.leafIndex)]

end InclusionProof

end Validium.Message
