import Validium.Json.Record
import Validium.Message.InclusionProof
import Validium.Text.Blank
import Validium.Text.Numeral

/-!
The answer of the proof service: an inclusion proof in JSON, with some hashes that the
proof does not need. An index is a 64-bit number, or a text in one of four bases.
-/
namespace Validium.ProofService

structure Answer where
  proof : Message.InclusionProof
  blockHash : Hash
  dataRoot : Hash
  dataRootCommitment : Hash
  deriving DecidableEq, Repr

namespace Answer

def baseOf : List Char → Nat × List Char
  | '0' :: c :: r =>
    if c == 'x' || c == 'X' then (16, r)
    else if c == 'o' || c == 'O' then (8, r)
    else if c == 'b' || c == 'B' then (2, r)
    else (10, '0' :: c :: r)
  | cs => (10, cs)

/-- Digits of a number below `2 ^ 256`, where underscores do not count. -/
def indexDigits (base : Nat) : List Char → Nat → Option Nat
  | [], acc => some acc
  | c :: r, acc =>
    if c = '_' then indexDigits base r acc
    else
      match Text.digitValue? base c with
      | none => none
      | some d => if acc * base + d < 1 <<< 256 then indexDigits base r (acc * base + d) else none

def indexOfText (text : String) : Option Nat :=
  let (base, digits) := baseOf (Text.strip Text.isBlankChar text.toList)
  indexDigits base digits 0

def index : Json.Tree → Option (BitVec 256)
  | .string (some s) => (indexOfText s).map (BitVec.ofNat 256)
  | t => (Json.Record.unsigned 64 t).map (BitVec.ofNat 256)

def fieldNames : List String := [
  "blobRoot", "blockHash", "bridgeRoot", "dataRoot", "dataRootIndex", "dataRootCommitment",
  "dataRootProof", "leaf", "leafIndex", "leafProof", "rangeHash"]

open Json.Record in
def ofTree? (t : Json.Tree) : Option Answer :=
  match fields? fieldNames t with
  | some [blobRoot, blockHash, bridgeRoot, dataRoot, dataRootIndex, dataRootCommitment,
      dataRootProof, leaf, leafIndex, leafProof, rangeHash] => do
    let blobRoot ← required word blobRoot
    let blockHash ← orElse Word.zero word blockHash
    let bridgeRoot ← required word bridgeRoot
    let dataRoot ← orElse Word.zero word dataRoot
    let dataRootIndex ← required index dataRootIndex
    let dataRootCommitment ← orElse Word.zero word dataRootCommitment
    let dataRootProof ← required (list word) dataRootProof
    let leaf ← required word leaf
    let leafIndex ← required index leafIndex
    let leafProof ← required (list word) leafProof
    let rangeHash ← required word rangeHash
    return {
      proof :=
        { dataRootProof, leafProof, rangeHash, dataRootIndex, blobRoot, bridgeRoot, leaf
          leafIndex }
      blockHash, dataRoot, dataRootCommitment }
  | _ => none

def ofBytes? (body : Bytes) : Option Answer :=
  (Json.Tree.ofBytes? body).bind ofTree?

end Answer

end Validium.ProofService
