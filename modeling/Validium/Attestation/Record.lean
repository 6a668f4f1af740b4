import Validium.Abi.Reader
import Validium.Abi.Selector
import Validium.Message.InclusionProof

/-!
What the attestation contract keeps for a leaf: the block of its blob and the place among
the leaves of that block. Block zero means that the leaf was never attested.
-/
namespace Validium.Attestation

structure Record where
  blockNumber : UInt32
  leafIndex : BitVec 128
  deriving DecidableEq, Repr

namespace Record

def decode (data : Bytes) : Except Abi.Error Record := do
  let r : Abi.Region := ⟨data⟩
  let blockNumber ← r.uintAt 0 32
  let leafIndex ← r.uintAt 32 128
  return ⟨UInt32.ofNat blockNumber, BitVec.ofNat 128 leafIndex⟩

def encode (r : Record) : Bytes :=
  Abi.write [.number r.blockNumber.toNat, .number r.leafIndex.toNat]

def isEmpty (r : Record) : Bool := r.blockNumber == 0

end Record

def readCall (leaf : Hash) : Bytes :=
  Abi.selector "attestations(bytes32)" ++ Abi.write [.word leaf]

/-- The call that attests a proven leaf: the proof is its only argument. -/
def attestCall (p : Message.InclusionProof) : Bytes :=
  Abi.selector "attest((bytes32[],bytes32[],bytes32,uint256,bytes32,bytes32,bytes32,uint256))" ++
    p.encode

end Validium.Attestation
