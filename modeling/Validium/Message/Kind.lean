import Validium.Abi.Error
import Validium.Batches
import Validium.Hex

/-!
The kinds of data availability messages, and what can be wrong with a message or with the
blob that it leads to. Every error has a message, and `causes` lists the messages of the
faults that lie under it.
-/
namespace Validium.Message

inductive Kind where
  | blobPointer
  | inclusionProof
  deriving DecidableEq, Repr

namespace Kind

def tag : Kind → UInt8
  | .blobPointer => 1
  | .inclusionProof => 2

def ofTag? (tag : UInt8) : Option Kind :=
  if tag = 1 then some .blobPointer
  else if tag = 2 then some .inclusionProof
  else none

def name : Kind → String
  | .blobPointer => "blob_pointer"
  | .inclusionProof => "merkle_proof"

def title : Kind → String
  | .blobPointer => "blob pointer"
  | .inclusionProof => "merkle proof"

end Kind

end Validium.Message

namespace Validium

inductive FormatError where
  | emptyEnvelope
  | envelope (fault : Abi.Error)
  | payload (kind : Message.Kind) (fault : Abi.Error)
  | unknownKind (tag : UInt8)
  | batches (fault : Batches.Fault)
  deriving DecidableEq, Repr

namespace FormatError

def message : FormatError → String
  | .emptyEnvelope => "malformed envelope: empty input"
  | .envelope fault => "malformed envelope: " ++ fault.message
  | .payload kind fault => s!"malformed {kind.title} payload: " ++ fault.message
  | .unknownKind tag => "unknown data availability message type: " ++ Hex.encode0x [tag]
  | .batches fault => "malformed batch encoding: " ++ fault.message

def causes : FormatError → List String
  | .payload _ fault => [fault.message]
  | _ => []

end FormatError

end Validium
