import Validium.Message.BlobPointer
import Validium.Message.Envelope
import Validium.Message.InclusionProof

/-!
A data availability message: what the poster of a sequence keeps in order to find the
sequence again. It is written as an envelope around its payload; reading looks at the
framing first, then at the kind, then at the payload.
-/
namespace Validium

inductive Message where
  | blobPointer (p : Message.BlobPointer)
  | inclusionProof (p : Message.InclusionProof)
  deriving DecidableEq, Repr

namespace Message

def kind : Message → Kind
  | .blobPointer _ => .blobPointer
  | .inclusionProof _ => .inclusionProof

def payload : Message → Bytes
  | .blobPointer p => p.encode
  | .inclusionProof p => p.encode

def encode (m : Message) : Bytes :=
  Envelope.encode ⟨m.kind.tag, m.payload⟩

def ofEnvelope (e : Envelope) : Except FormatError Message := do
  match ← e.kind with
  | .blobPointer => return .blobPointer (← BlobPointer.decode e.payload)
  | .inclusionProof => return .inclusionProof (← InclusionProof.decode e.payload)

def decode (data : Bytes) : Except FormatError Message := do
  ofEnvelope (← Envelope.decode data)

def toJson (m : Message) : Json.Value :=
  Json.Value.ofFields [
    ("type", .string m.kind.name),
    ("message", match m with
      | .blobPointer p => p.toJson
      | .inclusionProof p => p.toJson)]

end Message

end Validium
