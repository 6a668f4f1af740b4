import Validium.Message.Kind
import Validium.Abi.Reader
import Validium.Abi.Writer

/-!
The outer form of a message: one byte for its kind, then the argument list of a single
`bytes` value with the payload. The byte is not looked at when an envelope is read.
-/
namespace Validium.Message

structure Envelope where
  tag : UInt8
  payload : Bytes
  deriving DecidableEq, Repr

namespace Envelope

def encode (e : Envelope) : Bytes :=
  e.tag :: Abi.encodeSingle e.payload

def decode : Bytes → Except FormatError Envelope
  | [] => .error .emptyEnvelope
  | tag :: rest =>
    match Abi.decodeSingle rest with
    | .ok payload => .ok ⟨tag, payload⟩
    | .error fault => .error (.envelope fault)

def kind (e : Envelope) : Except FormatError Kind :=
  match Kind.ofTag? e.tag with
  | some kind => .ok kind
  | none => .error (.unknownKind e.tag)

end Envelope

end Validium.Message
