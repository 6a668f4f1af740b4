import Validium.Message.Kind
import Validium.Abi.Reader
import Validium.Abi.Writer
import Validium.Json.Value

/-!
A blob pointer names the block and the place in it at which a blob was submitted, and the
digest of the submitted bytes. It takes exactly four words.
-/
namespace Validium.Message

structure BlobPointer where
  version : UInt8
  blockHeight : UInt32
  extrinsicIndex : UInt32
  commitment : Hash
  deriving DecidableEq, Repr

namespace BlobPointer

def new (blockHeight extrinsicIndex : UInt32) (commitment : Hash) : BlobPointer :=
  ⟨0, blockHeight, extrinsicIndex, commitment⟩

def encode (p : BlobPointer) : Bytes :=
  Abi.write [.number p.version.toNat, .number p.blockHeight.toNat,
    .number p.extrinsicIndex.toNat, .word p.commitment]

def size : Nat := 128

def read (data : Bytes) : Except Abi.Error BlobPointer :=
  if data.length ≠ size then .error (.length size data.length)
  else do
    let r : Abi.Region := ⟨data⟩
    let version ← r.uintAt 0 8
    let blockHeight ← r.uintAt 32 32
    let extrinsicIndex ← r.uintAt 64 32
    let commitment ← r.wordAt 96
    return ⟨UInt8.ofNat version, UInt32.ofNat blockHeight, UInt32.ofNat extrinsicIndex, commitment⟩

def decode (data : Bytes) : Except FormatError BlobPointer :=
  (read data).mapError (.payload .blobPointer)

def toJson (p : BlobPointer) : Json.Value :=
  Json.Value.ofFields [
    ("version", .ofNat p.version.toNat), ("blockHeight", .ofNat p.blockHeight.toNat),
    ("extrinsicIndex", .ofNat p.extrinsicIndex.toNat), ("commitment", .string p.commitment.text)]

end BlobPointer

end Validium.Message
