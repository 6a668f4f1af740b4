import Validium.Word

/-!
Writing contract data. A text of data is put together from pieces, each a row of 32-byte
words: numbers and words stand alone, dynamic bytes and word lists follow a word with
their length, and bytes are filled up with zeros to a whole word.
-/
namespace Validium.Abi

/-- The least multiple of 32 that is not below `n`. -/
def paddedLength (n : Nat) : Nat :=
  (n + 31) / 32 * 32

inductive Piece where
  | word (w : Word)
  /-- A number below `2 ^ 256`. -/
  | number (n : Nat)
  | bytes (data : Bytes)
  | words (items : List Word)
  | raw (data : Bytes)

namespace Piece

def encode : Piece → Bytes
  | .word w => w.bytes
  | .number n => (Word.ofNat n).bytes
  | .bytes data =>
    (Word.ofNat data.length).bytes ++ data ++
      List.replicate (paddedLength data.length - data.length) 0
  | .words items => (Word.ofNat items.length).bytes ++ items.flatMap Word.bytes
  | .raw data => data

end Piece

def write (pieces : List Piece) : Bytes :=
  pieces.flatMap Piece.encode

/-- The argument list of a single `bytes` value: where it starts, then the value. -/
def encodeSingle (data : Bytes) : Bytes :=
  write [.number 32, .bytes data]

end Validium.Abi
