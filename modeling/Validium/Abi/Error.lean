/-!
Faults of contract data. Positions and lengths count bytes; a length word above 64 bits is
shown as the largest 64-bit number.
-/
namespace Validium.Abi

inductive Error where
  /-- The data ends before `needed` bytes from `offset` on. -/
  | truncated (offset needed available : Nat)
  /-- A word has nonzero bytes beyond the declared width. -/
  | overflow (offset bits : Nat)
  /-- An offset or length points behind the data. -/
  | outOfRange (offset value : Nat)
  /-- The data has not the one length that its layout has. -/
  | length (expected actual : Nat)
  deriving DecidableEq, Repr

def Error.message : Error → String
  | .truncated offset needed available =>
    s!"input truncated: need {needed} bytes at offset {offset}, have {available}"
  | .overflow offset bits => s!"word at offset {offset} does not fit in {bits} bits"
  | .outOfRange offset value => s!"offset or length {value} at {offset} is out of range"
  | .length expected actual => s!"expected {expected} bytes, got {actual}"

end Validium.Abi
