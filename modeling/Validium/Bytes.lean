/-!
Byte strings and their big-endian readings. A natural number is written either in a
fixed number of places, dropping the digits that do not fit, or in the fewest places
that hold it.
-/
namespace Validium

abbrev Bytes := List UInt8

namespace Bytes

def toNat (b : Bytes) : Nat :=
  b.foldl (fun n x => n * 256 + x.toNat) 0

/-- The low `width` bytes of `n`, most significant byte first. -/
def ofNat : Nat → Nat → Bytes
  | 0, _ => []
  | width + 1, n => ofNat width (n / 256) ++ [UInt8.ofNat (n % 256)]

/-- The bytes of a number below `2 ^ 64` without leading zeros; zero has none. -/
def minimal (n : Nat) : Bytes :=
  (ofNat 8 n).dropWhile (· == 0)

def ofNatLE : Nat → Nat → Bytes
  | 0, _ => []
  | width + 1, n => UInt8.ofNat (n % 256) :: ofNatLE width (n / 256)

@[simp] theorem length_ofNat (width n : Nat) : (ofNat width n).length = width := by
  induction width generalizing n with
  | zero => rfl
  | succ width ih => simp [ofNat, ih]

@[simp] theorem length_ofNatLE (width n : Nat) : (ofNatLE width n).length = width := by
  induction width generalizing n with
  | zero => rfl
  | succ width ih => simp [ofNatLE, ih]

def ofText (text : String) : Bytes :=
  text.toUTF8.toList

end Bytes

end Validium
