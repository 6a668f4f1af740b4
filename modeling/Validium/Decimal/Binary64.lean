/-!
The value of a finite 64-bit binary floating point number as a mantissa and a power of
two, and the numbers between which everything rounds to it.
-/
namespace Validium.Decimal

/-- `mantissa * 2 ^ exponent`, with the sign apart. -/
structure Binary64 where
  negative : Bool
  mantissa : Nat
  exponent : Int
  deriving DecidableEq, Repr

namespace Binary64

/-- Reads sign, exponent and fraction; infinities and the like do not occur here. -/
def ofBits (bits : UInt64) : Binary64 :=
  let n : Nat := bits.toNat
  let fraction : Nat := n % (1 <<< 52)
  let biased : Nat := n >>> 52 % (1 <<< 11)
  let negative := n >>> 63 == 1
  if biased = 0 then ⟨negative, fraction, -1074⟩
  else ⟨negative, fraction + (1 <<< 52), (biased : Int) - 1075⟩

/-- Whether the next smaller number is only half as far away as the next larger. -/
def narrowBelow (b : Binary64) : Bool :=
  b.mantissa == 1 <<< 52 && -1074 < b.exponent

end Binary64

structure Ratio where
  num : Nat
  den : Nat
  deriving DecidableEq, Repr

namespace Ratio

def scaled (n : Nat) (e : Int) : Ratio :=
  match e with
  | .ofNat k => ⟨n <<< k, 1⟩
  | .negSucc k => ⟨n, 1 <<< (k + 1)⟩

def le (a b : Ratio) : Bool := a.num * b.den ≤ b.num * a.den

def lt (a b : Ratio) : Bool := a.num * b.den < b.num * a.den

def dist (a b : Ratio) : Ratio :=
  let x := a.num * b.den
  let y := b.num * a.den
  ⟨(x - y) + (y - x), a.den * b.den⟩

end Ratio

end Validium.Decimal
