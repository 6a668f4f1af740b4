import Validium.Decimal.Binary64

/-!
The shortest decimal that reads back as a given floating point number. Grids of powers of
ten are tried from coarse to fine; on each, only the two neighbours of the value can lie
in the interval that rounds to it. The first grid with a hit gives the digits; of two
hits the nearer one is taken, and of two as near the even one.
-/
namespace Validium.Decimal

structure Scientific where
  digits : Nat
  exponent : Int
  deriving DecidableEq, Repr

namespace Shortest

def onGrid (n : Nat) (e : Int) : Ratio :=
  match e with
  | .ofNat k => ⟨n * Nat.pow 10 k, 1⟩
  | .negSucc k => ⟨n, Nat.pow 10 (k + 1)⟩

/-- The largest multiple of `10 ^ e` that is not above `v`, counted in units of it. -/
def floorOn (v : Ratio) (e : Int) : Nat :=
  match e with
  | .ofNat k => v.num / (v.den * Nat.pow 10 k)
  | .negSucc k => v.num * Nat.pow 10 (k + 1) / v.den

/-- The interval of numbers that round to `b`, and whether its ends belong to it. -/
structure Interval where
  low : Ratio
  high : Ratio
  closed : Bool

def interval (b : Binary64) : Interval :=
  { low := Ratio.scaled (4 * b.mantissa - (if b.narrowBelow then 1 else 2)) (b.exponent - 2)
    high := Ratio.scaled (4 * b.mantissa + 2) (b.exponent - 2)
    closed := b.mantissa % 2 == 0 }

def Interval.contains (i : Interval) (r : Ratio) : Bool :=
  if i.closed then i.low.le r && r.le i.high else i.low.lt r && r.lt i.high

/-- Whether the upper one of two neighbours on a grid is chosen: the nearer one is, and of two
as near the even one. -/
def isUpper (v : Ratio) (below : Nat) (e : Int) : Bool :=
  let low := Ratio.dist v (onGrid below e)
  let high := Ratio.dist v (onGrid (below + 1) e)
  high.lt low || (high.le low && below % 2 == 1)

/-- The neighbour of `v` on one grid that reads back, and if both do, the one to choose. -/
def hit (v : Ratio) (i : Interval) (e : Int) : Option Scientific :=
  let below := floorOn v e
  let low := onGrid below e
  let high := onGrid (below + 1) e
  match 0 < below && i.contains low, i.contains high with
  | true, true => some ⟨if isUpper v below e then below + 1 else below, e⟩
  | true, false => some ⟨below, e⟩
  | false, true => some ⟨below + 1, e⟩
  | false, false => none

def search (v : Ratio) (i : Interval) : Nat → Int → Scientific
  | 0, e => ⟨floorOn v e, e⟩
  | fuel + 1, e =>
    match hit v i e with
    | some s => s
    | none => search v i fuel (e - 1)

def magnitudeFrom (v : Ratio) : Nat → Int → Int
  | 0, e => e
  | fuel + 1, e => if v.lt (onGrid 1 (e - 1)) then magnitudeFrom v fuel (e - 1) else e

def normalize : Nat → Scientific → Scientific
  | 0, s => s
  | fuel + 1, s =>
    if s.digits % 10 = 0 && s.digits ≠ 0 then normalize fuel ⟨s.digits / 10, s.exponent + 1⟩ else s

end Shortest

def shortest (b : Binary64) : Scientific :=
  let v := Ratio.scaled b.mantissa b.exponent
  let e := Shortest.magnitudeFrom v 640 310
  Shortest.normalize 20 (Shortest.search v (Shortest.interval b) 20 e)

end Validium.Decimal
