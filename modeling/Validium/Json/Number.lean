import Validium.Decimal.Shortest

/-!
Numbers of JSON texts. A text without fraction and exponent that fits 64 bits is an
integer; everything else is a floating point number, read from at most the first digits
that fit 64 bits and one scaling by a power of ten.
-/
namespace Validium.Json

inductive Number where
  | int (n : Int)
  | float (bits : UInt64)
  deriving DecidableEq, Repr

namespace Number

def unsigned? (width : Nat) : Number → Option Nat
  | .int (.ofNat n) => if n < 1 <<< width then some n else none
  | _ => none

def signed? : Number → Option Int
  | .int n => if n < 0x8000000000000000 then some n else none
  | .float _ => none

def digitChars (n : Nat) : List Char :=
  Nat.toDigits 10 n

/-- Positional where at most sixteen digits stand before the point or at most four zeros
after it, otherwise one digit, the rest after a point, and the exponent with its sign. -/
def scientificChars (s : Decimal.Scientific) : List Char :=
  let ds := digitChars s.digits
  let point : Int := ds.length + s.exponent
  if 0 ≤ s.exponent && point ≤ 16 then
    ds ++ List.replicate s.exponent.toNat '0' ++ ['.', '0']
  else if 0 < point && point ≤ 16 then
    ds.take point.toNat ++ '.' :: ds.drop point.toNat
  else if -5 < point && point ≤ 0 then
    ['0', '.'] ++ List.replicate (-point).toNat '0' ++ ds
  else
    let sign := if point - 1 < 0 then '-' else '+'
    let exponent := 'e' :: sign :: digitChars (point - 1).natAbs
    match ds with
    | [d] => d :: exponent
    | d :: rest => d :: '.' :: rest ++ exponent
    | [] => exponent

def chars : Number → List Char
  | .int n => (if n < 0 then ['-'] else []) ++ digitChars n.natAbs
  | .float bits =>
    let b := Decimal.Binary64.ofBits bits
    let sign := if b.negative then ['-'] else []
    if b.mantissa = 0 then sign ++ ['0', '.', '0']
    else sign ++ scientificChars (Decimal.shortest b)

/-- `significand * 10 ^ exponent`, unless it is beyond the largest finite number. Below
the range of powers the value is divided in steps, and each operation rounds. -/
def scale : Nat → Float → Int → Option Float
  | 0, f, _ => some f
  | fuel + 1, f, e =>
    if 0 ≤ e then
      if e ≤ 308 then
        let g := f * Float.ofScientific 1 false e.toNat
        if g.isInf then none else some g
      else if f == 0 then some f
      else none
    else if -308 ≤ e then some (f / Float.ofScientific 1 false (-e).toNat)
    else if f == 0 then some f
    else scale fuel (f / Float.ofScientific 1 false 308) (e + 308)

structure Parts where
  negative : Bool
  whole : List Char
  fraction : Option (List Char)
  exponent : Option (Bool × List Char)

def digit (c : Char) : Nat := c.toNat - 48

/-- Takes digits onto `acc` while the value stays below `2 ^ 64`, counting those taken. -/
def takeDigits : List Char → Nat → Nat → Nat × Nat × List Char
  | [], acc, taken => (acc, taken, [])
  | c :: r, acc, taken =>
    if acc * 10 + digit c < UInt64.size then takeDigits r (acc * 10 + digit c) (taken + 1)
    else (acc, taken, c :: r)

/-- Digits of an exponent. From `2 ^ 31` on the exponent counts as unbounded. -/
def exponentValue : List Char → Nat → Option Nat
  | [], acc => some acc
  | c :: r, acc =>
    if acc * 10 + digit c < 0x80000000 then exponentValue r (acc * 10 + digit c) else none

def clampExponent (e : Int) : Int :=
  max (-0x80000000) (min 0x7fffffff e)

def ofFloat (negative : Bool) (f : Float) : Number :=
  .float (if negative then -f else f).toBits

def scaled? (negative : Bool) (significand : Nat) (e : Int) : Option Number :=
  (scale 4 significand.toFloat e).map (ofFloat negative)

/-- The number that the parts denote; none if it is too large for a float. -/
def ofParts? (p : Parts) : Option Number :=
  let (whole, _, restWhole) := takeDigits p.whole 0 0
  match p.fraction, p.exponent with
  | none, none =>
    if restWhole.isEmpty then
      if !p.negative then some (.int whole)
      else if 0 < whole && whole ≤ 0x8000000000000000 then some (.int (-(whole : Int)))
      else some (ofFloat true whole.toFloat)
    else scaled? p.negative whole restWhole.length
  | fraction, exponent =>
    let (significand, taken, _) := takeDigits (fraction.getD []) whole 0
    let start : Int := (restWhole.length : Int) - taken
    match exponent with
    | none => scaled? p.negative significand start
    | some (negativeExponent, ds) =>
      match exponentValue ds 0 with
      | none =>
        if significand ≠ 0 && !negativeExponent then none
        else some (ofFloat p.negative 0)
      | some e =>
        scaled? p.negative significand
          (clampExponent (if negativeExponent then start - e else start + e))

end Number

end Validium.Json
