/-!
Unsigned integers of a bounded width in a given base. One plus sign may stand in front.
Digits are taken from the left, so the first fault met decides the error.
-/
namespace Validium.Text

inductive NumeralError where
  | empty
  | badDigit
  | tooLarge
  deriving DecidableEq, Repr

def NumeralError.message : NumeralError → String
  | .empty => "cannot parse integer from empty string"
  | .badDigit => "invalid digit found in string"
  | .tooLarge => "number too large to fit in target type"

/-- The value of a digit, letters standing for ten and more. -/
def digitValue? (base : Nat) (c : Char) : Option Nat :=
  let n := c.toNat
  let v :=
    if 48 ≤ n && n ≤ 57 then n - 48
    else if 97 ≤ n && n ≤ 122 then n - 87
    else if 65 ≤ n && n ≤ 90 then n - 55
    else base
  if v < base then some v else none

namespace Numeral

/-- Reads digits onto `acc`; a value of `limit` or more does not fit. -/
def digitsFrom (base limit : Nat) : List Char → Nat → Except NumeralError Nat
  | [], acc => .ok acc
  | c :: r, acc =>
    match digitValue? base c with
    | none => .error .badDigit
    | some d =>
      if acc * base + d < limit then digitsFrom base limit r (acc * base + d)
      else .error .tooLarge

end Numeral

def numeral (base limit : Nat) : List Char → Except NumeralError Nat
  | [] => .error .empty
  | '+' :: [] => .error .badDigit
  | '+' :: c :: r => Numeral.digitsFrom base limit (c :: r) 0
  | c :: r => Numeral.digitsFrom base limit (c :: r) 0

def decimal (width : Nat) (text : String) : Except NumeralError Nat :=
  numeral 10 (1 <<< width) text.toList

end Validium.Text
