import Validium.Text.Cut

/-!
Labels of any characters written in ASCII. The ASCII characters come first, then numbers
that tell, from the lowest other character up, which one stands where. A number is written
with digits of base 36 of which the last is recognised by its size, and the sizes adapt to
the numbers before.
-/
namespace Validium.Url.Punycode

def digitChar (d : Nat) : Char :=
  if d < 26 then Char.ofNat (97 + d) else Char.ofNat (22 + d)

def digitValue? (c : Char) : Option Nat :=
  let n := c.toNat
  if 97 ≤ n && n ≤ 122 then some (n - 97)
  else if 65 ≤ n && n ≤ 90 then some (n - 65)
  else if 48 ≤ n && n ≤ 57 then some (n - 22)
  else none

/-- Below this a digit is the last of its number. -/
def threshold (k bias : Nat) : Nat :=
  if k ≤ bias then 1 else min 26 (k - bias)

def reduce : Nat → Nat → Nat → Nat × Nat
  | 0, delta, k => (delta, k)
  | fuel + 1, delta, k => if 455 < delta then reduce fuel (delta / 35) (k + 36) else (delta, k)

def adapt (delta count : Nat) (isFirst : Bool) : Nat :=
  let delta := if isFirst then delta / 700 else delta / 2
  let (delta, k) := reduce 12 (delta + delta / count) 0
  k + 36 * delta / (delta + 38)

def initialBias : Nat := 72

def initialCode : Nat := 128

def digits (bias : Nat) : Nat → Nat → Nat → List Char
  | 0, _, _ => []
  | fuel + 1, k, q =>
    let t := threshold k bias
    if q < t then [digitChar q]
    else digitChar (t + (q - t) % (36 - t)) :: digits bias fuel (k + 36) ((q - t) / (36 - t))

structure Pen where
  written : List Char
  delta : Nat
  bias : Nat
  count : Nat

def Pen.pass (basics m : Nat) (p : Pen) (c : Char) : Pen :=
  if c.toNat < m then { p with delta := p.delta + 1 }
  else if c.toNat = m then
    { written := p.written ++ digits p.bias 64 36 p.delta, delta := 0
      bias := adapt p.delta (p.count + 1) (p.count = basics), count := p.count + 1 }
  else p

def writeFrom (label : List Char) (basics : Nat) : List Nat → Nat → Pen → Pen
  | [], _, p => p
  | m :: rest, n, p =>
    let p := { p with delta := p.delta + (m - n) * (p.count + 1) }
    let p := label.foldl (Pen.pass basics m) p
    writeFrom label basics rest (m + 1) { p with delta := p.delta + 1 }

def isBasic (c : Char) : Bool := c.toNat < initialCode

def encode (label : List Char) : List Char :=
  let basic := label.filter isBasic
  let codes := ((label.filter fun c => !isBasic c).map Char.toNat).mergeSort.eraseDups
  let pen := writeFrom label basic.length codes initialCode ⟨[], 0, initialBias, basic.length⟩
  basic ++ (if basic.isEmpty then [] else ['-']) ++ pen.written

/-- Reads one number onto `i`; `w` is the weight of the next digit. -/
def numberFrom (bias : Nat) : List Char → Nat → Nat → Nat → Option (Nat × List Char)
  | [], _, _, _ => none
  | c :: r, k, w, i =>
    match digitValue? c with
    | none => none
    | some d =>
      let t := threshold k bias
      if UInt32.size ≤ i + d * w then none
      else if d < t then some (i + d * w, r)
      else numberFrom bias r (k + 36) (w * (36 - t)) (i + d * w)

def readFrom : Nat → Nat → Nat → Nat → List Char → List Char → Option (List Char)
  | _, _, _, _, label, [] => some label
  | 0, _, _, _, _, _ => none
  | fuel + 1, bias, n, i, label, cs =>
    match numberFrom bias cs 36 1 i with
    | none => none
    | some (j, rest) =>
      let count := label.length + 1
      let code := n + j / count
      if code < 0xd800 || (0xdfff < code && code < 0x110000) then
        readFrom fuel (adapt (j - i) count (i = 0)) code (j % count + 1)
          (label.insertIdx (j % count) (Char.ofNat code)) rest
      else none

def decode (cs : List Char) : Option (List Char) :=
  match Text.cutLast '-' cs with
  | some (basic, rest) =>
    if basic.all isBasic then readFrom rest.length initialBias initialCode 0 basic rest else none
  | none => readFrom cs.length initialBias initialCode 0 [] cs

end Validium.Url.Punycode
