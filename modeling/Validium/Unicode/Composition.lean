import Validium.Unicode.Composition.Rows
import Validium.Unicode.Runs

/-!
Texts in which every character that can be made of a letter and marks is made so, and the
marks on a letter stand in a fixed order. Characters are first taken apart, then the marks
are sorted by their classes, then all that goes together is put together again.
-/
namespace Validium.Unicode.Composition

structure Pair where
  whole : Nat
  base : Nat
  mark : Nat
  deriving DecidableEq, Repr

def readPair (item : List Char) : Pair :=
  let (whole, parts) := Text.cutFirst '=' item
  let (base, mark) := Text.cutFirst '+' (parts.getD [])
  ⟨Rows.number whole, Rows.number base, Rows.number (mark.getD [])⟩

def pairs : Array Pair := ((Rows.items pairRows).map readPair).toArray

def classRuns : List (Nat × Array Run) := classRows.map fun (k, rows) => (k, Rows.runs rows)

/-- The class of a mark; zero for a character that stands for itself. -/
def classOf (c : Nat) : Nat :=
  ((classRuns.find? fun k => holds k.2 c).map (·.1)).getD 0

/-! Syllables of Hangul are made by counting. -/

def syllables : Nat := 0xac00

def leads : Nat := 0x1100

def vowels : Nat := 0x1161

/-- The place before the first tail, which stands for no tail. -/
def tails : Nat := 0x11a7

def isSyllable (c : Nat) : Bool := syllables ≤ c && c < syllables + 11172

def parts? (c : Nat) : Option (Nat × Nat) :=
  if isSyllable c then
    let i := c - syllables
    if i % 28 = 0 then some (leads + i / 588, vowels + i % 588 / 28)
    else some (c - i % 28, tails + i % 28)
  else (search (fun p => ⟨p.whole, p.whole⟩) pairs c).map fun p => (p.base, p.mark)

def join? (a b : Nat) : Option Nat :=
  if leads ≤ a && a < leads + 19 && vowels ≤ b && b < vowels + 21 then
    some (syllables + (a - leads) * 588 + (b - vowels) * 28)
  else if isSyllable a && (a - syllables) % 28 = 0 && tails < b && b < tails + 28 then
    some (a + (b - tails))
  else (pairs.find? fun p => p.base = a && p.mark = b).map (·.whole)

/-- Takes a character apart; no character goes more than `depth` parts deep. -/
def apart : Nat → Nat → List Nat
  | 0, c => [c]
  | depth + 1, c =>
    match parts? c with
    | some (a, b) => apart depth a ++ [b]
    | none => [c]

/-- Puts a mark behind those of its class and of lower ones. -/
def insertMark (m : Nat × Nat) : List (Nat × Nat) → List (Nat × Nat)
  | [] => [m]
  | n :: r => if m.2 < n.2 then m :: n :: r else n :: insertMark m r

def arrange : List Nat → List (Nat × Nat) → List (Nat × Nat)
  | [], marks => marks
  | c :: r, marks =>
    let k := classOf c
    if k = 0 then marks ++ (c, 0) :: arrange r [] else arrange r (insertMark (c, k) marks)

/-- Puts together what follows `base`. The marks that stay between are given last first. -/
def together (base : Nat) : List (Nat × Nat) → List (Nat × Nat) → List Nat
  | marks, [] => base :: (marks.map (·.1)).reverse
  | marks, (c, k) :: r =>
    let blocked := match marks with
      | [] => false
      | m :: _ => k ≤ m.2
    match if blocked then none else join? base c with
    | some whole => together whole marks r
    | none =>
      if k = 0 then base :: ((marks.map (·.1)).reverse ++ together c [] r)
      else together base ((c, k) :: marks) r

/-- Puts a whole text together; marks before the first character stay. -/
def compose : List (Nat × Nat) → List Nat
  | [] => []
  | (c, 0) :: r => together c [] r
  | (c, _ + 1) :: r => c :: compose r

def normalize (cs : List Char) : List Char :=
  (compose (arrange (cs.flatMap fun c => apart 4 c.toNat) [])).map Char.ofNat

end Validium.Unicode.Composition
