import Validium.Unicode.Mapping.Rows
import Validium.Unicode.Runs

/-!
What a host name makes of each character: letters lose their case, forms made for
compatibility become what they stand for, some characters are left out, and some no name
has.
-/
namespace Validium.Unicode

inductive Mapping where
  | itself
  | ignored
  | refused
  | mapped (chars : List Char)
  deriving DecidableEq, Repr

namespace Mapping

structure Onto where
  run : Run
  target : Nat

structure Single where
  code : Nat
  chars : List Char

def readOnto (item : List Char) : Onto :=
  let (run, target) := Text.cutFirst '>' item
  ⟨Rows.run run, Rows.number (target.getD [])⟩

def readChars (cs : List Char) : List Char :=
  (Text.cut '.' cs).map fun n => Char.ofNat (Rows.number n)

/-- Reads singles, the first of which follows `previous` if it has no number. -/
def readSingles (previous : Nat) : List (List Char) → List Single
  | [] => []
  | item :: rest =>
    let (code, chars) := Text.cutFirst '=' item
    let code := if code.isEmpty then previous + 1 else Rows.number code
    ⟨code, readChars (chars.getD [])⟩ :: readSingles code rest

def ignoredRuns : Array Run := Rows.runs ignoredRows

def refusedRuns : Array Run := Rows.runs refusedRows

def onto : Array Onto := ((Rows.items ontoRows).map readOnto).toArray

def pairs : Array Run := Rows.runs pairRows

def singles : Array Single := (readSingles 0 (Rows.items singleRows)).toArray

def ofChar (c : Char) : Mapping :=
  let n := c.toNat
  if holds refusedRuns n then .refused
  else if holds ignoredRuns n then .ignored
  else
    match search Onto.run onto n with
    | some o => .mapped [Char.ofNat (o.target + (n - o.run.first))]
    | none =>
      match search (fun s => ⟨s.code, s.code⟩) singles n with
      | some s => .mapped s.chars
      | none =>
        match search id pairs n with
        | some p => if (n - p.first) % 2 = 0 then .mapped [Char.ofNat (n + 1)] else .itself
        | none => .itself

def mapAll? : List Char → Option (List Char)
  | [] => some []
  | c :: r =>
    match ofChar c with
    | .itself => (mapAll? r).map (c :: ·)
    | .ignored => mapAll? r
    | .refused => none
    | .mapped chars => (mapAll? r).map (chars ++ ·)

end Mapping

end Validium.Unicode
