import Validium.Unicode.Direction.Rows
import Validium.Unicode.Runs

/-!
Host names that are written from the right. As soon as one character of a name runs from
the right, every label must run in one direction throughout.
-/
namespace Validium.Unicode.Direction

def named : List Direction := [
  .right, .arabic, .arabicNumber, .number, .separator, .commonSeparator, .terminator, .neutral,
  .boundary, .mark]

def table : List (Direction × Array Run) := named.map fun d => (d, Rows.runs d.rows)

def ofChar (c : Char) : Direction :=
  ((table.find? fun d => holds d.2 c.toNat).map (·.1)).getD .left

def turns (d : Direction) : Bool :=
  d = .right || d = .arabic || d = .arabicNumber

def isWeak (d : Direction) : Bool :=
  d = .number || d = .separator || d = .commonSeparator || d = .terminator || d = .neutral ||
    d = .boundary || d = .mark

/-- A label that runs from the left ends in a letter or number, marks aside. -/
def runsLeft (body : List Direction) (last : Direction) : Bool :=
  body.all (fun d => d = .left || d.isWeak) && (last = .left || last = .number)

/-- A label that runs from the right has numbers of one kind. -/
def runsRight (body : List Direction) (last : Direction) : Bool :=
  body.all (fun d => d.turns || d.isWeak) && (last.turns || last = .number) &&
    !(body.contains .number && body.contains .arabicNumber)

def agree : List Direction → Bool
  | [] => true
  | first :: rest =>
    let body := (rest.reverse.dropWhile (· = .mark)).reverse
    match first, body.getLast? with
    | .left, none => true
    | .left, some last => runsLeft body last
    | .right, none => true
    | .right, some last => runsRight body last
    | .arabic, none => true
    | .arabic, some last => runsRight body last
    | _, _ => false

def fit (labels : List (List Char)) : Bool :=
  let directions := labels.map fun l => l.map ofChar
  if directions.any fun ds => ds.any turns then directions.all agree else true

end Validium.Unicode.Direction
