import Validium.Text.Cut

/-!
Sets of code points as runs in increasing order, and tables written as rows of text. A row
holds items between blanks, in hexadecimal: a code point, or the first and the last one of
a run with a dash between them.
-/
namespace Validium.Unicode

structure Run where
  first : Nat
  last : Nat
  deriving DecidableEq, Repr

namespace Rows

def digit (c : Char) : Nat :=
  if c.toNat < 58 then c.toNat - 48 else c.toNat - 87

def number (cs : List Char) : Nat :=
  cs.foldl (fun n c => n * 16 + digit c) 0

def items (rows : List String) : List (List Char) :=
  rows.flatMap fun row => Text.cut ' ' row.toList

def run (item : List Char) : Run :=
  match Text.cutFirst '-' item with
  | (first, some last) => ⟨number first, number last⟩
  | (first, none) => ⟨number first, number first⟩

def runs (rows : List String) : Array Run :=
  ((items rows).map run).toArray

end Rows

/-- The entry whose run holds a code point. The runs are in increasing order, so halving an
interval finds the only candidate. -/
def search {α : Type} (runOf : α → Run) (entries : Array α) (c : Nat) : Option α :=
  go entries.size 0 entries.size
where
  go : Nat → Nat → Nat → Option α
    | 0, _, _ => none
    | fuel + 1, low, high =>
      if high ≤ low then none
      else
        let mid := (low + high) / 2
        match entries[mid]? with
        | none => none
        | some e =>
          if c < (runOf e).first then go fuel low mid
          else if (runOf e).last < c then go fuel (mid + 1) high
          else some e

def holds (runs : Array Run) (c : Nat) : Bool :=
  (search id runs c).isSome

end Validium.Unicode
