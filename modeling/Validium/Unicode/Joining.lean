import Validium.Unicode.Composition
import Validium.Unicode.Joining.Rows

/-!
The two joiners, which have no shape of their own. Either may follow a sign that kills a
vowel; the one that keeps letters apart may also stand between letters that would join.
-/
namespace Validium.Unicode.Joining

def onward : Array Run := Rows.runs onwardRows

def backward : Array Run := Rows.runs backwardRows

def transparent : Array Run := Rows.runs transparentRows

def marks : Array Run := Rows.runs markRows

def isMark (c : Char) : Bool := holds marks c.toNat

def apartJoiner : Char := '\u200c'

def closeJoiner : Char := '\u200d'

def killers : Nat := 9

/-- Whether the nearest character that does not let the joining through is in `set`. -/
def reaches (set : Array Run) (cs : List Char) : Bool :=
  match cs.dropWhile fun c => holds transparent c.toNat with
  | [] => false
  | c :: _ => holds set c.toNat

/-- Whether the joiners in a label stand where they may; `before` is what comes before the
rest, last first. -/
def fitFrom (before : List Char) : List Char → Bool
  | [] => true
  | c :: r =>
    let fits :=
      if c = apartJoiner || c = closeJoiner then
        match before with
        | [] => false
        | p :: _ =>
          Composition.classOf p.toNat = killers ||
            (c = apartJoiner && reaches onward before && reaches backward r)
      else true
    fits && fitFrom (c :: before) r

def fit (label : List Char) : Bool := fitFrom [] label

end Validium.Unicode.Joining
