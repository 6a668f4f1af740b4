import Validium.Unicode.Direction
import Validium.Unicode.Joining
import Validium.Unicode.Mapping
import Validium.Url.Punycode

/-!
Names of hosts. A name may be given in any script; it is brought to the form under which
names are known, and labels that are not ASCII are then written in ASCII behind `xn--`.
Labels that come written so must be what writing them would give.
-/
namespace Validium.Url.Domain

def isForbidden (c : Char) : Bool :=
  c.toNat ≤ 0x20 || c.toNat = 0x7f ||
    ['#', '%', '/', ':', '<', '>', '?', '@', '[', '\\', ']', '^', '|'].contains c

def isAscii (label : List Char) : Bool := label.all Punycode.isBasic

/-- The longest label that is read, and the longest that is written, in characters. -/
def maxWritten : Nat := 2000

def maxRead : Nat := 1000

/-- Whether a label stays as it is when it is brought to its usual form. -/
def isUsual (label : List Char) : Bool :=
  label.all (fun c => Unicode.Mapping.ofChar c = .itself && !isForbidden c && c ≠ '.') &&
    Unicode.Composition.normalize label == label

/-- Whether a label can stand for itself: no mark in front, and joiners where they may be. -/
def isSound (label : List Char) : Bool :=
  !(label.head?.any Unicode.Joining.isMark) && Unicode.Joining.fit label &&
    (isAscii label || label.length ≤ maxRead)

def written (label : List Char) : Option (List Char) :=
  match label with
  | 'x' :: 'n' :: '-' :: '-' :: rest => some rest
  | _ => none

def readLabel (label : List Char) : Option (List Char) :=
  match written label with
  | some rest =>
    if !isAscii rest || rest.isEmpty || rest.getLast? == some '-' || maxWritten < rest.length then
      none
    else
      match Punycode.decode rest with
      | none => none
      | some own => if isUsual own && isSound own then some own else none
  | none => if isSound label then some label else none

def writeLabel (label : List Char) : List Char :=
  if isAscii label then label else 'x' :: 'n' :: '-' :: '-' :: Punycode.encode label

def toAscii (name : List Char) : Option (List Char) := do
  let mapped ← Unicode.Mapping.mapAll? name
  let usual := Unicode.Composition.normalize mapped
  if usual.any isForbidden then none
  let labels ← (Text.cut '.' usual).mapM readLabel
  if !Unicode.Direction.fit labels then none
  return List.intercalate ['.'] (labels.map writeLabel)

end Validium.Url.Domain
