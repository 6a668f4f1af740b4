/-!
Cutting lists of characters at given characters.
-/
namespace Validium.Text

def cut (mark : Char) : List Char → List (List Char)
  | [] => [[]]
  | c :: r =>
    match cut mark r with
    | [] => [[c]]
    | part :: parts => if c = mark then [] :: part :: parts else (c :: part) :: parts

def cutFirst (mark : Char) (cs : List Char) : List Char × Option (List Char) :=
  match cs.dropWhile (· != mark) with
  | [] => (cs, none)
  | _ :: rest => (cs.takeWhile (· != mark), some rest)

def cutLast (mark : Char) (cs : List Char) : Option (List Char × List Char) :=
  match cs.reverse.dropWhile (· != mark) with
  | [] => none
  | _ :: before => some (before.reverse, (cs.reverse.takeWhile (· != mark)).reverse)

end Validium.Text
