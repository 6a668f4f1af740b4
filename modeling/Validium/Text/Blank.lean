/-!
White space, and texts that hold nothing else. The set is the one that Unicode gives for
the property White_Space.
-/
namespace Validium.Text

def isBlankChar (c : Char) : Bool :=
  let n := c.toNat
  (0x9 ≤ n && n ≤ 0xd) || n == 0x20 || n == 0x85 || n == 0xa0 || n == 0x1680 ||
    (0x2000 ≤ n && n ≤ 0x200a) || n == 0x2028 || n == 0x2029 || n == 0x202f ||
    n == 0x205f || n == 0x3000

def isBlank (text : String) : Bool :=
  text.toList.all isBlankChar

def strip (p : Char → Bool) (cs : List Char) : List Char :=
  ((cs.dropWhile p).reverse.dropWhile p).reverse

def trim (text : String) : String :=
  String.ofList (strip isBlankChar text.toList)

/-- ASCII letters in lower case, everything else as it is. -/
def foldCase (text : String) : List Char :=
  text.toList.map Char.toLower

def eqFoldCase (a b : String) : Bool :=
  foldCase a == foldCase b

def dropAll (head : List Char) : List Char → List Char :=
  fun cs => go cs.length cs
where
  go : Nat → List Char → List Char
    | 0, cs => cs
    | fuel + 1, cs =>
      if head.isPrefixOf cs && !head.isEmpty then go fuel (cs.drop head.length) else cs

def dropTrailing (tail : Char) (text : String) : String :=
  String.ofList (text.toList.reverse.dropWhile (· == tail)).reverse

end Validium.Text
