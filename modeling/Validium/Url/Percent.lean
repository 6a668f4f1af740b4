import Validium.Hex

/-!
Characters of an address by their bytes: a percent sign and two digits for each byte. What
may stand as it is depends on the part of the address.
-/
namespace Validium.Url.Percent

def hexByte (b : UInt8) : List Char :=
  '%' :: (Hex.encodeChars [b]).map Char.toUpper

def encode (reserved : List Char) (cs : List Char) : List Char :=
  cs.flatMap fun c =>
    if c.toNat < 0x20 || 0x7f ≤ c.toNat || reserved.contains c then
      (Bytes.ofText (String.singleton c)).flatMap hexByte
    else [c]

def inFragment : List Char := [' ', '"', '<', '>', '\x60']

def inQuery : List Char := [' ', '"', '#', '<', '>']

/-- A query of an address on the network has no single quote either. -/
def inNetworkQuery : List Char := '\'' :: inQuery

def inPath : List Char := inFragment ++ ['#', '?', '\x7b', '\x7d']

def inUser : List Char := inPath ++ ['/', ':', ';', '=', '@', '[', '\\', ']', '^', '|']

/-- The bytes that a text spells, where a sign without two digits stands for itself. -/
def decode : Bytes → Bytes
  | 0x25 :: a :: b :: r =>
    match Hex.nibble? a, Hex.nibble? b with
    | some x, some y => UInt8.ofNat (x * 16 + y) :: decode r
    | _, _ => 0x25 :: decode (a :: b :: r)
  | c :: r => c :: decode r
  | [] => []

end Validium.Url.Percent
