import Validium.Hex

/-!
Words of 32 bytes: the unit of contract data, and the form of every hash. A word is read
as a big-endian number, and is written as 64 hexadecimal digits after `0x`.
-/
namespace Validium

structure Word where
  bytes : Bytes
  length_bytes : bytes.length = 32
  deriving DecidableEq

/-- A digest names the content it was taken from. -/
abbrev Hash := Word

namespace Word

instance : Repr Word := ⟨fun w _ => Std.Format.text (Hex.encode0x w.bytes)⟩

def ofNat (n : Nat) : Word :=
  ⟨Bytes.ofNat 32 n, Bytes.length_ofNat 32 n⟩

def toNat (w : Word) : Nat :=
  Bytes.toNat w.bytes

def zero : Word := ofNat 0

instance : Inhabited Word := ⟨zero⟩

def ofBytes? (b : Bytes) : Option Word :=
  if h : b.length = 32 then some ⟨b, h⟩ else none

def text (w : Word) : String :=
  Hex.encode0x w.bytes

def digits (w : Word) : String :=
  Hex.encode w.bytes

inductive Error where
  | oddLength
  | badLength
  | badDigit (d : Hex.BadDigit)
  deriving DecidableEq, Repr

def Error.message : Error → String
  | .oddLength => "odd number of digits"
  | .badLength => "invalid string length"
  | .badDigit d => "invalid " ++ d.place

def dropHead : Bytes → Bytes
  | 0x30 :: 0x78 :: r => r
  | 0x30 :: 0x58 :: r => r
  | b => b

def parse (text : String) : Except Error Word :=
  let b := dropHead (Bytes.ofText text)
  if b.length % 2 = 1 then .error .oddLength
  else if b.length ≠ 64 then .error .badLength
  else
    match Hex.pairsFrom 0 b with
    | .error d => .error (.badDigit d)
    | .ok bytes =>
      match ofBytes? bytes with
      | some w => .ok w
      | none => .error .badLength

end Word

end Validium
