import Validium.Bytes
import Validium.Text.Quoted

/-!
Bytes written as two lower case hexadecimal digits each, and read back in either case.
Reading looks at the bytes of a text, so a position counts bytes and a character outside
ASCII shows as its first byte.
-/
namespace Validium.Hex

def digit (n : Nat) : Char :=
  if n < 10 then Char.ofNat (48 + n) else Char.ofNat (87 + n)

def encodeChars : Bytes → List Char
  | [] => []
  | b :: r => digit (b.toNat / 16) :: digit (b.toNat % 16) :: encodeChars r

def encode (b : Bytes) : String :=
  String.ofList (encodeChars b)

def encode0x (b : Bytes) : String :=
  String.ofList ('0' :: 'x' :: encodeChars b)

def nibble? (b : UInt8) : Option Nat :=
  let n := b.toNat
  if 48 ≤ n && n ≤ 57 then some (n - 48)
  else if 97 ≤ n && n ≤ 102 then some (n - 87)
  else if 65 ≤ n && n ≤ 70 then some (n - 55)
  else none

structure BadDigit where
  byte : UInt8
  position : Nat
  deriving DecidableEq, Repr

def BadDigit.place (d : BadDigit) : String :=
  s!"character {Text.quotedChar (Char.ofNat d.byte.toNat)} at position {d.position}"

/-- Reads pairs of digits, the first of which stands at `position`. A last digit without
a partner is left out. -/
def pairsFrom (position : Nat) : Bytes → Except BadDigit Bytes
  | [] => .ok []
  | [_] => .ok []
  | a :: b :: r =>
    match nibble? a with
    | none => .error ⟨a, position⟩
    | some high =>
      match nibble? b with
      | none => .error ⟨b, position + 1⟩
      | some low =>
        match pairsFrom (position + 2) r with
        | .error e => .error e
        | .ok bytes => .ok (UInt8.ofNat (high * 16 + low) :: bytes)

inductive Error where
  | oddLength
  | badDigit (d : BadDigit)
  deriving DecidableEq, Repr

def Error.message : Error → String
  | .oddLength => "Odd number of digits"
  | .badDigit d => "Invalid " ++ d.place

def decode (text : Bytes) : Except Error Bytes :=
  if text.length % 2 = 1 then .error .oddLength
  else match pairsFrom 0 text with
    | .error d => .error (.badDigit d)
    | .ok bytes => .ok bytes

end Validium.Hex
