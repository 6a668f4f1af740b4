import Validium.Text.Shapeless

/-!
Texts and characters between quotes, as error messages show them. A quote of the kind
that encloses, a backslash, tab, newline and carriage return take a backslash; a
character without a shape of its own is shown by its number.
-/
namespace Validium.Text

namespace Quoted

def hexDigits (n : Nat) : List Char :=
  Nat.toDigits 16 n

def escape (quote c : Char) : List Char :=
  if c == '\x00' then ['\\', '0']
  else if c == '\t' then ['\\', 't']
  else if c == '\r' then ['\\', 'r']
  else if c == '\n' then ['\\', 'n']
  else if c == '\\' || c == quote then ['\\', c]
  else if Shapeless.isShapeless c then
    ['\\', 'u', '\x7b'] ++ hexDigits c.toNat ++ ['\x7d']
  else [c]

end Quoted

def quoted (text : String) : String :=
  String.ofList ('"' :: text.toList.flatMap (Quoted.escape '"') ++ ['"'])

def quotedChar (c : Char) : String :=
  String.ofList ('\'' :: Quoted.escape '\'' c ++ ['\''])

end Validium.Text
