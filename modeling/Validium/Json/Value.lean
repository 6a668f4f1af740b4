import Validium.Json.Number

/-!
JSON values and their two written forms: compact, and indented by two blanks a level. The
fields of an object are in increasing order of their names, except where a written answer
fixes another order.
-/
namespace Validium.Json

inductive Value where
  | null
  | bool (b : Bool)
  | number (n : Number)
  | string (s : String)
  | array (items : List Value)
  | object (fields : List (String × Value))
  deriving BEq, Repr

namespace Value

instance : Inhabited Value := ⟨.null⟩

def ofNat (n : Nat) : Value := .number (.int n)

/-- The value under the last field with this name. -/
def field? (name : String) : Value → Option Value
  | .object fields => (fields.find? (·.1 == name)).map (·.2)
  | _ => none

def text? : Value → Option String
  | .string s => some s
  | _ => none

/-- Puts a field at its place among fields in increasing order; an earlier field of the
same name gives way. -/
def insertField (name : String) (v : Value) : List (String × Value) → List (String × Value)
  | [] => [(name, v)]
  | (n, w) :: r =>
    if name = n then (name, v) :: r
    else if name < n then (name, v) :: (n, w) :: r
    else (n, w) :: insertField name v r

/-- An object of fields given in any order, where the last of each name counts. -/
def ofFields (fields : List (String × Value)) : Value :=
  .object (fields.foldl (fun acc f => insertField f.1 f.2 acc) [])

def hexDigit (n : Nat) : Char :=
  if n < 10 then Char.ofNat (48 + n) else Char.ofNat (87 + n)

/-- Quotes, backslashes and controls are escaped, all else stands as it is. -/
def escapeChar (c : Char) : List Char :=
  if c == '"' || c == '\\' then ['\\', c]
  else if c == '\n' then ['\\', 'n']
  else if c == '\r' then ['\\', 'r']
  else if c == '\t' then ['\\', 't']
  else if c == '\x08' then ['\\', 'b']
  else if c == '\x0c' then ['\\', 'f']
  else if c.toNat < 0x20 then
    ['\\', 'u', '0', '0', hexDigit (c.toNat / 16), hexDigit (c.toNat % 16)]
  else [c]

def quotedChars (s : String) : List Char :=
  '"' :: s.toList.flatMap escapeChar ++ ['"']

mutual

def compactChars : Value → List Char
  | .null => ['n', 'u', 'l', 'l']
  | .bool true => ['t', 'r', 'u', 'e']
  | .bool false => ['f', 'a', 'l', 's', 'e']
  | .number n => n.chars
  | .string s => quotedChars s
  | .array items => '[' :: compactItems items ++ [']']
  | .object fields => '\x7b' :: compactFields fields ++ ['\x7d']

def compactItems : List Value → List Char
  | [] => []
  | [v] => compactChars v
  | v :: w :: r => compactChars v ++ ',' :: compactItems (w :: r)

def compactFields : List (String × Value) → List Char
  | [] => []
  | [(n, v)] => quotedChars n ++ ':' :: compactChars v
  | (n, v) :: f :: r => quotedChars n ++ ':' :: compactChars v ++ ',' :: compactFields (f :: r)

end

def compact (v : Value) : String :=
  String.ofList (compactChars v)

def newline (level : Nat) : List Char :=
  '\n' :: List.replicate (2 * level) ' '

mutual

def indentedChars (level : Nat) : Value → List Char
  | .array [] => ['[', ']']
  | .array (v :: r) => '[' :: indentedItems (level + 1) (v :: r) ++ newline level ++ [']']
  | .object [] => ['\x7b', '\x7d']
  | .object (f :: r) =>
    '\x7b' :: indentedFields (level + 1) (f :: r) ++ newline level ++ ['\x7d']
  | .null => ['n', 'u', 'l', 'l']
  | .bool true => ['t', 'r', 'u', 'e']
  | .bool false => ['f', 'a', 'l', 's', 'e']
  | .number n => n.chars
  | .string s => quotedChars s

def indentedItems (level : Nat) : List Value → List Char
  | [] => []
  | [v] => newline level ++ indentedChars level v
  | v :: w :: r => newline level ++ indentedChars level v ++ ',' :: indentedItems level (w :: r)

def indentedFields (level : Nat) : List (String × Value) → List Char
  | [] => []
  | [(n, v)] => newline level ++ quotedChars n ++ ':' :: ' ' :: indentedChars level v
  | (n, v) :: f :: r =>
    newline level ++ quotedChars n ++ ':' :: ' ' :: indentedChars level v ++
      ',' :: indentedFields level (f :: r)

end

def indented (v : Value) : String :=
  String.ofList (indentedChars 0 v)

end Value

end Validium.Json
