import Validium.Json.Tree
import Validium.Text.Utf8

/-!
Reading JSON texts. The grammar is strict: no leading zeros, no control characters in
strings, nothing after the value. Each function takes what it reads off the front and
returns the rest; fuel is the length of the text. Bytes that spell no characters are an
error between the strings of a text, but in a string they are passed over like half of a
surrogate pair: only a reader that needs the string refuses them.
-/
namespace Validium.Json.Parser

def isBlank (c : Char) : Bool :=
  c == ' ' || c == '\n' || c == '\t' || c == '\r'

def skip (cs : List Char) : List Char :=
  cs.dropWhile isBlank

/-- A part of a string: a character, or a unit given by its number, which may be half of
a pair. -/
inductive Piece where
  | char (c : Char)
  | unit (n : Nat)

def isHigh (n : Nat) : Bool := 0xd800 ≤ n && n < 0xdc00

def isLow (n : Nat) : Bool := 0xdc00 ≤ n && n < 0xe000

/-- Joins pairs of units into characters; a half without its partner has none. -/
def join : List Piece → Option (List Char)
  | [] => some []
  | .char c :: r => (join r).map (c :: ·)
  | .unit n :: .unit m :: r =>
    if isHigh n then
      if isLow m then
        (join r).map (Char.ofNat (0x10000 + (n - 0xd800) * 0x400 + (m - 0xdc00)) :: ·)
      else none
    else if isLow n then none
    else (join (.unit m :: r)).map (Char.ofNat n :: ·)
  | .unit n :: r =>
    if isHigh n || isLow n then none else (join r).map (Char.ofNat n :: ·)

def hexValue? (c : Char) : Option Nat :=
  let n := c.toNat
  if 48 ≤ n && n ≤ 57 then some (n - 48)
  else if 97 ≤ n && n ≤ 102 then some (n - 87)
  else if 65 ≤ n && n ≤ 70 then some (n - 55)
  else none

def hex4? (a b c d : Char) : Option Nat := do
  let w ← hexValue? a
  let x ← hexValue? b
  let y ← hexValue? c
  let z ← hexValue? d
  return w * 4096 + x * 256 + y * 16 + z

def escaped? (c : Char) : Option Char :=
  match c with
  | '"' => some '"'
  | '\\' => some '\\'
  | '/' => some '/'
  | 'b' => some '\x08'
  | 'f' => some '\x0c'
  | 'n' => some '\n'
  | 'r' => some '\r'
  | 't' => some '\t'
  | _ => none

def pieces : List Char → Option (List Piece × List Char)
  | [] => none
  | '"' :: r => some ([], r)
  | '\\' :: 'u' :: a :: b :: c :: d :: r =>
    match hex4? a b c d with
    | none => none
    | some n => (pieces r).map fun (ps, rest) => (.unit n :: ps, rest)
  | '\\' :: e :: r =>
    match escaped? e with
    | none => none
    | some c => (pieces r).map fun (ps, rest) => (.char c :: ps, rest)
  | c :: r =>
    if c.toNat < 0x20 || c == '\\' then none
    else (pieces r).map fun (ps, rest) => (.char c :: ps, rest)

def string (cs : List Char) : Option (Option String × List Char) :=
  (pieces cs).map fun (ps, rest) => ((join ps).map String.ofList, rest)

def isDigit (c : Char) : Bool := '0' ≤ c && c ≤ '9'

def fraction : List Char → Option (Option (List Char) × List Char)
  | '.' :: r =>
    let ds := r.takeWhile isDigit
    if ds.isEmpty then none else some (some ds, r.dropWhile isDigit)
  | r => some (none, r)

def exponentDigits (negative : Bool) (r : List Char) :
    Option (Option (Bool × List Char) × List Char) :=
  let ds := r.takeWhile isDigit
  if ds.isEmpty then none else some (some (negative, ds), r.dropWhile isDigit)

def exponent : List Char → Option (Option (Bool × List Char) × List Char)
  | c :: r =>
    if c == 'e' || c == 'E' then
      match r with
      | '+' :: s => exponentDigits false s
      | '-' :: s => exponentDigits true s
      | s => exponentDigits false s
    else some (none, c :: r)
  | [] => some (none, [])

/-- A number; the outer option fails on a text that is none. -/
def number (negative : Bool) (cs : List Char) : Option (Option Number × List Char) := do
  let whole := cs.takeWhile isDigit
  if whole.isEmpty || (whole.head? == some '0' && whole.length != 1) then none
  let (f, r) ← fraction (cs.dropWhile isDigit)
  let (e, s) ← exponent r
  return (Number.ofParts? ⟨negative, whole, f, e⟩, s)

def literal (word : List Char) (t : Tree) (cs : List Char) : Option (Tree × List Char) :=
  if word.isPrefixOf cs then some (t, cs.drop word.length) else none

mutual

def value : Nat → List Char → Option (Tree × List Char)
  | 0, _ => none
  | fuel + 1, cs =>
    match cs with
    | [] => none
    | '\x7b' :: r =>
      match skip r with
      | '\x7d' :: s => some (.object [], s)
      | s => (fields fuel s).map fun (fs, t) => (.object fs, t)
    | '[' :: r =>
      match skip r with
      | ']' :: s => some (.array [], s)
      | s => (items fuel s).map fun (ts, t) => (.array ts, t)
    | '"' :: r => (string r).map fun (s, t) => (.string s, t)
    | '-' :: r => (number true r).map fun (n, t) => (.number n, t)
    | 't' :: r => literal ['r', 'u', 'e'] (.bool true) r
    | 'f' :: r => literal ['a', 'l', 's', 'e'] (.bool false) r
    | 'n' :: r => literal ['u', 'l', 'l'] .null r
    | c :: r => (number false (c :: r)).map fun (n, t) => (.number n, t)

def items : Nat → List Char → Option (List Tree × List Char)
  | 0, _ => none
  | fuel + 1, cs =>
    match value fuel cs with
    | none => none
    | some (t, r) =>
      match skip r with
      | ']' :: s => some ([t], s)
      | ',' :: s => (items fuel (skip s)).map fun (ts, u) => (t :: ts, u)
      | _ => none

def fields : Nat → List Char → Option (List (Option String × Tree) × List Char)
  | 0, _ => none
  | fuel + 1, cs =>
    match cs with
    | '"' :: r =>
      match string r with
      | none => none
      | some (name, s) =>
        match skip s with
        | ':' :: u =>
          match value fuel (skip u) with
          | none => none
          | some (t, v) =>
            match skip v with
            | '\x7d' :: w => some ([(name, t)], w)
            | ',' :: w => (fields fuel (skip w)).map fun (fs, x) => ((name, t) :: fs, x)
            | _ => none
        | _ => none
    | _ => none

end

/-- Where a character of a text stands: in no string, in one, or behind a backslash in one. -/
inductive Place where
  | outside
  | inside
  | escaped

def Place.next : Place → Char → Place
  | .outside, c => if c == '"' then .inside else .outside
  | .inside, c => if c == '"' then .outside else if c == '\\' then .escaped else .inside
  | .escaped, _ => .inside

/-- What stands for bytes of no character: two low halves, of which at most the first can
find a partner. -/
def stray : List Char :=
  ['\\', 'u', 'd', 'c', '0', '0', '\\', 'u', 'd', 'c', '0', '0']

def charsFrom : Nat → Place → Bytes → Option (List Char)
  | 0, _, _ => some []
  | fuel + 1, place, b =>
    match Text.Utf8.front b with
    | .done => some []
    | .char c r => (charsFrom fuel (place.next c) r).map (c :: ·)
    | .bad r =>
      match place with
      | .inside => (charsFrom fuel .inside r).map (stray ++ ·)
      | _ => none

def chars? (b : Bytes) : Option (List Char) :=
  charsFrom b.length .outside b

end Validium.Json.Parser

namespace Validium.Json

def Tree.ofChars? (cs : List Char) : Option Tree :=
  match Parser.value (2 * cs.length + 2) (Parser.skip cs) with
  | some (t, rest) => if (Parser.skip rest).isEmpty then some t else none
  | none => none

def Tree.ofText? (text : String) : Option Tree :=
  Tree.ofChars? text.toList

def Tree.ofBytes? (b : Bytes) : Option Tree :=
  (Parser.chars? b).bind Tree.ofChars?

def Value.ofText? (text : String) : Option Value :=
  (Tree.ofText? text).bind Tree.toValue?

def Value.ofBytes? (b : Bytes) : Option Value :=
  (Tree.ofBytes? b).bind Tree.toValue?

end Validium.Json
