import Validium.Text.Utf8
import Validium.Url.Domain
import Validium.Url.Percent

/-!
Hosts of network addresses: names, addresses of four numbers and addresses of eight. A host
whose last label is a number must be an address.
-/
namespace Validium.Url

inductive Host where
  | name (chars : List Char)
  | v4 (address : Nat)
  | v6 (groups : List Nat)
  deriving DecidableEq, Repr

namespace Host

def digitOf (base : Nat) (c : Char) : Option Nat :=
  let n := c.toNat
  let v :=
    if 48 ≤ n && n ≤ 57 then n - 48
    else if 97 ≤ n && n ≤ 102 then n - 87
    else if 65 ≤ n && n ≤ 70 then n - 55
    else base
  if v < base then some v else none

def valueOf (base : Nat) (cs : List Char) : Option Nat :=
  cs.foldlM (fun acc c => (digitOf base c).map (acc * base + ·)) 0

/-- A part of an address: decimal, octal after a zero, hexadecimal after `0x`. -/
def v4Part : List Char → Option Nat
  | [] => none
  | '0' :: 'x' :: r => valueOf 16 r
  | '0' :: 'X' :: r => valueOf 16 r
  | '0' :: c :: r => valueOf 8 (c :: r)
  | cs => valueOf 10 cs

/-- The labels of a name, where one empty label at the end does not count. -/
def labelsOf (cs : List Char) : List (List Char) :=
  let parts := Text.cut '.' cs
  if parts.getLast? == some [] && parts.length != 1 then parts.dropLast else parts

def endsInNumber (cs : List Char) : Bool :=
  match (labelsOf cs).getLast? with
  | none => false
  | some last =>
    (!last.isEmpty && last.all fun c => (digitOf 10 c).isSome) ||
      (match last with
        | '0' :: x :: r => (x == 'x' || x == 'X') && r.all fun c => (digitOf 16 c).isSome
        | _ => false)

/-- All parts but the last are bytes; the last fills what is left of 32 bits. -/
def v4Value : List Nat → Option Nat
  | [] => none
  | [last] => if last < UInt32.size then some last else none
  | [a, last] => if a < 256 && last < 1 <<< 24 then some (a <<< 24 + last) else none
  | [a, b, last] =>
    if a < 256 && b < 256 && last < 1 <<< 16 then some (a <<< 24 + b <<< 16 + last) else none
  | [a, b, c, last] =>
    if a < 256 && b < 256 && c < 256 && last < 256 then
      some (a <<< 24 + b <<< 16 + c <<< 8 + last)
    else none
  | _ => none

def v4? (cs : List Char) : Option Host := do
  let parts ← (labelsOf cs).mapM v4Part
  return .v4 (← v4Value parts)

def group? (cs : List Char) : Option Nat :=
  if cs.isEmpty || 4 < cs.length then none else valueOf 16 cs

/-- A number below 256 in decimal, without zeros before it. -/
def byte? (cs : List Char) : Option Nat :=
  if cs.isEmpty || (cs.head? == some '0' && cs.length != 1) then none
  else (valueOf 10 cs).filter (· < 256)

def fourInTwo? (cs : List Char) : Option (List Nat) :=
  match (Text.cut '.' cs).mapM byte? with
  | some [a, b, c, d] => some [a * 256 + b, c * 256 + d]
  | _ => none

/-- Groups between colons; an address of four numbers may stand for the last two. -/
def groups? : List (List Char) → Option (List Nat)
  | [] => some []
  | [last] => if last.contains '.' then fourInTwo? last else (group? last).map ([·])
  | g :: r => do
    let v ← group? g
    let vs ← groups? r
    return v :: vs

def cutPair : List Char → Option (List Char × List Char)
  | ':' :: ':' :: r => some ([], r)
  | c :: r => (cutPair r).map fun (a, b) => (c :: a, b)
  | [] => none

def sideGroups? (cs : List Char) : Option (List Nat) :=
  if cs.isEmpty then some [] else groups? (Text.cut ':' cs)

/-- Eight groups, of which a pair of colons leaves out at least one. Only the last two can
be given as four numbers. -/
def v6? (cs : List Char) : Option Host :=
  match cutPair cs with
  | none => do
    let groups ← groups? (Text.cut ':' cs)
    if groups.length = 8 then some (.v6 groups) else none
  | some (before, after) => do
    if before.contains '.' then none
    let left ← sideGroups? before
    let right ← sideGroups? after
    if left.length + right.length < 8 then
      some (.v6 (left ++ List.replicate (8 - left.length - right.length) 0 ++ right))
    else none

def bracketed? (cs : List Char) : Option Host :=
  if cs.getLast? == some ']' then v6? cs.dropLast else none

def parse (cs : List Char) : Option Host :=
  match cs with
  | '[' :: r => bracketed? r
  | cs => do
    let text ← Text.Utf8.decode (Percent.decode (Bytes.ofText (String.ofList cs)))
    let name ← Domain.toAscii text
    if name.isEmpty then none
    else if endsInNumber name then v4? name
    else some (.name name)

def isOpaqueForbidden (c : Char) : Bool :=
  ['\x00', '\t', '\n', '\r', ' ', '#', '/', ':', '<', '>', '?', '@', '[', '\\', ']', '^',
    '|'].contains c

/-- The host of an address outside the network: any text, even none. -/
def parseOpaque (cs : List Char) : Option Host :=
  match cs with
  | '[' :: r => bracketed? r
  | cs => if cs.any isOpaqueForbidden then none else some (.name (Percent.encode [] cs))

def isEmpty (h : Host) : Bool := h == .name []

def hexChars (n : Nat) : List Char := Nat.toDigits 16 n

def decimalChars (n : Nat) : List Char := Nat.toDigits 10 n

/-- The first of the longest runs of zero groups: where it starts and how long it is. -/
def zeroRun (groups : List Nat) : Nat × Nat :=
  go 0 groups (0, 0)
where
  go : Nat → List Nat → Nat × Nat → Nat × Nat
    | _, [], best => best
    | i, g :: r, best =>
      let length := ((g :: r).takeWhile (· == 0)).length
      go (i + 1) r (if best.2 < length then (i, length) else best)

def joinGroups (groups : List Nat) : List Char :=
  List.intercalate [':'] (groups.map hexChars)

def chars : Host → List Char
  | .name chars => chars
  | .v4 a =>
    List.intercalate ['.']
      ([a >>> 24, a >>> 16 % 256, a >>> 8 % 256, a % 256].map decimalChars)
  | .v6 groups =>
    let (start, length) := zeroRun groups
    if length < 2 then '[' :: joinGroups groups ++ [']']
    else
      '[' :: joinGroups (groups.take start) ++ ':' :: ':' ::
        joinGroups (groups.drop (start + length)) ++ [']']

end Host

end Validium.Url
