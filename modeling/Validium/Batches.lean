import Validium.Bytes

/-!
A sequence of batches as one blob: a list header, then each batch as a byte string with a
header of its own. A header holds the length of what follows, in one byte below 56 and in
the fewest bytes from there on; a single byte below `0x80` stands for itself. Only headers
of the shortest form are read, so a blob has one reading and a sequence one blob.
-/
namespace Validium.Batches

inductive Fault where
  | inputTooShort
  | leadingZero
  | nonCanonicalSingleByte
  | nonCanonicalSize
  | unexpectedString
  | unexpectedList
  | trailingBytes (count : Nat)
  deriving DecidableEq, Repr

def Fault.message : Fault → String
  | .inputTooShort => "input too short"
  | .leadingZero => "leading zero"
  | .nonCanonicalSingleByte => "non-canonical single byte"
  | .nonCanonicalSize => "non-canonical size"
  | .unexpectedString => "unexpected string"
  | .unexpectedList => "unexpected list"
  | .trailingBytes count => s!"{count} trailing bytes after list"

/-- A header for a payload of the given length; `base` is `0x80` for strings and `0xc0`
for lists. -/
def header (base length : Nat) : Bytes :=
  if length < 56 then [UInt8.ofNat (base + length)]
  else
    let digits := Bytes.minimal length
    UInt8.ofNat (base + 55 + digits.length) :: digits

def encodeItem (item : Bytes) : Bytes :=
  match item with
  | [b] => if b < 0x80 then [b] else header 0x80 1 ++ [b]
  | _ => header 0x80 item.length ++ item

def encode (batches : List Bytes) : Bytes :=
  let payload := batches.flatMap encodeItem
  header 0xc0 payload.length ++ payload

/-- What a header announces: whether a list, and the payload with the bytes behind it. -/
structure Item where
  isList : Bool
  payload : Bytes
  rest : Bytes
  deriving DecidableEq, Repr

def take (isList : Bool) (length : Nat) (b : Bytes) : Except Fault Item :=
  if length ≤ b.length then .ok ⟨isList, b.take length, b.drop length⟩
  else .error .inputTooShort

def takeLong (isList : Bool) (width : Nat) (b : Bytes) : Except Fault Item :=
  if b.length < width then .error .inputTooShort
  else if b.head? = some 0 then .error .leadingZero
  else
    let length := Bytes.toNat (b.take width)
    if length < 56 then .error .nonCanonicalSize else take isList length (b.drop width)

def item : Bytes → Except Fault Item
  | [] => .error .inputTooShort
  | b :: r =>
    if b < 0x80 then .ok ⟨false, [b], r⟩
    else if b < 0xb8 then
      match b.toNat - 0x80, r with
      | 1, [] => .error .inputTooShort
      | 1, c :: s => if c < 0x80 then .error .nonCanonicalSingleByte else .ok ⟨false, [c], s⟩
      | length, r => take false length r
    else if b < 0xc0 then takeLong false (b.toNat - 0xb7) r
    else if b < 0xf8 then take true (b.toNat - 0xc0) r
    else takeLong true (b.toNat - 0xf7) r

/-- Reads byte strings up to the end; every item takes at least one byte. -/
def itemsFrom : Nat → Bytes → Except Fault (List Bytes)
  | _, [] => .ok []
  | 0, _ :: _ => .error .inputTooShort
  | fuel + 1, b => do
    let i ← item b
    if i.isList then .error .unexpectedList
    else
      let rest ← itemsFrom fuel i.rest
      return i.payload :: rest

def decode (blob : Bytes) : Except Fault (List Bytes) := do
  let i ← item blob
  if i.isList then
    let batches ← itemsFrom i.payload.length i.payload
    if i.rest.isEmpty then return batches else .error (.trailingBytes i.rest.length)
  else .error .unexpectedString

end Validium.Batches
