import Validium.Bytes

/-!
Reading bytes as text. `decode` refuses bytes that spell no text: overlong forms,
surrogates, values past the last code point and cut sequences. `decodeLossy` instead
puts one replacement character for each longest part that begins a valid sequence.
-/
namespace Validium.Text.Utf8

inductive Front where
  | done
  | char (c : Char) (rest : Bytes)
  | bad (rest : Bytes)

/-- A continuation byte between two bounds; the bounds keep out overlong and surrogate forms. -/
def within (low high b : UInt8) : Bool :=
  low ≤ b && b ≤ high

def bits (b : UInt8) : Nat :=
  b.toNat % 64

def secondBounds (first : UInt8) : UInt8 × UInt8 :=
  if first == 0xe0 then (0xa0, 0xbf)
  else if first == 0xed then (0x80, 0x9f)
  else if first == 0xf0 then (0x90, 0xbf)
  else if first == 0xf4 then (0x80, 0x8f)
  else (0x80, 0xbf)

def two (first : UInt8) : Bytes → Front
  | [] => .bad []
  | b :: r =>
    if within 0x80 0xbf b then .char (Char.ofNat ((first.toNat - 0xc0) * 64 + bits b)) r
    else .bad (b :: r)

def three (first : UInt8) : Bytes → Front
  | [] => .bad []
  | b :: r =>
    let (low, high) := secondBounds first
    if within low high b then
      match r with
      | [] => .bad []
      | c :: s =>
        if within 0x80 0xbf c then
          .char (Char.ofNat ((first.toNat - 0xe0) * 4096 + bits b * 64 + bits c)) s
        else .bad (c :: s)
    else .bad (b :: r)

def four (first : UInt8) : Bytes → Front
  | [] => .bad []
  | b :: r =>
    let (low, high) := secondBounds first
    if within low high b then
      match r with
      | [] => .bad []
      | c :: s =>
        if within 0x80 0xbf c then
          match s with
          | [] => .bad []
          | d :: t =>
            if within 0x80 0xbf d then
              .char (Char.ofNat
                ((first.toNat - 0xf0) * 262144 + bits b * 4096 + bits c * 64 + bits d)) t
            else .bad (d :: t)
        else .bad (c :: s)
    else .bad (b :: r)

/-- Takes one character, or the longest part that no text can begin with. -/
def front : Bytes → Front
  | [] => .done
  | b :: r =>
    if b < 0x80 then .char (Char.ofNat b.toNat) r
    else if within 0xc2 0xdf b then two b r
    else if within 0xe0 0xef b then three b r
    else if within 0xf0 0xf4 b then four b r
    else .bad r

def decodeFrom : Nat → Bytes → Option (List Char)
  | 0, _ => some []
  | fuel + 1, b =>
    match front b with
    | .done => some []
    | .char c r => (decodeFrom fuel r).map (c :: ·)
    | .bad _ => none

def decode (b : Bytes) : Option (List Char) :=
  decodeFrom b.length b

def decodeLossyFrom : Nat → Bytes → List Char
  | 0, _ => []
  | fuel + 1, b =>
    match front b with
    | .done => []
    | .char c r => c :: decodeLossyFrom fuel r
    | .bad r => '\ufffd' :: decodeLossyFrom fuel r

/-- The text of the bytes with every unreadable part replaced. -/
def decodeLossy (b : Bytes) : List Char :=
  decodeLossyFrom b.length b

end Validium.Text.Utf8
