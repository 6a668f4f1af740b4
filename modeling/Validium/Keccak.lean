import Validium.Word

/-!
The 256-bit Keccak digest with the padding that contracts use. The state has 25 lanes of
64 bits; a message is padded to whole blocks of 136 bytes, each block is added onto the
front lanes, and 24 rounds permute the state after each.
-/
namespace Validium.Keccak

abbrev State := Vector UInt64 25

def rate : Nat := 136

def roundConstants : List UInt64 := [
  0x0000000000000001, 0x0000000000008082, 0x800000000000808a, 0x8000000080008000,
  0x000000000000808b, 0x0000000080000001, 0x8000000080008081, 0x8000000000008009,
  0x000000000000008a, 0x0000000000000088, 0x0000000080008009, 0x000000008000000a,
  0x000000008000808b, 0x800000000000008b, 0x8000000000008089, 0x8000000000008003,
  0x8000000000008002, 0x8000000000000080, 0x000000000000800a, 0x800000008000000a,
  0x8000000080008081, 0x8000000000008080, 0x0000000080000001, 0x8000000080008008]

/-- Left rotations of the lanes, lane `x + 5 y` at that place. -/
def offsets : Vector UInt64 25 := #v[
  0, 1, 62, 28, 27, 36, 44, 6, 55, 20, 3, 10, 43, 25, 39, 41, 45, 15, 21, 8, 18, 2, 61, 56, 14]

def rotl (x n : UInt64) : UInt64 :=
  if n == 0 then x else (x <<< n) ||| (x >>> (64 - n))

def lane (s : State) (x y : Nat) : UInt64 :=
  s.get ⟨x % 5 + 5 * (y % 5), by omega⟩

def theta (s : State) : State :=
  let c : Vector UInt64 5 := Vector.ofFn fun x =>
    lane s x 0 ^^^ lane s x 1 ^^^ lane s x 2 ^^^ lane s x 3 ^^^ lane s x 4
  let d : Vector UInt64 5 := Vector.ofFn fun x =>
    c.get ⟨(x.val + 4) % 5, by omega⟩ ^^^ rotl (c.get ⟨(x.val + 1) % 5, by omega⟩) 1
  Vector.ofFn fun i => s[i] ^^^ d.get ⟨i.val % 5, by omega⟩

def rhoPi (s : State) : State :=
  Vector.ofFn fun i =>
    let x := i.val % 5
    let y := i.val / 5
    let source := (x + 3 * y) % 5 + 5 * x
    have h : source < 25 := by omega
    rotl (s[source]) (offsets[source])

def chi (s : State) : State :=
  Vector.ofFn fun i =>
    let x := i.val % 5
    let y := i.val / 5
    s[i] ^^^ (~~~(lane s (x + 1) y) &&& lane s (x + 2) y)

def iota (rc : UInt64) (s : State) : State :=
  s.set 0 (s[0] ^^^ rc)

def round (s : State) (rc : UInt64) : State :=
  iota rc (chi (rhoPi (theta s)))

def permute (s : State) : State :=
  roundConstants.foldl round s

def laneOfBytes (b : Bytes) : UInt64 :=
  b.foldr (fun x n => n * 256 + x.toUInt64) 0

def absorb (s : State) (block : Bytes) : State :=
  let lanes : Vector UInt64 17 := Vector.ofFn fun i => laneOfBytes ((block.drop (8 * i.val)).take 8)
  permute (Vector.ofFn fun i => if h : i.val < 17 then s[i] ^^^ lanes[i.val] else s[i])

/-- Whole blocks: a one bit after the message, zeros, and a one bit at the very end. -/
def pad (message : Bytes) : Bytes :=
  let gap := rate - message.length % rate
  if gap = 1 then message ++ [0x81]
  else message ++ 0x01 :: List.replicate (gap - 2) 0 ++ [0x80]

def absorbBlocks : Nat → State → Bytes → State
  | 0, s, _ => s
  | blocks + 1, s, b => absorbBlocks blocks (absorb s (b.take rate)) (b.drop rate)

def sponge (message : Bytes) : State :=
  let padded := pad message
  absorbBlocks (padded.length / rate) (Vector.replicate 25 0) padded

/-- The first four lanes of the state, least significant byte first. -/
def squeeze (s : State) : Bytes :=
  Bytes.ofNatLE 8 s[0].toNat ++ Bytes.ofNatLE 8 s[1].toNat ++
    Bytes.ofNatLE 8 s[2].toNat ++ Bytes.ofNatLE 8 s[3].toNat

end Validium.Keccak

namespace Validium

def keccak (message : Bytes) : Hash :=
  ⟨Keccak.squeeze (Keccak.sponge message), by simp [Keccak.squeeze]⟩

end Validium
