import Validium.Abi.Error
import Validium.Word

/-!
Reading contract data. A region is a stretch of bytes, and positions count from its start
in 64 bits. Every offset and length found in the data is compared with the region before it
is followed, so hostile data can neither lead behind the end nor ask for much memory.
-/
namespace Validium.Abi

structure Region where
  data : Bytes

namespace Region

def size (r : Region) : Nat := r.data.length

def sub (r : Region) (offset : UInt64) : Except Error Region :=
  if offset.toNat ≤ r.size then .ok ⟨r.data.drop offset.toNat⟩
  else .error (.outOfRange offset.toNat offset.toNat)

def slice (r : Region) (offset needed : UInt64) : Except Error Bytes :=
  let stop := offset.toNat + needed.toNat
  if stop < UInt64.size ∧ stop ≤ r.size then .ok ((r.data.drop offset.toNat).take needed.toNat)
  else .error (.truncated offset.toNat needed.toNat r.size)

def wordAt (r : Region) (offset : UInt64) : Except Error Word :=
  if h : offset.toNat + 32 < UInt64.size ∧ offset.toNat + 32 ≤ r.data.length then
    .ok ⟨(r.data.drop offset.toNat).take 32, by simp; omega⟩
  else .error (.truncated offset.toNat 32 r.size)

/-- A number of `bits` bits, at most 128; the bytes before it are zero. -/
def uintAt (r : Region) (offset : UInt64) (bits : Nat) : Except Error Nat := do
  let w ← r.wordAt offset
  if (w.bytes.take (32 - bits / 8)).any (· != 0) then .error (.overflow offset.toNat bits)
  else .ok (Bytes.toNat (w.bytes.drop 16))

def numberAt (r : Region) (offset : UInt64) : Except Error Nat :=
  (r.wordAt offset).map Word.toNat

/-- The value of a word, or the largest 64-bit number if it is larger. -/
def saturate (w : Word) : UInt64 :=
  if w.toNat < UInt64.size then UInt64.ofNat w.toNat else 0xffffffffffffffff

/-- An offset or a length: at most the size of the region. -/
def offsetAt (r : Region) (offset : UInt64) : Except Error UInt64 := do
  let value := saturate (← r.wordAt offset)
  if value.toNat ≤ r.size then .ok value else .error (.outOfRange offset.toNat value.toNat)

def bytesAt (r : Region) (start : UInt64) : Except Error Bytes := do
  let length ← r.offsetAt start
  r.slice (start + 32) length

def room (r : Region) (start : UInt64) (stride : Nat) : Nat :=
  (r.size - start.toNat) / stride

def wordsFrom (r : Region) : Nat → UInt64 → Except Error (List Word)
  | 0, _ => .ok []
  | count + 1, start => do
    let w ← r.wordAt start
    let rest ← r.wordsFrom count (start + 32)
    return w :: rest

def wordsAt (r : Region) (start : UInt64) : Except Error (List Word) := do
  let count ← r.offsetAt start
  if count.toNat ≤ r.room (start + 32) 32 then r.wordsFrom count.toNat (start + 32)
  else .error (.outOfRange start.toNat count.toNat)

end Region

def decodeSingle (data : Bytes) : Except Error Bytes := do
  let r : Region := ⟨data⟩
  let start ← r.offsetAt 0
  r.bytesAt start

end Validium.Abi
