import Mathlib
import Validium.Proofs.Text.Utf8
import Validium.Word

/-!
Hexadecimal digits tell bytes apart: a digit stands for one value below sixteen, so the two
digits of each byte spell that byte alone. Hence words with the same digits are the same,
also when the digits stand behind different heads, since all words have equally many. As a
digit is one byte, reading the digits of bytes gives the bytes back.
-/
namespace Validium

namespace Hex

theorem eq_of_digit (m n : Nat) (hm : m < 16) (hn : n < 16) (h : digit m = digit n) :
    m = n := by
  have hall : ∀ i j : Fin 16, digit i = digit j → i = j := by decide
  exact congrArg Fin.val (hall ⟨m, hm⟩ ⟨n, hn⟩ h)

theorem length_encodeChars (b : Bytes) : (encodeChars b).length = 2 * b.length := by
  induction b with
  | nil => rfl
  | cons byte rest ih =>
    simp only [encodeChars, List.length_cons, ih]
    omega

theorem encode0x_eq (b : Bytes) : encode0x b = "0x" ++ encode b := by
  apply String.toList_injective
  simp only [encode0x, encode, String.toList_append, String.toList_ofList]
  rfl

theorem encodeChars_injective : Function.Injective encodeChars := by
  intro b c h
  induction b generalizing c with
  | nil =>
    cases c with
    | nil => rfl
    | cons byte rest => cases h
  | cons x b ih =>
    cases c with
    | nil => cases h
    | cons y c =>
      simp only [encodeChars, List.cons.injEq] at h
      obtain ⟨hhigh, hlow, hrest⟩ := h
      have hx := x.toNat_lt
      have hy := y.toNat_lt
      have hquotient := eq_of_digit _ _ (by omega) (by omega) hhigh
      have hremainder := eq_of_digit _ _ (by omega) (by omega) hlow
      have hbyte : x.toNat = y.toNat := by omega
      rw [UInt8.toNat_inj.mp hbyte, ih hrest]

/-- The digit of a value below sixteen is one byte, which is read as that value. -/
theorem exists_byte_of_digit {n : Nat} (h : n < 16) :
    ∃ x, String.utf8EncodeChar (digit n) = [x] ∧ nibble? x = some n := by
  have hall : ∀ i : Fin 16, String.utf8EncodeChar (digit i) = [UInt8.ofNat (digit i).toNat] ∧
      nibble? (UInt8.ofNat (digit i).toNat) = some i.val := by decide
  exact ⟨_, hall ⟨n, h⟩⟩

/-- The digits of bytes, as bytes of a text. -/
theorem ofText_digits (b : Bytes) : ∃ text, Bytes.ofText (encode b) = text ∧
    text.length = 2 * b.length ∧ ∀ position, pairsFrom position text = .ok b := by
  refine ⟨_, Bytes.ofText_ofList (encodeChars b), ?_⟩
  induction b with
  | nil => exact ⟨rfl, fun _ => rfl⟩
  | cons byte rest ih =>
    obtain ⟨hlength, hpairs⟩ := ih
    have hbyte := byte.toNat_lt
    obtain ⟨x, hx, hhigh⟩ := exists_byte_of_digit (n := byte.toNat / 16) (by omega)
    obtain ⟨y, hy, hlow⟩ := exists_byte_of_digit (n := byte.toNat % 16) (by omega)
    have hvalue : byte.toNat / 16 * 16 + byte.toNat % 16 = byte.toNat := Nat.div_add_mod' _ _
    rw [encodeChars, List.flatMap_cons, List.flatMap_cons, hx, hy, List.singleton_append,
      List.singleton_append]
    constructor
    · simp only [List.length_cons, hlength]
      omega
    · intro position
      rw [pairsFrom]
      simp only [hhigh, hlow, hpairs, hvalue, UInt8.ofNat_toNat]

theorem decode_encode (b : Bytes) : decode (Bytes.ofText (encode b)) = .ok b := by
  obtain ⟨text, htext, hlength, hpairs⟩ := ofText_digits b
  have heven : ¬ text.length % 2 = 1 := by omega
  rw [htext, decode, if_neg heven, hpairs]

end Hex

namespace Word

theorem length_digits (w : Word) : w.digits.toList.length = 64 := by
  simp only [digits, Hex.encode, String.toList_ofList, Hex.length_encodeChars, w.length_bytes]

theorem digits_injective : Function.Injective digits := by
  intro v w h
  have hchars : Hex.encodeChars v.bytes = Hex.encodeChars w.bytes := String.ofList_injective h
  have hbytes := Hex.encodeChars_injective hchars
  cases v
  cases w
  cases hbytes
  rfl

theorem parse_text (w : Word) : parse w.text = .ok w := by
  obtain ⟨digits, hdigits, hlength, hpairs⟩ := Hex.ofText_digits w.bytes
  have hbytes : Bytes.ofText w.text = 0x30 :: 0x78 :: digits := by
    rw [← hdigits, text, Hex.encode0x, Bytes.ofText_ofList, List.flatMap_cons, List.flatMap_cons,
      Hex.encode, Bytes.ofText_ofList]
    rfl
  have hcount : digits.length = 64 := by rw [hlength, w.length_bytes]
  have hword : ofBytes? w.bytes = some w := by rw [ofBytes?, dif_pos w.length_bytes]
  simp only [parse, hbytes, dropHead, hcount, hpairs, hword]
  rfl

/-- Whatever stands in front of the digits, they tell words apart. -/
theorem eq_of_append_digits (head head' : String) (v w : Word)
    (h : head ++ v.digits = head' ++ w.digits) : v = w := by
  have hchars : head.toList ++ v.digits.toList = head'.toList ++ w.digits.toList := by
    rw [← String.toList_append, ← String.toList_append, h]
  have hlength : v.digits.toList.length = w.digits.toList.length := by
    rw [length_digits, length_digits]
  have hdigits := List.append_inj_right' hchars hlength
  exact digits_injective (String.toList_injective hdigits)

end Word

end Validium
