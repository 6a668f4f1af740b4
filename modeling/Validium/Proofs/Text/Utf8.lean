import Mathlib
import Validium.Text.Utf8

/-!
Texts survive being spelled in bytes. The bytes of a character are read back as that
character whatever follows, one form for each number of bytes, so the bytes of a text spell
that text and no other.
-/
namespace Validium

namespace Bytes

theorem toList_loop (b : ByteArray) (i : Nat) (acc : List UInt8) :
    ByteArray.toList.loop b i acc = acc.reverse ++ b.data.toList.drop i := by
  fun_induction ByteArray.toList.loop b i acc with
  | case1 i acc h ih =>
    have hi : i < b.data.toList.length := h
    have hget : b.get! i = b.data.toList[i] := by
      simp only [ByteArray.get!, Array.getElem_toList]
      exact getElem!_pos b.data i h
    rw [ih, List.drop_eq_getElem_cons hi, hget, List.reverse_cons, List.append_assoc]
    rfl
  | case2 i acc h =>
    have hi : b.data.toList.length ≤ i := Nat.le_of_not_lt h
    rw [List.drop_eq_nil_of_le hi, List.append_nil]

theorem ofText_ofList (cs : List Char) :
    ofText (String.ofList cs) = cs.flatMap String.utf8EncodeChar := by
  rw [ofText, String.toUTF8_eq_toByteArray, String.toByteArray_ofList, ByteArray.toList,
    toList_loop]
  simp [List.utf8Encode]

end Bytes

namespace Text.Utf8

theorem within_iff (low high b : UInt8) :
    within low high b = true ↔ low.toNat ≤ b.toNat ∧ b.toNat ≤ high.toNat := by
  simp only [within, Bool.and_eq_true, decide_eq_true_eq, UInt8.le_iff_toNat_le]

theorem not_small {b : UInt8} (h : 128 ≤ b.toNat) : ¬ b < 0x80 := by
  intro hb
  exact absurd (UInt8.lt_iff_toNat_lt.mp hb) (Nat.not_lt.mpr h)

theorem not_within {low high b : UInt8} (h : high.toNat < b.toNat) :
    ¬ within low high b = true := by
  intro hb
  exact absurd ((within_iff low high b).mp hb).2 (Nat.not_le.mpr h)

theorem front_one {b : UInt8} (rest : Bytes) (h : b.toNat < 128) :
    front (b :: rest) = .char (Char.ofNat b.toNat) rest := by
  have hb : b < 0x80 := UInt8.lt_iff_toNat_lt.mpr h
  rw [front, if_pos hb]

theorem front_two {b c : UInt8} (rest : Bytes) (hb : 194 ≤ b.toNat ∧ b.toNat ≤ 223)
    (hc : 128 ≤ c.toNat ∧ c.toNat ≤ 191) :
    front (b :: c :: rest) = .char (Char.ofNat ((b.toNat - 192) * 64 + c.toNat % 64)) rest := by
  have hfirst : within 0xc2 0xdf b = true := (within_iff _ _ _).mpr hb
  have hsecond : within 0x80 0xbf c = true := (within_iff _ _ _).mpr hc
  rw [front, if_neg (not_small (by omega)), if_pos hfirst, two, if_pos hsecond]
  rfl

theorem front_three {b c d : UInt8} (rest : Bytes) (hb : 224 ≤ b.toNat ∧ b.toNat ≤ 239)
    (hc : within (secondBounds b).1 (secondBounds b).2 c = true)
    (hd : 128 ≤ d.toNat ∧ d.toNat ≤ 191) :
    front (b :: c :: d :: rest) =
      .char (Char.ofNat ((b.toNat - 224) * 4096 + c.toNat % 64 * 64 + d.toNat % 64)) rest := by
  have hnot : ¬ within 0xc2 0xdf b = true := not_within (show 223 < b.toNat by omega)
  have hfirst : within 0xe0 0xef b = true := (within_iff _ _ _).mpr hb
  have hthird : within 0x80 0xbf d = true := (within_iff _ _ _).mpr hd
  rw [front, if_neg (not_small (by omega)), if_neg hnot, if_pos hfirst]
  simp only [three, hc, hthird, if_true]
  rfl

theorem front_four {b c d e : UInt8} (rest : Bytes) (hb : 240 ≤ b.toNat ∧ b.toNat ≤ 244)
    (hc : within (secondBounds b).1 (secondBounds b).2 c = true)
    (hd : 128 ≤ d.toNat ∧ d.toNat ≤ 191) (he : 128 ≤ e.toNat ∧ e.toNat ≤ 191) :
    front (b :: c :: d :: e :: rest) =
      .char (Char.ofNat ((b.toNat - 240) * 262144 + c.toNat % 64 * 4096 + d.toNat % 64 * 64 +
        e.toNat % 64)) rest := by
  have htwo : ¬ within 0xc2 0xdf b = true := not_within (show 223 < b.toNat by omega)
  have hthree : ¬ within 0xe0 0xef b = true := not_within (show 239 < b.toNat by omega)
  have hfirst : within 0xf0 0xf4 b = true := (within_iff _ _ _).mpr hb
  have hthird : within 0x80 0xbf d = true := (within_iff _ _ _).mpr hd
  have hfourth : within 0x80 0xbf e = true := (within_iff _ _ _).mpr he
  rw [front, if_neg (not_small (by omega)), if_neg htwo, if_neg hthree, if_pos hfirst]
  simp only [four, hc, hthird, hfourth, if_true]
  rfl

/-- A second byte is in bounds unless the form is overlong, a surrogate or past the end. -/
theorem within_secondBounds {b c : UInt8} (hc : 128 ≤ c.toNat ∧ c.toNat ≤ 191)
    (hthree : b.toNat = 224 → 160 ≤ c.toNat) (hsurrogate : b.toNat = 237 → c.toNat < 160)
    (hfour : b.toNat = 240 → 144 ≤ c.toNat) (hend : b.toNat = 244 → c.toNat < 144) :
    within (secondBounds b).1 (secondBounds b).2 c = true := by
  rw [within_iff]
  unfold secondBounds
  simp only [beq_iff_eq, ← UInt8.toNat_inj, UInt8.reduceToNat]
  split_ifs <;> simp <;> omega

theorem toNat_ofNat_of_lt {n : Nat} (h : n < 256) : (UInt8.ofNat n).toNat = n := by
  rw [UInt8.toNat_ofNat']
  exact Nat.mod_eq_of_lt h

theorem front_utf8EncodeChar (c : Char) (rest : Bytes) :
    front (String.utf8EncodeChar c ++ rest) = .char c rest := by
  have hvalid : c.val.toNat < 0xd800 ∨ (0xdfff < c.val.toNat ∧ c.val.toNat < 0x110000) := c.valid
  have hback : Char.ofNat c.val.toNat = c := Char.ofNat_toNat c
  unfold String.utf8EncodeChar
  simp only
  generalize c.val.toNat = n at hvalid hback ⊢
  split_ifs with hone htwo hthree
  · have h : (UInt8.ofNat n).toNat = n := toNat_ofNat_of_lt (by omega)
    rw [List.singleton_append, front_one rest (by omega), h, hback]
  · have hb : (UInt8.ofNat (n / 64 % 32 + 192)).toNat = n / 64 + 192 := by
      rw [toNat_ofNat_of_lt (by omega)]
      omega
    have hc : (UInt8.ofNat (n % 64 + 128)).toNat = n % 64 + 128 := toNat_ofNat_of_lt (by omega)
    have hvalue : (n / 64 + 192 - 192) * 64 + (n % 64 + 128) % 64 = n := by omega
    rw [List.cons_append, List.singleton_append, front_two rest (by omega) (by omega), hb, hc,
      hvalue, hback]
  · have hb : (UInt8.ofNat (n / 4096 % 16 + 224)).toNat = n / 4096 + 224 := by
      rw [toNat_ofNat_of_lt (by omega)]
      omega
    have hc : (UInt8.ofNat (n / 64 % 64 + 128)).toNat = n / 64 % 64 + 128 :=
      toNat_ofNat_of_lt (by omega)
    have hd : (UInt8.ofNat (n % 64 + 128)).toNat = n % 64 + 128 := toNat_ofNat_of_lt (by omega)
    have hbounds := @within_secondBounds (UInt8.ofNat (n / 4096 % 16 + 224))
      (UInt8.ofNat (n / 64 % 64 + 128)) (by omega) (by omega) (by omega) (by omega) (by omega)
    have hvalue : (n / 4096 + 224 - 224) * 4096 + (n / 64 % 64 + 128) % 64 * 64 +
        (n % 64 + 128) % 64 = n := by omega
    rw [List.cons_append, List.cons_append, List.singleton_append,
      front_three rest (by omega) hbounds (by omega), hb, hc, hd, hvalue, hback]
  · have hb : (UInt8.ofNat (n / 262144 % 8 + 240)).toNat = n / 262144 + 240 := by
      rw [toNat_ofNat_of_lt (by omega)]
      omega
    have hc : (UInt8.ofNat (n / 4096 % 64 + 128)).toNat = n / 4096 % 64 + 128 :=
      toNat_ofNat_of_lt (by omega)
    have hd : (UInt8.ofNat (n / 64 % 64 + 128)).toNat = n / 64 % 64 + 128 :=
      toNat_ofNat_of_lt (by omega)
    have he : (UInt8.ofNat (n % 64 + 128)).toNat = n % 64 + 128 := toNat_ofNat_of_lt (by omega)
    have hbounds := @within_secondBounds (UInt8.ofNat (n / 262144 % 8 + 240))
      (UInt8.ofNat (n / 4096 % 64 + 128)) (by omega) (by omega) (by omega) (by omega) (by omega)
    have hvalue : (n / 262144 + 240 - 240) * 262144 + (n / 4096 % 64 + 128) % 64 * 4096 +
        (n / 64 % 64 + 128) % 64 * 64 + (n % 64 + 128) % 64 = n := by omega
    rw [List.cons_append, List.cons_append, List.cons_append, List.singleton_append,
      front_four rest (by omega) hbounds (by omega) (by omega), hb, hc, hd, he, hvalue, hback]

/-- Any fuel does that counts the bytes. -/
theorem decodeFrom_flatMap (cs : List Char) (fuel : Nat)
    (h : (cs.flatMap String.utf8EncodeChar).length ≤ fuel) :
    decodeFrom fuel (cs.flatMap String.utf8EncodeChar) = some cs := by
  induction cs generalizing fuel with
  | nil => cases fuel <;> rfl
  | cons c rest ih =>
    have hsome : 0 < (String.utf8EncodeChar c).length := by
      rw [String.length_utf8EncodeChar]
      exact c.utf8Size_pos
    rw [List.flatMap_cons, List.length_append] at h
    cases fuel with
    | zero => omega
    | succ fuel =>
      rw [List.flatMap_cons, decodeFrom, front_utf8EncodeChar]
      simp only
      rw [ih fuel (by omega)]
      rfl

/-- The bytes of a text spell that text. -/
theorem decode_ofText (text : String) : decode (Bytes.ofText text) = some text.toList := by
  have hbytes := Bytes.ofText_ofList text.toList
  rw [String.ofList_toList] at hbytes
  rw [decode, hbytes]
  exact decodeFrom_flatMap text.toList _ le_rfl

end Text.Utf8

end Validium
