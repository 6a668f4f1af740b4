import Validium.Proofs.Hex

/-!
Which texts spell bytes. Two digits, each in either case, spell one byte, and nothing but digits
is read, so a text that is read spells what is read from it. A character outside ASCII starts
with a byte that is no digit, which is why bytes of a text can stand for its characters. A word is
spelled by the digits of its bytes, which may stand behind `0x` or `0X`.
-/
namespace Validium.Hex

def IsDigit (c : Char) (n : Nat) : Prop :=
  (48 ≤ c.toNat ∧ c.toNat ≤ 57 ∧ c.toNat = 48 + n) ∨
    (97 ≤ c.toNat ∧ c.toNat ≤ 102 ∧ c.toNat = 87 + n) ∨
    (65 ≤ c.toNat ∧ c.toNat ≤ 70 ∧ c.toNat = 55 + n)

inductive Spells : List Char → Bytes → Prop where
  | nil : Spells [] []
  | cons {high low : Char} {cs : List Char} {byte : UInt8} {rest : Bytes}
      (hhigh : IsDigit high (byte.toNat / 16)) (hlow : IsDigit low (byte.toNat % 16))
      (hrest : Spells cs rest) : Spells (high :: low :: cs) (byte :: rest)

theorem IsDigit.lt_sixteen {c : Char} {n : Nat} (h : IsDigit c n) : n < 16 := by
  unfold IsDigit at h
  omega

theorem isDigit_digit {n : Nat} (h : n < 16) : IsDigit (digit n) n := by
  have hall : ∀ i : Fin 16, (i.val < 10 ∧ (digit i).toNat = 48 + i.val) ∨
      (10 ≤ i.val ∧ (digit i).toNat = 87 + i.val) := by decide
  have hdigit := hall ⟨n, h⟩
  unfold IsDigit
  dsimp only at hdigit
  omega

theorem nibble?_eq_some_iff {c : Char} {x : UInt8} (h : x.toNat = c.toNat) (n : Nat) :
    nibble? x = some n ↔ IsDigit c n := by
  unfold nibble? IsDigit
  rw [h]
  simp only [Bool.and_eq_true, decide_eq_true_eq]
  split_ifs <;> simp only [Option.some.injEq, false_iff] <;> omega

/-- An ASCII character is one byte, and any other starts with a byte that is none. -/
theorem exists_first_byte (c : Char) : ∃ x rest, String.utf8EncodeChar c = x :: rest ∧
    ((x.toNat = c.toNat ∧ rest = []) ∨ (128 ≤ x.toNat ∧ 128 ≤ c.toNat)) := by
  have hsame : c.val.toNat = c.toNat := rfl
  unfold String.utf8EncodeChar
  simp only [hsame]
  split_ifs with hone htwo hthree
  · refine ⟨_, _, rfl, .inl ⟨?_, rfl⟩⟩
    exact UInt8.toNat_ofNat_of_lt' (by change _ < 256; omega)
  all_goals
    refine ⟨_, _, rfl, .inr ⟨?_, by omega⟩⟩
    rw [UInt8.toNat_ofNat_of_lt' (by change _ < 256; omega)]
    omega

/-- A byte below 128 at the head of a text is its first character. -/
theorem exists_first_char {cs : List Char} {x : UInt8} {rest : Bytes} (hx : x.toNat < 128)
    (h : cs.flatMap String.utf8EncodeChar = x :: rest) :
    ∃ c cs', cs = c :: cs' ∧ c.toNat = x.toNat ∧ cs'.flatMap String.utf8EncodeChar = rest := by
  cases cs with
  | nil => cases h
  | cons c cs =>
    obtain ⟨y, more, hencode, hbyte⟩ := exists_first_byte c
    rw [List.flatMap_cons, hencode, List.cons_append, List.cons.injEq] at h
    obtain ⟨rfl, hrest⟩ := h
    rcases hbyte with ⟨hsame, rfl⟩ | ⟨hlarge, -⟩
    · exact ⟨c, cs, rfl, hsame.symm, hrest⟩
    · omega

theorem not_digit_of_le {x : UInt8} (h : 128 ≤ x.toNat) (n : Nat) : nibble? x ≠ some n := by
  unfold nibble?
  simp only [Bool.and_eq_true, decide_eq_true_eq]
  split_ifs <;> simp <;> omega

theorem IsDigit.byte {c : Char} {n : Nat} (h : IsDigit c n) :
    ∃ x, String.utf8EncodeChar c = [x] ∧ nibble? x = some n := by
  obtain ⟨x, rest, hencode, ⟨hsame, hrest⟩ | ⟨-, hlarge⟩⟩ := exists_first_byte c
  · rw [hrest] at hencode
    exact ⟨x, hencode, (nibble?_eq_some_iff hsame n).mpr h⟩
  · unfold IsDigit at h
    omega

/-- A byte that is a digit is a character by itself. -/
theorem isDigit_of_byte {c : Char} {x : UInt8} {rest : Bytes} {n : Nat}
    (hencode : String.utf8EncodeChar c = x :: rest) (h : nibble? x = some n) :
    rest = [] ∧ IsDigit c n := by
  obtain ⟨y, rest', hencode', hbyte⟩ := exists_first_byte c
  rw [hencode, List.cons.injEq] at hencode'
  rw [hencode'.1] at h
  rcases hbyte with ⟨hsame, hrest⟩ | ⟨hlarge, -⟩
  · exact ⟨hencode'.2.trans hrest, (nibble?_eq_some_iff hsame n).mp h⟩
  · exact absurd h (not_digit_of_le hlarge n)

theorem spells_encodeChars (b : Bytes) : Spells (encodeChars b) b := by
  induction b with
  | nil => exact .nil
  | cons byte rest ih =>
    have hbyte := byte.toNat_lt
    exact .cons (isDigit_digit (by omega)) (isDigit_digit (by omega)) ih

theorem Spells.length_eq {cs : List Char} {b : Bytes} (h : Spells cs b) :
    (cs.flatMap String.utf8EncodeChar).length = 2 * b.length := by
  induction h with
  | nil => rfl
  | cons hhigh hlow _ ih =>
    obtain ⟨x, hx, -⟩ := hhigh.byte
    obtain ⟨y, hy, -⟩ := hlow.byte
    rw [List.flatMap_cons, List.flatMap_cons, hx, hy, List.singleton_append,
      List.singleton_append, List.length_cons, List.length_cons, ih, List.length_cons]
    omega

theorem pairsFrom_of_spells {cs : List Char} {b : Bytes} (h : Spells cs b) (position : Nat) :
    pairsFrom position (cs.flatMap String.utf8EncodeChar) = .ok b := by
  induction h generalizing position with
  | nil => rfl
  | @cons high low cs byte rest hhigh hlow _ ih =>
    obtain ⟨x, hx, hxvalue⟩ := hhigh.byte
    obtain ⟨y, hy, hyvalue⟩ := hlow.byte
    have hvalue : byte.toNat / 16 * 16 + byte.toNat % 16 = byte.toNat := Nat.div_add_mod' _ _
    rw [List.flatMap_cons, List.flatMap_cons, hx, hy, List.singleton_append,
      List.singleton_append, pairsFrom]
    simp only [hxvalue, hyvalue, ih, hvalue, UInt8.ofNat_toNat]

/-- Reading goes by pairs of bytes, and each byte of a pair is a digit. -/
theorem pairsFrom_cons {position : Nat} {x y : UInt8} {rest b : Bytes}
    (h : pairsFrom position (x :: y :: rest) = .ok b) :
    ∃ high low tail, nibble? x = some high ∧ nibble? y = some low ∧
      pairsFrom (position + 2) rest = .ok tail ∧ b = UInt8.ofNat (high * 16 + low) :: tail := by
  rw [pairsFrom] at h
  split at h
  · cases h
  rename_i high hhigh
  split at h
  · cases h
  rename_i low hlow
  split at h
  · cases h
  rename_i tail htail
  cases h
  exact ⟨high, low, tail, hhigh, hlow, htail, rfl⟩

/-- The characters go in pairs, since the first byte of each is a digit and so its only one. -/
theorem split_of_pairsFrom {cs : List Char} {b : Bytes} {position : Nat}
    (heven : (cs.flatMap String.utf8EncodeChar).length % 2 = 0)
    (h : pairsFrom position (cs.flatMap String.utf8EncodeChar) = .ok b) :
    (cs = [] ∧ b = []) ∨ ∃ high low cs' byte rest, cs = high :: low :: cs' ∧ b = byte :: rest ∧
      IsDigit high (byte.toNat / 16) ∧ IsDigit low (byte.toNat % 16) ∧
      (cs'.flatMap String.utf8EncodeChar).length % 2 = 0 ∧
      pairsFrom (position + 2) (cs'.flatMap String.utf8EncodeChar) = .ok rest := by
  cases cs with
  | nil =>
    cases h
    exact .inl ⟨rfl, rfl⟩
  | cons c cs =>
    obtain ⟨x, more, hx, -⟩ := exists_first_byte c
    rw [List.flatMap_cons, hx, List.cons_append] at h heven
    cases htext : more ++ cs.flatMap String.utf8EncodeChar with
    | nil =>
      rw [htext] at heven
      cases heven
    | cons y text =>
      rw [htext] at h heven
      obtain ⟨high, low, tail, hhigh, hlow, htail, hb⟩ := pairsFrom_cons h
      obtain ⟨hmore, hfirst⟩ := isDigit_of_byte hx hhigh
      rw [hmore, List.nil_append] at htext
      cases cs with
      | nil => cases htext
      | cons c' cs =>
        obtain ⟨y', more', hy, -⟩ := exists_first_byte c'
        rw [List.flatMap_cons, hy, List.cons_append, List.cons.injEq] at htext
        obtain ⟨hsame, htext⟩ := htext
        rw [← hsame] at hlow
        obtain ⟨hmore', hsecond⟩ := isDigit_of_byte hy hlow
        rw [hmore', List.nil_append] at htext
        rw [← htext] at htail heven
        have hhighBound := hfirst.lt_sixteen
        have hlowBound := hsecond.lt_sixteen
        have hvalue : (UInt8.ofNat (high * 16 + low)).toNat = high * 16 + low :=
          UInt8.toNat_ofNat_of_lt' (by change _ < 256; omega)
        refine .inr ⟨c, c', cs, _, tail, rfl, hb, ?_, ?_, ?_, htail⟩
        · rw [hvalue, show (high * 16 + low) / 16 = high by omega]
          exact hfirst
        · rw [hvalue, show (high * 16 + low) % 16 = low by omega]
          exact hsecond
        · simp only [List.length_cons] at heven
          omega

/-- Bytes come only from pairs of digits. -/
theorem spells_of_pairsFrom {cs : List Char} {b : Bytes} {position : Nat}
    (heven : (cs.flatMap String.utf8EncodeChar).length % 2 = 0)
    (h : pairsFrom position (cs.flatMap String.utf8EncodeChar) = .ok b) : Spells cs b := by
  induction b generalizing cs position with
  | nil =>
    rcases split_of_pairsFrom heven h with ⟨hcs, -⟩ | ⟨_, _, _, _, _, -, hb, -⟩
    · rw [hcs]
      exact .nil
    · cases hb
  | cons byte rest ih =>
    rcases split_of_pairsFrom heven h with
      ⟨-, hb⟩ | ⟨_, _, _, _, _, hcs, hb, hhigh, hlow, hmore, htail⟩
    · cases hb
    · cases hb
      rw [hcs]
      exact .cons hhigh hlow (ih hmore htail)

/-- A text is read as the bytes that it spells, and as no others. -/
theorem decode_ofText_eq_ok_iff (cs : List Char) (b : Bytes) :
    decode (Bytes.ofText (String.ofList cs)) = .ok b ↔ Spells cs b := by
  rw [Bytes.ofText_ofList]
  constructor
  · intro h
    unfold decode at h
    split at h
    · cases h
    rename_i heven
    split at h
    · cases h
    rename_i hpairs
    cases h
    exact spells_of_pairsFrom (by omega) hpairs
  · intro h
    have heven : ¬ (cs.flatMap String.utf8EncodeChar).length % 2 = 1 := by
      rw [h.length_eq]
      omega
    rw [decode, if_neg heven, pairsFrom_of_spells h 0]

end Validium.Hex

namespace Validium.Word

open Hex

/-- The text spells the word by two digits for each byte, perhaps behind `0x` or `0X`. -/
def Spelled (text : String) (w : Word) : Prop :=
  ∃ digits, Spells digits w.bytes ∧
    (text.toList = digits ∨ text.toList = '0' :: 'x' :: digits ∨ text.toList = '0' :: 'X' :: digits)

def headless : List Char → List Char
  | '0' :: 'x' :: r => r
  | '0' :: 'X' :: r => r
  | cs => cs

theorem dropHead_utf8 (cs : List Char) :
    dropHead (cs.flatMap String.utf8EncodeChar) =
      (headless cs).flatMap String.utf8EncodeChar := by
  unfold headless
  split
  · rfl
  · rfl
  · rename_i hlower hupper
    -- The two bytes of a head would be its two characters.
    have hhead : ∀ y r, y.toNat < 128 → cs.flatMap String.utf8EncodeChar = 0x30 :: y :: r →
        ∃ d r', cs = '0' :: d :: r' ∧ d.toNat = y.toNat := by
      intro y r hy h
      obtain ⟨c, cs', rfl, hc, hmore⟩ := exists_first_char (by decide) h
      obtain ⟨d, r', rfl, hd, -⟩ := exists_first_char hy hmore
      obtain rfl : c = '0' := Char.toNat_inj.mp hc
      exact ⟨d, r', rfl, hd⟩
    unfold dropHead
    split
    · rename_i r h
      obtain ⟨d, r', hcs, hd⟩ := hhead _ _ (by decide) h
      obtain rfl : d = 'x' := Char.toNat_inj.mp hd
      exact absurd hcs (hlower r')
    · rename_i r h
      obtain ⟨d, r', hcs, hd⟩ := hhead _ _ (by decide) h
      obtain rfl : d = 'X' := Char.toNat_inj.mp hd
      exact absurd hcs (hupper r')
    · rfl

/-- Digits have no head to drop, since neither `x` nor `X` is one. -/
theorem headless_of_spells {digits : List Char} {b : Bytes} (h : Spells digits b) :
    headless digits = digits := by
  cases h with
  | nil => rfl
  | cons hhigh hlow hrest =>
    unfold IsDigit at hlow
    unfold headless
    split
    · rename_i heq
      cases heq
      have hcode : 'x'.toNat = 120 := rfl
      omega
    · rename_i heq
      cases heq
      have hcode : 'X'.toNat = 88 := rfl
      omega
    · rfl

theorem spelled_iff (text : String) (w : Word) :
    Spelled text w ↔ Spells (headless text.toList) w.bytes := by
  constructor
  · rintro ⟨digits, hdigits, htext | htext | htext⟩
    · rw [htext, headless_of_spells hdigits]
      exact hdigits
    · rw [htext]
      exact hdigits
    · rw [htext]
      exact hdigits
  · intro h
    refine ⟨_, h, ?_⟩
    unfold headless
    split
    · exact .inr (.inl ‹_›)
    · exact .inr (.inr ‹_›)
    · exact .inl rfl

/-- The words that are read are those that the text spells. -/
theorem parse_eq_ok_iff (text : String) (w : Word) : parse text = .ok w ↔ Spelled text w := by
  have hbytes : dropHead (Bytes.ofText text) =
      (headless text.toList).flatMap String.utf8EncodeChar := by
    rw [← dropHead_utf8, ← Bytes.ofText_ofList, String.ofList_toList]
  rw [spelled_iff]
  unfold parse
  simp only [hbytes]
  constructor
  · intro h
    split at h
    · cases h
    rename_i heven
    split at h
    · cases h
    split at h
    · cases h
    rename_i bytes hpairs
    have hspells := spells_of_pairsFrom (by omega) hpairs
    split at h
    · rename_i w' hword
      cases h
      unfold ofBytes? at hword
      split at hword
      · cases hword
        exact hspells
      · cases hword
    · cases h
  · intro h
    have hlength := h.length_eq
    rw [w.length_bytes] at hlength
    have hword : ofBytes? w.bytes = some w := by rw [ofBytes?, dif_pos w.length_bytes]
    rw [if_neg (by omega), if_neg (by omega), pairsFrom_of_spells h 0]
    simp only [hword]

end Validium.Word
