import Validium.Proofs.Json.Objects
import Validium.Proofs.Json.Written
import Validium.Proofs.Text.Numeral
import Validium.ProofService.Answer

/-!
Which numbers the indices of an answer stand for. A text writes a number in base ten, or in the base
that a letter behind a zero names, between blanks and with underscores that do not count. A number
of JSON counts when it is written in digits alone. What is read is the number that is written; one
that does not fit is not read at all.
-/
namespace Validium.ProofService.Answer

open Text (Denotes DenotesFrom IsDigit isBlankChar)

def baseLetters : List (Char × Nat) :=
  [('x', 16), ('X', 16), ('o', 8), ('O', 8), ('b', 2), ('B', 2)]

def counting (cs : List Char) : List Char := cs.filter fun c => !(c == '_')

/-- The characters write the number, all in base ten or those behind a letter in its base. -/
inductive Writes : List Char → Nat → Prop
  | decimal (cs : List Char) (n : Nat) (h : Denotes 10 (counting cs) n) : Writes cs n
  | based (letter : Char) (base : Nat) (cs : List Char) (n : Nat)
      (hletter : (letter, base) ∈ baseLetters) (h : Denotes base (counting cs) n) :
      Writes ('0' :: letter :: cs) n

def Means (text : String) (n : Nat) : Prop :=
  ∃ left core right, text.toList = left ++ core ++ right ∧
    (∀ c ∈ left ++ right, isBlankChar c = true) ∧ Writes core n

section Digits

variable {base : Nat}

theorem base_pos {letter : Char} (h : (letter, base) ∈ baseLetters) : 0 < base := by
  have hall : ∀ p ∈ baseLetters, 0 < p.2 := by decide
  exact hall (letter, base) h

theorem base_unique {letter : Char} {base' : Nat} (h : (letter, base) ∈ baseLetters)
    (h' : (letter, base') ∈ baseLetters) : base' = base := by
  have hall : ∀ p ∈ baseLetters, ∀ q ∈ baseLetters, p.1 = q.1 → q.2 = p.2 := by decide
  exact hall (letter, base) h (letter, base') h' rfl

/-- The digits of an index are those of a numeral below `2 ^ 256` without the underscores. -/
theorem indexDigits_eq (cs : List Char) (acc : Nat) : indexDigits base cs acc =
    (Text.Numeral.digitsFrom base (1 <<< 256) (counting cs) acc).toOption := by
  induction cs generalizing acc with
  | nil => rfl
  | cons c cs ih =>
    rw [indexDigits, counting]
    by_cases hunder : c = '_'
    · rw [if_pos hunder, List.filter_cons_of_neg (by simp [hunder])]
      exact ih acc
    · rw [if_neg hunder, List.filter_cons_of_pos (by simp [hunder]), Text.Numeral.digitsFrom]
      cases Text.digitValue? base c with
      | none => rfl
      | some d =>
        simp only
        split_ifs
        · exact ih _
        · rfl

theorem indexDigits_eq_some_iff (hbase : 0 < base) (cs : List Char) (n : Nat) :
    indexDigits base cs 0 = some n ↔ Denotes base (counting cs) n ∧ n < 2 ^ 256 := by
  have hread := Text.digitsFrom_eq_ok_iff hbase (Nat.two_pow_pos 256) (counting cs) n
  rw [Text.denotesFrom_zero] at hread
  rw [← hread, indexDigits_eq, Nat.one_shiftLeft]
  cases Text.Numeral.digitsFrom base (2 ^ 256) (counting cs) 0 <;> simp [Except.toOption]

end Digits

section Texts

theorem isBlankChar_of_denotes {base : Nat} {cs : List Char} {n : Nat}
    (h : Denotes base (counting cs) n) : ∀ c ∈ cs, isBlankChar c = false := by
  intro c hc
  by_cases hunder : c = '_'
  · rw [hunder]
    rfl
  · obtain ⟨d, hd⟩ := h.exists_isDigit c (List.mem_filter.mpr ⟨hc, by simp [hunder]⟩)
    exact hd.not_blank

/-- What is written holds no blank. -/
theorem Writes.not_blank {cs : List Char} {n : Nat} (h : Writes cs n) :
    ∀ c ∈ cs, isBlankChar c = false := by
  cases h with
  | decimal _ _ h => exact isBlankChar_of_denotes h
  | based letter base cs _ hletter h =>
    have hall : ∀ p ∈ baseLetters, isBlankChar p.1 = false := by decide
    intro c hc
    rcases List.mem_cons.mp hc with rfl | hc
    · decide
    rcases List.mem_cons.mp hc with heq | hc
    · rw [heq]
      exact hall (letter, base) hletter
    · exact isBlankChar_of_denotes h c hc

/-- A letter that names a base is taken as such, since it is no digit of base ten. -/
theorem baseOf_cases (cs : List Char) :
    (∃ letter base r, cs = '0' :: letter :: r ∧ (letter, base) ∈ baseLetters ∧
      baseOf cs = (base, r)) ∨
    baseOf cs = (10, cs) ∧
      ∀ letter base r, (letter, base) ∈ baseLetters → cs ≠ '0' :: letter :: r := by
  unfold baseOf
  split
  · rename_i c r
    have hfound : ∀ base, (c, base) ∈ baseLetters → ∃ letter base' r', '0' :: c :: r =
        '0' :: letter :: r' ∧ (letter, base') ∈ baseLetters ∧ (base, r) = (base', r') :=
      fun base hc => ⟨c, base, r, rfl, hc, rfl⟩
    simp only [Bool.or_eq_true, beq_iff_eq]
    split_ifs with hx ho hb
    · exact .inl (hfound 16 (by rcases hx with rfl | rfl <;> decide))
    · exact .inl (hfound 8 (by rcases ho with rfl | rfl <;> decide))
    · exact .inl (hfound 2 (by rcases hb with rfl | rfl <;> decide))
    · refine .inr ⟨rfl, ?_⟩
      rintro letter base r' hletter ⟨⟩
      simp only [baseLetters, List.mem_cons, Prod.mk.injEq, List.not_mem_nil, or_false] at hletter
      tauto
  · rename_i hother
    exact .inr ⟨rfl, fun letter base r _ => hother letter r⟩

/-- Digits in a base that a letter names are no number in base ten. -/
theorem not_denotes_based {letter : Char} {base : Nat} (hletter : (letter, base) ∈ baseLetters)
    (cs : List Char) (n : Nat) : ¬ Denotes 10 (counting ('0' :: letter :: cs)) n := by
  intro h
  have hall : ∀ p ∈ baseLetters, p.1 ≠ '_' ∧ 66 ≤ p.1.toNat := by decide
  have hunder : letter ≠ '_' := (hall (letter, base) hletter).1
  have hcode : 66 ≤ letter.toNat := (hall (letter, base) hletter).2
  obtain ⟨d, hd⟩ := h.exists_isDigit letter (List.mem_filter.mpr ⟨by simp, by simpa using hunder⟩)
  unfold IsDigit at hd
  omega

theorem means_iff (text : String) (n : Nat) :
    Means text n ↔ Writes (Text.strip isBlankChar text.toList) n := by
  constructor
  · rintro ⟨left, core, right, htext, houter, hwrites⟩
    rw [htext, Text.strip_append hwrites.not_blank houter]
    exact hwrites
  · intro h
    obtain ⟨left, right, htext, houter⟩ := Text.exists_strip isBlankChar text.toList
    exact ⟨left, _, right, htext, houter, h⟩

/-- A text is read as the number that it writes, unless this number does not fit. -/
theorem indexOfText_eq_some_iff (text : String) (n : Nat) :
    indexOfText text = some n ↔ Means text n ∧ n < 2 ^ 256 := by
  rw [means_iff, indexOfText]
  generalize Text.strip isBlankChar text.toList = core
  rcases baseOf_cases core with ⟨letter, base, r, rfl, hletter, hbase⟩ | ⟨hbase, hplain⟩
  · rw [hbase]
    simp only
    rw [indexDigits_eq_some_iff (base_pos hletter)]
    refine and_congr_left fun _ => ⟨.based letter base r n hletter, ?_⟩
    intro h
    cases h with
    | decimal _ _ h => exact absurd h (not_denotes_based hletter r n)
    | based _ base' _ _ hletter' h => exact base_unique hletter hletter' ▸ h
  · rw [hbase]
    simp only
    rw [indexDigits_eq_some_iff (by decide)]
    refine and_congr_left fun _ => ⟨.decimal _ n, ?_⟩
    intro h
    cases h with
    | decimal _ _ h => exact h
    | based letter base r _ hletter h => exact absurd rfl (hplain letter base r hletter)

theorem Means.unique {text : String} {n n' : Nat} (h : Means text n) (h' : Means text n') :
    n = n' := by
  rw [means_iff] at h h'
  generalize Text.strip isBlankChar text.toList = core at h h'
  cases h with
  | decimal _ _ h =>
    cases h' with
    | decimal _ _ h' => exact h.unique h'
    | based letter base r _ hletter h' => exact absurd h (not_denotes_based hletter r n)
  | based letter base r _ hletter h =>
    cases h' with
    | decimal _ _ h' => exact absurd h' (not_denotes_based hletter r n')
    | based _ base' _ _ hletter' h' => exact h.unique (base_unique hletter hletter' ▸ h')

/-- An index given as a text is the number that the text writes. -/
theorem index_string_iff (text : String) (v : BitVec 256) :
    index (.string (some text)) = some v ↔ Means text v.toNat := by
  rw [index, Option.map_eq_some_iff]
  constructor
  · rintro ⟨n, hn, rfl⟩
    obtain ⟨hmeans, hlt⟩ := (indexOfText_eq_some_iff text n).mp hn
    rwa [BitVec.toNat_ofNat, Nat.mod_eq_of_lt hlt]
  · intro h
    exact ⟨v.toNat, (indexOfText_eq_some_iff text v.toNat).mpr ⟨h, v.isLt⟩, BitVec.ofNat_toNat _ v⟩

theorem index_string_of_large {text : String} {n : Nat} (h : Means text n) (hlarge : 2 ^ 256 ≤ n) :
    index (.string (some text)) = none := by
  rw [Option.eq_none_iff_forall_ne_some]
  intro v hv
  have hsame := h.unique ((index_string_iff text v).mp hv)
  have hlt := v.isLt
  omega

end Texts

section Numbers

open Json (Number Tree)

/-- An index given as a number is this number, which has 64 bits and no sign. -/
theorem index_number_iff (n? : Option Number) (v : BitVec 256) :
    index (.number n?) = some v ↔ n? = some (.int v.toNat) ∧ v.toNat < 2 ^ 64 := by
  have hindex : index (.number n?) =
      (Json.Record.unsigned 64 (.number n?)).map (BitVec.ofNat 256) := rfl
  rw [hindex, Option.map_eq_some_iff]
  constructor
  · rintro ⟨n, hn, rfl⟩
    obtain ⟨hnumber, hlt⟩ := (Json.Record.unsigned_eq_some_iff 64 _ n).mp hn
    have hfits : n < 2 ^ 256 := hlt.trans (Nat.pow_lt_pow_right (by decide) (by decide))
    rw [BitVec.toNat_ofNat, Nat.mod_eq_of_lt hfits]
    exact ⟨Tree.number.inj hnumber, hlt⟩
  · rintro ⟨rfl, hlt⟩
    exact ⟨v.toNat, (Json.Record.unsigned_eq_some_iff 64 _ v.toNat).mpr ⟨rfl, hlt⟩,
      BitVec.ofNat_toNat _ v⟩

theorem scaled?_ne_int (negative : Bool) (significand : Nat) (e i : Int) :
    Number.scaled? negative significand e ≠ some (.int i) := by
  intro h
  obtain ⟨f, -, hf⟩ := Option.map_eq_some_iff.mp h
  cases hf

/-- Digits that do not fit 64 bits are not all taken. -/
theorem takeDigits_of_large (ds : List Char) (acc taken : Nat) (hacc : acc < UInt64.size)
    (h : UInt64.size ≤ Nat.ofDigitChars 10 ds acc) :
    (Number.takeDigits ds acc taken).2.2 ≠ [] := by
  induction ds generalizing acc taken with
  | nil =>
    rw [Nat.ofDigitChars_nil] at h
    omega
  | cons c ds ih =>
    have hfirst : acc * 10 + Number.digit c = 10 * acc + (c.toNat - '0'.toNat) := by
      rw [Nat.mul_comm]
      rfl
    rw [Number.takeDigits]
    split_ifs with hfits
    · rw [Nat.ofDigitChars_cons, ← hfirst] at h
      exact ih _ _ hfits h
    · exact List.cons_ne_nil c ds

/-- A number with a fraction or an exponent is a floating point number, if any. -/
theorem ofParts?_ne_int {p : Number.Parts} (h : p.fraction ≠ none ∨ p.exponent ≠ none) (i : Int) :
    Number.ofParts? p ≠ some (.int i) := by
  obtain ⟨negative, whole, fraction, exponent⟩ := p
  intro hint
  rw [Number.ofParts?] at hint
  simp only at hint
  split at hint
  · rcases h with h | h <;> exact h rfl
  · split at hint
    · exact scaled?_ne_int _ _ _ _ hint
    · split at hint
      · split_ifs at hint
        cases hint
      · exact scaled?_ne_int _ _ _ _ hint

/-- A number is an integer without a sign only if it is written in digits alone. -/
theorem parts_of_int {p : Number.Parts} {n : Nat} (h : Number.ofParts? p = some (.int n)) :
    p.negative = false ∧ p.fraction = none ∧ p.exponent = none ∧
      Nat.ofDigitChars 10 p.whole 0 = n := by
  have hplain : p.fraction = none ∧ p.exponent = none := by
    by_contra hscaled
    rw [not_and_or] at hscaled
    exact ofParts?_ne_int hscaled n h
  obtain ⟨negative, whole, fraction, exponent⟩ := p
  obtain ⟨rfl, rfl⟩ : fraction = none ∧ exponent = none := hplain
  have hfits : Nat.ofDigitChars 10 whole 0 < UInt64.size := by
    by_contra hlarge
    have hrest := takeDigits_of_large whole 0 0 (by decide) (Nat.le_of_not_lt hlarge)
    rw [Number.ofParts?] at h
    simp only [List.isEmpty_iff, if_neg hrest] at h
    exact scaled?_ne_int _ _ _ _ h
  have htaken := Json.Parser.takeDigits_of_lt whole 0 0 hfits
  rw [Number.ofParts?] at h
  simp only [htaken, List.isEmpty_nil, if_true] at h
  cases negative with
  | false =>
    simp only [Bool.not_false, if_true, Option.some.injEq, Number.int.injEq, Nat.cast_inj] at h
    exact ⟨rfl, rfl, rfl, h⟩
  | true =>
    -- Below zero there is no natural number.
    simp only [Bool.not_true, Bool.false_eq_true, if_false, Bool.and_eq_true,
      decide_eq_true_eq] at h
    split_ifs at h with hpos
    · simp only [Option.some.injEq, Number.int.injEq] at h
      omega
    · cases h

theorem eq_of_fraction_none {cs r : List Char} (h : Json.Parser.fraction cs = some (none, r)) :
    r = cs := by
  unfold Json.Parser.fraction at h
  split at h
  · simp only at h
    split_ifs at h
    cases h
  · cases h
    rfl

theorem eq_of_exponent_none {cs r : List Char} (h : Json.Parser.exponent cs = some (none, r)) :
    r = cs := by
  have hsome : ∀ negative ds, Json.Parser.exponentDigits negative ds ≠ some (none, r) := by
    intro negative ds h
    simp only [Json.Parser.exponentDigits] at h
    split_ifs at h
    cases h
  unfold Json.Parser.exponent at h
  split at h
  · split_ifs at h
    · split at h <;> exact absurd h (hsome _ _)
    · cases h
      rfl
  · cases h
    rfl

/-- A number in a text that is taken for an index is written in digits alone, and they denote the
index. -/
theorem digits_of_number {negative : Bool} {cs rest : List Char} {n? : Option Number}
    {v : BitVec 256} (hread : Json.Parser.number negative cs = some (n?, rest))
    (h : index (.number n?) = some v) :
    negative = false ∧ v.toNat < 2 ^ 64 ∧
      ∃ digits, digits ≠ [] ∧ cs = digits ++ rest ∧ Denotes 10 digits v.toNat := by
  obtain ⟨hn, hlt⟩ := (index_number_iff n? v).mp h
  simp only [Json.Parser.number] at hread
  split_ifs at hread with hwhole
  · cases hread
  obtain ⟨⟨f, r⟩, hfraction, hread⟩ := Option.bind_eq_some_iff.mp hread
  obtain ⟨⟨e, s⟩, hexponent, hread⟩ := Option.bind_eq_some_iff.mp hread
  obtain ⟨hparts, rfl⟩ := Prod.mk.inj (Option.some.inj hread)
  obtain ⟨hsign, hf, he, hvalue⟩ := parts_of_int (hparts.trans hn)
  simp only at hsign hf he hvalue hfraction hexponent
  rw [hf] at hfraction
  rw [he] at hexponent
  obtain rfl := eq_of_exponent_none hexponent
  obtain rfl := eq_of_fraction_none hfraction
  have hdigits : ∀ c ∈ cs.takeWhile Json.Parser.isDigit, c.isDigit = true := by
    intro c hc
    have hc := List.mem_takeWhile_imp hc
    simp only [Json.Parser.isDigit, Bool.and_eq_true, decide_eq_true_eq] at hc
    simp only [Char.isDigit, Bool.and_eq_true, decide_eq_true_eq]
    exact hc
  refine ⟨hsign, hlt, cs.takeWhile Json.Parser.isDigit, ?_,
    List.takeWhile_append_dropWhile.symm, hvalue ▸ Text.denotes_ofDigitChars hdigits⟩
  intro hnil
  rw [hnil] at hwhole
  exact hwhole rfl

end Numbers

end Validium.ProofService.Answer
