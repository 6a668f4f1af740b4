import Mathlib
import Validium.Text.Blank
import Validium.Text.Numeral

/-!
What numerals denote. Digits stand with the most significant first, and the value grows with each
of them, so a number is too large as soon as some of its digits are. A numeral between blanks is
found by taking them off, since no digit is a blank.
-/
namespace Validium.Text

def IsDigit (base : Nat) (c : Char) (d : Nat) : Prop :=
  d < base ∧ ((48 ≤ c.toNat ∧ c.toNat ≤ 57 ∧ c.toNat = 48 + d) ∨
    (97 ≤ c.toNat ∧ c.toNat ≤ 122 ∧ c.toNat = 87 + d) ∨
    (65 ≤ c.toNat ∧ c.toNat ≤ 90 ∧ c.toNat = 55 + d))

/-- The characters are digits of the number, the most significant first. -/
def Denotes (base : Nat) (cs : List Char) (n : Nat) : Prop :=
  ∃ ds, List.Forall₂ (IsDigit base) cs ds ∧ Nat.ofDigits base ds.reverse = n

/-- The characters are at least one digit, perhaps behind a plus sign. -/
def IsNumeral (base : Nat) (cs : List Char) (n : Nat) : Prop :=
  ∃ digits, digits ≠ [] ∧ (cs = digits ∨ cs = '+' :: digits) ∧ Denotes base digits n

section Digits

variable {base : Nat}

theorem digitValue?_eq_some_iff (c : Char) (d : Nat) :
    digitValue? base c = some d ↔ IsDigit base c d := by
  unfold digitValue? IsDigit
  simp only [Bool.and_eq_true, decide_eq_true_eq]
  split_ifs <;> simp only [Option.some.injEq, false_iff] <;> omega

theorem IsDigit.unique {c : Char} {d d' : Nat} (h : IsDigit base c d) (h' : IsDigit base c d') :
    d = d' := by
  rw [← digitValue?_eq_some_iff] at h h'
  exact Option.some.inj (h.symm.trans h')

/-- Digits are among the characters of ASCII that stand for themselves. -/
theorem IsDigit.code {c : Char} {d : Nat} (h : IsDigit base c d) :
    (48 ≤ c.toNat ∧ c.toNat ≤ 57) ∨ (65 ≤ c.toNat ∧ c.toNat ≤ 90) ∨
      (97 ≤ c.toNat ∧ c.toNat ≤ 122) := by
  unfold IsDigit at h
  omega

theorem IsDigit.not_blank {c : Char} {d : Nat} (h : IsDigit base c d) : isBlankChar c = false := by
  have hcode := h.code
  simp only [isBlankChar, Bool.or_eq_false_iff, Bool.and_eq_false_iff, decide_eq_false_iff_not,
    beq_eq_false_iff_ne]
  omega

def DenotesFrom (base acc : Nat) (cs : List Char) (n : Nat) : Prop :=
  ∃ ds, List.Forall₂ (IsDigit base) cs ds ∧ Nat.ofDigits base (ds.reverse ++ [acc]) = n

theorem denotesFrom_zero (cs : List Char) (n : Nat) :
    DenotesFrom base 0 cs n ↔ Denotes base cs n := by
  have hzero : ∀ ds : List Nat, Nat.ofDigits base (ds.reverse ++ [0]) =
      Nat.ofDigits base ds.reverse := by
    intro ds
    rw [Nat.ofDigits_append, Nat.ofDigits_singleton, Nat.mul_zero, Nat.add_zero]
  simp only [DenotesFrom, Denotes, hzero]

theorem denotesFrom_nil (acc n : Nat) : DenotesFrom base acc [] n ↔ acc = n := by
  simp [DenotesFrom]

/-- What was read so far moves up by one place for each digit. -/
theorem denotesFrom_cons (acc : Nat) (c : Char) (cs : List Char) (n : Nat) :
    DenotesFrom base acc (c :: cs) n ↔
      ∃ d, IsDigit base c d ∧ DenotesFrom base (acc * base + d) cs n := by
  have hvalue : ∀ (d : Nat) (ds : List Nat), Nat.ofDigits base ((d :: ds).reverse ++ [acc]) =
      Nat.ofDigits base (ds.reverse ++ [acc * base + d]) := by
    intro d ds
    simp only [List.reverse_cons, List.append_assoc, List.singleton_append, Nat.ofDigits_append,
      Nat.ofDigits_cons, Nat.ofDigits_nil]
    ring
  constructor
  · rintro ⟨_, hds, hn⟩
    obtain ⟨d, ds, hd, hrest, rfl⟩ := List.forall₂_cons_left_iff.mp hds
    exact ⟨d, hd, ds, hrest, hvalue d ds ▸ hn⟩
  · rintro ⟨d, hd, ds, hds, hn⟩
    exact ⟨d :: ds, .cons hd hds, hvalue d ds ▸ hn⟩

theorem DenotesFrom.le (hbase : 0 < base) {acc : Nat} {cs : List Char} {n : Nat}
    (h : DenotesFrom base acc cs n) : acc ≤ n := by
  obtain ⟨ds, -, rfl⟩ := h
  rw [Nat.ofDigits_append, Nat.ofDigits_singleton]
  exact Nat.le_add_left_of_le (Nat.le_mul_of_pos_left acc (Nat.pow_pos hbase))

theorem DenotesFrom.unique {acc : Nat} {cs : List Char} {n n' : Nat}
    (h : DenotesFrom base acc cs n) (h' : DenotesFrom base acc cs n') : n = n' := by
  induction cs generalizing acc with
  | nil =>
    rw [denotesFrom_nil] at h h'
    exact h.symm.trans h'
  | cons c cs ih =>
    obtain ⟨d, hd, hrest⟩ := (denotesFrom_cons acc c cs n).mp h
    obtain ⟨d', hd', hrest'⟩ := (denotesFrom_cons acc c cs n').mp h'
    obtain rfl := hd.unique hd'
    exact ih hrest hrest'

theorem Denotes.unique {cs : List Char} {n n' : Nat} (h : Denotes base cs n)
    (h' : Denotes base cs n') : n = n' :=
  ((denotesFrom_zero cs n).mpr h).unique ((denotesFrom_zero cs n').mpr h')

theorem Denotes.exists_isDigit {cs : List Char} {n : Nat} (h : Denotes base cs n) :
    ∀ c ∈ cs, ∃ d, IsDigit base c d := by
  obtain ⟨ds, hds, -⟩ := h
  induction hds with
  | nil => exact nofun
  | cons hd _ ih =>
    intro c hc
    rcases List.mem_cons.mp hc with rfl | hc
    · exact ⟨_, hd⟩
    · exact ih c hc

/-- Digits are read up to the limit, and the number read is the one they denote. -/
theorem digitsFrom_eq_ok_iff (hbase : 0 < base) {limit acc : Nat} (hacc : acc < limit)
    (cs : List Char) (n : Nat) : Numeral.digitsFrom base limit cs acc = .ok n ↔
      DenotesFrom base acc cs n ∧ n < limit := by
  induction cs generalizing acc with
  | nil =>
    rw [Numeral.digitsFrom, denotesFrom_nil, Except.ok.injEq]
    exact ⟨fun h => ⟨h, h ▸ hacc⟩, And.left⟩
  | cons c cs ih =>
    rw [Numeral.digitsFrom, denotesFrom_cons]
    cases hvalue : digitValue? base c with
    | none =>
      refine iff_of_false nofun ?_
      rintro ⟨⟨d, hd, -⟩, -⟩
      rw [← digitValue?_eq_some_iff, hvalue] at hd
      cases hd
    | some d =>
      have hd := (digitValue?_eq_some_iff c d).mp hvalue
      have hfirst : (∃ d', IsDigit base c d' ∧ DenotesFrom base (acc * base + d') cs n) ↔
          DenotesFrom base (acc * base + d) cs n :=
        ⟨fun ⟨_, hd', hrest⟩ => hd.unique hd' ▸ hrest, fun hrest => ⟨d, hd, hrest⟩⟩
      simp only [hfirst]
      by_cases hfits : acc * base + d < limit
      · rw [if_pos hfits]
        exact ih hfits
      · rw [if_neg hfits]
        refine iff_of_false nofun ?_
        rintro ⟨hrest, hlt⟩
        exact hfits (Nat.lt_of_le_of_lt (hrest.le hbase) hlt)

/-- Digits of a number that does not fit are refused as such, whichever of them go too far. -/
theorem digitsFrom_of_large {limit acc : Nat} {cs : List Char} {n : Nat} (hacc : acc < limit)
    (h : DenotesFrom base acc cs n) (hlarge : limit ≤ n) :
    Numeral.digitsFrom base limit cs acc = .error .tooLarge := by
  induction cs generalizing acc with
  | nil =>
    rw [denotesFrom_nil] at h
    omega
  | cons c cs ih =>
    obtain ⟨d, hd, hrest⟩ := (denotesFrom_cons acc c cs n).mp h
    rw [Numeral.digitsFrom, (digitValue?_eq_some_iff c d).mpr hd]
    dsimp only
    split_ifs with hfits
    · exact ih hfits hrest
    · rfl

theorem not_isDigit_plus (d : Nat) : ¬ IsDigit base '+' d := by
  intro h
  have hcode : '+'.toNat = 43 := rfl
  have hrange := h.code
  omega

/-- A numeral is read digit by digit, the sign in front of them set aside. -/
theorem numeral_eq_digitsFrom {limit : Nat} {cs digits : List Char} {n : Nat} (hne : digits ≠ [])
    (hcs : cs = digits ∨ cs = '+' :: digits) (h : Denotes base digits n) :
    numeral base limit cs = Numeral.digitsFrom base limit digits 0 := by
  obtain ⟨c, r, rfl⟩ := List.exists_cons_of_ne_nil hne
  have hplus : c ≠ '+' := by
    intro hplus
    obtain ⟨d, hd⟩ := h.exists_isDigit c List.mem_cons_self
    rw [hplus] at hd
    exact not_isDigit_plus d hd
  rcases hcs with rfl | rfl
  · unfold numeral
    split <;> simp_all
  · rfl

/-- A numeral is read as the number that it denotes, unless this is too large. -/
theorem numeral_eq_ok_iff (hbase : 0 < base) {limit : Nat} (hlimit : 0 < limit) (cs : List Char)
    (n : Nat) : numeral base limit cs = .ok n ↔ IsNumeral base cs n ∧ n < limit := by
  have hread : ∀ digits, Numeral.digitsFrom base limit digits 0 = .ok n ↔
      Denotes base digits n ∧ n < limit := by
    intro digits
    rw [digitsFrom_eq_ok_iff hbase hlimit, denotesFrom_zero]
  constructor
  · intro h
    unfold numeral at h
    split at h
    · cases h
    · cases h
    · rename_i c r
      obtain ⟨hdenotes, hlt⟩ := (hread _).mp h
      exact ⟨⟨c :: r, List.cons_ne_nil c r, .inr rfl, hdenotes⟩, hlt⟩
    · rename_i c r _ _
      obtain ⟨hdenotes, hlt⟩ := (hread _).mp h
      exact ⟨⟨c :: r, List.cons_ne_nil c r, .inl rfl, hdenotes⟩, hlt⟩
  · intro h
    obtain ⟨⟨digits, hne, hcs, hdenotes⟩, hlt⟩ := h
    rw [numeral_eq_digitsFrom hne hcs hdenotes]
    exact (hread digits).mpr ⟨hdenotes, hlt⟩

theorem numeral_of_large {limit : Nat} (hlimit : 0 < limit) {cs : List Char} {n : Nat}
    (h : IsNumeral base cs n) (hlarge : limit ≤ n) :
    numeral base limit cs = .error .tooLarge := by
  obtain ⟨digits, hne, hcs, hdenotes⟩ := h
  rw [numeral_eq_digitsFrom hne hcs hdenotes]
  exact digitsFrom_of_large hlimit ((denotesFrom_zero digits n).mpr hdenotes) hlarge

end Digits

section Decimal

theorem denotesFrom_ofDigitChars {cs : List Char} (h : ∀ c ∈ cs, c.isDigit = true) (acc : Nat) :
    DenotesFrom 10 acc cs (Nat.ofDigitChars 10 cs acc) := by
  induction cs generalizing acc with
  | nil => exact (denotesFrom_nil acc _).mpr rfl
  | cons c cs ih =>
    have hc := h c List.mem_cons_self
    simp only [Char.isDigit, Bool.and_eq_true, decide_eq_true_eq, UInt32.le_iff_toNat_le] at hc
    have hcode : 48 ≤ c.toNat ∧ c.toNat ≤ 57 := hc
    have hdigit : IsDigit 10 c (c.toNat - '0'.toNat) := by
      have hzero : '0'.toNat = 48 := rfl
      unfold IsDigit
      omega
    have hrest := ih (fun d hd => h d (List.mem_cons_of_mem c hd))
      (10 * acc + (c.toNat - '0'.toNat))
    rw [denotesFrom_cons, Nat.ofDigitChars_cons]
    exact ⟨_, hdigit, Nat.mul_comm 10 acc ▸ hrest⟩

theorem denotes_ofDigitChars {cs : List Char} (h : ∀ c ∈ cs, c.isDigit = true) :
    Denotes 10 cs (Nat.ofDigitChars 10 cs 0) :=
  (denotesFrom_zero cs _).mp (denotesFrom_ofDigitChars h 0)

theorem denotes_toDigits (n : Nat) : Denotes 10 (Nat.toDigits 10 n) n := by
  have hdigits : ∀ c ∈ Nat.toDigits 10 n, c.isDigit = true :=
    fun _ hc => Nat.isDigit_of_mem_toDigits (by omega) le_rfl hc
  have h := denotes_ofDigitChars hdigits
  rwa [Nat.ofDigitChars_ten_toDigits] at h

end Decimal

section Strip

variable {p : Char → Bool}

/-- What is taken off at either end is what is to be taken off. -/
theorem exists_strip (p : Char → Bool) (cs : List Char) : ∃ left right,
    cs = left ++ strip p cs ++ right ∧ ∀ c ∈ left ++ right, p c = true := by
  refine ⟨cs.takeWhile p, ((cs.dropWhile p).reverse.takeWhile p).reverse, ?_, ?_⟩
  · rw [strip, List.append_assoc, ← List.reverse_append, List.takeWhile_append_dropWhile,
      List.reverse_reverse, List.takeWhile_append_dropWhile]
  · intro c hc
    rcases List.mem_append.mp hc with hc | hc
    · exact List.mem_takeWhile_imp hc
    · exact List.mem_takeWhile_imp (List.mem_reverse.mp hc)

/-- What holds nothing that is to be taken off is found between what is. -/
theorem strip_append {left core right : List Char} (hcore : ∀ c ∈ core, p c = false)
    (houter : ∀ c ∈ left ++ right, p c = true) : strip p (left ++ core ++ right) = core := by
  have hleft : ∀ c ∈ left, p c = true := fun c hc => houter c (List.mem_append_left right hc)
  have hright : ∀ c ∈ right.reverse, p c = true :=
    fun c hc => houter c (List.mem_append_right left (List.mem_reverse.mp hc))
  cases core with
  | nil =>
    have hall : (left ++ [] ++ right).dropWhile p = [] :=
      List.dropWhile_eq_nil_iff.mpr (by simpa using houter)
    rw [strip, hall]
    rfl
  | cons c core =>
    have hfront : (left ++ c :: core ++ right).dropWhile p = c :: core ++ right := by
      rw [List.append_assoc, List.dropWhile_append_of_pos hleft, List.cons_append,
        List.dropWhile_cons_of_neg (by simp [hcore c List.mem_cons_self])]
    obtain ⟨last, rest, hback⟩ := List.exists_cons_of_ne_nil
      (List.reverse_ne_nil_iff.mpr (List.cons_ne_nil c core))
    have hlast : p last = false :=
      hcore last (List.mem_reverse.mp (hback ▸ List.mem_cons_self))
    rw [strip, hfront, List.reverse_append, List.dropWhile_append_of_pos hright, hback,
      List.dropWhile_cons_of_neg (by simp [hlast]), ← hback, List.reverse_reverse]

theorem strip_eq_self {cs : List Char} (h : ∀ c ∈ cs, p c = false) : strip p cs = cs := by
  have hstrip : strip p ([] ++ cs ++ []) = cs := strip_append h nofun
  rwa [List.nil_append, List.append_nil] at hstrip

end Strip

end Validium.Text
