import Validium.JsonRpc.Client
import Validium.Proofs.Text.Heads
import Validium.Proofs.Text.Numeral

/-!
Which results are read as quantities. A quantity is digits in base sixteen, alone or behind the
head `0x`, and every quantity of 64 bits is read as its number. The reader takes more than that:
it passes over any number of heads, and over one plus sign behind them. What it takes then still
counts as the digits say, so no quantity is mistaken for another one.
-/
namespace Validium.JsonRpc

open Json (Value)
open Text (Denotes IsDigit IsNumeral)

def quantityHead : List Char := ['0', 'x']

/-- The text is at least one digit of the number in base sixteen, alone or behind one head. -/
def IsQuantity (text : String) (n : Nat) : Prop :=
  ∃ digits, digits ≠ [] ∧ (text.toList = digits ∨ text.toList = quantityHead ++ digits) ∧
    Denotes 16 digits n

/-- Behind however many heads, the text is a numeral in base sixteen. -/
def IsHeadedNumeral (text : String) (n : Nat) : Prop :=
  ∃ count core, text.toList = (List.replicate count quantityHead).flatten ++ core ∧
    IsNumeral 16 core n

/-- The text starts with one head at most and has no sign. -/
def IsPlain (text : String) : Prop :=
  ¬ quantityHead ++ quantityHead <+: text.toList ∧ '+' ∉ text.toList

instance (text : String) : Decidable (IsPlain text) :=
  inferInstanceAs (Decidable (¬ quantityHead ++ quantityHead <+: text.toList ∧
    '+' ∉ text.toList))

theorem not_isDigit_x (d : Nat) : ¬ IsDigit 16 'x' d := by
  intro h
  have hcode : 'x'.toNat = 120 := rfl
  unfold IsDigit at h
  omega

section Heads

variable {cs : List Char} {n : Nat}

theorem not_head_of_denotes (h : Denotes 16 cs n) : ¬ quantityHead <+: cs := by
  intro hhead
  obtain ⟨d, hd⟩ := h.exists_isDigit 'x' (hhead.mem (by decide))
  exact not_isDigit_x d hd

theorem not_sign_of_denotes (h : Denotes 16 cs n) : '+' ∉ cs := by
  intro hsign
  obtain ⟨d, hd⟩ := h.exists_isDigit '+' hsign
  exact Text.not_isDigit_plus d hd

/-- A numeral starts with no head, so all heads in front of it are taken off and nothing else. -/
theorem not_head_of_isNumeral (h : IsNumeral 16 cs n) : ¬ quantityHead <+: cs := by
  obtain ⟨digits, -, hcs, hdenotes⟩ := h
  intro hhead
  rcases hcs with rfl | rfl
  · exact not_head_of_denotes hdenotes hhead
  · have hfirst := (List.cons_prefix_cons.mp hhead).1
    revert hfirst
    decide

end Heads

section Texts

variable {text : String} {n : Nat}

theorem isHeadedNumeral_iff (text : String) (n : Nat) :
    IsHeadedNumeral text n ↔ IsNumeral 16 (Text.dropAll quantityHead text.toList) n := by
  have hne : quantityHead ≠ [] := by decide
  constructor
  · intro h
    obtain ⟨count, core, htext, hcore⟩ := h
    have hbared : Text.Bared quantityHead text.toList core :=
      ⟨count, htext, not_head_of_isNumeral hcore⟩
    rwa [← (Text.bared_iff hne _ _).mp hbared]
  · intro h
    obtain ⟨count, htext, -⟩ := Text.bared_dropAll hne text.toList
    exact ⟨count, _, htext, h⟩

theorem IsQuantity.isHeadedNumeral (h : IsQuantity text n) : IsHeadedNumeral text n := by
  obtain ⟨digits, hne, htext, hdenotes⟩ := h
  have hnumeral : IsNumeral 16 digits n := ⟨digits, hne, .inl rfl, hdenotes⟩
  rcases htext with htext | htext
  · exact ⟨0, digits, htext, hnumeral⟩
  · exact ⟨1, digits, htext, hnumeral⟩

theorem IsQuantity.isPlain (h : IsQuantity text n) : IsPlain text := by
  obtain ⟨digits, -, htext, hdenotes⟩ := h
  have hhead := not_head_of_denotes hdenotes
  have hsign := not_sign_of_denotes hdenotes
  unfold IsPlain
  rcases htext with htext | htext
  · rw [htext]
    exact ⟨fun htwo => hhead ((List.prefix_append _ _).trans htwo), hsign⟩
  · rw [htext]
    refine ⟨?_, ?_⟩
    · intro htwo
      exact hhead ((List.prefix_append_right_inj quantityHead).mp htwo)
    · intro hmem
      rcases List.mem_append.mp hmem with hmem | hmem
      · revert hmem
        decide
      · exact hsign hmem

/-- A numeral with one head at most, and no sign, is a quantity. -/
theorem IsHeadedNumeral.isQuantity (h : IsHeadedNumeral text n) (hplain : IsPlain text) :
    IsQuantity text n := by
  obtain ⟨count, core, htext, digits, hne, hcore, hdenotes⟩ := h
  obtain ⟨hheads, hsign⟩ := hplain
  have hdigits : core = digits := by
    rcases hcore with hcore | hcore
    · exact hcore
    · rw [htext, hcore] at hsign
      exact absurd (List.mem_append_right _ List.mem_cons_self) hsign
  rw [hdigits] at htext
  match count with
  | 0 => exact ⟨digits, hne, .inl htext, hdenotes⟩
  | 1 => exact ⟨digits, hne, .inr htext, hdenotes⟩
  | count + 2 =>
    rw [htext, List.replicate_succ, List.replicate_succ, List.flatten_cons, List.flatten_cons,
      List.append_assoc, List.append_assoc, ← List.append_assoc] at hheads
    exact absurd (List.prefix_append _ _) hheads

/-- What is read of a numeral is what the digits at its end say alone. -/
theorem IsHeadedNumeral.exists_quantity (h : IsHeadedNumeral text n) :
    ∃ digits, digits <:+ text.toList ∧ IsQuantity (String.ofList digits) n := by
  obtain ⟨count, core, htext, digits, hne, hcore, hdenotes⟩ := h
  have hend : digits <:+ core := by
    rcases hcore with hcore | hcore
    · rw [hcore]
    · rw [hcore]
      exact List.suffix_cons '+' digits
  refine ⟨digits, ?_, digits, hne, .inl (String.toList_ofList), hdenotes⟩
  rw [htext]
  exact hend.trans (List.suffix_append _ core)

end Texts

section Results

variable (method : String)

/-- What is read of a text is the numeral behind all its heads. -/
theorem parseQuantity_string (text : String) : parseQuantity method (.string text) =
    ((Text.numeral 16 UInt64.size (Text.dropAll quantityHead text.toList)).map
      UInt64.ofNat).mapError fun fault => .invalidResponse method (.badQuantity text fault) := by
  unfold parseQuantity quantityHead
  dsimp only
  cases Text.numeral 16 UInt64.size (Text.dropAll ['0', 'x'] text.toList) with
  | error fault => rfl
  | ok n => rfl

theorem parseQuantity_string_eq_ok_iff (text : String) (n : UInt64) :
    parseQuantity method (.string text) = .ok n ↔ IsHeadedNumeral text n.toNat := by
  have hread : ∀ m, Text.numeral 16 UInt64.size (Text.dropAll quantityHead text.toList) = .ok m ↔
      IsNumeral 16 (Text.dropAll quantityHead text.toList) m ∧ m < UInt64.size :=
    Text.numeral_eq_ok_iff (by decide) (by decide) _
  rw [parseQuantity_string, isHeadedNumeral_iff]
  constructor
  · intro h
    cases hnumeral : Text.numeral 16 UInt64.size (Text.dropAll quantityHead text.toList) with
    | error fault =>
      rw [hnumeral] at h
      cases h
    | ok m =>
      rw [hnumeral] at h
      cases h
      obtain ⟨hm, hlt⟩ := (hread m).mp hnumeral
      rwa [UInt64.toNat_ofNat_of_lt' hlt]
  · intro h
    rw [(hread n.toNat).mpr ⟨h, n.toNat_lt⟩, Except.map, UInt64.ofNat_toNat]
    rfl

/-- A number beyond 64 bits is told as too large. -/
theorem parseQuantity_string_of_large {text : String} {n : Nat} (h : IsHeadedNumeral text n)
    (hlarge : 2 ^ 64 ≤ n) : parseQuantity method (.string text) =
      .error (.invalidResponse method (.badQuantity text .tooLarge)) := by
  rw [isHeadedNumeral_iff] at h
  have hnumeral : Text.numeral 16 UInt64.size (Text.dropAll quantityHead text.toList) =
      .error .tooLarge := Text.numeral_of_large (by decide) h hlarge
  rw [parseQuantity_string, hnumeral]
  rfl

theorem parseQuantity_of_not_text {v : Value} (h : ∀ text, v ≠ .string text) :
    parseQuantity method v = .error (.invalidResponse method (.notQuantity v)) := by
  unfold parseQuantity
  split
  · rename_i text
    exact absurd rfl (h text)
  · rfl

theorem parseQuantity_eq_ok_iff (v : Value) (n : UInt64) :
    parseQuantity method v = .ok n ↔ ∃ text, v = .string text ∧ IsHeadedNumeral text n.toNat := by
  constructor
  · intro h
    by_cases htext : ∃ text, v = .string text
    · obtain ⟨text, rfl⟩ := htext
      exact ⟨text, rfl, (parseQuantity_string_eq_ok_iff method text n).mp h⟩
    · rw [parseQuantity_of_not_text method (not_exists.mp htext)] at h
      cases h
  · intro h
    obtain ⟨text, rfl, hnumeral⟩ := h
    exact (parseQuantity_string_eq_ok_iff method text n).mpr hnumeral

inductive Unread (method : String) : Value → Error → Prop
  | notText (v : Value) (h : ∀ text, v ≠ .string text) :
      Unread method v (.invalidResponse method (.notQuantity v))
  | badText (text : String) (fault : Text.NumeralError) :
      Unread method (.string text) (.invalidResponse method (.badQuantity text fault))

theorem unread_of_error {v : Value} {e : Error} (h : parseQuantity method v = .error e) :
    Unread method v e := by
  by_cases htext : ∃ text, v = .string text
  · obtain ⟨text, rfl⟩ := htext
    rw [parseQuantity_string] at h
    cases hnumeral : Text.numeral 16 UInt64.size (Text.dropAll quantityHead text.toList) with
    | error fault =>
      rw [hnumeral] at h
      cases h
      exact .badText text fault
    | ok n =>
      rw [hnumeral] at h
      cases h
  · have hnone := not_exists.mp htext
    rw [parseQuantity_of_not_text method hnone] at h
    cases h
    exact .notText v hnone

end Results

/-- A quantity is read as its number if 64 bits hold it. The reader takes exactly the numerals
behind heads. Among plain texts these are the quantities, and every other one ends in a quantity of
the number that is read. A numeral that is too large is refused as such, and so is every other
value for what it is. -/
theorem parseQuantity_reads (method : String) :
    (∀ (v : Value) (n : UInt64), parseQuantity method v = .ok n ↔
      ∃ text, v = .string text ∧ IsHeadedNumeral text n.toNat) ∧
    (∀ (text : String) (n : UInt64), IsQuantity text n.toNat →
      parseQuantity method (.string text) = .ok n) ∧
    (∀ v : Value, (∀ text, v = .string text → IsPlain text) → ∀ n : UInt64,
      parseQuantity method v = .ok n ↔ ∃ text, v = .string text ∧ IsQuantity text n.toNat) ∧
    (∀ text n, IsHeadedNumeral text n →
      ∃ digits, digits <:+ text.toList ∧ IsQuantity (String.ofList digits) n) ∧
    (∀ text n, IsHeadedNumeral text n → 2 ^ 64 ≤ n → parseQuantity method (.string text) =
      .error (.invalidResponse method (.badQuantity text .tooLarge))) ∧
    ∀ (v : Value), (∀ n, parseQuantity method v ≠ .ok n) →
      ∃ e, parseQuantity method v = .error e ∧ Unread method v e := by
  refine ⟨parseQuantity_eq_ok_iff method, ?_, ?_, ?_, ?_, ?_⟩
  · intro text n h
    exact (parseQuantity_string_eq_ok_iff method text n).mpr h.isHeadedNumeral
  · intro v hplain n
    rw [parseQuantity_eq_ok_iff]
    constructor
    · intro h
      obtain ⟨text, htext, hnumeral⟩ := h
      exact ⟨text, htext, hnumeral.isQuantity (hplain text htext)⟩
    · intro h
      obtain ⟨text, htext, hquantity⟩ := h
      exact ⟨text, htext, hquantity.isHeadedNumeral⟩
  · intro text n h
    exact h.exists_quantity
  · intro text n h hlarge
    exact parseQuantity_string_of_large method h hlarge
  · intro v hv
    cases hread : parseQuantity method v with
    | error e => exact ⟨e, rfl, unread_of_error method hread⟩
    | ok n => exact absurd hread (hv n)

/-- Leading zeros behind a head, two heads with a sign, the least number that does not fit, and a
value that is no text. -/
theorem parseQuantity_reads_headed :
    parseQuantity "eth_blockNumber" (.string "0x00000000000000001B4") = .ok 436 ∧
    parseQuantity "eth_blockNumber" (.string "0x0x+1b4") = .ok 436 ∧
    parseQuantity "eth_blockNumber" (.string "0x10000000000000000") = .error
      (.invalidResponse "eth_blockNumber" (.badQuantity "0x10000000000000000" .tooLarge)) ∧
    ∃ e, parseQuantity "eth_blockNumber" (.number (.int 436)) = .error e ∧
      Unread "eth_blockNumber" (.number (.int 436)) e := by
  have hdenotes : ∀ cs n, Text.Numeral.digitsFrom 16 (2 ^ 65) cs 0 = .ok n → Denotes 16 cs n :=
    fun cs n h => (Text.denotesFrom_zero cs n).mp
      ((Text.digitsFrom_eq_ok_iff (by decide) (by decide) cs n).mp h).1
  obtain ⟨hexact, hquantity, hplain, -, hlarge, hother⟩ := parseQuantity_reads "eth_blockNumber"
  refine ⟨?_, ?_, ?_, ?_⟩
  · exact hquantity _ 436 ⟨"00000000000000001B4".toList, by decide, .inr (by decide),
      hdenotes _ _ (by decide)⟩
  · exact (hexact _ 436).mpr ⟨_, rfl, 2, "+1b4".toList, by decide, "1b4".toList, by decide,
      .inr (by decide), hdenotes _ _ (by decide)⟩
  · exact hlarge _ (2 ^ 64) ⟨1, "10000000000000000".toList, by decide, "10000000000000000".toList,
      by decide, .inl rfl, hdenotes _ _ (by decide)⟩ (Nat.le_refl _)
  · apply hother
    intro n hn
    obtain ⟨text, htext, -⟩ := (hplain (.number (.int 436)) nofun n).mp hn
    cases htext

/-- Not only quantities are read: a second head is passed over, and so is a sign. -/
theorem not_only_quantities :
    (parseQuantity "eth_blockNumber" (.string "0x0x1b4") = .ok 436 ∧
      ¬ ∃ n, IsQuantity "0x0x1b4" n) ∧
    (parseQuantity "eth_blockNumber" (.string "0x+1b4") = .ok 436 ∧
      ¬ ∃ n, IsQuantity "0x+1b4" n) := by
  have hother : ∀ text, ¬ IsPlain text → ¬ ∃ n, IsQuantity text n := by
    intro text htext h
    obtain ⟨n, hn⟩ := h
    exact htext hn.isPlain
  exact ⟨⟨rfl, hother _ (by decide)⟩, rfl, hother _ (by decide)⟩

end Validium.JsonRpc
