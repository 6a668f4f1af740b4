import Validium.Proofs.Text.Numeral
import Validium.Settings

/-!
What variables say. A variable that is unset or blank says nothing. Six variables must be flags or
numbers when they say something, and settings are read from a lookup by checking these in order
before anything else is looked at.
-/
namespace Validium.Settings

open Text (IsNumeral isBlank isBlankChar)

section Words

def flagWords : Bool → List String
  | true => ["1", "true", "yes", "on"]
  | false => ["0", "false", "no", "off"]

theorem readFlag_eq_ok_iff (text : String) (b : Bool) :
    readFlag text = .ok b ↔ String.ofList (Text.foldCase text) ∈ flagWords b := by
  have hdisjoint : ∀ word ∈ flagWords false, word ∉ flagWords true := by decide
  have hyes : ["1", "true", "yes", "on"] = flagWords true := rfl
  have hno : ["0", "false", "no", "off"] = flagWords false := rfl
  rw [readFlag, hyes, hno]
  simp only [List.contains_iff_mem]
  generalize String.ofList (Text.foldCase text) = word
  split_ifs with hyes hno
  · cases b with
    | true => exact iff_of_true rfl hyes
    | false => exact iff_of_false nofun fun hno => hdisjoint word hno hyes
  · cases b with
    | true => exact iff_of_false nofun hyes
    | false => exact iff_of_true rfl hno
  · cases b with
    | true => exact iff_of_false nofun hyes
    | false => exact iff_of_false nofun hno

theorem readNumber_eq_ok_iff (width : Nat) (text : String) (n : Nat) :
    readNumber width text = .ok n ↔ IsNumeral 10 text.toList n ∧ n < 2 ^ width := by
  rw [← Text.numeral_eq_ok_iff (by decide) (Nat.two_pow_pos width), readNumber, Text.decimal,
    Nat.one_shiftLeft]
  cases Text.numeral 10 (2 ^ width) text.toList <;> simp [Except.mapError]

end Words

section Variables

variable (lookup : String → Option String) (name : String)

def Unset : Prop := ∀ raw, lookup name = some raw → isBlank raw = true

def SetTo (raw : String) : Prop := lookup name = some raw ∧ isBlank raw = false

variable {lookup name}

theorem present_eq_some_iff (raw : String) :
    present lookup name = some raw ↔ SetTo lookup name raw := by
  simp [present, SetTo, Option.filter_eq_some_iff]

theorem present_eq_none_iff : present lookup name = none ↔ Unset lookup name := by
  simp [present, Unset, Option.filter_eq_none_iff]

variable {α : Type} {read : String → Except String α} {otherwise : α}

/-- A value is read without the blanks around it and shown with them. -/
theorem readVariable_of_setTo {raw : String} (h : SetTo lookup name raw) :
    readVariable lookup name read otherwise =
      (read (Text.trim raw)).mapError (.invalidValue name raw) := by
  rw [readVariable, (present_eq_some_iff raw).mpr h]

end Variables

inductive Form where
  | flag
  | number (width : Nat)
  deriving DecidableEq, Repr

/-- The characters are a word for yes or no with letters in either case, or a numeral below the
bound of the width. -/
def Form.Spells : Form → List Char → Prop
  | .flag, cs => ∃ b, String.ofList (cs.map Char.toLower) ∈ flagWords b
  | .number width, cs => ∃ n, IsNumeral 10 cs n ∧ n < 2 ^ width

def Form.Fits (form : Form) (raw : String) : Prop :=
  ∃ left core right, raw.toList = left ++ core ++ right ∧
    (∀ c ∈ left ++ right, isBlankChar c = true) ∧ form.Spells core

def Form.read : Form → String → Except String Unit
  | .flag, text => (readFlag text).map fun _ => ()
  | .number width, text => (readNumber width text).map fun _ => ()

theorem Form.read_eq_ok_iff (form : Form) (text : String) :
    form.read text = .ok () ↔ form.Spells text.toList := by
  have hread : ∀ {α : Type} (x : Except String α),
      (x.map fun _ => ()) = .ok () ↔ ∃ a, x = .ok a := by
    intro α x
    cases x <;> simp [Except.map]
  cases form with
  | flag => simp only [Form.read, Form.Spells, hread, readFlag_eq_ok_iff, Text.foldCase]
  | number width => simp only [Form.read, Form.Spells, hread, readNumber_eq_ok_iff]

theorem toLower_of_blank {c : Char} (h : isBlankChar c = true) : c.toLower = c := by
  unfold Char.toLower
  refine dif_neg ?_
  rintro ⟨hfirst, hlast⟩
  have hcode : 65 ≤ c.toNat ∧ c.toNat ≤ 90 :=
    ⟨UInt32.le_iff_toNat_le.mp hfirst, UInt32.le_iff_toNat_le.mp hlast⟩
  simp only [isBlankChar, Bool.or_eq_true, Bool.and_eq_true, decide_eq_true_eq, beq_iff_eq] at h
  omega

/-- What has a form holds no blank. -/
theorem Form.Spells.not_blank {form : Form} {cs : List Char} (h : form.Spells cs) :
    ∀ c ∈ cs, isBlankChar c = false := by
  intro c hc
  cases form with
  | flag =>
    obtain ⟨b, hword⟩ := h
    have hall : ∀ word ∈ flagWords b, word.toList.all (fun d => !isBlankChar d) = true := by
      cases b <;> decide
    have hfolded : c.toLower ∈ (String.ofList (cs.map Char.toLower)).toList := by
      rw [String.toList_ofList]
      exact List.mem_map_of_mem hc
    have hletter := List.all_eq_true.mp (hall _ hword) _ hfolded
    rw [Bool.not_eq_true'] at hletter
    by_contra hblank
    rw [toLower_of_blank (Bool.eq_true_of_not_eq_false hblank)] at hletter
    exact hblank hletter
  | number width =>
    obtain ⟨n, ⟨digits, -, hcs, hdenotes⟩, -⟩ := h
    have hdigits : ∀ d ∈ digits, isBlankChar d = false := by
      intro d hd
      obtain ⟨value, hvalue⟩ := hdenotes.exists_isDigit d hd
      exact hvalue.not_blank
    rcases hcs with rfl | rfl
    · exact hdigits c hc
    · rcases List.mem_cons.mp hc with rfl | hc
      · decide
      · exact hdigits c hc

theorem Form.read_trim_eq_ok_iff (form : Form) (raw : String) :
    form.read (Text.trim raw) = .ok () ↔ form.Fits raw := by
  rw [form.read_eq_ok_iff, Text.trim, String.toList_ofList]
  constructor
  · intro h
    obtain ⟨left, right, hraw, houter⟩ := Text.exists_strip isBlankChar raw.toList
    exact ⟨left, _, right, hraw, houter, h⟩
  · rintro ⟨left, core, right, hraw, houter, h⟩
    rw [hraw, Text.strip_append h.not_blank houter]
    exact h

def order : List (String × Form) := [
  ("DA_BRIDGE_ENABLED", .flag), ("DA_BRIDGE_RETRY_COUNT", .number 32),
  ("DA_BRIDGE_WAIT_SECS", .number 64), ("DA_S3_ENABLED", .flag),
  ("DA_S3_CONCURRENCY", .number 64), ("DA_S3_DISCARD_AFTER_TIMEOUT", .flag)]

def check (lookup : String → Option String) (v : String × Form) : Except Error Unit :=
  readVariable lookup v.1 v.2.read ()

section Reading

variable (lookup : String → Option String)

theorem readVariable_map {α : Type} (name : String) (read : String → Except String α)
    (otherwise : α) : (readVariable lookup name read otherwise).map (fun _ => ()) =
      readVariable lookup name (fun text => (read text).map fun _ => ()) () := by
  unfold readVariable
  cases present lookup name with
  | none => rfl
  | some raw =>
    simp only
    cases read (Text.trim raw) <;> rfl

theorem check_flag (name : String) (otherwise : Bool) : check lookup (name, .flag) =
    (readVariable lookup name readFlag otherwise).map fun _ => () :=
  (readVariable_map lookup name readFlag otherwise).symm

theorem check_number (name : String) (width otherwise : Nat) :
    check lookup (name, .number width) =
      (readVariable lookup name (readNumber width) otherwise).map fun _ => () :=
  (readVariable_map lookup name (readNumber width) otherwise).symm

/-- Settings are read by checking the variables in order, and by validating what they give. -/
theorem exists_ofLookup_eq :
    ∃ s : Settings, ofLookup lookup = order.forM (check lookup) >>= fun _ => validated s := by
  simp only [order, List.forM_eq_forM, List.forM_cons, List.forM_nil]
  rw [check_flag lookup "DA_BRIDGE_ENABLED" false,
    check_number lookup "DA_BRIDGE_RETRY_COUNT" 32 Proofs.standard.retryCount.toNat,
    check_number lookup "DA_BRIDGE_WAIT_SECS" 64 Proofs.standard.waitSeconds.toNat,
    check_flag lookup "DA_S3_ENABLED" false,
    check_number lookup "DA_S3_CONCURRENCY" 64 Store.Policy.usualConcurrency.toNat,
    check_flag lookup "DA_S3_DISCARD_AFTER_TIMEOUT" false, ofLookup]
  -- As soon as one variable does not have its form, the settings do not matter.
  rcases readVariable lookup "DA_BRIDGE_ENABLED" readFlag false with e | enabled
  · exact ⟨standard, rfl⟩
  rcases readVariable lookup "DA_BRIDGE_RETRY_COUNT" (readNumber 32) _ with e | retryCount
  · exact ⟨standard, rfl⟩
  rcases readVariable lookup "DA_BRIDGE_WAIT_SECS" (readNumber 64) _ with e | waitSeconds
  · exact ⟨standard, rfl⟩
  rcases readVariable lookup "DA_S3_ENABLED" readFlag false with e | bucketEnabled
  · exact ⟨standard, rfl⟩
  rcases readVariable lookup "DA_S3_CONCURRENCY" (readNumber 64) _ with e | concurrency
  · exact ⟨standard, rfl⟩
  rcases readVariable lookup "DA_S3_DISCARD_AFTER_TIMEOUT" readFlag false with e | discard
  · exact ⟨standard, rfl⟩
  exact ⟨_, rfl⟩

end Reading

end Validium.Settings
