import Validium.JsonRpc.Client
import Validium.Proofs.Abi.Exact
import Validium.Proofs.Text.Spelled

/-!
What an exchange returns. Bytes are taken only from a successful answer that is JSON, has no
error and has a result that spells them. Every other end of an exchange is a fault of one of a
few kinds, and brings no bytes.
-/
namespace Validium

open Json

namespace JsonRpc

def SpellsHex (text : String) (data : Bytes) : Prop :=
  ∃ digits, (text.toList = digits ∨ text.toList = '0' :: 'x' :: digits) ∧ Hex.Spells digits data

theorem spellsHex_encode0x (data : Bytes) : SpellsHex (Hex.encode0x data) data :=
  ⟨_, .inr (by rw [Hex.encode0x, String.toList_ofList]), Hex.spells_encodeChars data⟩

/-- A head is no digits. -/
theorem not_spells_head (digits : List Char) (data : Bytes) :
    ¬ Hex.Spells ('0' :: 'x' :: digits) data := by
  intro h
  cases h with
  | cons hhigh hlow hrest =>
    have hx : 'x'.toNat = 120 := rfl
    unfold Hex.IsDigit at hlow
    omega

theorem decodeHexResult_string (method text : String) (data : Bytes) :
    decodeHexResult method (.string text) = .ok data ↔ SpellsHex text data := by
  rw [decodeHexResult]
  split
  · rename_i digits htext
    rw [mapError_eq_ok_iff, Hex.decode_ofText_eq_ok_iff]
    constructor
    · intro h
      exact ⟨digits, .inr htext, h⟩
    · rintro ⟨digits', hdigits | hdigits, hspells⟩
      · rw [← hdigits, htext] at hspells
        exact absurd hspells (not_spells_head digits data)
      · rw [htext, List.cons.injEq, List.cons.injEq] at hdigits
        rw [hdigits.2.2]
        exact hspells
  · rename_i hhead
    rw [mapError_eq_ok_iff, ← String.ofList_toList (s := text), Hex.decode_ofText_eq_ok_iff]
    constructor
    · intro h
      exact ⟨_, .inl rfl, by rwa [String.ofList_toList]⟩
    · rintro ⟨digits, hdigits | hdigits, hspells⟩
      · rw [String.ofList_toList] at hdigits
        rw [hdigits]
        exact hspells
      · rw [String.ofList_toList] at hdigits
        exact absurd hdigits (hhead digits)

theorem decodeHexResult_eq_ok_iff (method : String) (v : Value) (data : Bytes) :
    decodeHexResult method v = .ok data ↔ ∃ text, v = .string text ∧ SpellsHex text data := by
  cases v with
  | string text => simp [decodeHexResult_string]
  | null => simp [decodeHexResult]
  | bool b => simp [decodeHexResult]
  | number n => simp [decodeHexResult]
  | array items => simp [decodeHexResult]
  | object fields => simp [decodeHexResult]

def Reads (outcome : Http.Outcome) (v : Value) : Prop :=
  ∃ status body, outcome = .answered status (some body) ∧ Http.isSuccess status = true ∧
    Value.ofBytes? body = some v

theorem Reads.unique {outcome : Http.Outcome} {v v' : Value} (h : Reads outcome v)
    (h' : Reads outcome v') : v = v' := by
  obtain ⟨status, body, houtcome, -, hbody⟩ := h
  obtain ⟨status', body', houtcome', -, hbody'⟩ := h'
  rw [houtcome] at houtcome'
  cases houtcome'
  rw [hbody] at hbody'
  exact Option.some.inj hbody'

/-- An error that is null is none. -/
theorem readAnswer_eq_ok_iff (method : String) (body result : Value) :
    readAnswer method body = .ok result ↔
      (∀ e, body.field? "error" = some e → e = .null) ∧ body.field? "result" = some result := by
  have hresult : readAnswer.result method body = .ok result ↔
      body.field? "result" = some result := by
    unfold readAnswer.result
    split
    · rename_i v hv
      simp [hv]
    · rename_i hnone
      simp [hnone]
  unfold readAnswer
  split
  · rename_i hnull
    simp [hresult, hnull]
  · rename_i hnone
    simp [hresult, hnone]
  · rename_i e hne herror
    simp only [herror, reduceCtorEq, Option.some.injEq, forall_eq', false_iff]
    rintro ⟨hnull, -⟩
    rw [hnull] at hne
    exact hne rfl

/-- A result is read from a whole body with a good status, if it names no error beside it. -/
theorem readOutcome_eq_ok_iff (method : String) (outcome : Http.Outcome) (result : Value) :
    readOutcome method outcome = .ok result ↔
      ∃ v, Reads outcome v ∧ (∀ e, v.field? "error" = some e → e = .null) ∧
        v.field? "result" = some result := by
  constructor
  · intro h
    unfold readOutcome at h
    split at h
    · cases h
    rename_i status body
    split at h
    · cases h
    rename_i hsuccess
    split at h
    · cases h
    rename_i v hbody
    obtain ⟨bytes, hbytes, hvalue⟩ := Option.bind_eq_some_iff.mp hbody
    obtain ⟨herror, hresult⟩ := (readAnswer_eq_ok_iff method v result).mp h
    refine ⟨v, ⟨status, bytes, by rw [hbytes], ?_, hvalue⟩, herror, hresult⟩
    simpa using hsuccess
  · rintro ⟨v, ⟨status, body, houtcome, hsuccess, hbody⟩, herror, hresult⟩
    rw [houtcome]
    simp only [readOutcome, hsuccess, Option.bind_some, hbody]
    exact (readAnswer_eq_ok_iff method v result).mpr ⟨herror, hresult⟩

/-- The answer has no error, and its result spells these bytes. -/
def Returned (outcome : Http.Outcome) (data : Bytes) : Prop :=
  ∃ v text, Reads outcome v ∧ (∀ e, v.field? "error" = some e → e = .null) ∧
    v.field? "result" = some (.string text) ∧ SpellsHex text data

theorem SpellsHex.unique {text : String} {data data' : Bytes} (h : SpellsHex text data)
    (h' : SpellsHex text data') : data = data' := by
  rw [← decodeHexResult_string "eth_call"] at h h'
  rw [h] at h'
  exact Except.ok.inj h'

theorem Returned.unique {outcome : Http.Outcome} {data data' : Bytes}
    (h : Returned outcome data) (h' : Returned outcome data') : data = data' := by
  obtain ⟨v, text, hread, -, hresult, hspells⟩ := h
  obtain ⟨v', text', hread', -, hresult', hspells'⟩ := h'
  rw [hread.unique hread', hresult'] at hresult
  cases hresult
  exact hspells.unique hspells'

inductive Fault : Http.Outcome → Prop where
  | transport (f : Http.Failure) : Fault (.failed f)
  | status {status : Nat} (body : Option Bytes) (h : Http.isSuccess status = false) :
      Fault (.answered status body)
  | notJson (status : Nat) {body : Option Bytes} (h : body.bind Value.ofBytes? = none) :
      Fault (.answered status body)
  | remote {outcome : Http.Outcome} {v e : Value} (hread : Reads outcome v)
      (herror : v.field? "error" = some e) (hne : e ≠ .null) : Fault outcome
  | noResult {outcome : Http.Outcome} {v : Value} (hread : Reads outcome v)
      (hresult : v.field? "result" = none) : Fault outcome
  | notText {outcome : Http.Outcome} {v got : Value} (hread : Reads outcome v)
      (hresult : v.field? "result" = some got) (hne : ∀ text, got ≠ .string text) : Fault outcome
  | notHex {outcome : Http.Outcome} {v : Value} {text : String} (hread : Reads outcome v)
      (hresult : v.field? "result" = some (.string text))
      (hne : ∀ data, ¬ SpellsHex text data) : Fault outcome

theorem Fault.not_returned {outcome : Http.Outcome} (h : Fault outcome) (data : Bytes) :
    ¬ Returned outcome data := by
  rintro ⟨v, text, hread, hfine, hresult, hspells⟩
  cases h with
  | transport f =>
    obtain ⟨_, _, houtcome, -⟩ := hread
    cases houtcome
  | status body h =>
    obtain ⟨_, _, houtcome, hsuccess, -⟩ := hread
    cases houtcome
    rw [h] at hsuccess
    cases hsuccess
  | notJson status h =>
    obtain ⟨_, _, houtcome, -, hbody⟩ := hread
    cases houtcome
    rw [Option.bind_some, hbody] at h
    cases h
  | remote hread' herror hne =>
    rw [hread'.unique hread] at herror
    exact hne (hfine _ herror)
  | noResult hread' hresult' =>
    rw [hread'.unique hread, hresult] at hresult'
    cases hresult'
  | notText hread' hresult' hne =>
    rw [hread'.unique hread, hresult] at hresult'
    cases hresult'
    exact hne text rfl
  | notHex hread' hresult' hne =>
    rw [hread'.unique hread, hresult] at hresult'
    cases hresult'
    exact hne data hspells

/-- Bytes are taken from an exchange exactly where it returns them. -/
theorem decodeHexResult_readOutcome_iff (method : String) (outcome : Http.Outcome)
    (data : Bytes) :
    (readOutcome method outcome >>= decodeHexResult method) = .ok data ↔
      Returned outcome data := by
  constructor
  · intro h
    obtain ⟨result, hresult, hhex⟩ := exists_of_bind h
    obtain ⟨v, hread, herror, hfield⟩ := (readOutcome_eq_ok_iff method outcome result).mp hresult
    obtain ⟨text, htext, hspells⟩ := (decodeHexResult_eq_ok_iff method result data).mp hhex
    rw [htext] at hfield
    exact ⟨v, text, hread, herror, hfield, hspells⟩
  · rintro ⟨v, text, hread, herror, hfield, hspells⟩
    rw [(readOutcome_eq_ok_iff method outcome _).mpr ⟨v, hread, herror, hfield⟩]
    exact (decodeHexResult_string method text data).mpr hspells

end JsonRpc

end Validium
