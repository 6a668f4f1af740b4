import Validium.Attestation.Reader
import Validium.Proofs.JsonRpc.Returned
import Validium.Proofs.Server.Exchange

/-!
The attestation contract, asked over the network, against a table of the same records. What the
contract returns is read only from a successful answer whose result spells two words, and each
word has to fit its field as a whole. An exchange that ends in any other way finds no record, so
the network can hide a record but cannot invent one, and an endpoint that returns the words of a
table cannot be told from the table.
-/
namespace Validium

open Json

namespace Attestation

namespace Record

structure HeldBy (r : Record) (data : Bytes) : Prop where
  two : 64 ≤ data.length
  blockNumber : Bytes.toNat (data.take 32) = r.blockNumber.toNat
  leafIndex : Bytes.toNat ((data.drop 32).take 32) = r.leafIndex.toNat

theorem decode_eq_ok_iff (data : Bytes) (r : Record) : decode data = .ok r ↔ r.HeldBy data := by
  have hfirst := fun n => Abi.Region.uintAt_eq_ok_iff_take data 0 32 n (by decide) (by decide)
    (by decide)
  have hsecond := fun n => Abi.Region.uintAt_eq_ok_iff_take data 32 128 n (by decide)
    (by decide) (by decide)
  constructor
  · intro h
    obtain ⟨blockNumber, hblock, h⟩ := exists_of_bind h
    obtain ⟨leafIndex, hleaf, h⟩ := exists_of_bind h
    cases h
    obtain ⟨-, hblock, hblockBound⟩ := (hfirst blockNumber).mp hblock
    obtain ⟨htwo, hleaf, hleafBound⟩ := (hsecond leafIndex).mp hleaf
    refine ⟨htwo, ?_, ?_⟩
    · rw [UInt32.toNat_ofNat_of_lt' hblockBound]
      exact hblock
    · rw [BitVec.toNat_ofNat, Nat.mod_eq_of_lt hleafBound]
      exact hleaf
  · intro h
    have htwo := h.two
    have hblock := (hfirst r.blockNumber.toNat).mpr
      ⟨by change 32 ≤ _; omega, h.blockNumber, r.blockNumber.toNat_lt⟩
    have hleaf := (hsecond r.leafIndex.toNat).mpr ⟨htwo, h.leafIndex, r.leafIndex.isLt⟩
    simp only [decode, hblock, hleaf, bind, Except.bind, pure, Except.pure, UInt32.ofNat_toNat,
      BitVec.ofNat_toNat, BitVec.setWidth_eq]

/-- A record is held by the words that the contract returns for it. -/
theorem heldBy_encode (r : Record) : r.HeldBy r.encode := by
  have hblock := r.blockNumber.toNat_lt
  have hleaf := r.leafIndex.isLt
  have hfirst := (Word.ofNat r.blockNumber.toNat).length_bytes
  have hsecond := (Word.ofNat r.leafIndex.toNat).length_bytes
  have hwords : r.encode =
      (Word.ofNat r.blockNumber.toNat).bytes ++ (Word.ofNat r.leafIndex.toNat).bytes := by
    simp [encode]
  refine ⟨?_, ?_, ?_⟩
  · rw [hwords, List.length_append, hfirst, hsecond]
  · rw [hwords, List.take_left' hfirst]
    exact Word.toNat_ofNat _ (by omega)
  · rw [hwords, List.drop_left' hfirst, List.take_of_length_le (by omega)]
    exact Word.toNat_ofNat _ (by omega)

theorem decode_encode (r : Record) : decode r.encode = .ok r :=
  (decode_eq_ok_iff _ r).mpr r.heldBy_encode

/-- A word has more room than its field, and nothing stands there. -/
theorem HeldBy.narrow {r : Record} {data : Bytes} (h : r.HeldBy data) :
    (∀ byte ∈ data.take 28, byte = 0) ∧ ∀ byte ∈ (data.drop 32).take 16, byte = 0 := by
  have htwo := h.two
  have hfirst : (data.take 32).length = 32 := by
    rw [List.length_take]
    omega
  have hsecond : ((data.drop 32).take 32).length = 32 := by
    rw [List.length_take, List.length_drop]
    omega
  have hblock : Word.toNat ⟨data.take 32, hfirst⟩ < 2 ^ 32 :=
    lt_of_eq_of_lt h.blockNumber r.blockNumber.toNat_lt
  have hleaf : Word.toNat ⟨(data.drop 32).take 32, hsecond⟩ < 2 ^ 128 :=
    lt_of_eq_of_lt h.leafIndex r.leafIndex.isLt
  rw [Abi.Region.toNat_lt_two_pow_iff _ _ (by decide) (by decide)] at hblock hleaf
  constructor
  · simpa [List.take_take] using hblock
  · simpa [List.take_take] using hleaf

end Record

/-- What the contract holds for a leaf: zeros where the table has no record. -/
def Table.stored (t : Table) (leaf : Hash) : Record :=
  (t.record? leaf).getD ⟨0, 0⟩

theorem Table.present_stored (t : Table) (leaf : Hash) :
    present leaf (t.stored leaf) = t.read leaf := by
  rw [stored, read]
  cases t.record? leaf with
  | none => rfl
  | some r => rfl

inductive Failed : Http.Outcome → Prop where
  | call {outcome : Http.Outcome} (h : JsonRpc.Fault outcome) : Failed outcome
  | short {outcome : Http.Outcome} {data : Bytes} (h : JsonRpc.Returned outcome data)
      (hshort : data.length < 64) : Failed outcome
  | wideBlock {outcome : Http.Outcome} {data : Bytes} {byte : UInt8}
      (h : JsonRpc.Returned outcome data) (hmem : byte ∈ data.take 28) (hne : byte ≠ 0) :
      Failed outcome
  | wideIndex {outcome : Http.Outcome} {data : Bytes} {byte : UInt8}
      (h : JsonRpc.Returned outcome data) (hmem : byte ∈ (data.drop 32).take 16)
      (hne : byte ≠ 0) : Failed outcome

namespace ContractReader

variable {W : Type}

def request (r : ContractReader W) (leaf : Hash) : Http.Request :=
  r.client.request "eth_call" (JsonRpc.Client.contractCall r.contract (readCall leaf))

def outcome (r : ContractReader W) (leaf : Hash) (w : W) : Http.Outcome :=
  (r.client.network.exchange (r.request leaf) w).1

/-- A read is one exchange and a reading of its outcome. -/
theorem read_eq (r : ContractReader W) (leaf : Hash) (w : W) :
    r.read leaf w =
      (readReturn leaf (JsonRpc.readOutcome "eth_call" (r.outcome leaf w) >>=
        JsonRpc.decodeHexResult "eth_call"), (r.client.network.exchange (r.request leaf) w).2) :=
  rfl

end ContractReader

theorem present_eq_ok_iff (leaf : Hash) (r found : Record) :
    present leaf r = .ok found ↔ r = found ∧ 1 ≤ found.blockNumber.toNat := by
  have hempty : r.isEmpty = true ↔ r.blockNumber.toNat = 0 := by
    rw [Record.isEmpty, beq_iff_eq, ← UInt32.toNat_inj]
    rfl
  unfold present
  split
  · rename_i h
    rw [hempty] at h
    constructor
    · intro hno
      cases hno
    · rintro ⟨hsame, hone⟩
      rw [← hsame] at hone
      omega
  · rename_i h
    rw [hempty] at h
    constructor
    · intro hsame
      cases hsame
      exact ⟨rfl, by omega⟩
    · rintro ⟨hsame, -⟩
      rw [hsame]

/-- A record is taken from the bytes that hold it, if its block is not zero. -/
theorem readReturn_eq_ok_iff (leaf : Hash) (answer : Except JsonRpc.Error Bytes)
    (found : Record) : readReturn leaf answer = .ok found ↔
      ∃ data, answer = .ok data ∧ found.HeldBy data ∧ 1 ≤ found.blockNumber.toNat := by
  cases answer with
  | error e => simp [readReturn]
  | ok data =>
    cases hdecode : Record.decode data with
    | error fault =>
      have hnone : ¬ found.HeldBy data := by
        rw [← Record.decode_eq_ok_iff, hdecode]
        exact fun h => nomatch h
      simp [readReturn, hdecode, hnone]
    | ok r =>
      have hheld : found.HeldBy data ↔ r = found := by
        rw [← Record.decode_eq_ok_iff, hdecode, Except.ok.injEq]
      simp [readReturn, hdecode, hheld, present_eq_ok_iff]

/-- Whatever goes wrong, the leaf is not found. -/
theorem notFound_of_readReturn {leaf : Hash} {answer : Except JsonRpc.Error Bytes} {e : Error}
    (h : readReturn leaf answer = .error e) : ∃ reason, e = .notFound leaf reason := by
  unfold readReturn at h
  split at h
  · cases h
    exact ⟨_, rfl⟩
  · split at h
    · cases h
      exact ⟨_, rfl⟩
    · unfold present at h
      split at h
      · cases h
        exact ⟨_, rfl⟩
      · cases h

theorem Failed.not_held {outcome : Http.Outcome} (h : Failed outcome) {data : Bytes}
    (hreturned : JsonRpc.Returned outcome data) (r : Record) : ¬ r.HeldBy data := by
  intro hheld
  cases h with
  | call h => exact h.not_returned data hreturned
  | short h hshort =>
    rw [h.unique hreturned] at hshort
    exact absurd hheld.two (by omega)
  | wideBlock h hmem hne =>
    rw [h.unique hreturned] at hmem
    exact hne (hheld.narrow.1 _ hmem)
  | wideIndex h hmem hne =>
    rw [h.unique hreturned] at hmem
    exact hne (hheld.narrow.2 _ hmem)

def AsksFor (contract : String) (leaf : Hash) (request : Http.Request) : Prop :=
  request.verb = .post ∧ ∃ body, Value.ofBytes? request.body = some body ∧
    body.field? "method" = some (.string "eth_call") ∧
    body.field? "params" = some (JsonRpc.Client.contractCall contract (readCall leaf))

def Serves {W : Type} (network : Network W) (contract : String) (t : Table) (leaf : Hash) : Prop :=
  ∀ request w, AsksFor contract leaf request →
    JsonRpc.Returned (network.exchange request w).1 (t.stored leaf).encode

namespace ContractReader

variable {W : Type} (r : ContractReader W) (leaf : Hash)

theorem sorted_contractCall (contract : String) (data : Bytes) :
    (JsonRpc.Client.contractCall contract data).sorted =
      JsonRpc.Client.contractCall contract data := by
  have hfields : Value.ofFields [("data", .string (Hex.encode0x data)), ("to", .string contract)] =
      .object [("data", .string (Hex.encode0x data)), ("to", .string contract)] :=
    Value.ofFields_of_names (show ["data", "to"].Pairwise (· < ·) by decide)
  simp only [JsonRpc.Client.contractCall, Value.sorted, Value.sortedItems, Value.sortedFields,
    hfields]

theorem asksFor_request : AsksFor r.contract leaf (r.request leaf) := by
  have hlegible := JsonRpc.legible_requestBody "eth_call"
    (JsonRpc.Client.contractCall r.contract (readCall leaf))
    ⟨⟨trivial, trivial, trivial⟩, trivial, trivial⟩
  have hread := Value.ofBytes?_compact hlegible
  rw [JsonRpc.sorted_requestBody "eth_call" (sorted_contractCall _ _)] at hread
  exact ⟨rfl, _, hread, rfl, rfl⟩

theorem read_eq_ok_iff (w : W) (found : Record) : (r.read leaf w).1 = .ok found ↔
    ∃ data, JsonRpc.Returned (r.outcome leaf w) data ∧ found.HeldBy data ∧
      1 ≤ found.blockNumber.toNat := by
  rw [read_eq, readReturn_eq_ok_iff]
  simp only [JsonRpc.decodeHexResult_readOutcome_iff]

theorem notFound_of_read {w : W} {e : Error} (h : (r.read leaf w).1 = .error e) :
    ∃ reason, e = .notFound leaf reason :=
  notFound_of_readReturn h

theorem read_of_failed {w : W} (h : Failed (r.outcome leaf w)) :
    ∃ reason, (r.read leaf w).1 = .error (.notFound leaf reason) := by
  cases hread : (r.read leaf w).1 with
  | error e =>
    obtain ⟨reason, he⟩ := r.notFound_of_read leaf hread
    exact ⟨reason, by rw [he]⟩
  | ok found =>
    obtain ⟨data, hreturned, hheld, -⟩ := (r.read_eq_ok_iff leaf w found).mp hread
    exact absurd hheld (h.not_held hreturned found)

theorem read_of_serves {t : Table} (h : Serves r.client.network r.contract t leaf) (w : W) :
    (r.read leaf w).1 = t.read leaf := by
  have hreturned := h (r.request leaf) w (r.asksFor_request leaf)
  have hanswer := (JsonRpc.decodeHexResult_readOutcome_iff "eth_call" _ _).mpr hreturned
  rw [read_eq, outcome, hanswer, ← t.present_stored leaf]
  simp only [readReturn, Record.decode_encode]

/-- A contract on the network and a table of the same records give the same value for a leaf.
Every failed exchange hides the record of the leaf, and no answer at all leads to a record but
the one that is held, as a whole, by the two words returned. -/
theorem agrees_with_table :
    (∀ t, Serves r.client.network r.contract t leaf → ∀ (part : Part W Table) w w',
      part.view w' = t → (r.reader.read leaf w).1 = ((Table.reader part).read leaf w').1) ∧
    (∀ w, Failed (r.outcome leaf w) →
      ∃ reason, (r.reader.read leaf w).1 = .error (.notFound leaf reason)) ∧
    (∀ w found, (r.reader.read leaf w).1 = .ok found ↔
      ∃ data, JsonRpc.Returned (r.outcome leaf w) data ∧ found.HeldBy data ∧
        1 ≤ found.blockNumber.toNat) ∧
    (∀ w e, (r.reader.read leaf w).1 = .error e → ∃ reason, e = .notFound leaf reason) := by
  refine ⟨?_, fun w => r.read_of_failed leaf, r.read_eq_ok_iff leaf,
    fun w e => r.notFound_of_read leaf⟩
  intro t hserves part w w' hview
  have htable : ((Table.reader part).read leaf w').1 = (part.view w').read leaf := rfl
  rw [htable, hview]
  exact r.read_of_serves leaf hserves w

def response (data : Bytes) : Http.Outcome :=
  .answered 200 (some (Bytes.ofText
    (Server.Response.toJson ⟨.ok (.string (Hex.encode0x data)), .ofNat 1⟩).compact))

theorem returned_response (data : Bytes) : JsonRpc.Returned (response data) data := by
  rw [← JsonRpc.decodeHexResult_readOutcome_iff "eth_call", response,
    Server.readOutcome_ok "eth_call" (v := .string (Hex.encode0x data)) trivial]
  exact (JsonRpc.decodeHexResult_string _ _ _).mpr (JsonRpc.spellsHex_encode0x data)

def returning (data : Bytes) : ContractReader Table where
  client := ⟨⟨fun _ => pure (response data)⟩, ⟨"http".toList, none, [], none, none⟩, .ofSeconds 30⟩
  contract := "0x00112233445566778899aabbccddeeff00112233"

def farTable : Table := Table.empty.insert (Word.ofNat 9) ⟨5, 2 ^ 127 + 3⟩

/-- A record with a leaf beyond 64 bits is read whole. Data that is out of place by one byte, and a
leaf that the table does not have, are not found. -/
theorem agrees_with_table_far :
    ((returning (farTable.stored (Word.ofNat 9)).encode).read (Word.ofNat 9) farTable).1 =
        .ok ⟨5, 2 ^ 127 + 3⟩ ∧
      ((returning (farTable.stored (Word.ofNat 8)).encode).read (Word.ofNat 8) farTable).1 =
        .error (unattested (Word.ofNat 8)) ∧
      ∃ reason, ((returning (1 :: Record.encode ⟨5, 3⟩)).read (Word.ofNat 9) farTable).1 =
        .error (.notFound (Word.ofNat 9) reason) := by
  have hserves : ∀ leaf, Serves (returning (farTable.stored leaf).encode).client.network
      (returning (farTable.stored leaf).encode).contract farTable leaf :=
    fun leaf _ _ _ => returned_response _
  have hagree := fun leaf => (agrees_with_table (returning (farTable.stored leaf).encode) leaf).1
    farTable (hserves leaf) Part.whole farTable farTable rfl
  refine ⟨?_, ?_, ?_⟩
  · exact (hagree (Word.ofNat 9)).trans (by decide +kernel)
  · exact (hagree (Word.ofNat 8)).trans (by decide +kernel)
  · have hdirty : (1 : UInt8) ∈ (1 :: Record.encode ⟨5, 3⟩).take 28 := by decide +kernel
    exact (agrees_with_table (returning (1 :: Record.encode ⟨5, 3⟩)) (Word.ofNat 9)).2.1 farTable
      (.wideBlock (returned_response _) hdirty (by decide))

end ContractReader

end Attestation

end Validium
