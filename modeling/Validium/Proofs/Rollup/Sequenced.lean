import Validium.Proofs.JsonRpc.Returned
import Validium.Proofs.Rollup.Exact
import Validium.Proofs.Server.Exchange
import Validium.Proofs.Text.Heads
import Validium.Rollup.Scanner

/-!
The hashes that a block sequences. Of its transactions only those to the rollup's contract count,
whatever the case of the letters in its address, and of these only the sequencing calls: their
hashes are told in order, one transaction after the other. The first of them that is broken
spoils the block, and what goes to anybody else never does.
-/
namespace Validium.Rollup

open SequenceCall (selector)

namespace Transaction

variable (t : Transaction)

/-- The transaction's recipient is this address, up to the case of ASCII letters. -/
def GoesTo (address : String) : Prop :=
  ∃ recipient, t.recipient = some recipient ∧ Text.foldCase recipient = Text.foldCase address

/-- The input, less every `0x` in front of it, is digits for these bytes. -/
def Carries (data : Bytes) : Prop :=
  ∃ digits, Text.Bared ['0', 'x'] t.input.toList digits ∧ Hex.Spells digits data

inductive Bad (block : UInt64) : ScanError → Prop where
  | input {digits : List Char} {e : Hex.Error}
      (hbare : Text.Bared ['0', 'x'] t.input.toList digits)
      (hnot : ∀ data, ¬ Hex.Spells digits data)
      (he : Hex.decode (Bytes.ofText (String.ofList digits)) = .error e) :
      Bad block (.invalidBlock block (.badInput t.hash e))
  | arguments {data : Bytes} {fault : Abi.Error} (hcall : t.Carries (selector ++ data))
      (hfault : SequenceCall.readArguments data = .error fault) :
      Bad block (.call (.malformed fault))

def call? : Option SequenceCall :=
  match Hex.decode (Bytes.ofText (String.ofList (Text.dropAll ['0', 'x'] t.input.toList))) with
  | .ok data => (SequenceCall.decode data).toOption
  | .error _ => none

instance (address : String) : Decidable (t.GoesTo address) :=
  match h : t.recipient with
  | none => .isFalse (by simp [GoesTo, h])
  | some recipient =>
    decidable_of_iff (Text.foldCase recipient = Text.foldCase address) (by simp [GoesTo, h])

/-- The case of the address does not matter either. -/
theorem goesTo_folded (address : String) :
    t.GoesTo (String.ofList (Text.foldCase address)) ↔ t.GoesTo address := by
  unfold GoesTo
  rw [Text.foldCase_foldCase]

theorem isRelevant_iff (address : String) : isRelevant address t = true ↔ t.GoesTo address := by
  unfold isRelevant GoesTo Text.eqFoldCase
  cases t.recipient with
  | none => simp
  | some recipient => simp

/-- Data is carried behind any number of heads. -/
theorem carries_iff (data : Bytes) : t.Carries data ↔
    Hex.decode (Bytes.ofText (String.ofList (Text.dropAll ['0', 'x'] t.input.toList))) =
      .ok data := by
  rw [Hex.decode_ofText_eq_ok_iff]
  constructor
  · rintro ⟨digits, hbare, hspells⟩
    rwa [(Text.bared_iff (by simp) _ _).mp hbare] at hspells
  · intro h
    exact ⟨_, Text.bared_dropAll (by simp) _, h⟩

theorem call?_of_carries {data : Bytes} (h : t.Carries data) :
    t.call? = (SequenceCall.decode data).toOption := by
  rw [call?, (t.carries_iff data).mp h]

/-- The transaction makes a call exactly where that call's arguments stand behind the selector. -/
theorem call?_eq_some_iff (c : SequenceCall)
    (hsize : ∀ data, t.Carries data → data.length < 2 ^ 63) :
    t.call? = some c ↔ ∃ rest, t.Carries (selector ++ rest) ∧ c.StandsIn rest := by
  constructor
  · intro h
    unfold call? at h
    split at h
    · rename_i data hdata
      have hcarries := (t.carries_iff data).mpr hdata
      have hdecode : SequenceCall.decode data = .ok c := by
        revert h
        cases SequenceCall.decode data <;> simp [Except.toOption]
      obtain ⟨rest, rfl, hstands⟩ :=
        (SequenceCall.decode_eq_ok_iff data (hsize data hcarries) c).mp hdecode
      exact ⟨rest, hcarries, hstands⟩
    · cases h
  · rintro ⟨rest, hcarries, hstands⟩
    have hdecode := (SequenceCall.decode_eq_ok_iff _ (hsize _ hcarries) c).mpr
      ⟨rest, rfl, hstands⟩
    rw [t.call?_of_carries hcarries, hdecode]
    rfl

/-- Digits in the customary form are read back. -/
theorem carries_of_encode0x {data : Bytes} (h : t.input = Hex.encode0x data) :
    t.Carries data := by
  have hspells := Hex.spells_encodeChars data
  refine ⟨Hex.encodeChars data, ⟨1, by simp [h, Hex.encode0x], ?_⟩, hspells⟩
  rintro ⟨rest, hrest⟩
  rw [← hrest] at hspells
  exact JsonRpc.not_spells_head rest data hspells

end Transaction

section Transactions

variable {t : Transaction} {block : UInt64}

open Transaction

theorem transactionHashes_of_carries {data : Bytes} (h : t.Carries data) :
    transactionHashes block t = match SequenceCall.decode data with
      | .ok call => .ok call.transactionsHashes
      | .error .otherCall => .ok []
      | .error e => .error (.call e) := by
  have hinput := (t.carries_iff data).mp h
  cases hdecode : SequenceCall.decode data with
  | ok c => simp only [transactionHashes, hinput, hdecode]
  | error e => cases e <;> simp only [transactionHashes, hinput, hdecode]

theorem transactionHashes_of_other {data : Bytes} (h : t.Carries data)
    (hother : ∀ rest, data ≠ selector ++ rest) : transactionHashes block t = .ok [] := by
  rw [transactionHashes_of_carries h, SequenceCall.decode_eq_otherCall data hother]

theorem transactionHashes_of_bad {e : ScanError} (h : t.Bad block e) :
    transactionHashes block t = .error e := by
  rcases h with ⟨hbare, -, he⟩ | ⟨hcall, hfault⟩
  · rw [(Text.bared_iff (by simp) _ _).mp hbare] at he
    rw [transactionHashes, he]
  · rw [transactionHashes_of_carries hcall, SequenceCall.decode_append, hfault]
    rfl

/-- What is not broken is a sequencing call, or another call, which sequences nothing. -/
theorem transactionHashes_of_not_bad (h : ∀ e, ¬ t.Bad block e) :
    transactionHashes block t = .ok (t.call?.toList.flatMap SequenceCall.transactionsHashes) := by
  cases hinput : Hex.decode
      (Bytes.ofText (String.ofList (Text.dropAll ['0', 'x'] t.input.toList))) with
  | error e =>
    refine absurd (Bad.input (Text.bared_dropAll (by simp) _) ?_ hinput) (h _)
    intro data hspells
    rw [(Hex.decode_ofText_eq_ok_iff _ data).mpr hspells] at hinput
    cases hinput
  | ok data =>
    have hcarries := (t.carries_iff data).mpr hinput
    rw [t.call?_of_carries hcarries]
    by_cases hcall : ∃ rest, data = selector ++ rest
    · obtain ⟨rest, rfl⟩ := hcall
      cases hread : SequenceCall.readArguments rest with
      | error fault => exact absurd (Bad.arguments hcarries hread) (h _)
      | ok c =>
        rw [transactionHashes_of_carries hcarries, SequenceCall.decode_append, hread]
        simp [Except.mapError, Except.toOption]
    · have hother := fun rest hrest => hcall ⟨rest, hrest⟩
      rw [transactionHashes_of_other hcarries hother, SequenceCall.decode_eq_otherCall data hother]
      rfl

end Transactions

section Blocks

variable {address : String} {block : UInt64}

def callsTo (address : String) (ts : List Transaction) : List SequenceCall :=
  (ts.filter fun t => t.GoesTo address).filterMap Transaction.call?

def Sound (address : String) (block : UInt64) (ts : List Transaction) : Prop :=
  ∀ t ∈ ts, t.GoesTo address → ∀ e, ¬ t.Bad block e

theorem callsTo_cons_of_goesTo {t : Transaction} (h : t.GoesTo address) (ts : List Transaction) :
    callsTo address (t :: ts) = t.call?.toList ++ callsTo address ts := by
  unfold callsTo
  rw [List.filter_cons_of_pos (by simpa using h), List.filterMap_cons]
  cases t.call? <;> rfl

theorem callsTo_cons_of_not {t : Transaction} (h : ¬ t.GoesTo address) (ts : List Transaction) :
    callsTo address (t :: ts) = callsTo address ts := by
  unfold callsTo
  rw [List.filter_cons_of_neg (by simpa using h)]

theorem hashesOf_cons_of_goesTo {t : Transaction} (h : t.GoesTo address) (ts : List Transaction) :
    hashesOf address block (t :: ts) = (do
      let first ← transactionHashes block t
      let rest ← hashesOf address block ts
      return first ++ rest) := by
  rw [hashesOf, if_pos ((t.isRelevant_iff address).mpr h)]

theorem hashesOf_cons_of_not {t : Transaction} (h : ¬ t.GoesTo address) (ts : List Transaction) :
    hashesOf address block (t :: ts) = hashesOf address block ts := by
  rw [hashesOf, if_neg (mt (t.isRelevant_iff address).mp h)]

/-- Among transactions that are not all sound there is a first bad one to the contract. -/
theorem exists_first_bad {ts : List Transaction} (h : ¬ Sound address block ts) :
    ∃ before t after e, ts = before ++ t :: after ∧ Sound address block before ∧
      t.GoesTo address ∧ t.Bad block e := by
  induction ts with
  | nil => exact absurd (fun t ht => absurd ht List.not_mem_nil) h
  | cons t ts ih =>
    by_cases hfirst : t.GoesTo address ∧ ∃ e, t.Bad block e
    · obtain ⟨hgoes, e, hbad⟩ := hfirst
      exact ⟨[], t, ts, e, rfl, fun t ht => absurd ht List.not_mem_nil, hgoes, hbad⟩
    · have hsound : t.GoesTo address → ∀ e, ¬ t.Bad block e := fun hgoes e hbad =>
        hfirst ⟨hgoes, e, hbad⟩
      have hrest : ¬ Sound address block ts := by
        intro hrest
        exact h (List.forall_mem_cons.mpr ⟨hsound, hrest⟩)
      obtain ⟨before, t', after, e, rfl, hbefore, hgoes, hbad⟩ := ih hrest
      exact ⟨t :: before, t', after, e, rfl, List.forall_mem_cons.mpr ⟨hsound, hbefore⟩, hgoes,
        hbad⟩

/-- Sound transactions in front tell their own hashes and leave the rest to those behind them. -/
theorem hashesOf_append {before : List Transaction} (h : Sound address block before)
    (rest : List Transaction) :
    hashesOf address block (before ++ rest) = (hashesOf address block rest).map
      ((callsTo address before).flatMap SequenceCall.transactionsHashes ++ ·) := by
  induction before with
  | nil =>
    have hid : ∀ x : Except ScanError (List Hash), x.map ([] ++ ·) = x := by
      rintro (e | hashes) <;> rfl
    exact (hid _).symm
  | cons t before ih =>
    have hrest := ih fun t' ht' => h t' (List.mem_cons_of_mem t ht')
    rw [List.cons_append]
    by_cases hgoes : t.GoesTo address
    · have hfirst := transactionHashes_of_not_bad (h t List.mem_cons_self hgoes)
      rw [hashesOf_cons_of_goesTo hgoes, callsTo_cons_of_goesTo hgoes, hfirst, hrest,
        List.flatMap_append]
      cases hashesOf address block rest with
      | error e => rfl
      | ok hashes => simp [Except.map, bind, Except.bind, pure, Except.pure]
    · rw [hashesOf_cons_of_not hgoes, callsTo_cons_of_not hgoes, hrest]

/-- Sound transactions yield the hashes of their calls in the order of the block. -/
theorem hashesOf_of_sound {ts : List Transaction} (h : Sound address block ts) :
    hashesOf address block ts =
      .ok ((callsTo address ts).flatMap SequenceCall.transactionsHashes) := by
  have happend := hashesOf_append h []
  rw [List.append_nil] at happend
  rw [happend, hashesOf, Except.map, List.append_nil]

/-- The first bad transaction is the one that is told, whatever comes behind it. -/
theorem hashesOf_of_first_bad {before after : List Transaction} {t : Transaction} {e : ScanError}
    (h : Sound address block before) (hgoes : t.GoesTo address) (hbad : t.Bad block e) :
    hashesOf address block (before ++ t :: after) = .error e := by
  rw [hashesOf_append h, hashesOf_cons_of_goesTo hgoes, transactionHashes_of_bad hbad]
  rfl

/-- Only what goes to the address counts. -/
theorem hashesOf_filter (ts : List Transaction) :
    hashesOf address block (ts.filter fun t => t.GoesTo address) = hashesOf address block ts := by
  induction ts with
  | nil => rfl
  | cons t ts ih =>
    by_cases hgoes : t.GoesTo address
    · rw [List.filter_cons_of_pos (by simpa using hgoes), hashesOf_cons_of_goesTo hgoes,
        hashesOf_cons_of_goesTo hgoes, ih]
    · rw [List.filter_cons_of_neg (by simpa using hgoes), hashesOf_cons_of_not hgoes, ih]

/-- An address in lower case finds the same transactions. -/
theorem hashesOf_folded (ts : List Transaction) :
    hashesOf (String.ofList (Text.foldCase address)) block ts = hashesOf address block ts := by
  induction ts with
  | nil => rfl
  | cons t ts ih =>
    have hsame := t.goesTo_folded address
    by_cases hgoes : t.GoesTo address
    · rw [hashesOf_cons_of_goesTo hgoes, hashesOf_cons_of_goesTo (hsame.mpr hgoes), ih]
    · rw [hashesOf_cons_of_not hgoes, hashesOf_cons_of_not (mt hsame.mp hgoes), ih]

/-- The calls are carried to the address in this order, with other traffic before, between and
after them: whatever goes elsewhere, and what goes to the address but is another call. -/
inductive Interleaved (address : String) : List SequenceCall → List Transaction → Prop where
  | nil : Interleaved address [] []
  | call {t : Transaction} {c : SequenceCall} {cs : List SequenceCall} {ts : List Transaction}
      (hgoes : t.GoesTo address) (hcarries : t.Carries c.encode)
      (hsize : c.encode.length < 2 ^ 64) (hrest : Interleaved address cs ts) :
      Interleaved address (c :: cs) (t :: ts)
  | elsewhere {t : Transaction} {cs : List SequenceCall} {ts : List Transaction}
      (hgoes : ¬ t.GoesTo address) (hrest : Interleaved address cs ts) :
      Interleaved address cs (t :: ts)
  | other {t : Transaction} {data : Bytes} {cs : List SequenceCall} {ts : List Transaction}
      (hcarries : t.Carries data) (hother : ∀ rest, data ≠ selector ++ rest)
      (hrest : Interleaved address cs ts) : Interleaved address cs (t :: ts)

/-- Other traffic between the calls does not matter. -/
theorem hashesOf_of_interleaved {cs : List SequenceCall} {ts : List Transaction}
    (h : Interleaved address cs ts) :
    hashesOf address block ts = .ok (cs.flatMap SequenceCall.transactionsHashes) := by
  induction h with
  | nil => rfl
  | call hgoes hcarries hsize _ ih =>
    rw [hashesOf_cons_of_goesTo hgoes, transactionHashes_of_carries hcarries,
      SequenceCall.decode_encode _ hsize, ih]
    rfl
  | elsewhere hgoes _ ih => rw [hashesOf_cons_of_not hgoes, ih]
  | @other t data cs ts hcarries hother _ ih =>
    by_cases hgoes : t.GoesTo address
    · rw [hashesOf_cons_of_goesTo hgoes, transactionHashes_of_other hcarries hother, ih]
      rfl
    · rw [hashesOf_cons_of_not hgoes, ih]

end Blocks

section Told

open Json

def Transaction.toJson (t : Transaction) : Value :=
  .object [("hash", .string t.hash), ("input", .string t.input),
    ("to", (t.recipient.map Value.string).getD .null)]

def blockJson (ts : List Transaction) : Value :=
  .object [("transactions", .array (ts.map Transaction.toJson))]

theorem legible_items (depth : Nat) (ts : List Transaction) :
    Value.LegibleItems (depth + 1) (ts.map Transaction.toJson) := by
  induction ts with
  | nil => trivial
  | cons t ts ih =>
    refine ⟨⟨trivial, trivial, ?_, trivial⟩, ih⟩
    cases t.recipient <;> trivial

theorem Transaction.sorted_toJson (t : Transaction) : t.toJson.sorted = t.toJson := by
  have hnames : ["hash", "input", "to"].Pairwise (· < ·) := by decide
  obtain ⟨hash, recipient, input⟩ := t
  cases recipient with
  | none => exact Value.ofFields_of_names hnames
  | some recipient => exact Value.ofFields_of_names hnames

theorem sorted_items (ts : List Transaction) :
    Value.sortedItems (ts.map Transaction.toJson) = ts.map Transaction.toJson := by
  induction ts with
  | nil => rfl
  | cons t ts ih => rw [List.map_cons, Value.sortedItems, t.sorted_toJson, ih]

theorem sorted_blockJson (ts : List Transaction) : (blockJson ts).sorted = blockJson ts := by
  rw [blockJson, Value.sorted, Value.sortedFields, Value.sortedFields, Value.sorted, sorted_items]
  rfl

theorem Transaction.ofTree?_toJson (t : Transaction) :
    ofTree? (Tree.ofValue t.toJson) = some t := by
  obtain ⟨hash, recipient, input⟩ := t
  cases recipient <;> rfl

theorem mapM_items (ts : List Transaction) :
    (Tree.ofItems (ts.map Transaction.toJson)).mapM Transaction.ofTree? = some ts := by
  induction ts with
  | nil => rfl
  | cons t ts ih =>
    rw [List.map_cons, Tree.ofItems, List.mapM_cons, t.ofTree?_toJson, ih]
    rfl

theorem blockOfTree?_blockJson (ts : List Transaction) :
    blockOfTree? (Tree.ofValue (blockJson ts)) = some ts :=
  mapM_items ts

def telling (v : Value) : JsonRpc.Client Unit :=
  let body := Bytes.ofText (Server.Response.toJson ⟨.ok v, .ofNat 1⟩).compact
  ⟨⟨fun _ => pure (.answered 200 (some body))⟩,
    ⟨['h', 't', 't', 'p'], none, ['/'], none, none⟩, JsonRpc.Client.usualTimeout⟩

theorem call_telling (ts : List Transaction) (method : String) (params : Value) :
    ((telling (blockJson ts)).call method params ()).1 = .ok (blockJson ts) := by
  have hread := Server.readOutcome_ok method (v := blockJson ts) ⟨legible_items _ ts, trivial⟩
  rw [sorted_blockJson] at hread
  exact hread

end Told

namespace Scanner

variable {W : Type} {client : JsonRpc.Client W} {address : String} {s : Scanner W}

theorem batchHashes_eq (s : Scanner W) (block : UInt64) (w : W) :
    (s.batchHashes block w).1 = readBlock s.contract block
      (s.client.call "eth_getBlockByNumber" (blockParams block) w).1 := rfl

theorem eq_of_new (h : Scanner.new client address = .ok s) :
    s = ⟨client, String.ofList (Text.foldCase address)⟩ := by
  unfold new at h
  split at h
  · cases h
    rfl
  · cases h

theorem readBlock_of_transactions (contract : String) (block : UInt64) {v : Json.Value}
    {ts : List Transaction} (h : blockOfTree? (Json.Tree.ofValue v) = some ts) :
    readBlock contract block (.ok v) = hashesOf contract block ts := by
  cases v with
  | null => cases h
  | _ =>
    rw [readBlock, h]
    rintro ⟨⟩

/-- Where the block is told, its hashes are those of its transactions to the contract, however the
address of the contract was written. -/
theorem batchHashes_of_transactions (hnew : Scanner.new client address = .ok s) {block : UInt64}
    {w : W} {v : Json.Value} {ts : List Transaction}
    (hcall : (client.call "eth_getBlockByNumber" (blockParams block) w).1 = .ok v)
    (hts : blockOfTree? (Json.Tree.ofValue v) = some ts) :
    (s.batchHashes block w).1 = hashesOf address block ts := by
  rw [batchHashes_eq, eq_of_new hnew, hcall, readBlock_of_transactions _ _ hts, hashesOf_folded]

/-- The hashes told of a block are those of the sequencing calls among its transactions to the
contract, one after the other; the first of these transactions that is broken is told instead, and
no other transaction counts. So calls are found whatever stands between them. -/
theorem batchHashes_exact (hnew : Scanner.new client address = .ok s) (block : UInt64) (w : W) :
    ((client.call "eth_getBlockByNumber" (blockParams block) w).1 = .ok .null →
      (s.batchHashes block w).1 = .error (.blockNotFound block)) ∧
    ∀ v ts, (client.call "eth_getBlockByNumber" (blockParams block) w).1 = .ok v →
      blockOfTree? (Json.Tree.ofValue v) = some ts →
      (Sound address block ts → (s.batchHashes block w).1 =
        .ok ((callsTo address ts).flatMap SequenceCall.transactionsHashes)) ∧
      (¬ Sound address block ts → ∃ before t after e, ts = before ++ t :: after ∧
        Sound address block before ∧ t.GoesTo address ∧ t.Bad block e ∧
        (s.batchHashes block w).1 = .error e) ∧
      (∀ w' v' ts', (client.call "eth_getBlockByNumber" (blockParams block) w').1 = .ok v' →
        blockOfTree? (Json.Tree.ofValue v') = some ts' →
        (ts'.filter fun t => t.GoesTo address) = (ts.filter fun t => t.GoesTo address) →
        (s.batchHashes block w').1 = (s.batchHashes block w).1) ∧
      ∀ cs, Interleaved address cs ts → (s.batchHashes block w).1 =
        .ok (cs.flatMap SequenceCall.transactionsHashes) := by
  constructor
  · intro hnull
    rw [batchHashes_eq, eq_of_new hnew, hnull]
    rfl
  intro v ts hcall hts
  rw [batchHashes_of_transactions hnew hcall hts]
  refine ⟨hashesOf_of_sound, ?_, ?_, fun cs => hashesOf_of_interleaved⟩
  · intro hunsound
    obtain ⟨before, t, after, e, rfl, hsound, hgoes, hbad⟩ := exists_first_bad hunsound
    exact ⟨before, t, after, e, rfl, hsound, hgoes, hbad,
      hashesOf_of_first_bad hsound hgoes hbad⟩
  · intro w' v' ts' hcall' hts' hsame
    rw [batchHashes_of_transactions hnew hcall' hts', ← hashesOf_filter, hsame, hashesOf_filter]

def anAddress : String := "0xabababababababababababababababababababab"

/-- A call to the contract in capitals and the same call in small letters, with other traffic
between them: a creation, which has no recipient, an input that is no digits to somebody else, and
another call to the contract. -/
def mixedTraffic (c : SequenceCall) : List Transaction := [
  ⟨"0x01", some "0xABABABABABABABABABABABABABABABABABABABAB", Hex.encode0x c.encode⟩,
  ⟨"0x02", none, "0x6080"⟩,
  ⟨"0x03", some "0xcdcdcdcdcdcdcdcdcdcdcdcdcdcdcdcdcdcdcdcd", "words"⟩,
  ⟨"0x04", some anAddress, "0x01"⟩,
  ⟨"0x05", some anAddress, Hex.encode0x c.encode⟩]

theorem interleaved_mixedTraffic (c : SequenceCall) (h : c.encode.length < 2 ^ 64) :
    Interleaved anAddress [c, c] (mixedTraffic c) := by
  have hcall : ∀ t : Transaction, t.input = Hex.encode0x c.encode → t.Carries c.encode := by
    intro t ht
    exact t.carries_of_encode0x ht
  have hone : (Transaction.mk "0x04" (some anAddress) "0x01").Carries [1] :=
    Transaction.carries_of_encode0x _ (by decide)
  have hcapitals : Text.foldCase "0xABABABABABABABABABABABABABABABABABABABAB" =
      Text.foldCase anAddress := by decide
  refine .call ⟨_, rfl, hcapitals⟩ (hcall _ rfl) h ?_
  refine .elsewhere (by decide) (.elsewhere (by decide) ?_)
  refine .other hone ?_ (.call ⟨_, rfl, rfl⟩ (hcall _ rfl) h .nil)
  intro rest hrest
  have hlength := congrArg List.length hrest
  rw [List.length_append, SequenceCall.length_selector, List.length_singleton] at hlength
  omega

def bareCall : SequenceCall := { SequenceCall.twoBatches with message := [] }

theorem batchHashes_exact_mixedTraffic :
    ∃ s, Scanner.new (telling (blockJson (mixedTraffic bareCall))) anAddress = .ok s ∧
      (s.batchHashes 100 ()).1 =
        .ok [Word.ofNat 1, Word.ofNat 4, Word.ofNat 1, Word.ofNat 4] := by
  have hlength : bareCall.encode.length < 2 ^ 64 := by
    rw [SequenceCall.length_encode, SequenceCall.messageAt_eq]
    decide
  have hnew : Scanner.new (telling (blockJson (mixedTraffic bareCall))) anAddress = .ok _ :=
    if_pos (by decide)
  refine ⟨_, hnew, ?_⟩
  exact ((batchHashes_exact hnew 100 ()).2 _ _ (call_telling _ _ _)
    (blockOfTree?_blockJson _)).2.2.2 _ (interleaved_mixedTraffic bareCall hlength)

end Scanner

end Validium.Rollup
