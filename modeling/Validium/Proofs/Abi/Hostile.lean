import Validium.Attestation.Record
import Validium.Message.Basic
import Validium.Proofs.Abi.Unbounded
import Validium.Rollup.SequenceCall

/-!
Data from strangers. Whatever offsets, lengths and counts it holds, every reader of contract
data and of the formats made of it gives what reading with unbounded positions gives: no
position goes over, nothing outside of the data is touched, a number that is too large is
refused as too large, and what is returned is no larger than the data it came from.
-/
namespace Validium

def FormatError.saturated : FormatError → FormatError
  | .envelope fault => .envelope fault.saturated
  | .payload kind fault => .payload kind fault.saturated
  | e => e

end Validium

namespace Validium.Rollup.SequenceCall

def Error.saturated : Error → Error
  | .otherCall => .otherCall
  | .malformed fault => .malformed fault.saturated

end Validium.Rollup.SequenceCall

namespace Validium.Abi

open Message Rollup Attestation

namespace Unbounded

open Reading

def envelope : Bytes → Reading FormatError Envelope
  | [] => fail .emptyEnvelope
  | tag :: rest => do
    let payload ← (decodeSingle rest).mapError .envelope
    return ⟨tag, payload⟩

def inclusionProof (data : Bytes) : Reading Error InclusionProof := do
  let outer : Region := ⟨data⟩
  let tuple ← sub outer (← offsetAt outer 0)
  let dataRootProof ← wordsAt tuple (← offsetAt tuple 0)
  let leafProof ← wordsAt tuple (← offsetAt tuple 32)
  let rangeHash ← wordAt tuple 64
  let dataRootIndex ← numberAt tuple 96
  let blobRoot ← wordAt tuple 128
  let bridgeRoot ← wordAt tuple 160
  let leaf ← wordAt tuple 192
  let leafIndex ← numberAt tuple 224
  return {
    dataRootProof, leafProof, rangeHash, dataRootIndex := BitVec.ofNat 256 dataRootIndex
    blobRoot, bridgeRoot, leaf, leafIndex := BitVec.ofNat 256 leafIndex }

def record (data : Bytes) : Reading Error Record := do
  let r : Region := ⟨data⟩
  let blockNumber ← uintAt r 0 32
  let leafIndex ← uintAt r 32 128
  return ⟨UInt32.ofNat blockNumber, BitVec.ofNat 128 leafIndex⟩

def batch (r : Region) (start index : Nat) : Reading Error Batch := do
  let words ← reckon (index * 4)
  let step ← reckon (words * 32)
  let place ← reckon (start + step)
  let transactionsHash ← wordAt r place
  let forcedGlobalExitRoot ← wordAt r (← reckon (place + 32))
  let forcedTimestamp ← uintAt r (← reckon (place + 64)) 64
  let forcedBlockHash ← wordAt r (← reckon (place + 96))
  return ⟨transactionsHash, forcedGlobalExitRoot, UInt64.ofNat forcedTimestamp, forcedBlockHash⟩

theorem length_drop_12 (w : Word) : (w.bytes.drop 12).length = 20 := by
  simp [w.length_bytes]

def address (r : Region) (offset : Nat) : Reading Error { b : Bytes // b.length = 20 } := do
  let w ← wordAt r offset
  if (w.bytes.take 12).any (· != 0) then fail (.overflow offset 160)
  else return ⟨w.bytes.drop 12, length_drop_12 w⟩

def arguments (data : Bytes) : Reading Error SequenceCall := do
  let r : Region := ⟨data⟩
  let batchesAt ← offsetAt r 0
  let count ← offsetAt r batchesAt
  let start ← reckon (batchesAt + 32)
  if room r start 128 < count then fail (.outOfRange batchesAt count)
  else
    let batches ← each (batch r start) count 0
    let coinbase ← address r 128
    let messageAt ← offsetAt r 160
    let leafCount ← uintAt r 32 32
    let maxTimestamp ← uintAt r 64 64
    let expectedHash ← wordAt r 96
    let message ← bytesAt r messageAt
    return {
      batches, leafCount := UInt32.ofNat leafCount, maxTimestamp := UInt64.ofNat maxTimestamp
      expectedHash, coinbase, message }

def stretch {ε : Type} (data : Bytes) (start stop : Nat) : Reading ε Bytes :=
  ⟨[.taken start stop data.length], .ok ((data.drop start).take (stop - start))⟩

def sequenceCall (data : Bytes) : Reading SequenceCall.Error SequenceCall :=
  if data.length < 4 then fail .otherCall
  else do
    let head ← stretch data 0 4
    if head ≠ SequenceCall.selector then fail .otherCall
    else (arguments (← stretch data 4 data.length)).mapError .malformed

end Unbounded

theorem agree_envelope (data : Bytes) (hsize : data.length < 2 ^ 63) :
    Agree FormatError.saturated (fun a b => a = b ∧ a.payload.length + 32 ≤ data.length)
      (Envelope.decode data) (Unbounded.envelope data) := by
  cases data with
  | nil => exact Agree.fail rfl
  | cons tag rest =>
    rw [List.length_cons] at hsize ⊢
    have hbody := (agree_decodeSingle rest (by omega)).mapError FormatError.saturated
      FormatError.envelope fun _ => rfl
    have hdecode : Envelope.decode (tag :: rest) =
        (decodeSingle rest).mapError .envelope >>= fun payload => .ok ⟨tag, payload⟩ := by
      rw [Envelope.decode]
      cases decodeSingle rest with
      | error fault => rfl
      | ok payload => rfl
    rw [hdecode]
    refine Agree.bind hbody ?_
    rintro payload _ ⟨rfl, hlen⟩
    exact Agree.pure ⟨rfl, by dsimp only; omega⟩

/-- The lists of a proof fit into the tuple behind the words with their lengths. -/
theorem agree_inclusionProof (data : Bytes) (hsize : data.length < 2 ^ 63) :
    Agree Error.saturated
      (fun a b => a = b ∧ 32 * (a.dataRootProof.length + 1) ≤ data.length ∧
        32 * (a.leafProof.length + 1) ≤ data.length)
      (InclusionProof.read data) (Unbounded.inclusionProof data) := by
  refine Agree.bind (Region.agree_offsetAt ⟨data⟩ hsize 0) ?_
  rintro start _ ⟨rfl, -, -⟩
  refine Agree.bind (Region.agree_sub ⟨data⟩ start) ?_
  rintro tuple _ ⟨rfl, hle⟩
  have hdata : Region.size ⟨data⟩ = data.length := rfl
  have htuple : tuple.size < 2 ^ 63 := by omega
  refine Agree.bind (Region.agree_offsetAt tuple htuple 0) ?_
  rintro first _ ⟨rfl, -, -⟩
  refine Agree.bind (Region.agree_wordsAt tuple htuple first) ?_
  rintro dataRootProof _ ⟨rfl, hfirst⟩
  refine Agree.bind (Region.agree_offsetAt tuple htuple 32) ?_
  rintro second _ ⟨rfl, -, -⟩
  refine Agree.bind (Region.agree_wordsAt tuple htuple second) ?_
  rintro leafProof _ ⟨rfl, hsecond⟩
  refine Agree.bind (Region.agree_wordAt tuple htuple 64) ?_
  rintro rangeHash _ ⟨rfl, -⟩
  refine Agree.bind (Region.agree_numberAt tuple htuple 96) ?_
  rintro dataRootIndex _ ⟨rfl, -⟩
  refine Agree.bind (Region.agree_wordAt tuple htuple 128) ?_
  rintro blobRoot _ ⟨rfl, -⟩
  refine Agree.bind (Region.agree_wordAt tuple htuple 160) ?_
  rintro bridgeRoot _ ⟨rfl, -⟩
  refine Agree.bind (Region.agree_wordAt tuple htuple 192) ?_
  rintro leaf _ ⟨rfl, -⟩
  refine Agree.bind (Region.agree_numberAt tuple htuple 224) ?_
  rintro leafIndex _ ⟨rfl, -⟩
  exact Agree.pure ⟨rfl, by dsimp only; omega, by dsimp only; omega⟩

theorem agree_record (data : Bytes) (hsize : data.length < 2 ^ 63) :
    Agree Error.saturated (fun a b => a = b ∧ True) (Record.decode data)
      (Unbounded.record data) := by
  refine Agree.bind (Region.agree_uintAt ⟨data⟩ hsize 0 32 (by decide) (by decide)) ?_
  rintro blockNumber _ ⟨rfl, -⟩
  refine Agree.bind (Region.agree_uintAt ⟨data⟩ hsize 32 128 (by decide) (by decide)) ?_
  rintro leafIndex _ ⟨rfl, -⟩
  exact Agree.pure ⟨rfl, trivial⟩

section Batches

variable (r : Region) (hsize : r.size < 2 ^ 63)

include hsize

/-- A batch that lies within the region is read without going over. -/
theorem agree_batch (start index : Nat) (cursor : UInt64)
    (hcursor : cursor.toNat = start + index * 128)
    (hroom : start + index * 128 + 128 ≤ r.size) :
    Agree Error.saturated (fun a b => a = b ∧ True) (SequenceCall.readBatch r cursor)
      (Unbounded.batch r start index) := by
  have hadd : ∀ n : UInt64, n.toNat ≤ 96 → (cursor + n).toNat = start + index * 128 + n.toNat := by
    intro n hn
    rw [UInt64.toNat_add, hcursor]
    omega
  have hplace : start + index * 4 * 32 = cursor.toNat := by omega
  refine Agree.reckon (by omega) (Agree.reckon (by omega) (Agree.reckon (by omega) ?_))
  rw [hplace]
  refine Agree.bind (Region.agree_wordAt r hsize cursor) ?_
  rintro transactionsHash _ ⟨rfl, -⟩
  have hroot := Region.agree_wordAt r hsize (cursor + 32)
  rw [hadd 32 (by decide), ← hcursor] at hroot
  refine Agree.reckon (by omega) (Agree.bind hroot ?_)
  rintro forcedGlobalExitRoot _ ⟨rfl, -⟩
  have htime := Region.agree_uintAt r hsize (cursor + 64) 64 (by decide) (by decide)
  rw [hadd 64 (by decide), ← hcursor] at htime
  refine Agree.reckon (by omega) (Agree.bind htime ?_)
  rintro forcedTimestamp _ ⟨rfl, -⟩
  have hblock := Region.agree_wordAt r hsize (cursor + 96)
  rw [hadd 96 (by decide), ← hcursor] at hblock
  refine Agree.reckon (by omega) (Agree.bind hblock ?_)
  rintro forcedBlockHash _ ⟨rfl, -⟩
  exact Agree.pure ⟨rfl, trivial⟩

/-- The rows of the table are read as with unbounded numbers, as long as the table has room for
them. -/
theorem agree_batches (start : Nat) (count index : Nat) (cursor : UInt64)
    (hcursor : cursor.toNat = start + index * 128)
    (hroom : start + (index + count) * 128 ≤ r.size) :
    Agree Error.saturated (fun a b => a = b ∧ a.length = count)
      (SequenceCall.readBatches r count cursor)
      (Reading.each (Unbounded.batch r start) count index) := by
  induction count generalizing index cursor with
  | zero => exact Agree.pure ⟨rfl, rfl⟩
  | succ count ih =>
    refine Agree.bind (agree_batch r hsize start index cursor hcursor (by omega)) ?_
    rintro b _ ⟨rfl, -⟩
    have hnext : (cursor + SequenceCall.batchSize).toNat = start + (index + 1) * 128 := by
      have hstride : SequenceCall.batchSize.toNat = 128 := rfl
      rw [UInt64.toNat_add, hstride, hcursor]
      omega
    refine Agree.bind (ih (index + 1) (cursor + SequenceCall.batchSize) hnext (by omega)) ?_
    rintro rest _ ⟨rfl, hlen⟩
    exact Agree.pure ⟨rfl, by rw [List.length_cons, hlen]⟩

theorem agree_address (offset : UInt64) :
    Agree Error.saturated (fun a b => a = b ∧ True) (SequenceCall.readAddress r offset)
      (Unbounded.address r offset.toNat) := by
  refine Agree.bind (Region.agree_wordAt r hsize offset) ?_
  rintro w _ ⟨rfl, -⟩
  by_cases hdirty : (w.bytes.take 12).any (· != 0) = true
  · rw [if_pos hdirty, if_pos hdirty]
    exact Agree.fail rfl
  · rw [if_neg hdirty, if_neg hdirty]
    exact Agree.pure ⟨rfl, trivial⟩

end Batches

/-- The batches and the message of a call fit behind the words with their lengths. -/
theorem agree_arguments (data : Bytes) (hsize : data.length < 2 ^ 63) :
    Agree Error.saturated
      (fun a b => a = b ∧ 128 * a.batches.length + 32 ≤ data.length ∧
        a.message.length + 32 ≤ data.length)
      (SequenceCall.readArguments data) (Unbounded.arguments data) := by
  have hdata : Region.size ⟨data⟩ = data.length := rfl
  refine Agree.bind (Region.agree_offsetAt ⟨data⟩ hsize 0) ?_
  rintro batchesAt _ ⟨rfl, -, -⟩
  refine Agree.bind (Region.agree_offsetAt ⟨data⟩ hsize batchesAt) ?_
  rintro count _ ⟨rfl, hcount, hroom⟩
  have hadd := Region.toNat_add_32 ⟨data⟩ batchesAt (by omega) hroom
  have hstride : SequenceCall.batchSize.toNat = 128 := rfl
  refine Agree.reckon (by omega) ?_
  dsimp only
  rw [hstride, Region.room_eq ⟨data⟩ (batchesAt + 32) _ 128 hadd]
  by_cases hover : Unbounded.room ⟨data⟩ (batchesAt.toNat + 32) 128 < count.toNat
  · have hvalue : min count.toNat (2 ^ 64 - 1) = count.toNat := by omega
    rw [if_pos hover, if_pos hover]
    exact Agree.fail (by rw [Error.saturated, hvalue])
  · have hend : batchesAt.toNat + 32 + count.toNat * 128 ≤ data.length := by
      have hmul := Nat.mul_le_of_le_div 128 _ _ (Nat.not_lt.mp hover)
      omega
    rw [if_neg hover, if_neg hover]
    refine Agree.bind (agree_batches ⟨data⟩ hsize (batchesAt.toNat + 32) count.toNat 0
      (batchesAt + 32) (by omega) (by omega)) ?_
    rintro batches _ ⟨rfl, hbatches⟩
    refine Agree.bind (agree_address ⟨data⟩ hsize 128) ?_
    rintro coinbase _ ⟨rfl, -⟩
    refine Agree.bind (Region.agree_offsetAt ⟨data⟩ hsize 160) ?_
    rintro messageAt _ ⟨rfl, -, -⟩
    refine Agree.bind (Region.agree_uintAt ⟨data⟩ hsize 32 32 (by decide) (by decide)) ?_
    rintro leafCount _ ⟨rfl, -⟩
    refine Agree.bind (Region.agree_uintAt ⟨data⟩ hsize 64 64 (by decide) (by decide)) ?_
    rintro maxTimestamp _ ⟨rfl, -⟩
    refine Agree.bind (Region.agree_wordAt ⟨data⟩ hsize 96) ?_
    rintro expectedHash _ ⟨rfl, -⟩
    refine Agree.bind (Region.agree_bytesAt ⟨data⟩ hsize messageAt) ?_
    rintro message _ ⟨rfl, hmessage⟩
    exact Agree.pure ⟨rfl, by dsimp only; omega, by dsimp only; omega⟩

/-- A stretch inside the data may be taken. -/
theorem Agree.stretch {ε α β : Type} {shown : ε → ε} {same : α → β → Prop} {x : Except ε α}
    {data : Bytes} {start stop : Nat} {g : Bytes → Reading ε β} (hle : start ≤ stop)
    (hstop : stop ≤ data.length)
    (h : Agree shown same x (g ((data.drop start).take (stop - start)))) :
    Agree shown same x (Unbounded.stretch data start stop >>= g) := by
  obtain ⟨hsound, hends⟩ := h
  refine ⟨?_, hends⟩
  intro deed hdeed
  rcases List.mem_cons.mp hdeed with rfl | hrest
  · exact ⟨hle, hstop⟩
  · exact hsound deed hrest

/-- A call is read as with unbounded numbers, and what is allocated for it is no more than what
came. -/
theorem agree_sequenceCall (data : Bytes) (hsize : data.length < 2 ^ 63) :
    Agree SequenceCall.Error.saturated
      (fun a b => a = b ∧ 128 * a.batches.length + 32 ≤ data.length ∧
        a.message.length + 32 ≤ data.length)
      (SequenceCall.decode data) (Unbounded.sequenceCall data) := by
  unfold SequenceCall.decode Unbounded.sequenceCall
  by_cases hshort : data.length < 4
  · rw [if_pos (Or.inl hshort), if_pos hshort]
    exact Agree.fail rfl
  · rw [if_neg hshort]
    refine Agree.stretch (by omega) (by omega) ?_
    have hhead : (data.drop 0).take (4 - 0) = data.take 4 := rfl
    rw [hhead]
    by_cases hother : data.take 4 ≠ SequenceCall.selector
    · rw [if_pos (Or.inr hother), if_pos hother]
      exact Agree.fail rfl
    · have hcall : ¬ (data.length < 4 ∨ data.take 4 ≠ SequenceCall.selector) := by
        rintro (h | h)
        · exact hshort h
        · exact hother h
      rw [if_neg hcall, if_neg hother]
      refine Agree.stretch (by omega) (Nat.le_refl _) ?_
      have hrest : (data.drop 4).take (data.length - 4) = data.drop 4 := by
        rw [← List.length_drop, List.take_length]
      have hlen : (data.drop 4).length ≤ data.length := by
        rw [List.length_drop]
        omega
      rw [hrest]
      have harguments := (agree_arguments (data.drop 4) (by omega)).mapError
        SequenceCall.Error.saturated SequenceCall.Error.malformed fun _ => rfl
      refine harguments.mono ?_
      rintro a b ⟨rfl, hbatches, hmessage⟩
      exact ⟨rfl, by omega, by omega⟩

/-- A batch for which there is room is read, unless its timestamp is too wide. -/
theorem readBatch_of_room (r : Region) (hsize : r.size < 2 ^ 63) (cursor : UInt64)
    (h : cursor.toNat + 128 ≤ r.size) :
    (∃ b, SequenceCall.readBatch r cursor = .ok b) ∨
      SequenceCall.readBatch r cursor = .error (.overflow (cursor.toNat + 64) 64) := by
  have hadd : ∀ n : UInt64, n.toNat ≤ 96 → (cursor + n).toNat = cursor.toNat + n.toNat := by
    intro n hn
    rw [UInt64.toNat_add]
    omega
  have h32 : (cursor + 32).toNat = cursor.toNat + 32 := hadd 32 (by decide)
  have h64 : (cursor + 64).toNat = cursor.toNat + 64 := hadd 64 (by decide)
  have h96 : (cursor + 96).toNat = cursor.toNat + 96 := hadd 96 (by decide)
  obtain ⟨hash, hhash⟩ := Region.exists_wordAt r hsize cursor (by omega)
  obtain ⟨root, hroot⟩ := Region.exists_wordAt r hsize (cursor + 32) (by omega)
  obtain ⟨time, htime⟩ := Region.exists_wordAt r hsize (cursor + 64) (by omega)
  obtain ⟨block, hblock⟩ := Region.exists_wordAt r hsize (cursor + 96) (by omega)
  have huint := Region.uint_of_word (cursor + 64).toNat time 64 (by decide) (by decide)
  by_cases hnarrow : time.toNat < 2 ^ 64
  · have hread : r.uintAt (cursor + 64) 64 = .ok time.toNat := by
      rw [if_pos hnarrow] at huint
      rw [Region.uintAt, htime]
      exact huint
    refine Or.inl ⟨⟨hash, root, UInt64.ofNat time.toNat, block⟩, ?_⟩
    rw [SequenceCall.readBatch, hhash, hroot, hread, hblock]
    rfl
  · have hread : r.uintAt (cursor + 64) 64 = .error (.overflow (cursor.toNat + 64) 64) := by
      rw [if_neg hnarrow, h64] at huint
      rw [Region.uintAt, htime, h64]
      exact huint
    refine Or.inr ?_
    rw [SequenceCall.readBatch, hhash, hroot, hread]
    rfl

/-- Where there is room for all batches none of them is out of range: at worst one of their
timestamps is too wide. -/
theorem readBatches_of_room (r : Region) (hsize : r.size < 2 ^ 63) (count : Nat)
    (cursor : UInt64) (h : cursor.toNat + 128 * count ≤ r.size) :
    (∃ batches, SequenceCall.readBatches r count cursor = .ok batches ∧
      batches.length = count) ∨
    ∃ index < count, SequenceCall.readBatches r count cursor =
      .error (.overflow (cursor.toNat + 128 * index + 64) 64) := by
  induction count generalizing cursor with
  | zero => exact Or.inl ⟨[], rfl, rfl⟩
  | succ count ih =>
    have hnext : (cursor + SequenceCall.batchSize).toNat = cursor.toNat + 128 := by
      have hstride : SequenceCall.batchSize.toNat = 128 := rfl
      rw [UInt64.toNat_add, hstride]
      omega
    rcases readBatch_of_room r hsize cursor (by omega) with ⟨b, hbatch⟩ | hbatch
    · rcases ih (cursor + SequenceCall.batchSize) (by omega) with
        ⟨rest, hrest, hlen⟩ | ⟨index, hindex, hrest⟩
      · refine Or.inl ⟨b :: rest, ?_, by rw [List.length_cons, hlen]⟩
        rw [SequenceCall.readBatches, hbatch, hrest]
        rfl
      · refine Or.inr ⟨index + 1, by omega, ?_⟩
        have hplace : cursor.toNat + 128 + 128 * index =
            cursor.toNat + 128 * (index + 1) := by omega
        rw [SequenceCall.readBatches, hbatch, hrest, hnext, hplace]
        rfl
    · refine Or.inr ⟨0, Nat.succ_pos count, ?_⟩
      rw [SequenceCall.readBatches, hbatch]
      rfl

structure Region.SafeAt (r : Region) (offset : UInt64) : Prop where
  sub : Safe Error.saturated (fun s => s.size ≤ r.size) (r.sub offset)
    (Unbounded.sub r offset.toNat)
  slice : ∀ needed : UInt64, Safe Error.saturated
    (fun b => offset.toNat + b.length ≤ r.size) (r.slice offset needed)
    (Unbounded.slice r offset.toNat needed.toNat)
  wordAt : Safe Error.saturated (fun _ => offset.toNat + 32 ≤ r.size) (r.wordAt offset)
    (Unbounded.wordAt r offset.toNat)
  numberAt : Safe Error.saturated (fun _ => True) (r.numberAt offset)
    (Unbounded.numberAt r offset.toNat)
  uintAt : ∀ bits, bits % 8 = 0 → bits ≤ 128 →
    Safe Error.saturated (fun v => v < 2 ^ bits) (r.uintAt offset bits)
      (Unbounded.uintAt r offset.toNat bits)
  /-- A number is returned exactly when the whole word spells it and it is narrow enough. -/
  uintAt_iff : ∀ bits, bits % 8 = 0 → bits ≤ 128 → ∀ v, r.uintAt offset bits = .ok v ↔
    ∃ w, r.wordAt offset = .ok w ∧ w.toNat = v ∧ v < 2 ^ bits
  offsetAt : Safe Error.saturated (fun n => n ≤ r.size)
    ((r.offsetAt offset).map UInt64.toNat) (Unbounded.offsetAt r offset.toNat)
  offsetAt_large : ∀ w, r.wordAt offset = .ok w → r.size < w.toNat →
    r.offsetAt offset = .error (.outOfRange offset.toNat (min w.toNat (2 ^ 64 - 1)))
  bytesAt : Safe Error.saturated (fun b => b.length + 32 ≤ r.size) (r.bytesAt offset)
    (Unbounded.bytesAt r offset.toNat)
  wordsAt : Safe Error.saturated (fun ws => 32 * (ws.length + 1) ≤ r.size)
    (r.wordsAt offset) (Unbounded.wordsAt r offset.toNat)
  /-- Words for which there is room are all read. -/
  wordsAt_room : ∀ count, r.offsetAt offset = .ok count →
    count.toNat ≤ r.room (offset + 32) 32 →
    ∃ ws, r.wordsAt offset = .ok ws ∧ ws.length = count.toNat
  /-- Of batches for which there is room at worst a timestamp is too wide. -/
  batches_room : ∀ count, r.offsetAt offset = .ok count →
    count.toNat ≤ r.room (offset + 32) SequenceCall.batchSize.toNat →
    (∃ batches, SequenceCall.readBatches r count.toNat (offset + 32) = .ok batches ∧
      batches.length = count.toNat) ∨
    ∃ index < count.toNat, SequenceCall.readBatches r count.toNat (offset + 32) =
      .error (.overflow (offset.toNat + 32 + 128 * index + 64) 64)

namespace Region

variable (r : Region) (hsize : r.size < 2 ^ 63)

include hsize

/-- A length word that is read stands inside the region. -/
theorem add_32_le_of_offsetAt (offset value : UInt64) (h : r.offsetAt offset = .ok value) :
    offset.toNat + 32 ≤ r.size := by
  rcases (agree_offsetAt r hsize offset).ends with ⟨a, n, hx, -, -, -, hroom⟩ | ⟨e, hx, -⟩
  · exact hroom
  · rw [h] at hx
    cases hx

theorem safe_offsetAt (offset : UInt64) :
    Safe Error.saturated (fun n => n ≤ r.size) ((r.offsetAt offset).map UInt64.toNat)
      (Unbounded.offsetAt r offset.toNat) := by
  have hmap : (r.offsetAt offset).map UInt64.toNat =
      r.offsetAt offset >>= fun a => .ok a.toNat := by
    cases r.offsetAt offset <;> rfl
  have hagree : Agree Error.saturated (fun a b => a = b ∧ a ≤ r.size)
      ((r.offsetAt offset).map UInt64.toNat)
      (Unbounded.offsetAt r offset.toNat >>= Pure.pure) := by
    rw [hmap]
    refine Agree.bind (agree_offsetAt r hsize offset) ?_
    rintro a _ ⟨rfl, hle, -⟩
    exact Agree.pure ⟨rfl, hle⟩
  rw [Reading.bind_pure] at hagree
  exact hagree.safe

/-- A count that fits into the room behind it is all that the words need. -/
theorem wordsAt_of_room (offset count : UInt64) (hcount : r.offsetAt offset = .ok count)
    (hroom : count.toNat ≤ r.room (offset + 32) 32) :
    ∃ ws, r.wordsAt offset = .ok ws ∧ ws.length = count.toNat := by
  have hle := add_32_le_of_offsetAt r hsize offset count hcount
  have hadd := toNat_add_32 r offset (by omega) hle
  have hend := (toNat_le_room_iff r count (offset + 32) 32 (by decide) (by omega)).mp hroom
  obtain ⟨ws, hws, hlen⟩ := exists_wordsFrom r hsize count.toNat (offset + 32) hend
  refine ⟨ws, ?_, hlen⟩
  simp only [wordsAt, hcount, bind, Except.bind, if_pos hroom, hws]

theorem safeAt (offset : UInt64) : r.SafeAt offset where
  sub := (agree_sub r offset).safe
  slice needed := (agree_slice r hsize offset needed).safe
  wordAt := (agree_wordAt r hsize offset).safe
  numberAt := (agree_numberAt r hsize offset).safe
  uintAt bits h8 h128 := (agree_uintAt r hsize offset bits h8 h128).safe
  uintAt_iff bits h8 h128 := uintAt_eq_ok_iff r offset bits h8 h128
  offsetAt := safe_offsetAt r hsize offset
  offsetAt_large w hw hlarge := offsetAt_of_large r hsize offset w hw hlarge
  bytesAt := by
    refine ((agree_bytesAt r hsize offset).mono ?_).safe
    rintro a b ⟨rfl, hle⟩
    exact ⟨rfl, by omega⟩
  wordsAt := by
    refine ((agree_wordsAt r hsize offset).mono ?_).safe
    rintro a b ⟨rfl, hle⟩
    exact ⟨rfl, by omega⟩
  wordsAt_room count hcount hroom := wordsAt_of_room r hsize offset count hcount hroom
  batches_room := by
    intro count hcount hroom
    have hle := add_32_le_of_offsetAt r hsize offset count hcount
    have hadd := toNat_add_32 r offset (by omega) hle
    have hend := (toNat_le_room_iff r count (offset + 32) _ (by decide) (by omega)).mp hroom
    have hread := readBatches_of_room r hsize count.toNat (offset + 32) hend
    rwa [hadd] at hread

end Region

/-- Whatever data a stranger sends, every reader gives what reading with unbounded positions
gives, nothing goes over or leaves the data on the way, and what comes back is bounded by
the data. -/
theorem readers_safe (data : Bytes) (hsize : data.length < 2 ^ 63) :
    (∀ offset, Region.SafeAt ⟨data⟩ offset) ∧
    Safe Error.saturated (fun b => b.length + 32 ≤ data.length) (decodeSingle data)
      (Unbounded.decodeSingle data) ∧
    Safe FormatError.saturated (fun e => e.payload.length + 32 ≤ data.length)
      (Envelope.decode data) (Unbounded.envelope data) ∧
    Safe FormatError.saturated
      (fun p => 32 * (p.dataRootProof.length + 1) ≤ data.length ∧
        32 * (p.leafProof.length + 1) ≤ data.length)
      (InclusionProof.decode data)
      ((Unbounded.inclusionProof data).mapError (.payload .inclusionProof)) ∧
    Safe Error.saturated (fun _ => True) (Record.decode data) (Unbounded.record data) ∧
    Safe SequenceCall.Error.saturated
      (fun c => 128 * c.batches.length + 32 ≤ data.length ∧
        c.message.length + 32 ≤ data.length)
      (SequenceCall.decode data) (Unbounded.sequenceCall data) := by
  have hproof := (agree_inclusionProof data hsize).mapError FormatError.saturated
    (FormatError.payload .inclusionProof) fun _ => rfl
  exact ⟨Region.safeAt ⟨data⟩ hsize, (agree_decodeSingle data hsize).safe,
    (agree_envelope data hsize).safe, hproof.safe, (agree_record data hsize).safe,
    (agree_sequenceCall data hsize).safe⟩

/-- Bytes behind an offset of `2 ^ 64 + 32`, which 64 bits would make an offset of 32. -/
def wrappingOffset : Bytes := write [.number (2 ^ 64 + 32), .bytes [1, 2, 3]]

/-- An offset that would wrap around is refused, and the error shows the greatest number in place of
the sum. -/
theorem readers_safe_wrappingOffset :
    wrappingOffset.length < 2 ^ 63 ∧
    decodeSingle wrappingOffset = .error (.outOfRange 0 (2 ^ 64 - 1)) ∧
    (Unbounded.decodeSingle wrappingOffset).result =
      .error (.outOfRange 0 (2 ^ 64 + 32)) := by
  have hsize : wrappingOffset.length < 2 ^ 63 := by decide
  have hunbounded : (Unbounded.decodeSingle wrappingOffset).result =
      .error (.outOfRange 0 (2 ^ 64 + 32)) := by rfl
  refine ⟨hsize, ?_, hunbounded⟩
  rw [(readers_safe wrappingOffset hsize).2.1.result, hunbounded]
  rfl

end Validium.Abi
