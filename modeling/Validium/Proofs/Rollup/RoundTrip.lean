import Validium.Inspection
import Validium.Proofs.Abi.Layout
import Validium.Proofs.Json.Fields
import Validium.Proofs.Message.RoundTrip

/-!
Sequencing calls are read back as they were written. A batch takes four words in place, so the
batches are found one behind the other, and the message behind the last of them, whatever their
number. The hashes told of a call are those of its batches, in their order, and a message that
was put into a call is found again in what is shown of the call.
-/
namespace Validium.Rollup.SequenceCall

open Abi

theorem length_batchPieces (b : Batch) : (write (batchPieces b)).length = 128 := by
  simp [batchPieces, Word.length_bytes]

section Readers

variable (r : Region) (hsize : r.size < 2 ^ 64)

include hsize

theorem readBatch_of_holds (start : UInt64) (b : Batch)
    (h : r.Holds start.toNat (write (batchPieces b))) : readBatch r start = .ok b := by
  have hle := h.length_le (by rw [length_batchPieces]; decide)
  rw [length_batchPieces] at hle
  simp only [batchPieces, Region.holds_write_cons, Piece.length_encode_word,
    Piece.length_encode_number] at h
  obtain ⟨hhash, hroot, htime, hblock, -⟩ := h
  have hadd : ∀ n : UInt64, n.toNat ≤ 96 → (start + n).toNat = start.toNat + n.toNat := by
    intro n hn
    exact r.toNat_add_of_le start n hsize (by omega)
  have h1 := Region.wordAt_of_holds r start b.transactionsHash hsize hhash
  have h2 := Region.wordAt_of_holds r (start + 32) b.forcedGlobalExitRoot hsize
    (by rw [hadd 32 (by decide)]; exact hroot)
  have h3 := Region.uintAt_of_holds r (start + 64) 64 b.forcedTimestamp.toNat hsize (by decide)
    (by decide) b.forcedTimestamp.toNat_lt (by rw [hadd 64 (by decide)]; exact htime)
  have h4 := Region.wordAt_of_holds r (start + 96) b.forcedBlockHash hsize
    (by rw [hadd 96 (by decide)]; exact hblock)
  simp only [readBatch, h1, h2, h3, h4, bind, Except.bind, pure, Except.pure,
    UInt64.ofNat_toNat]

/-- Batches in a row are read in their order, each where the one before it ends. -/
theorem readBatches_of_holds (start : UInt64) (batches : List Batch)
    (h : r.Holds start.toNat (write (batches.flatMap batchPieces))) :
    readBatches r batches.length start = .ok batches := by
  induction batches generalizing start with
  | nil => rfl
  | cons b rest ih =>
    rw [List.flatMap_cons, write_append, Region.holds_append, length_batchPieces] at h
    obtain ⟨hfirst, hrest⟩ := h
    have hle := hfirst.length_le (by rw [length_batchPieces]; decide)
    rw [length_batchPieces] at hle
    have hnext : (start + batchSize).toNat = start.toNat + 128 :=
      r.toNat_add_of_le start batchSize hsize hle
    have hread := readBatch_of_holds r hsize start b hfirst
    have hmore := ih (start + batchSize) (by rw [hnext]; exact hrest)
    simp only [List.length_cons, readBatches, hread, hmore, bind, Except.bind, pure, Except.pure]

theorem readAddress_of_holds (offset : UInt64) (c : SequenceCall)
    (h : r.Holds offset.toNat c.addressWord.bytes) : readAddress r offset = .ok c.coinbase := by
  have hword := Region.wordAt_of_holds r offset c.addressWord hsize h
  have hzeros : (c.addressWord.bytes.take 12).any (· != 0) = false := by
    rw [addressWord, List.take_left' List.length_replicate]
    decide
  have haddress : c.addressWord.bytes.drop 12 = c.coinbase.val :=
    List.drop_left' List.length_replicate
  simp only [readAddress, hword, bind, Except.bind, hzeros, haddress]
  rfl

end Readers

def argumentPieces (c : SequenceCall) : List Piece :=
  [.number batchesAt, .number c.leafCount.toNat, .number c.maxTimestamp.toNat,
    .word c.expectedHash, .word c.addressWord, .number c.messageAt, .number c.batches.length] ++
    c.batches.flatMap batchPieces ++ [.bytes c.message]

theorem encode_eq (c : SequenceCall) : c.encode = selector ++ write c.argumentPieces := rfl

theorem messageAt_eq (c : SequenceCall) : c.messageAt = 224 + c.batches.length * 128 := rfl

theorem length_arguments (c : SequenceCall) :
    (write c.argumentPieces).length = c.messageAt + (32 + paddedLength c.message.length) := by
  rw [argumentPieces, write_append, write_append, List.length_append, List.length_append,
    length_write_batches, messageAt_eq]
  simp [Word.length_bytes]

theorem length_selector : selector.length = 4 := Abi.length_selector _

theorem length_encode (c : SequenceCall) :
    c.encode.length = 4 + c.messageAt + (32 + paddedLength c.message.length) := by
  rw [encode_eq, List.length_append, length_selector, length_arguments, Nat.add_assoc]

def headPieces (c : SequenceCall) (first last : Nat) : List Piece :=
  [.number first, .number c.leafCount.toNat, .number c.maxTimestamp.toNat, .word c.expectedHash,
    .word c.addressWord, .number last]

theorem length_headPieces (c : SequenceCall) (first last : Nat) :
    (write (c.headPieces first last)).length = 192 := by
  simp [headPieces, Word.length_bytes]

def batchList (c : SequenceCall) : Bytes :=
  (Word.ofNat c.batches.length).bytes ++ write (c.batches.flatMap batchPieces)

theorem length_batchList (c : SequenceCall) :
    c.batchList.length = 32 + c.batches.length * 128 := by
  rw [batchList, List.length_append, Word.length_bytes, length_write_batches]

/-- The arguments start with the words of the call, and these lead to its batches and to its
message. -/
structure StandsAt (c : SequenceCall) (first last : Nat) (data : Bytes) : Prop where
  head : Region.Holds ⟨data⟩ 0 (write (c.headPieces first last))
  batches : Region.Holds ⟨data⟩ first c.batchList
  message : Region.Holds ⟨data⟩ last ((Word.ofNat c.message.length).bytes ++ c.message)

def StandsIn (c : SequenceCall) (data : Bytes) : Prop :=
  ∃ first last, c.StandsAt first last data

theorem readArguments_of_standsIn (c : SequenceCall) (data : Bytes) (hsize : data.length < 2 ^ 64)
    (h : c.StandsIn data) : readArguments data = .ok c := by
  have hregion : Region.size ⟨data⟩ < 2 ^ 64 := hsize
  obtain ⟨first, last, hhead, hlist, hmessage⟩ := h
  have hlistEnd := hlist.length_le (by rw [length_batchList]; omega)
  have hmessageEnd := hmessage.length_le (by rw [List.length_append, Word.length_bytes]; omega)
  rw [length_batchList] at hlistEnd
  rw [List.length_append, Word.length_bytes] at hmessageEnd
  simp only [headPieces, Region.holds_write_cons, Piece.length_encode_number,
    Piece.length_encode_word] at hhead
  obtain ⟨hplace, hleaves, htime, hexpected, haddress, hlast, -⟩ := hhead
  rw [batchList, Region.holds_append, Word.length_bytes] at hlist
  obtain ⟨hcount, hbatches⟩ := hlist
  have hto : ∀ n, n ≤ Region.size ⟨data⟩ → (UInt64.ofNat n).toNat = n := by
    intro n hn
    exact UInt64.toNat_ofNat_of_lt' (by change _ < 2 ^ 64; omega)
  have hfirstNat := hto first (by omega)
  have hlastNat := hto last (by omega)
  have hcountNat := hto c.batches.length (by omega)
  have hstart : (UInt64.ofNat first + 32).toNat = first + 32 := by
    rw [Region.toNat_add_32 ⟨data⟩ _ hregion (by omega), hfirstNat]
  have h1 := Region.offsetAt_of_holds ⟨data⟩ 0 first hregion (by omega) hplace
  have h2 := Region.offsetAt_of_holds ⟨data⟩ (UInt64.ofNat first) c.batches.length hregion
    (by omega) (by rw [hfirstNat]; exact hcount)
  have h3 := readBatches_of_holds ⟨data⟩ hregion (UInt64.ofNat first + 32) c.batches
    (by rw [hstart]; exact hbatches)
  have h4 := readAddress_of_holds ⟨data⟩ hregion 128 c haddress
  have h5 := Region.offsetAt_of_holds ⟨data⟩ 160 last hregion (by omega) hlast
  have h6 := Region.uintAt_of_holds ⟨data⟩ 32 32 _ hregion (by decide) (by decide)
    c.leafCount.toNat_lt hleaves
  have h7 := Region.uintAt_of_holds ⟨data⟩ 64 64 _ hregion (by decide) (by decide)
    c.maxTimestamp.toNat_lt htime
  have h8 := Region.wordAt_of_holds ⟨data⟩ 96 c.expectedHash hregion hexpected
  have h9 := Region.bytesAt_of_holds ⟨data⟩ (UInt64.ofNat last) c.message hregion
    (by rw [hlastNat]; exact hmessage)
  -- The count passes the check, since all batches stand in the data.
  have hroom : ¬ Region.room ⟨data⟩ (UInt64.ofNat first + 32) batchSize.toNat <
      c.batches.length := by
    have hstride : batchSize.toNat = 128 := rfl
    rw [Region.room, hstride, hstart, Nat.not_lt, Nat.le_div_iff_mul_le (by decide)]
    omega
  simp only [readArguments, h1, h2, hcountNat, if_neg hroom, h3, h4, h5, h6, h7, h8, h9, bind,
    Except.bind, pure, Except.pure, UInt32.ofNat_toNat, UInt64.ofNat_toNat]

/-- A written call has its batches behind its head, and its message behind these. -/
theorem standsAt_write (c : SequenceCall) :
    c.StandsAt batchesAt c.messageAt (write c.argumentPieces) := by
  have hwhole := Region.holds_whole (write c.argumentPieces)
  have hpieces : write c.argumentPieces =
      write (c.headPieces batchesAt c.messageAt) ++
        (c.batchList ++ (Piece.bytes c.message).encode) := by
    simp [argumentPieces, headPieces, batchList, write_append]
  nth_rewrite 2 [hpieces] at hwhole
  rw [Region.holds_append, Region.holds_append, length_headPieces, length_batchList] at hwhole
  obtain ⟨hhead, hlist, hmessage⟩ := hwhole
  have hlast : c.messageAt = 0 + 192 + (32 + c.batches.length * 128) := by
    rw [messageAt_eq]
    omega
  rw [← hlast] at hmessage
  exact ⟨hhead, hlist, ((Region.holds_append _ _ _ _).mp hmessage).1⟩

theorem readArguments_write (c : SequenceCall) (hsize : (write c.argumentPieces).length < 2 ^ 64) :
    readArguments (write c.argumentPieces) = .ok c :=
  c.readArguments_of_standsIn _ hsize ⟨_, _, c.standsAt_write⟩

/-- Behind its selector a call is read from its arguments. -/
theorem decode_append (data : Bytes) :
    decode (selector ++ data) = (readArguments data).mapError .malformed := by
  have hcall : ¬ ((selector ++ data).length < 4 ∨ (selector ++ data).take 4 ≠ selector) := by
    rw [List.take_left' length_selector, List.length_append, length_selector]
    simp
  rw [decode, if_neg hcall, List.drop_left' length_selector]

theorem decode_encode (c : SequenceCall) (h : c.encode.length < 2 ^ 64) :
    decode c.encode = .ok c := by
  rw [encode_eq, List.length_append] at h
  rw [encode_eq, decode_append, readArguments_write c (by omega)]
  rfl

theorem length_message_le (c : SequenceCall) : c.message.length ≤ c.encode.length := by
  have h := le_paddedLength c.message.length
  rw [length_encode]
  omega

theorem calldata_encode (c : SequenceCall) (h : c.encode.length < 2 ^ 64) :
    Inspection.calldata c.encode = .ok (Json.Value.ofFields
      (c.toFields ++ [("decodedMessage", Inspection.decodedMessage c.message)])) := by
  rw [Inspection.calldata, decode_encode c h]

/-- What is shown of a call has its message decoded. -/
theorem field?_decodedMessage (c : SequenceCall) (v : Json.Value) :
    (Json.Value.ofFields (c.toFields ++ [("decodedMessage", v)])).field? "decodedMessage" =
      some v := by
  rw [Json.Value.field?_ofFields, List.reverse_append]
  rfl

/-- A call is found again in its bytes, with the hashes of its batches in their order. Where
the message of the call was made from one of ours, reading it gives that message, which is also
what is shown of the call as its message decoded. -/
theorem calls_read_back :
    (∀ c : SequenceCall, c.encode.length < 2 ^ 64 →
      decode c.encode = .ok c ∧
      (decode c.encode).map transactionsHashes =
        .ok (c.batches.map fun b => b.transactionsHash)) ∧
    ∀ (c : SequenceCall) (m : Message), c.encode.length < 2 ^ 64 → c.message = m.encode →
      (∃ call, decode c.encode = .ok call ∧ Message.decode call.message = .ok m) ∧
      ∃ shown, Inspection.calldata c.encode = .ok shown ∧
        shown.field? "decodedMessage" = some m.toJson := by
  constructor
  · intro c h
    refine ⟨decode_encode c h, ?_⟩
    rw [decode_encode c h]
    rfl
  · intro c m h hmessage
    have hlength : m.encode.length < 2 ^ 64 := by
      rw [← hmessage]
      exact Nat.lt_of_le_of_lt c.length_message_le h
    have hread : Message.decode c.message = .ok m := by
      rw [hmessage]
      exact Message.decode_encode m hlength
    have hshown : Inspection.decodedMessage c.message = m.toJson := by
      rw [Inspection.decodedMessage, hread]
    refine ⟨⟨c, decode_encode c h, hread⟩, _, calldata_encode c h, ?_⟩
    rw [hshown, field?_decodedMessage]

def twoBatches : SequenceCall where
  batches := [⟨Word.ofNat 1, Word.ofNat 2, 0xffffffffffffffff, Word.ofNat 3⟩,
    ⟨Word.ofNat 4, Word.ofNat 5, 0, Word.ofNat 6⟩]
  leafCount := 0xffffffff
  maxTimestamp := 7
  expectedHash := Word.ofNat 8
  coinbase := ⟨List.replicate 20 0xff, rfl⟩
  message := (Message.inclusionProof Message.unevenProof).encode

/-- Two batches come back in their order, and the message inside the call is shown decoded. -/
theorem calls_read_back_twoBatches :
    twoBatches.encode.length < 2 ^ 64 ∧
    (decode twoBatches.encode).map transactionsHashes = .ok [Word.ofNat 1, Word.ofNat 4] ∧
    ∃ shown, Inspection.calldata twoBatches.encode = .ok shown ∧
      shown.field? "decodedMessage" = some (Message.inclusionProof Message.unevenProof).toJson := by
  have hlength : twoBatches.encode.length < 2 ^ 64 := by
    rw [length_encode, messageAt_eq, twoBatches, Message.length_encode, Message.payload,
      Message.InclusionProof.length_encode]
    decide
  exact ⟨hlength, (calls_read_back.1 _ hlength).2,
    (calls_read_back.2 _ (.inclusionProof Message.unevenProof) hlength rfl).2⟩

end Validium.Rollup.SequenceCall
