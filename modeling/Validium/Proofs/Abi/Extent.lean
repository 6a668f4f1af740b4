import Validium.Proofs.Attestation.Agreement
import Validium.Proofs.Message.Dispatch
import Validium.Proofs.Rollup.Exact

/-!
How far an accepted value reaches into the data. What has been read stands in the data, and still
stands there when more follows, so bytes behind an accepted value change nothing. What a writer
has written can be cut off up to its last byte that means something, and no further: padding may
go, and everything else is missed.
-/
namespace Validium

open Abi Message Rollup Attestation

/-! More bytes behind the data. -/

namespace Abi

theorem Region.Holds.append {data b : Bytes} {start : Nat} (h : Holds ⟨data⟩ start b)
    (tail : Bytes) : Holds ⟨data ++ tail⟩ start b := by
  unfold Holds at h ⊢
  dsimp only at h ⊢
  rw [List.drop_append]
  exact h.trans (List.prefix_append _ _)

theorem Frames.append {data payload : Bytes} (h : Frames data payload) (tail : Bytes) :
    Frames (data ++ tail) payload := by
  obtain ⟨start, hplace, hbytes⟩ := h
  exact ⟨start, hplace.append tail, hbytes.append tail⟩

end Abi

namespace Message

theorem Envelope.decode_cons (tag : UInt8) (rest : Bytes) (e : Envelope) :
    Envelope.decode (tag :: rest) = .ok e ↔ e.tag = tag ∧ decodeSingle rest = .ok e.payload := by
  obtain ⟨tag', payload'⟩ := e
  cases hrest : decodeSingle rest with
  | error fault => simp [decode, hrest]
  | ok payload =>
    simp [decode, hrest]
    tauto

theorem InclusionProof.StandsIn.append {p : InclusionProof} {data : Bytes} (h : p.StandsIn data)
    (tail : Bytes) : p.StandsIn (data ++ tail) := by
  obtain ⟨start, first, second, hplace, hhead, hdata, hleaf⟩ := h
  refine ⟨start, first, second, hplace.append tail, ?_⟩
  rw [List.drop_append]
  exact ⟨hhead.append _, hdata.append _, hleaf.append _⟩

end Message

namespace Attestation

theorem Record.HeldBy.append {r : Record} {data : Bytes} (h : r.HeldBy data) (tail : Bytes) :
    r.HeldBy (data ++ tail) := by
  obtain ⟨htwo, hblock, hleaf⟩ := h
  refine ⟨by rw [List.length_append]; omega, ?_, ?_⟩
  · rw [List.take_append_of_le_length (by omega)]
    exact hblock
  · rw [List.drop_append_of_le_length (by omega),
      List.take_append_of_le_length (by rw [List.length_drop]; omega)]
    exact hleaf

end Attestation

namespace Rollup.SequenceCall

theorem StandsAt.append {c : SequenceCall} {first last : Nat} {data : Bytes}
    (h : c.StandsAt first last data) (tail : Bytes) : c.StandsAt first last (data ++ tail) :=
  ⟨h.head.append tail, h.batches.append tail, h.message.append tail⟩

end Rollup.SequenceCall

section Prolonged

variable {data : Bytes} (tail : Bytes) (hsize : data.length + tail.length < 2 ^ 63)

include hsize

theorem Abi.decodeSingle_append {payload : Bytes} (h : decodeSingle data = .ok payload) :
    decodeSingle (data ++ tail) = .ok payload := by
  rw [decodeSingle_eq_ok_iff _ _ (by omega)] at h
  rw [decodeSingle_eq_ok_iff _ _ (by rw [List.length_append]; omega)]
  exact h.append tail

theorem Message.Envelope.decode_append {e : Envelope} (h : Envelope.decode data = .ok e) :
    Envelope.decode (data ++ tail) = .ok e := by
  cases data with
  | nil => cases h
  | cons tag rest =>
    rw [Envelope.decode_cons] at h
    rw [List.length_cons] at hsize
    rw [List.cons_append, Envelope.decode_cons]
    exact ⟨h.1, decodeSingle_append tail (by omega) h.2⟩

/-- The payload of a message is found as before, so it is read as before. -/
theorem Message.decode_append {m : Message} (h : Message.decode data = .ok m) :
    Message.decode (data ++ tail) = .ok m := by
  obtain ⟨payload, ⟨rest, hdata, hframe⟩, hread⟩ := ((dispatched data).message m).mp h
  rw [hdata, List.length_cons] at hsize
  refine ((dispatched (data ++ tail)).message m).mpr ⟨payload, ⟨rest ++ tail, ?_, ?_⟩, hread⟩
  · rw [hdata, List.cons_append]
  · exact decodeSingle_append tail (by omega) hframe

theorem Message.InclusionProof.read_append {p : InclusionProof}
    (h : InclusionProof.read data = .ok p) : InclusionProof.read (data ++ tail) = .ok p := by
  rw [InclusionProof.read_eq_ok_iff (by omega)] at h
  rw [InclusionProof.read_eq_ok_iff (by rw [List.length_append]; omega)]
  exact h.append tail

theorem Rollup.SequenceCall.readArguments_append {c : SequenceCall}
    (h : readArguments data = .ok c) : readArguments (data ++ tail) = .ok c := by
  rw [readArguments_eq_ok_iff (by omega)] at h
  obtain ⟨first, last, hstands⟩ := h
  rw [readArguments_eq_ok_iff (by rw [List.length_append]; omega)]
  exact ⟨first, last, hstands.append tail⟩

theorem Rollup.SequenceCall.decode_prolonged {c : SequenceCall}
    (h : SequenceCall.decode data = .ok c) : SequenceCall.decode (data ++ tail) = .ok c := by
  rw [SequenceCall.decode_eq_ok_iff _ (by omega)] at h
  obtain ⟨rest, hdata, first, last, hstands⟩ := h
  rw [SequenceCall.decode_eq_ok_iff _ (by rw [List.length_append]; omega)]
  exact ⟨rest ++ tail, by rw [hdata, List.append_assoc], first, last, hstands.append tail⟩

end Prolonged

/-- Whatever data are accepted, in the layout of a writer or in another, are accepted with the
same value when more bytes follow. -/
theorem Abi.trailing_bytes_ignored (data tail : Bytes)
    (hsize : data.length + tail.length < 2 ^ 63) :
    (∀ payload, decodeSingle data = .ok payload → decodeSingle (data ++ tail) = .ok payload) ∧
    (∀ e, Envelope.decode data = .ok e → Envelope.decode (data ++ tail) = .ok e) ∧
    (∀ m, Message.decode data = .ok m → Message.decode (data ++ tail) = .ok m) ∧
    (∀ p, InclusionProof.decode data = .ok p → InclusionProof.decode (data ++ tail) = .ok p) ∧
    (∀ r, Record.decode data = .ok r → Record.decode (data ++ tail) = .ok r) ∧
    (∀ c, SequenceCall.decode data = .ok c → SequenceCall.decode (data ++ tail) = .ok c) := by
  refine ⟨fun _ => decodeSingle_append tail hsize, fun _ => Envelope.decode_append tail hsize,
    fun _ => Message.decode_append tail hsize, ?_, ?_,
    fun _ => SequenceCall.decode_prolonged tail hsize⟩
  · intro p h
    rw [InclusionProof.decode, mapError_eq_ok_iff] at h ⊢
    exact InclusionProof.read_append tail hsize h
  · intro r h
    rw [Record.decode_eq_ok_iff] at h ⊢
    exact h.append tail

/-- A proof both of whose lists are the same words of its head is read behind other bytes too. -/
theorem Abi.trailing_bytes_ignored_folded :
    Message.decode ((2 :: encodeSingle foldedPayload) ++ [0xff, 0]) =
      .ok (.inclusionProof foldedProof) := by
  have hread : Message.decode (2 :: encodeSingle foldedPayload) =
      .ok (.inclusionProof foldedProof) := by decide +kernel
  exact (trailing_bytes_ignored (2 :: encodeSingle foldedPayload) [0xff, 0]
    (by decide +kernel)).2.2.1 _ hread

/-! Fewer bytes than were written. -/

namespace Abi

theorem Region.Holds.take {data b : Bytes} {start n : Nat} (h : Holds ⟨data⟩ start b)
    (hn : start + b.length ≤ n) : Holds ⟨data.take n⟩ start b := by
  unfold Holds at h ⊢
  dsimp only at h ⊢
  rw [List.drop_take, List.prefix_take_iff]
  exact ⟨h, by omega⟩

/-- At one position stands one number. -/
theorem Region.Holds.number_unique {r : Region} {start m n : Nat}
    (hm : r.Holds start (Word.ofNat m).bytes) (hn : r.Holds start (Word.ofNat n).bytes)
    (hmBound : m < 2 ^ 256) (hnBound : n < 2 ^ 256) : m = n := by
  have hlength : (Word.ofNat m).bytes.length = (Word.ofNat n).bytes.length := by
    rw [Word.length_bytes, Word.length_bytes]
  have hsame := (List.prefix_of_prefix_length_le hm hn hlength.le).eq_of_length hlength
  rw [← Word.toNat_ofNat m hmBound, ← Word.toNat_ofNat n hnBound, Word.toNat, Word.toNat, hsame]

/-- Where a reader does not mind what follows, a part that it accepts is read as the whole. -/
theorem eq_of_read_take {ε α : Type} {read : Bytes → Except ε α}
    (hprolonged : ∀ {data : Bytes} (tail : Bytes), data.length + tail.length < 2 ^ 63 →
      ∀ {v : α}, read data = .ok v → read (data ++ tail) = .ok v)
    {whole : Bytes} {n : Nat} {v v' : α} (hsize : whole.length < 2 ^ 63)
    (hwhole : read whole = .ok v) (h : read (whole.take n) = .ok v') : v' = v := by
  have hsplit := List.take_append_drop n whole
  have hlonger := hprolonged (whole.drop n) (by rw [← List.length_append, hsplit]; exact hsize) h
  rw [hsplit, hwhole] at hlonger
  exact (Except.ok.inj hlonger).symm

/-- One payload is written as the place of its length, the length and the payload. -/
theorem holds_encodeSingle (payload : Bytes) :
    Region.Holds ⟨encodeSingle payload⟩ 0 (Word.ofNat 32).bytes ∧
      Region.Holds ⟨encodeSingle payload⟩ 32 ((Word.ofNat payload.length).bytes ++ payload) := by
  have hwhole := Region.holds_whole (write [.number 32, .bytes payload])
  rw [Region.holds_write_cons, Region.holds_write_cons] at hwhole
  obtain ⟨hstart, hbytes, -⟩ := hwhole
  exact ⟨hstart, ((Region.holds_append _ _ _ _).mp hbytes).1⟩

/-- A payload is needed to its end, and the padding behind it is not. -/
theorem decodeSingle_take_iff (payload b : Bytes) (n : Nat)
    (hsize : (encodeSingle payload).length < 2 ^ 63) :
    decodeSingle ((encodeSingle payload).take n) = .ok b ↔
      b = payload ∧ 64 + payload.length ≤ n := by
  obtain ⟨hplace, hbody⟩ := holds_encodeSingle payload
  have hcut : ((encodeSingle payload).take n).length ≤ (encodeSingle payload).length :=
    List.length_take_le' n _
  constructor
  · intro h
    have hsame := eq_of_read_take decodeSingle_append hsize
      (decodeSingle_encodeSingle payload (by omega)) h
    rw [hsame] at h
    obtain ⟨start, hstart, hbytes⟩ := (decodeSingle_eq_ok_iff _ _ (by omega)).mp h
    have hend := hbytes.length_le (by rw [List.length_append, Word.length_bytes]; omega)
    rw [List.length_append, Word.length_bytes, Region.size, List.length_take] at hend
    have hstart' := hstart.append ((encodeSingle payload).drop n)
    rw [List.take_append_drop] at hstart'
    have hstart32 := hstart'.number_unique hplace (by omega) (by decide)
    exact ⟨hsame, by omega⟩
  · rintro ⟨rfl, hn⟩
    rw [decodeSingle_eq_ok_iff _ _ (by omega)]
    refine ⟨32, hplace.take (by rw [Word.length_bytes]; omega), hbody.take ?_⟩
    rw [List.length_append, Word.length_bytes]
    omega

end Abi

def FormatError.OfFraming (e : FormatError) : Prop :=
  e = .emptyEnvelope ∨ ∃ fault, e = .envelope fault

namespace Message

theorem Envelope.ofFraming_of_decode {data : Bytes} {fault : FormatError}
    (h : Envelope.decode data = .error fault) : fault.OfFraming := by
  unfold decode at h
  split at h
  · cases h
    exact Or.inl rfl
  · split at h
    · cases h
    · cases h
      exact Or.inr ⟨_, rfl⟩

/-- The tag and the payload of an envelope are needed, and the padding behind them is not. -/
theorem Envelope.decode_take_iff (e v : Envelope) (n : Nat) (hsize : e.encode.length < 2 ^ 63) :
    Envelope.decode (e.encode.take n) = .ok v ↔ v = e ∧ 65 + e.payload.length ≤ n := by
  have hbody : (encodeSingle e.payload).length < 2 ^ 63 := by
    rw [Envelope.encode, List.length_cons] at hsize
    omega
  cases n with
  | zero =>
    constructor
    · intro h
      cases h
    · rintro ⟨-, hn⟩
      omega
  | succ n =>
    rcases e with ⟨tag, payload⟩
    rcases v with ⟨tag', payload'⟩
    rw [Envelope.encode, List.take_succ_cons, decode_cons, decodeSingle_take_iff _ _ n hbody,
      Envelope.mk.injEq, ← and_assoc]
    dsimp only
    refine and_congr_right ?_
    intro hsame
    omega

namespace InclusionProof

/-- Where the writer puts the head of the tuple. -/
theorem holds_encode (p : InclusionProof) :
    Region.Holds ⟨p.encode⟩ 0 (Word.ofNat 32).bytes ∧
      Region.Holds ⟨p.encode.drop 32⟩ 0 (write (p.headPieces dataRootProofAt p.leafProofAt)) := by
  have hplace := Region.holds_whole p.encode
  have htuple : p.encode.drop 32 = write p.tuplePieces := by
    rw [encode_eq, List.drop_left' (Word.length_bytes _)]
  have hpieces : p.tuplePieces = p.headPieces dataRootProofAt p.leafProofAt ++
      [.words p.dataRootProof, .words p.leafProof] := rfl
  have hhead := Region.holds_whole (write p.tuplePieces)
  nth_rewrite 2 [encode_eq] at hplace
  nth_rewrite 2 [hpieces] at hhead
  rw [Region.holds_append] at hplace
  rw [write_append, Region.holds_append] at hhead
  rw [htuple]
  exact ⟨hplace.1, hhead.1⟩

/-- The second list ends with the last byte that is written, so all of them are needed. -/
theorem length_le_of_read_take (p q : InclusionProof) (n : Nat) (hsize : p.encode.length < 2 ^ 63)
    (h : InclusionProof.read (p.encode.take n) = .ok q) : p.encode.length ≤ n := by
  have hcut : (p.encode.take n).length ≤ p.encode.length := List.length_take_le' n _
  have hsplit := List.take_append_drop n p.encode
  have hp : read p.encode = .ok p := by
    have hdecode := p.decode_encode (by omega)
    rwa [decode, mapError_eq_ok_iff] at hdecode
  rw [eq_of_read_take read_append hsize hp h] at h
  obtain ⟨start, first, second, hstart, hhead, -, hleaf⟩ :=
    (read_eq_ok_iff (by omega)).mp h
  obtain ⟨hplace, hhead'⟩ := p.holds_encode
  have hheadEnd := hhead.length_le (by rw [length_headPieces]; decide)
  have hleafEnd := hleaf.length_le (by rw [Piece.length_encode_words]; omega)
  rw [length_headPieces, Region.size, List.length_drop] at hheadEnd
  rw [Piece.length_encode_words, Region.size, List.length_drop] at hleafEnd
  have hsame := hstart.append (p.encode.drop n)
  rw [hsplit] at hsame
  have hstart32 := hsame.number_unique hplace (by omega) (by decide)
  subst hstart32
  have hlonger := hhead.append ((p.encode.drop n).drop (32 - (p.encode.take n).length))
  rw [← List.drop_append, hsplit] at hlonger
  simp only [headPieces, Region.holds_write_cons, Piece.length_encode_number] at hlonger hhead'
  have hbound : p.leafProofAt < 2 ^ 256 := by
    have hlength := p.length_encode
    simp only [leafProofAt, dataRootProofAt]
    omega
  have hsecond := hlonger.2.1.number_unique hhead'.2.1 (by omega) hbound
  rw [List.length_take] at hleafEnd
  rw [length_encode]
  rw [hsecond] at hleafEnd
  simp only [leafProofAt, dataRootProofAt] at hleafEnd
  omega

/-- An encoded proof that is cut off behind is refused. -/
theorem decode_of_strict_prefix (p : InclusionProof) {data : Bytes} (hfront : data <+: p.encode)
    (hne : data ≠ p.encode) (hsize : p.encode.length < 2 ^ 63) :
    ∃ fault, decode data = .error (.payload .inclusionProof fault) := by
  have hcut : p.encode.take data.length = data := (List.prefix_iff_eq_take.mp hfront).symm
  cases hread : read data with
  | error fault =>
    refine ⟨fault, ?_⟩
    rw [decode, hread]
    rfl
  | ok q =>
    rw [← hcut] at hread
    have hle := length_le_of_read_take p q data.length hsize hread
    exact absurd (hfront.eq_of_length (Nat.le_antisymm hfront.length_le hle)) hne

end InclusionProof

/-- An envelope that ends inside its payload is refused by the framing. -/
theorem Envelope.exists_fault_of_take (e : Envelope) {n : Nat} (hn : n < 65 + e.payload.length)
    (hsize : e.encode.length < 2 ^ 63) :
    ∃ fault, Envelope.decode (e.encode.take n) = .error fault ∧ fault.OfFraming := by
  cases hdecode : Envelope.decode (e.encode.take n) with
  | error fault => exact ⟨fault, rfl, ofFraming_of_decode hdecode⟩
  | ok v =>
    have hlong := ((decode_take_iff e v n hsize).mp hdecode).2
    omega

end Message

namespace Rollup.SequenceCall

/-- A call is needed up to the end of its message, and the padding behind it is not. -/
theorem readArguments_take_iff (c d : SequenceCall) (n : Nat)
    (hsize : (write c.argumentPieces).length < 2 ^ 63) :
    readArguments ((write c.argumentPieces).take n) = .ok d ↔
      d = c ∧ c.messageAt + 32 + c.message.length ≤ n := by
  have hwritten := c.standsAt_write
  have hcut : ((write c.argumentPieces).take n).length ≤ (write c.argumentPieces).length :=
    List.length_take_le' n _
  have hsplit := List.take_append_drop n (write c.argumentPieces)
  constructor
  · intro h
    have hsame := eq_of_read_take readArguments_append hsize (c.readArguments_write (by omega)) h
    rw [hsame] at h
    obtain ⟨first, last, hstands⟩ := (readArguments_eq_ok_iff (by omega) c).mp h
    have hwhole := hstands.append ((write c.argumentPieces).drop n)
    rw [hsplit] at hwhole
    have hend := hstands.message.length_le (by rw [List.length_append, Word.length_bytes]; omega)
    rw [List.length_append, Word.length_bytes, Region.size, List.length_take] at hend
    have hhead := hwhole.head
    have hhead' := hwritten.head
    simp only [headPieces, Region.holds_write_cons, Piece.length_encode_number,
      Piece.length_encode_word] at hhead hhead'
    have hbound : c.messageAt < 2 ^ 256 := by
      have hlength := c.length_arguments
      omega
    have hlast := hhead.2.2.2.2.2.1.number_unique hhead'.2.2.2.2.2.1 (by omega) hbound
    exact ⟨hsame, by omega⟩
  · rintro ⟨rfl, hn⟩
    rw [readArguments_eq_ok_iff (by omega)]
    have hmessageAt := d.messageAt_eq
    refine ⟨batchesAt, d.messageAt, hwritten.head.take ?_, hwritten.batches.take ?_,
      hwritten.message.take ?_⟩
    · rw [length_headPieces]
      omega
    · rw [length_batchList, batchesAt]
      omega
    · rw [List.length_append, Word.length_bytes]
      omega

theorem decode_take_of_lt (c : SequenceCall) {n : Nat} (hn : n < 4) :
    decode (c.encode.take n) = .error .otherCall := by
  apply decode_eq_otherCall
  intro rest h
  have hlength := congrArg List.length h
  rw [List.length_append, length_selector] at hlength
  have hcut := List.length_take_le n c.encode
  omega

/-- Behind the selector the arguments are what is cut. -/
theorem decode_take (c : SequenceCall) {n : Nat} (hn : 4 ≤ n) :
    decode (c.encode.take n) =
      (readArguments ((write c.argumentPieces).take (n - 4))).mapError .malformed := by
  rw [encode_eq, List.take_append, length_selector,
    List.take_of_length_le (by rw [length_selector]; exact hn), SequenceCall.decode_append]

/-- Whether a call can still be read depends on where its bytes are cut off. -/
theorem decode_take_cases (c : SequenceCall) (n : Nat) (hsize : c.encode.length < 2 ^ 63) :
    (n < 4 → decode (c.encode.take n) = .error .otherCall) ∧
    (4 ≤ n → n < 4 + 32 * (8 + 4 * c.batches.length) + c.message.length →
      ∃ fault, decode (c.encode.take n) = .error (.malformed fault)) ∧
    (4 + 32 * (8 + 4 * c.batches.length) + c.message.length ≤ n →
      decode (c.encode.take n) = .ok c) := by
  have harguments : (write c.argumentPieces).length < 2 ^ 63 := by
    rw [encode_eq, List.length_append] at hsize
    omega
  have hmessageAt := c.messageAt_eq
  refine ⟨decode_take_of_lt c, ?_, ?_⟩
  · intro hselector hn
    rw [decode_take c hselector]
    cases hread : readArguments ((write c.argumentPieces).take (n - 4)) with
    | error fault => exact ⟨fault, rfl⟩
    | ok d =>
      have hlong := ((readArguments_take_iff c d (n - 4) harguments).mp hread).2
      omega
  · intro hn
    rw [decode_take c (by omega),
      (readArguments_take_iff c c (n - 4) harguments).mpr ⟨rfl, by omega⟩]
    rfl

end Rollup.SequenceCall

/-- Where written bytes are cut off, only padding may be missing: what is read then is what was
written, and with one byte less nothing is read at all. A proof ends without padding. -/
theorem Abi.truncation_detected :
    (∀ (e : Envelope) (n : Nat), e.encode.length < 2 ^ 63 →
      (65 + e.payload.length ≤ n → Envelope.decode (e.encode.take n) = .ok e) ∧
      (n < 65 + e.payload.length →
        ∃ fault, Envelope.decode (e.encode.take n) = .error fault ∧ fault.OfFraming)) ∧
    (∀ (p : InclusionProof) (data : Bytes), p.encode.length < 2 ^ 63 → data <+: p.encode →
      data ≠ p.encode →
      ∃ fault, InclusionProof.decode data = .error (.payload .inclusionProof fault)) ∧
    (∀ (c : SequenceCall) (n : Nat), c.encode.length < 2 ^ 63 →
      (n < 4 → SequenceCall.decode (c.encode.take n) = .error .otherCall) ∧
      (4 ≤ n → n < 4 + 32 * (8 + 4 * c.batches.length) + c.message.length →
        ∃ fault, SequenceCall.decode (c.encode.take n) = .error (.malformed fault)) ∧
      (4 + 32 * (8 + 4 * c.batches.length) + c.message.length ≤ n →
        SequenceCall.decode (c.encode.take n) = .ok c)) := by
  refine ⟨?_, fun p data hsize hfront hne => p.decode_of_strict_prefix hfront hne hsize,
    fun c n hsize => c.decode_take_cases n hsize⟩
  intro e n hsize
  constructor
  · intro hn
    exact (e.decode_take_iff e n hsize).mpr ⟨rfl, hn⟩
  · intro hn
    exact e.exists_fault_of_take hn hsize

/-- Three bytes of a payload with 29 bytes of padding, a proof without its last byte, and a call
with two batches and a message of 513 bytes: without its padding, without one byte more, and
without a whole selector. -/
theorem Abi.truncation_detected_unevenly :
    Envelope.decode ((Envelope.mk 7 [1, 2, 3]).encode.take 68) = .ok ⟨7, [1, 2, 3]⟩ ∧
    (∃ fault, Envelope.decode ((Envelope.mk 7 [1, 2, 3]).encode.take 67) = .error fault ∧
      fault.OfFraming) ∧
    (∃ fault, InclusionProof.decode (unevenProof.encode.take 447) =
      .error (.payload .inclusionProof fault)) ∧
    SequenceCall.decode (SequenceCall.twoBatches.encode.take 1029) =
      .ok SequenceCall.twoBatches ∧
    (∃ fault, SequenceCall.decode (SequenceCall.twoBatches.encode.take 1028) =
      .error (.malformed fault)) ∧
    SequenceCall.decode (SequenceCall.twoBatches.encode.take 3) = .error .otherCall := by
  have henvelope : (Envelope.mk 7 [1, 2, 3]).encode.length < 2 ^ 63 := by decide +kernel
  have hproof : unevenProof.encode.length = 448 := by
    rw [InclusionProof.length_encode]
    rfl
  have hmessage : SequenceCall.twoBatches.message.length = 513 := by
    show (inclusionProof unevenProof).encode.length = 513
    rw [Message.length_encode, payload, hproof]
    rfl
  have hbatches : SequenceCall.twoBatches.batches.length = 2 := rfl
  have hcall : SequenceCall.twoBatches.encode.length < 2 ^ 63 := by
    rw [SequenceCall.length_encode, SequenceCall.messageAt_eq, hmessage, hbatches]
    decide
  obtain ⟨henvelopes, hproofs, hcalls⟩ := truncation_detected
  refine ⟨(henvelopes _ 68 henvelope).1 (by decide), (henvelopes _ 67 henvelope).2 (by decide),
    hproofs unevenProof _ (by omega) (List.take_prefix _ _) ?_,
    (hcalls _ 1029 hcall).2.2 (by rw [hbatches, hmessage]),
    (hcalls _ 1028 hcall).2.1 (by decide) (by rw [hbatches, hmessage]; decide),
    (hcalls _ 3 hcall).1 (by decide)⟩
  intro hwhole
  have hlength := congrArg List.length hwhole
  rw [List.length_take, hproof] at hlength
  omega

end Validium
