import Validium.Attestation.Record
import Validium.Message.Basic
import Validium.Proofs.Abi.Reading

/-!
Messages are read back as they were written. The payload of each kind is found at the
positions that its writer has computed, and the envelope gives the payload back whole. So a
message determines its bytes and the bytes determine the message.
-/
namespace Validium.Message

open Abi

namespace BlobPointer

theorem length_encode (p : BlobPointer) : p.encode.length = size := by
  simp [encode, write, size, Word.length_bytes]

theorem decode_encode (p : BlobPointer) : decode p.encode = .ok p := by
  have hsize : Region.size ⟨p.encode⟩ < 2 ^ 64 := by
    rw [Region.size, length_encode, size]
    decide
  have hwhole : Region.Holds ⟨p.encode⟩ 0 p.encode := Region.holds_whole _
  simp only [encode, Region.holds_write_cons, Piece.length_encode_number,
    Piece.length_encode_word] at hwhole
  obtain ⟨hversion, hheight, hindex, hcommitment, -⟩ := hwhole
  have h1 := Region.uintAt_of_holds _ 0 8 _ hsize (by decide) (by decide)
    p.version.toNat_lt hversion
  have h2 := Region.uintAt_of_holds _ 32 32 _ hsize (by decide) (by decide)
    p.blockHeight.toNat_lt hheight
  have h3 := Region.uintAt_of_holds _ 64 32 _ hsize (by decide) (by decide)
    p.extrinsicIndex.toNat_lt hindex
  have h4 := Region.wordAt_of_holds _ 96 _ hsize hcommitment
  have hlen : ¬ p.encode.length ≠ size := not_not_intro p.length_encode
  simp only [decode, read, if_neg hlen, h1, h2, h3, h4, bind, Except.bind, pure, Except.pure,
    Except.mapError, UInt8.ofNat_toNat, UInt32.ofNat_toNat]

end BlobPointer

namespace InclusionProof

def tuplePieces (p : InclusionProof) : List Piece :=
  [.number dataRootProofAt, .number p.leafProofAt, .word p.rangeHash,
    .number p.dataRootIndex.toNat, .word p.blobRoot, .word p.bridgeRoot, .word p.leaf,
    .number p.leafIndex.toNat, .words p.dataRootProof, .words p.leafProof]

theorem encode_eq (p : InclusionProof) :
    p.encode = (Word.ofNat 32).bytes ++ write p.tuplePieces := rfl

theorem length_tuple (p : InclusionProof) :
    (write p.tuplePieces).length = p.leafProofAt + 32 + 32 * p.leafProof.length := by
  simp [tuplePieces, leafProofAt, dataRootProofAt, Word.length_bytes]
  omega

theorem length_encode (p : InclusionProof) :
    p.encode.length = 320 + 32 * p.dataRootProof.length + 32 + 32 * p.leafProof.length := by
  rw [encode_eq, List.length_append, Word.length_bytes, length_tuple]
  simp only [leafProofAt, dataRootProofAt]
  omega

theorem decode_encode (p : InclusionProof) (hp : p.encode.length < 2 ^ 64) :
    decode p.encode = .ok p := by
  have hsize : Region.size ⟨write p.tuplePieces⟩ < 2 ^ 64 := by
    rw [encode_eq, List.length_append] at hp
    exact Nat.lt_of_le_of_lt (Nat.le_add_left _ _) hp
  have hlast : p.leafProofAt ≤ Region.size ⟨write p.tuplePieces⟩ := by
    rw [Region.size, length_tuple]
    omega
  have houter : Region.offsetAt ⟨p.encode⟩ 0 = .ok 32 := by
    have hwhole := Region.holds_whole p.encode
    rw [encode_eq, Region.holds_append] at hwhole
    exact Region.offsetAt_of_holds _ 0 32 hp (by rw [Region.size, length_encode]; omega) hwhole.1
  have hwhole := Region.holds_whole (write p.tuplePieces)
  simp only [tuplePieces, Region.holds_write_cons, Piece.length_encode_number,
    Piece.length_encode_word, Piece.length_encode_words] at hwhole
  obtain ⟨h1, h2, h3, h4, h5, h6, h7, h8, h9, h10, -⟩ := hwhole
  have hat : (UInt64.ofNat p.leafProofAt).toNat = p.leafProofAt :=
    UInt64.toNat_ofNat_of_lt' (Nat.lt_of_le_of_lt hlast hsize)
  have hfirst := Region.offsetAt_of_holds _ 0 dataRootProofAt hsize
    (Nat.le_trans (by simp only [leafProofAt]; omega) hlast) h1
  have hsecond := Region.offsetAt_of_holds _ 32 p.leafProofAt hsize hlast h2
  have hdata := Region.wordsAt_of_holds _ 256 p.dataRootProof hsize h9
  have hstart : p.leafProofAt =
      0 + 32 + 32 + 32 + 32 + 32 + 32 + 32 + 32 + (32 + 32 * p.dataRootProof.length) := by
    simp only [leafProofAt, dataRootProofAt]
    omega
  have hleaf := Region.wordsAt_of_holds _ (UInt64.ofNat p.leafProofAt) p.leafProof hsize
    (by rw [hat, hstart]; exact h10)
  have hrange := Region.wordAt_of_holds _ 64 p.rangeHash hsize h3
  have hdataIndex := Region.numberAt_of_holds _ 96 _ hsize p.dataRootIndex.isLt h4
  have hblob := Region.wordAt_of_holds _ 128 p.blobRoot hsize h5
  have hbridge := Region.wordAt_of_holds _ 160 p.bridgeRoot hsize h6
  have hkey := Region.wordAt_of_holds _ 192 p.leaf hsize h7
  have hleafIndex := Region.numberAt_of_holds _ 224 _ hsize p.leafIndex.isLt h8
  have hsub : Region.sub ⟨p.encode⟩ 32 = .ok ⟨write p.tuplePieces⟩ :=
    Region.sub_append _ _ _ (Word.length_bytes _).symm
  have hto : UInt64.ofNat dataRootProofAt = 256 := rfl
  simp only [decode, read, houter, hsub, hfirst, hto, hdata, hsecond, hleaf, hrange, hdataIndex,
    hblob, hbridge, hkey, hleafIndex, bind, Except.bind, pure, Except.pure, Except.mapError,
    BitVec.ofNat_toNat, BitVec.setWidth_eq]

end InclusionProof

theorem Envelope.decode_encode (e : Envelope) (h : e.encode.length < 2 ^ 64) :
    Envelope.decode e.encode = .ok e := by
  have hbody : (encodeSingle e.payload).length < 2 ^ 64 := by
    rw [Envelope.encode, List.length_cons] at h
    omega
  simp only [Envelope.encode, Envelope.decode, decodeSingle_encodeSingle _ hbody]

theorem Kind.ofTag?_tag (k : Kind) : Kind.ofTag? k.tag = some k := by
  cases k <;> rfl

theorem length_encode (m : Message) : m.encode.length = 65 + paddedLength m.payload.length := by
  simp only [encode, Envelope.encode, encodeSingle, write_cons, write_nil, List.append_nil,
    List.length_cons, List.length_append, Piece.length_encode_number, Piece.length_encode_bytes]
  omega

theorem length_payload_le (m : Message) : m.payload.length ≤ m.encode.length := by
  have h := le_paddedLength m.payload.length
  rw [length_encode]
  omega

theorem decode_encode (m : Message) (h : m.encode.length < 2 ^ 64) :
    decode m.encode = .ok m := by
  have hframe : Envelope.decode m.encode = .ok ⟨m.kind.tag, m.payload⟩ :=
    Envelope.decode_encode _ h
  have hkind : Envelope.kind ⟨m.kind.tag, m.payload⟩ = .ok m.kind := by
    simp only [Envelope.kind, Kind.ofTag?_tag]
  have hpayload := Nat.lt_of_le_of_lt m.length_payload_le h
  simp only [decode, hframe, ofEnvelope, hkind, bind, Except.bind]
  cases m with
  | blobPointer p => simp only [kind, payload, p.decode_encode, pure, Except.pure]
  | inclusionProof p => simp only [kind, payload, p.decode_encode hpayload, pure, Except.pure]

theorem drop_attestCall (p : InclusionProof) :
    (Attestation.attestCall p).drop 4 = (inclusionProof p).payload :=
  List.drop_left' (length_selector _)

/-- A message is found again in its bytes. The call that attests a proof carries, behind
its selector, the very payload of the proof's message. -/
theorem encode_faithful :
    (∀ m : Message, m.encode.length < 2 ^ 64 → decode m.encode = .ok m) ∧
    (∀ p : InclusionProof,
      (Attestation.attestCall p).drop 4 = (inclusionProof p).payload ∧
      ((inclusionProof p).encode.length < 2 ^ 64 →
        Envelope.decode (inclusionProof p).encode =
          .ok ⟨Kind.inclusionProof.tag, (Attestation.attestCall p).drop 4⟩) ∧
      ((Attestation.attestCall p).length < 2 ^ 64 →
        InclusionProof.decode ((Attestation.attestCall p).drop 4) = .ok p)) ∧
    (∀ m n : Message, m.encode.length < 2 ^ 64 → m.encode = n.encode → m = n) := by
  refine ⟨decode_encode, fun p => ⟨drop_attestCall p, fun hp => ?_, fun hp => ?_⟩,
    fun m n hm heq => ?_⟩
  · rw [drop_attestCall]
    exact Envelope.decode_encode _ hp
  · have hle : p.encode.length ≤ (Attestation.attestCall p).length := by
      rw [Attestation.attestCall, List.length_append]
      omega
    rw [drop_attestCall]
    exact p.decode_encode (Nat.lt_of_le_of_lt hle hp)
  · have hn : n.encode.length < 2 ^ 64 := heq ▸ hm
    have hsame : (Except.ok m : Except FormatError Message) = .ok n := by
      rw [← decode_encode m hm, heq, decode_encode n hn]
    exact Except.ok.inj hsame

def unevenProof : InclusionProof where
  dataRootProof := [Word.ofNat 1, Word.ofNat 2]
  leafProof := [Word.ofNat 3]
  rangeHash := Word.ofNat 4
  dataRootIndex := BitVec.ofNat 256 (2 ^ 255)
  blobRoot := Word.ofNat 5
  bridgeRoot := Word.ofNat 6
  leaf := Word.ofNat 7
  leafIndex := BitVec.ofNat 256 (2 ^ 64)

/-- The proof has two paths of different length. -/
theorem encode_faithful_unevenProof :
    decode (inclusionProof unevenProof).encode = .ok (inclusionProof unevenProof) ∧
    Envelope.decode (inclusionProof unevenProof).encode =
      .ok ⟨Kind.inclusionProof.tag, (Attestation.attestCall unevenProof).drop 4⟩ ∧
    InclusionProof.decode ((Attestation.attestCall unevenProof).drop 4) = .ok unevenProof ∧
    (inclusionProof unevenProof).encode ≠ (blobPointer (.new 1 1 Word.zero)).encode := by
  have hlen : (inclusionProof unevenProof).encode.length < 2 ^ 64 := by
    rw [length_encode, payload, InclusionProof.length_encode]
    decide
  have hcall : (Attestation.attestCall unevenProof).length < 2 ^ 64 := by
    rw [Attestation.attestCall, List.length_append, length_selector,
      InclusionProof.length_encode]
    decide
  exact ⟨encode_faithful.1 _ hlen, (encode_faithful.2.1 _).2.1 hlen,
    (encode_faithful.2.1 _).2.2 hcall, fun heq => nomatch encode_faithful.2.2 _ _ hlen heq⟩

end Validium.Message
