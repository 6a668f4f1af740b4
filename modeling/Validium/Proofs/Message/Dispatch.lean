import Validium.Proofs.Abi.Exact
import Validium.Proofs.Message.RoundTrip

/-!
How any bytes at all are taken for a message. The framing is looked at first, then the tag, then
the payload, and each of them that cannot be read has an error of its own. What a payload says
is settled by the bytes that the data hold, at whatever places: a pointer has one form, and a
proof needs more bytes than a pointer has, so no payload can be taken for both.
-/
namespace Validium.Message

open Abi

namespace BlobPointer

/-- A pointer is read from its own encoding and from nothing else. -/
theorem read_eq_ok_iff (data : Bytes) (p : BlobPointer) :
    read data = .ok p ↔ data = p.encode := by
  constructor
  · intro h
    unfold read at h
    split at h
    · cases h
    rename_i hlength
    rw [not_not] at hlength
    obtain ⟨version, hversion, h⟩ := exists_of_bind h
    obtain ⟨blockHeight, hheight, h⟩ := exists_of_bind h
    obtain ⟨extrinsicIndex, hindex, h⟩ := exists_of_bind h
    obtain ⟨commitment, hcommitment, h⟩ := exists_of_bind h
    cases h
    obtain ⟨hversion, h1⟩ := Region.holds_of_uintAt _ (by decide) (by decide) hversion
    obtain ⟨hheight, h2⟩ := Region.holds_of_uintAt _ (by decide) (by decide) hheight
    obtain ⟨hindex, h3⟩ := Region.holds_of_uintAt _ (by decide) (by decide) hindex
    have h4 := Region.holds_of_wordAt _ hcommitment
    have hwhole : Region.Holds ⟨data⟩ 0 (encode ⟨UInt8.ofNat version, UInt32.ofNat blockHeight,
        UInt32.ofNat extrinsicIndex, commitment⟩) := by
      simp only [encode, Region.holds_write_cons, Piece.length_encode_number,
        Piece.length_encode_word,
        UInt8.toNat_ofNat_of_lt' hversion, UInt32.toNat_ofNat_of_lt' hheight,
        UInt32.toNat_ofNat_of_lt' hindex]
      exact ⟨h1, h2, h3, h4, List.nil_prefix⟩
    exact (Region.eq_of_holds hwhole (by rw [length_encode, hlength])).symm
  · intro hdata
    have h := p.decode_encode
    rw [hdata]
    unfold decode at h
    cases hread : read p.encode with
    | error e =>
      rw [hread] at h
      cases h
    | ok q =>
      rw [hread] at h
      cases h
      rfl

end BlobPointer

namespace InclusionProof

def headPieces (p : InclusionProof) (first second : Nat) : List Piece :=
  [.number first, .number second, .word p.rangeHash, .number p.dataRootIndex.toNat,
    .word p.blobRoot, .word p.bridgeRoot, .word p.leaf, .number p.leafIndex.toNat]

theorem length_headPieces (p : InclusionProof) (first second : Nat) :
    (write (p.headPieces first second)).length = 256 := by
  simp [headPieces, Word.length_bytes]

/-- The first word of the data leads to a tuple with this proof, whose lists stand anywhere
behind the start of the tuple. -/
def StandsIn (p : InclusionProof) (data : Bytes) : Prop :=
  ∃ start first second, Region.Holds ⟨data⟩ 0 (Word.ofNat start).bytes ∧
    Region.Holds ⟨data.drop start⟩ 0 (write (p.headPieces first second)) ∧
    Region.Holds ⟨data.drop start⟩ first (Piece.words p.dataRootProof).encode ∧
    Region.Holds ⟨data.drop start⟩ second (Piece.words p.leafProof).encode

/-- A tuple has eight words, so less data hold no proof. -/
theorem length_le_of_read {data : Bytes} {p : InclusionProof} (h : read data = .ok p) :
    256 ≤ data.length := by
  obtain ⟨start, -, h⟩ := exists_of_bind h
  obtain ⟨tuple, hsub, h⟩ := exists_of_bind h
  obtain ⟨_, -, h⟩ := exists_of_bind h
  obtain ⟨_, -, h⟩ := exists_of_bind h
  obtain ⟨_, -, h⟩ := exists_of_bind h
  obtain ⟨_, -, h⟩ := exists_of_bind h
  obtain ⟨_, -, h⟩ := exists_of_bind h
  obtain ⟨_, -, h⟩ := exists_of_bind h
  obtain ⟨_, -, h⟩ := exists_of_bind h
  obtain ⟨_, -, h⟩ := exists_of_bind h
  obtain ⟨_, -, h⟩ := exists_of_bind h
  obtain ⟨leafIndex, hindex, -⟩ := exists_of_bind h
  obtain ⟨-, hlast⟩ := tuple.holds_of_numberAt hindex
  have hle := hlast.length_le (by rw [Word.length_bytes]; decide)
  rw [Word.length_bytes] at hle
  have htuple : tuple.size ≤ data.length := by
    unfold Region.sub at hsub
    split at hsub
    · cases hsub
      simp [Region.size]
    · cases hsub
  exact Nat.le_trans hle htuple

section Sized

variable {data : Bytes} (hsize : data.length < 2 ^ 63) {p : InclusionProof}

include hsize

theorem standsIn_of_read (h : read data = .ok p) : p.StandsIn data := by
  have hregion : Region.size ⟨data⟩ < 2 ^ 63 := hsize
  obtain ⟨start, hstart, h⟩ := exists_of_bind h
  obtain ⟨tuple, hsub, h⟩ := exists_of_bind h
  obtain ⟨first, hfirst, h⟩ := exists_of_bind h
  obtain ⟨dataRootProof, hdata, h⟩ := exists_of_bind h
  obtain ⟨second, hsecond, h⟩ := exists_of_bind h
  obtain ⟨leafProof, hleafProof, h⟩ := exists_of_bind h
  obtain ⟨rangeHash, hrange, h⟩ := exists_of_bind h
  obtain ⟨dataRootIndex, hdataIndex, h⟩ := exists_of_bind h
  obtain ⟨blobRoot, hblob, h⟩ := exists_of_bind h
  obtain ⟨bridgeRoot, hbridge, h⟩ := exists_of_bind h
  obtain ⟨leaf, hleaf, h⟩ := exists_of_bind h
  obtain ⟨leafIndex, hleafIndex, h⟩ := exists_of_bind h
  cases h
  obtain ⟨hle, hplace⟩ := Region.holds_of_offsetAt _ hregion hstart
  rw [Region.sub, if_pos hle] at hsub
  cases hsub
  have htuple : Region.size ⟨data.drop start.toNat⟩ < 2 ^ 63 := by
    simp only [Region.size, List.length_drop]
    omega
  obtain ⟨-, h1⟩ := Region.holds_of_offsetAt _ htuple hfirst
  obtain ⟨-, h2⟩ := Region.holds_of_offsetAt _ htuple hsecond
  have h3 := Region.holds_of_wordAt _ hrange
  obtain ⟨hdataBound, h4⟩ := Region.holds_of_numberAt _ hdataIndex
  have h5 := Region.holds_of_wordAt _ hblob
  have h6 := Region.holds_of_wordAt _ hbridge
  have h7 := Region.holds_of_wordAt _ hleaf
  obtain ⟨hleafBound, h8⟩ := Region.holds_of_numberAt _ hleafIndex
  refine ⟨start.toNat, first.toNat, second.toNat, hplace, ?_,
    Region.holds_of_wordsAt _ htuple hdata, Region.holds_of_wordsAt _ htuple hleafProof⟩
  simp only [headPieces, Region.holds_write_cons, Piece.length_encode_number,
    Piece.length_encode_word, BitVec.toNat_ofNat,
    Nat.mod_eq_of_lt hdataBound, Nat.mod_eq_of_lt hleafBound]
  exact ⟨h1, h2, h3, h4, h5, h6, h7, h8, List.nil_prefix⟩

theorem read_of_standsIn (h : p.StandsIn data) : read data = .ok p := by
  have hregion : Region.size ⟨data⟩ < 2 ^ 63 := hsize
  obtain ⟨start, first, second, hplace, hhead, hdata, hleafProof⟩ := h
  have hheadEnd := hhead.length_le (by rw [length_headPieces]; decide)
  have hdataEnd := hdata.length_le (by rw [Piece.length_encode_words]; omega)
  have hleafEnd := hleafProof.length_le (by rw [Piece.length_encode_words]; omega)
  have htuple : Region.size ⟨data.drop start⟩ = data.length - start := by
    simp only [Region.size, List.length_drop]
  rw [length_headPieces, htuple] at hheadEnd
  rw [Piece.length_encode_words, htuple] at hdataEnd hleafEnd
  have hto : ∀ n, n ≤ data.length → (UInt64.ofNat n).toNat = n := by
    intro n hn
    exact UInt64.toNat_ofNat_of_lt' (by change _ < 2 ^ 64; omega)
  have hstart := Region.offsetAt_of_holds ⟨data⟩ 0 start (by omega)
    (by simp only [Region.size]; omega) hplace
  have hsub : Region.sub ⟨data⟩ (UInt64.ofNat start) = .ok ⟨data.drop start⟩ := by
    rw [Region.sub, hto start (by omega), if_pos (by simp only [Region.size]; omega)]
  simp only [headPieces, Region.holds_write_cons, Piece.length_encode_number,
    Piece.length_encode_word] at hhead
  obtain ⟨h1, h2, h3, h4, h5, h6, h7, h8, -⟩ := hhead
  have hfits : Region.size ⟨data.drop start⟩ < 2 ^ 64 := by omega
  have hfirst := Region.offsetAt_of_holds _ 0 first hfits (by omega) h1
  have hsecond := Region.offsetAt_of_holds _ 32 second hfits (by omega) h2
  have hrange := Region.wordAt_of_holds _ 64 p.rangeHash hfits h3
  have hdataIndex := Region.numberAt_of_holds _ 96 _ hfits p.dataRootIndex.isLt h4
  have hblob := Region.wordAt_of_holds _ 128 p.blobRoot hfits h5
  have hbridge := Region.wordAt_of_holds _ 160 p.bridgeRoot hfits h6
  have hleaf := Region.wordAt_of_holds _ 192 p.leaf hfits h7
  have hleafIndex := Region.numberAt_of_holds _ 224 _ hfits p.leafIndex.isLt h8
  have hwords := Region.wordsAt_of_holds _ (UInt64.ofNat first) p.dataRootProof hfits
    (by rw [hto first (by omega)]; exact hdata)
  have hmore := Region.wordsAt_of_holds _ (UInt64.ofNat second) p.leafProof hfits
    (by rw [hto second (by omega)]; exact hleafProof)
  simp only [read, hstart, hsub, hfirst, hwords, hsecond, hmore, hrange, hdataIndex, hblob,
    hbridge, hleaf, hleafIndex, bind, Except.bind, pure, Except.pure, BitVec.ofNat_toNat,
    BitVec.setWidth_eq]

theorem read_eq_ok_iff : read data = .ok p ↔ p.StandsIn data :=
  ⟨standsIn_of_read hsize, read_of_standsIn hsize⟩

end Sized

end InclusionProof

namespace Kind

theorem ofTag?_eq_some_iff (tag : UInt8) (kind : Kind) :
    ofTag? tag = some kind ↔ tag = kind.tag := by
  constructor
  · intro h
    unfold ofTag? at h
    split at h
    · cases h
      assumption
    · split at h
      · cases h
        assumption
      · cases h
  · intro h
    rw [h]
    exact ofTag?_tag kind

theorem ofTag?_eq_none_iff (tag : UInt8) : ofTag? tag = none ↔ tag ≠ 1 ∧ tag ≠ 2 := by
  unfold ofTag?
  split
  · simp_all
  · split <;> simp_all

def read : Kind → Bytes → Except Abi.Error Message
  | .blobPointer, payload => (BlobPointer.read payload).map .blobPointer
  | .inclusionProof, payload => (InclusionProof.read payload).map .inclusionProof

theorem read_eq_ok_iff (kind : Kind) (payload : Bytes) (m : Message) :
    kind.read payload = .ok m ↔
      (∃ p, kind = .blobPointer ∧ m = .blobPointer p ∧ BlobPointer.read payload = .ok p) ∨
        ∃ p, kind = .inclusionProof ∧ m = .inclusionProof p ∧
          InclusionProof.read payload = .ok p := by
  cases kind with
  | blobPointer =>
    cases hread : BlobPointer.read payload with
    | error fault => simp [read, hread, Except.map]
    | ok p => simp [read, hread, Except.map, eq_comm]
  | inclusionProof =>
    cases hread : InclusionProof.read payload with
    | error fault => simp [read, hread, Except.map]
    | ok p => simp [read, hread, Except.map, eq_comm]

theorem kind_of_read {kind : Kind} {payload : Bytes} {m : Message}
    (h : kind.read payload = .ok m) : m.kind = kind := by
  rw [read_eq_ok_iff] at h
  rcases h with ⟨p, hkind, hm, -⟩ | ⟨p, hkind, hm, -⟩
  · rw [hm, hkind]
    rfl
  · rw [hm, hkind]
    rfl

end Kind

def Framed (data : Bytes) (tag : UInt8) (payload : Bytes) : Prop :=
  ∃ rest, data = tag :: rest ∧ decodeSingle rest = .ok payload

inductive Taken (data : Bytes) : Except FormatError Message → Prop where
  | empty (h : data = []) : Taken data (.error .emptyEnvelope)
  | envelope {tag : UInt8} {rest : Bytes} {fault : Abi.Error} (h : data = tag :: rest)
      (hframe : decodeSingle rest = .error fault) : Taken data (.error (.envelope fault))
  | unknownKind {tag : UInt8} {payload : Bytes} (hframe : Framed data tag payload)
      (hone : tag ≠ 1) (htwo : tag ≠ 2) : Taken data (.error (.unknownKind tag))
  | payload {kind : Kind} {payload : Bytes} {fault : Abi.Error}
      (hframe : Framed data kind.tag payload) (hread : kind.read payload = .error fault) :
      Taken data (.error (.payload kind fault))
  | message {kind : Kind} {payload : Bytes} {m : Message}
      (hframe : Framed data kind.tag payload) (hread : kind.read payload = .ok m) :
      Taken data (.ok m)

/-- The tag alone decides how a framed payload is read. -/
theorem decode_of_framed {data : Bytes} {tag : UInt8} {payload : Bytes}
    (h : Framed data tag payload) :
    decode data =
      match Kind.ofTag? tag with
      | none => .error (.unknownKind tag)
      | some kind => (kind.read payload).mapError (.payload kind) := by
  obtain ⟨rest, hdata, hframe⟩ := h
  rw [hdata, decode, Envelope.decode, hframe]
  simp only [bind, Except.bind, ofEnvelope, Envelope.kind]
  cases Kind.ofTag? tag with
  | none => rfl
  | some kind =>
    cases kind with
    | blobPointer =>
      simp only [BlobPointer.decode, Kind.read]
      cases BlobPointer.read payload <;> rfl
    | inclusionProof =>
      simp only [InclusionProof.decode, Kind.read]
      cases InclusionProof.read payload <;> rfl

theorem Taken.decode_eq {data : Bytes} {result : Except FormatError Message}
    (h : Taken data result) : decode data = result := by
  cases h with
  | empty h =>
    rw [h]
    rfl
  | envelope h hframe =>
    rw [h, decode, Envelope.decode, hframe]
    rfl
  | unknownKind hframe hone htwo =>
    rw [decode_of_framed hframe, (Kind.ofTag?_eq_none_iff _).mpr ⟨hone, htwo⟩]
  | payload hframe hread =>
    simp only [decode_of_framed hframe, Kind.ofTag?_tag, hread]
    rfl
  | message hframe hread =>
    simp only [decode_of_framed hframe, Kind.ofTag?_tag, hread]
    rfl

theorem exists_taken (data : Bytes) : ∃ result, Taken data result := by
  cases data with
  | nil => exact ⟨_, .empty rfl⟩
  | cons tag rest =>
    cases hframe : decodeSingle rest with
    | error fault => exact ⟨_, .envelope rfl hframe⟩
    | ok payload =>
      cases htag : Kind.ofTag? tag with
      | none =>
        obtain ⟨hone, htwo⟩ := (Kind.ofTag?_eq_none_iff tag).mp htag
        exact ⟨_, .unknownKind ⟨rest, rfl, hframe⟩ hone htwo⟩
      | some kind =>
        rw [(Kind.ofTag?_eq_some_iff tag kind).mp htag]
        cases hread : kind.read payload with
        | error fault => exact ⟨_, .payload ⟨rest, rfl, hframe⟩ hread⟩
        | ok m => exact ⟨_, .message ⟨rest, rfl, hframe⟩ hread⟩

theorem decode_eq_iff_taken (data : Bytes) (result : Except FormatError Message) :
    decode data = result ↔ Taken data result := by
  constructor
  · intro h
    obtain ⟨other, htaken⟩ := exists_taken data
    rw [← h, htaken.decode_eq]
    exact htaken
  · exact Taken.decode_eq

/-- What each outcome of reading a message says about the bytes, and no more: an error of the
framing stands in front of one of the tag, and that in front of one of the payload. -/
structure Dispatched (data : Bytes) : Prop where
  empty : decode data = .error .emptyEnvelope ↔ data = []
  envelope : ∀ fault, decode data = .error (.envelope fault) ↔
    ∃ tag rest, data = tag :: rest ∧ decodeSingle rest = .error fault
  unknownKind : ∀ tag, decode data = .error (.unknownKind tag) ↔
    (∃ payload, Framed data tag payload) ∧ tag ≠ 1 ∧ tag ≠ 2
  payload : ∀ kind fault, decode data = .error (.payload kind fault) ↔
    ∃ payload, Framed data kind.tag payload ∧ kind.read payload = .error fault
  message : ∀ m, decode data = .ok m ↔
    ∃ payload, Framed data m.kind.tag payload ∧ m.kind.read payload = .ok m
  batches : ∀ fault, decode data ≠ .error (.batches fault)

theorem dispatched (data : Bytes) : Dispatched data := by
  constructor <;> simp only [ne_eq, decode_eq_iff_taken]
  case empty =>
    constructor
    · intro h
      cases h with
      | empty h => exact h
    · exact .empty
  case envelope =>
    intro fault
    constructor
    · intro h
      cases h with
      | envelope h hframe => exact ⟨_, _, h, hframe⟩
    · intro ⟨tag, rest, h, hframe⟩
      exact .envelope h hframe
  case unknownKind =>
    intro tag
    constructor
    · intro h
      cases h with
      | unknownKind hframe hone htwo => exact ⟨⟨_, hframe⟩, hone, htwo⟩
    · intro ⟨⟨payload, hframe⟩, hone, htwo⟩
      exact .unknownKind hframe hone htwo
  case payload =>
    intro kind fault
    constructor
    · intro h
      cases h with
      | payload hframe hread => exact ⟨_, hframe, hread⟩
    · intro ⟨payload, hframe, hread⟩
      exact .payload hframe hread
  case message =>
    intro m
    constructor
    · intro h
      cases h with
      | message hframe hread =>
        rw [Kind.kind_of_read hread]
        exact ⟨_, hframe, hread⟩
    · intro ⟨payload, hframe, hread⟩
      exact .message hframe hread
  case batches =>
    intro fault h
    cases h

/-- A pointer's payload has 128 bytes, and a proof's has 256 or more. -/
theorem not_read_as_both {payload : Bytes} {p : BlobPointer} (h : BlobPointer.read payload = .ok p)
    (q : InclusionProof) : InclusionProof.read payload ≠ .ok q := by
  intro hproof
  have hle := InclusionProof.length_le_of_read hproof
  rw [(BlobPointer.read_eq_ok_iff payload p).mp h, BlobPointer.length_encode] at hle
  exact absurd hle (by decide)

/-- One payload is read under one kind only. -/
theorem Kind.eq_of_read {kind other : Kind} {payload : Bytes} {m m' : Message}
    (h : kind.read payload = .ok m) (h' : other.read payload = .ok m') : kind = other := by
  rw [Kind.read_eq_ok_iff] at h h'
  rcases h with ⟨p, hkind, -, hp⟩ | ⟨q, hkind, -, hq⟩ <;>
    rcases h' with ⟨p', hkind', -, hp'⟩ | ⟨q', hkind', -, hq'⟩
  · rw [hkind, hkind']
  · exact absurd hq' (not_read_as_both hp q')
  · exact absurd hq (not_read_as_both hp' q)
  · rw [hkind, hkind']

def Retagged (tag : UInt8) (e : FormatError) : Prop :=
  e = .unknownKind tag ∨ ∃ kind fault, kind.tag = tag ∧ e = .payload kind fault

/-- Under another tag no message is read from the same bytes. -/
theorem decode_retagged {tag other : UInt8} {rest : Bytes} {m : Message}
    (h : decode (tag :: rest) = .ok m) (hne : other ≠ tag) :
    ∃ e, decode (other :: rest) = .error e ∧ Retagged other e := by
  obtain ⟨payload, ⟨_, hdata, hframe⟩, hread⟩ := ((dispatched _).message m).mp h
  cases hdata
  cases hother : Kind.ofTag? other with
  | none =>
    have hunknown := (Kind.ofTag?_eq_none_iff other).mp hother
    exact ⟨_, ((dispatched _).unknownKind other).mpr ⟨⟨payload, _, rfl, hframe⟩, hunknown⟩,
      .inl rfl⟩
  | some kind =>
    have htag := (Kind.ofTag?_eq_some_iff other kind).mp hother
    cases hfault : kind.read payload with
    | error fault =>
      have hframed : Framed (other :: rest) kind.tag payload := ⟨rest, by rw [htag], hframe⟩
      exact ⟨_, ((dispatched _).payload kind fault).mpr ⟨payload, hframed, hfault⟩,
        .inr ⟨kind, fault, htag.symm, rfl⟩⟩
    | ok m' =>
      rw [htag, Kind.eq_of_read hread hfault] at hne
      exact absurd rfl hne

def StandsIn : Message → Bytes → Prop
  | .blobPointer p, payload => payload = p.encode
  | .inclusionProof p, payload => p.StandsIn payload

theorem read_eq_ok_iff (payload : Bytes) (hsize : payload.length < 2 ^ 63) (m : Message) :
    m.kind.read payload = .ok m ↔ m.StandsIn payload := by
  rw [Kind.read_eq_ok_iff]
  cases m with
  | blobPointer p => simp [Message.kind, StandsIn, ← BlobPointer.read_eq_ok_iff]
  | inclusionProof p =>
    simp [Message.kind, StandsIn, ← InclusionProof.read_eq_ok_iff hsize]

/-- Reading a message is exact on every input, and no bytes can pass for two kinds: another tag
on an accepted message is always refused. What a frame and a payload hold is told by their bytes
alone, wherever the places written in them lead. -/
theorem hostile_messages_dispatched :
    (∀ data, Dispatched data) ∧
    (∀ payload p q, BlobPointer.read payload = .ok p → InclusionProof.read payload ≠ .ok q) ∧
    (∀ tag other rest m, decode (tag :: rest) = .ok m → other ≠ tag →
      ∃ e, decode (other :: rest) = .error e ∧ Retagged other e) ∧
    (∀ rest payload, rest.length < 2 ^ 63 →
      (decodeSingle rest = .ok payload ↔ Frames rest payload)) ∧
    (∀ (payload : Bytes) (m : Message), payload.length < 2 ^ 63 →
      (m.kind.read payload = .ok m ↔ m.StandsIn payload)) :=
  ⟨dispatched, fun _ _ q hp => not_read_as_both hp q, fun _ _ _ _ => decode_retagged,
    fun rest payload hsize => decodeSingle_eq_ok_iff rest payload hsize,
    fun payload m hsize => read_eq_ok_iff payload hsize m⟩

/-- A payload of a proof both of whose lists are the same words in the head of the tuple. -/
def foldedPayload : Bytes :=
  write [.number 32, .number 64, .number 64, .number 2, .number 7, .number 8, .number 9,
    .number 10, .number 11]

def foldedProof : InclusionProof where
  dataRootProof := [Word.ofNat 7, Word.ofNat 8]
  leafProof := [Word.ofNat 7, Word.ofNat 8]
  rangeHash := Word.ofNat 2
  dataRootIndex := 7
  blobRoot := Word.ofNat 8
  bridgeRoot := Word.ofNat 9
  leaf := Word.ofNat 10
  leafIndex := 11

/-- A proof whose parts lie in each other is read, although it is not written so, and not under the
other tag. -/
theorem hostile_messages_dispatched_folded :
    decode (2 :: encodeSingle foldedPayload) = .ok (.inclusionProof foldedProof) ∧
    foldedProof.encode ≠ foldedPayload ∧
    foldedProof.StandsIn foldedPayload ∧
    Frames (encodeSingle foldedPayload) foldedPayload ∧
    (∃ e, decode (1 :: encodeSingle foldedPayload) = .error e ∧ Retagged 1 e) ∧
    ∀ q, InclusionProof.read (BlobPointer.new 5 6 (Word.ofNat 7)).encode ≠ .ok q := by
  have hread : Kind.inclusionProof.read foldedPayload = .ok (.inclusionProof foldedProof) := by
    decide +kernel
  have hframe : decodeSingle (encodeSingle foldedPayload) = .ok foldedPayload := by
    decide +kernel
  have hpointer := (BlobPointer.read_eq_ok_iff _ (BlobPointer.new 5 6 (Word.ofNat 7))).mpr rfl
  obtain ⟨hdispatched, hone, hretag, hframes, hstands⟩ := hostile_messages_dispatched
  have hmessage : decode (2 :: encodeSingle foldedPayload) = .ok (.inclusionProof foldedProof) :=
    ((hdispatched _).message _).mpr ⟨foldedPayload, ⟨_, rfl, hframe⟩, hread⟩
  exact ⟨hmessage, by decide +kernel,
    (hstands _ (.inclusionProof foldedProof) (by decide +kernel)).mp hread,
    (hframes _ _ (by decide +kernel)).mp hframe, hretag 2 1 _ _ hmessage (by decide),
    fun q => hone _ _ q hpointer⟩

end Validium.Message
