import Validium.Proofs.DataLayer.Shortcut
import Validium.Proofs.Retry.Interruptible

/-!
What the commitment of a pointer is worth. An answer from the chain is the sequence of the blob
that the chain hands out at the place the pointer names, and the blob is the one encoding of its
sequence; so the sequence has the digest that the pointer tells exactly when the blob has it. The
digest is not looked at on the way: a pointer with the same place and any other digest is answered
alike.
-/
namespace Validium.DataLayer

variable {W : Type}

def Location.ofPointer (p : Message.BlobPointer) : Location :=
  ⟨p.blockHeight, p.extrinsicIndex, .extrinsic⟩

variable (layer : DataLayer W) (signal : Signal W) (hashes : List Hash)

def Archived (w : W) (batches : List Bytes) (w' : W) : Prop :=
  ∃ archive, layer.archive = some archive ∧
    (retrieveFromArchive archive signal hashes).run w = (.ok (some batches), w')

/-- There is no archive, or it has not all that it is asked for. -/
inductive Unanswered (w : W) : W → Prop
  | absent (h : layer.archive = none) : Unanswered w w
  | missed (archive : Store.Archive W) (h : layer.archive = some archive) (w₁ : W)
      (hrun : (retrieveFromArchive archive signal hashes).run w = (.ok none, w₁)) :
      Unanswered w w₁

/-- A store that does not answer leaves the blob to the chain. -/
theorem unanswered_iff_missed {archive : Store.Archive W} (h : layer.archive = some archive)
    (w w₁ : W) : layer.Unanswered signal hashes w w₁ ↔
      (retrieveFromArchive archive signal hashes).run w = (.ok none, w₁) := by
  constructor
  · intro hunanswered
    cases hunanswered with
    | absent hnone =>
      rw [h] at hnone
      cases hnone
    | missed other hother _ hrun =>
      cases h.symm.trans hother
      exact hrun
  · exact .missed archive h w₁

def HandsOut (l : Location) (w : W) (blob : Bytes) (w' : W) : Prop :=
  ∃ chain, layer.chain = some chain ∧
    chain.fetch l.block l.index l.kind w = (.returned (.ok blob), w') ∧ signal.fired w' = false

/-- A fetch once begun is finished, but its blob is not handed out if the signal has fired
meanwhile. -/
theorem fetch_run {chain : Chain W} (hchain : layer.chain = some chain) (l : Location) (w : W) :
    (layer.fetch signal l).run w =
      (if signal.fired (chain.fetch l.block l.index l.kind w).2 then .error .cancelled
        else (Chain.settle (chain.fetch l.block l.index l.kind w).1).mapError
          (.retrieval l.block l.index.toNat l.kind),
        (chain.fetch l.block l.index l.kind w).2) := by
  have hneed : layer.needChain = pure chain := by
    rw [needChain, hchain]
  have hbegun := run_interrupted (signal.awaitBegun (chain.fetch l.block l.index l.kind)) w
  rw [signal.awaitBegun_run] at hbegun
  rw [fetch, hneed, pure_bind]
  cases hfired : signal.fired (chain.fetch l.block l.index l.kind w).2 with
  | true =>
    rw [hfired] at hbegun
    exact run_bind_error hbegun _
  | false =>
    rw [hfired] at hbegun
    exact run_bind_ok hbegun _

theorem fetch_eq_ok_iff (l : Location) (w w' : W) (blob : Bytes) :
    (layer.fetch signal l).run w = (.ok blob, w') ↔ layer.HandsOut signal l w blob w' := by
  unfold HandsOut
  cases hchain : layer.chain with
  | none =>
    have hneed : layer.needChain = throw (.notConfigured .chain) := by
      rw [needChain, hchain]
    rw [fetch, hneed]
    refine iff_of_false (fun h => ?_) ?_
    · cases h
    · rintro ⟨chain, h, -⟩
      cases h
  | some chain =>
    rw [fetch_run layer signal hchain]
    simp only [Option.some.injEq, exists_eq_left']
    rcases chain.fetch l.block l.index l.kind w with ⟨outcome, w₁⟩
    constructor
    · intro h
      obtain ⟨hresult, rfl⟩ := Prod.mk.inj h
      cases hfired : signal.fired w₁ with
      | true =>
        rw [hfired] at hresult
        cases hresult
      | false =>
        rw [hfired] at hresult
        rcases outcome with (fault | served) | -
        · cases hresult
        · cases hresult
          exact ⟨rfl, rfl⟩
        · cases hresult
    · rintro ⟨hcall, hfired⟩
      obtain ⟨rfl, rfl⟩ := Prod.mk.inj hcall
      rw [hfired]
      rfl

section Pointed

variable {envelope : Bytes} {p : Message.BlobPointer}
  (hdecodes : Message.decode envelope = .ok (.blobPointer p))

include hdecodes

/-- Of a pointer no more than the place is looked at. -/
theorem retrieveFromChain_pointed : layer.retrieveFromChain signal envelope =
    layer.fetch signal (.ofPointer p) >>= fun blob =>
      orFail (fun fault => .format (.batches fault)) (Batches.decode blob) := by
  have hmessage : orFail (W := W) Error.format (Message.decode envelope) =
      pure (.blobPointer p) := by
    rw [hdecodes]
    rfl
  rw [retrieveFromChain, hmessage, pure_bind]
  rfl

/-- Whatever blob the chain hands out at the place of the pointer is decoded, and nothing else is
compared. -/
theorem retrieveFromChain_eq_ok_iff (w w' : W) (batches : List Bytes) :
    (layer.retrieveFromChain signal envelope).run w = (.ok batches, w') ↔
      ∃ blob, layer.HandsOut signal (.ofPointer p) w blob w' ∧
        Batches.decode blob = .ok batches := by
  rw [retrieveFromChain_pointed layer signal hdecodes]
  constructor
  · intro h
    obtain ⟨blob, w₁, hfetch, hdecode⟩ := exists_of_run_bind h
    cases hbatches : Batches.decode blob with
    | error fault =>
      rw [hbatches] at hdecode
      cases hdecode
    | ok found =>
      rw [hbatches] at hdecode
      cases hdecode
      exact ⟨blob, (fetch_eq_ok_iff layer signal _ _ _ _).mp hfetch, hbatches⟩
  · rintro ⟨blob, hhands, hbatches⟩
    rw [run_bind_ok ((fetch_eq_ok_iff layer signal _ _ _ _).mpr hhands), hbatches]
    rfl

/-- An answer comes from the archive, or else from the place of the chain that the pointer
names. -/
theorem retrieve_eq_ok_iff (w w' : W) (batches : List Bytes) :
    (layer.retrieve signal hashes envelope).run w = (.ok batches, w') ↔
      layer.Archived signal hashes w batches w' ∨
      ∃ w₁ blob, layer.Unanswered signal hashes w w₁ ∧
        layer.HandsOut signal (.ofPointer p) w₁ blob w' ∧ Batches.decode blob = .ok batches := by
  have hchain := fun v => retrieveFromChain_eq_ok_iff layer signal hdecodes v w' batches
  unfold retrieve Archived
  cases harchive : layer.archive with
  | none =>
    dsimp only
    rw [hchain]
    constructor
    · rintro ⟨blob, h⟩
      exact .inr ⟨w, blob, .absent harchive, h⟩
    · rintro (⟨archive, hsome, -⟩ | ⟨w₁, blob, hmissed, h⟩)
      · cases hsome
      · cases hmissed with
        | absent => exact ⟨blob, h⟩
        | missed archive hsome =>
          rw [harchive] at hsome
          cases hsome
  | some archive =>
    simp only [Option.some.injEq, exists_eq_left',
      unanswered_iff_missed layer signal hashes harchive]
    rcases hrun : (retrieveFromArchive archive signal hashes).run w with ⟨fault | found, v⟩
    · rw [run_bind_error hrun]
      refine iff_of_false nofun ?_
      rintro (h | ⟨w₁, blob, h, -⟩) <;> cases h
    · rw [run_bind_ok hrun]
      cases found with
      | none =>
        dsimp only
        rw [hchain]
        constructor
        · rintro ⟨blob, h⟩
          exact .inr ⟨v, blob, rfl, h⟩
        · rintro (h | ⟨w₁, blob, h, hserved⟩)
          · cases h
          · cases h
            exact ⟨blob, hserved⟩
      | some bodies =>
        constructor
        · intro h
          cases h
          exact .inl rfl
        · rintro (h | ⟨w₁, blob, h, -⟩)
          · cases h
            rfl
          · cases h

theorem retrieve_recommitted {other : Bytes} {commitment : Hash}
    (hother : Message.decode other = .ok (.blobPointer { p with commitment := commitment })) :
    layer.retrieve signal hashes other = layer.retrieve signal hashes envelope := by
  have hchain : layer.retrieveFromChain signal other = layer.retrieveFromChain signal envelope := by
    rw [retrieveFromChain_pointed layer signal hdecodes,
      retrieveFromChain_pointed layer signal hother]
    rfl
  unfold retrieve
  rw [hchain]

/-- Whatever the chain hands out at the place of the pointer is taken for its sequence if it is
the blob of one. The sequence has the pointer's digest exactly when the blob has it, and the
pointer's digest makes no difference to the answer. -/
theorem retrieve_by_place (w : W) :
    (∀ batches w', (layer.retrieve signal hashes envelope).run w = (.ok batches, w') ↔
      layer.Archived signal hashes w batches w' ∨
      ∃ w₁ blob, layer.Unanswered signal hashes w w₁ ∧
        layer.HandsOut signal (.ofPointer p) w₁ blob w' ∧ Batches.decode blob = .ok batches) ∧
    (∀ blob batches, Batches.decode blob = .ok batches →
      (keccak (Batches.encode batches) = p.commitment ↔ keccak blob = p.commitment)) ∧
    ∀ other commitment,
      Message.decode other = .ok (.blobPointer { p with commitment := commitment }) →
        layer.retrieve signal hashes other = layer.retrieve signal hashes envelope := by
  refine ⟨fun batches w' => retrieve_eq_ok_iff layer signal hashes hdecodes w w' batches, ?_,
    fun other commitment => retrieve_recommitted layer signal hashes hdecodes⟩
  intro blob batches hbatches
  rw [← Batches.eq_encode_of_decode blob batches hbatches]

end Pointed

def twofold : Pair :=
  (((Chain.Memory.empty.submit (Batches.encode [[0xaa]])).2.submit (Batches.encode [[0xbb]])).2,
    .empty)

def firstPlace (commitment : Hash) : Message.BlobPointer := .new 1 1 commitment

theorem decode_firstPlace (commitment : Hash) :
    Message.decode (Message.blobPointer (firstPlace commitment)).encode =
      .ok (.blobPointer (firstPlace commitment)) := by
  refine Message.decode_encode _ ?_
  rw [Message.length_encode]
  simp only [Message.payload, Message.BlobPointer.length_encode]
  decide

theorem handsOut_firstPlace (commitment : Hash) :
    mirrored.withoutArchive.HandsOut .never (.ofPointer (firstPlace commitment)) twofold
      (Batches.encode [[0xaa]]) twofold := by
  have hblob : twofold.1.fetch 1 1 .extrinsic = .ok (Batches.encode [[0xaa]]) := rfl
  have hcall : (Chain.Memory.chain chainPart fun _ => pure ()).fetch 1 1 .extrinsic twofold =
      (.returned (twofold.1.fetch 1 1 .extrinsic), twofold) := rfl
  rw [hblob] at hcall
  exact ⟨_, rfl, hcall, rfl⟩

/-- The place of the first sequence with the digest of the second leads to the first. -/
theorem retrieve_by_place_firstPlace :
    let p := firstPlace (keccak (Batches.encode [[0xbb]]))
    Message.decode (Message.blobPointer p).encode = .ok (.blobPointer p) ∧
      (mirrored.withoutArchive.retrieve .never [] (Message.blobPointer p).encode).run twofold =
        (.ok [[0xaa]], twofold) := by
  intro p
  have hdecodes := decode_firstPlace (keccak (Batches.encode [[0xbb]]))
  refine ⟨hdecodes, ?_⟩
  refine ((retrieve_by_place mirrored.withoutArchive .never [] hdecodes twofold).1 _ _).mpr ?_
  exact .inr ⟨twofold, _, .absent rfl, handsOut_firstPlace _, by decide⟩

/-- It is not so that an answer from the chain has the pointer's digest. -/
theorem not_guarded_by_commitment :
    ¬ ∀ (commitment : Hash) (batches : List Bytes) (w' : Pair),
      (mirrored.withoutArchive.retrieve .never []
        (Message.blobPointer (firstPlace commitment)).encode).run twofold = (.ok batches, w') →
          keccak (Batches.encode batches) = commitment := by
  intro hguarded
  have hanswer : ∀ commitment, keccak (Batches.encode [[0xaa]]) = commitment := by
    intro commitment
    refine hguarded commitment [[0xaa]] twofold ?_
    refine (retrieve_eq_ok_iff _ _ _ (decode_firstPlace commitment) _ _ _).mpr ?_
    exact .inr ⟨twofold, _, .absent rfl, handsOut_firstPlace commitment, by decide⟩
  have hzero := (hanswer Word.zero).symm.trans (hanswer (Word.ofNat 1))
  exact absurd hzero (by decide)

end Validium.DataLayer
