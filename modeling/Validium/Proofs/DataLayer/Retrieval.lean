import Validium.Proofs.Batches.Canonical
import Validium.Proofs.DataLayer.History
import Validium.Proofs.Message.RoundTrip
import Validium.Proofs.Store.Memory

/-!
Finding a sequence again by the pointer that posting it returned. The pointer names a place
of the chain at which the sequence's blob lies, which stays so however the chain grows; the
archive, which may have lost or changed what it was given, is believed only where digests
agree, and else the chain answers.
-/
namespace Validium.DataLayer

variable {W α β : Type}

section Steps

theorem run_interrupted (step : Interruptible W α) (w : W) : (interrupted step).run w =
    ((step.run w).1.mapError fun _ => .cancelled, (step.run w).2) := rfl

/-- A step that the signal does not cut short gives its own result. -/
theorem interrupted_quiet {step : Interruptible W α} {action : StateM W α}
    (h : step.run = Except.ok <$> action) (w : W) :
    (interrupted step).run w = (.ok (action w).1, (action w).2) := by
  rw [run_interrupted, h]
  rfl

theorem interrupted_awaitBegun_quiet {signal : Signal W} (hquiet : signal.Quiet)
    (step : StateM W α) (w : W) :
    (interrupted (signal.awaitBegun step)).run w = (.ok (step w).1, (step w).2) :=
  interrupted_quiet (Signal.awaitBegun_quiet hquiet step) w

theorem interrupted_await_quiet {signal : Signal W} (hquiet : signal.Quiet)
    (step : StateM W α) (w : W) :
    (interrupted (signal.await step)).run w = (.ok (step w).1, (step w).2) :=
  interrupted_quiet (Signal.await_quiet hquiet step) w

end Steps

structure PointsTo (m : Chain.Memory) (batches : List Bytes) (envelope : Bytes)
    (p : Message.BlobPointer) : Prop where
  decodes : Message.decode envelope = .ok (.blobPointer p)
  fetches : m.fetch p.blockHeight p.extrinsicIndex .extrinsic = .ok (Batches.encode batches)

/-- A pointer stays good while the chain grows. -/
theorem PointsTo.mono {m m' : Chain.Memory} {batches : List Bytes} {envelope : Bytes}
    {p : Message.BlobPointer} (hext : m.Extends m') (h : PointsTo m batches envelope p) :
    PointsTo m' batches envelope p :=
  ⟨h.decodes, Chain.Memory.fetch_mono m m' hext _ _ _ _ h.fetches⟩

section Quiet

variable {part : Part W Chain.Memory} {layer : DataLayer W} {signal : Signal W}
  (hlayer : OnMemory part layer) (hquiet : signal.Quiet)
  (hpermits : ∀ a ∈ layer.archive, a.policy.concurrency.toNat ≤ Pool.maxPermits)

include hlayer hquiet hpermits

/-- What posting returns, and what it leaves of the chain, when the chain takes the blob.
The copies for the archive do not matter, whatever becomes of them. -/
theorem post_quiet (hpart : part.Lawful) (hproofs : layer.proofs = none)
    (batches : List Bytes) (w : W) (i : Inclusion)
    (hsubmit : ((part.view w).submit (Batches.encode batches)).1 = .ok i) :
    ∃ w₁, (layer.post signal batches).run w = (.ok (Message.blobPointer
        (.new i.blockNumber i.index (keccak (Batches.encode batches)))).encode, w₁) ∧
      part.view w₁ = ((part.view w).submit (Batches.encode batches)).2 := by
  obtain ⟨delay, hdelay, hneed⟩ := hlayer.needChain_eq
  obtain ⟨hreturned, hview⟩ := Chain.Memory.submit_chain part delay hdelay hpart
    (Batches.encode batches) w
  have hsubmitted := interrupted_awaitBegun_quiet hquiet
    ((Chain.Memory.chain part delay).submit (Batches.encode batches)) w
  rw [hreturned, hsubmit] at hsubmitted
  have hmessage : layer.messageFor signal (keccak (Batches.encode batches)) i =
      pure (.blobPointer (.new i.blockNumber i.index (keccak (Batches.encode batches)))) := by
    rw [messageFor, hproofs]
  rw [post, hneed, pure_bind, run_bind_ok hsubmitted]
  have hsettled : orFail (W := W) Error.submission (Chain.settle (.returned (.ok i))) = pure i :=
    rfl
  rw [hsettled, pure_bind, hmessage, pure_bind]
  cases harchive : layer.archive with
  | none => exact ⟨_, rfl, hview⟩
  | some archive =>
    have hput := archive.admits_putMultiple (Passage.untouched part) signal batches
      (fun body => hlayer.put archive harchive _ body none)
      ((Chain.Memory.chain part delay).submit (Batches.encode batches) w).2
    rw [archive.putMultiple_quiet hquiet (hpermits archive harchive)] at hput
    dsimp only
    rw [archive.putMultiple_quiet hquiet (hpermits archive harchive)]
    exact ⟨_, rfl, hput.trans hview⟩

omit hpermits in
/-- Fetching gives what the chain has at the place. -/
theorem fetch_quiet (l : Location) (w : W) :
    ((layer.fetch signal l).run w).1 =
      ((part.view w).fetch l.block l.index l.kind).mapError
        (.retrieval l.block l.index.toNat l.kind) := by
  obtain ⟨delay, hdelay, hneed⟩ := hlayer.needChain_eq
  have hfetched := interrupted_awaitBegun_quiet hquiet
    ((Chain.Memory.chain part delay).fetch l.block l.index l.kind) w
  rw [Chain.Memory.fetch_chain part delay hdelay] at hfetched
  rw [fetch, hneed, pure_bind, run_bind_ok hfetched]
  rfl

omit hpermits in
/-- An envelope that points to the sequence leads to it. -/
theorem retrieveFromChain_quiet (batches : List Bytes) (envelope : Bytes)
    (p : Message.BlobPointer) (w : W) (h : PointsTo (part.view w) batches envelope p)
    (h64 : (Batches.encode batches).length < 2 ^ 64) :
    ((layer.retrieveFromChain signal envelope).run w).1 = .ok batches := by
  have hdecoded : orFail (W := W) Error.format (Message.decode envelope) =
      pure (.blobPointer p) := by
    rw [h.decodes]
    rfl
  have hlocated : layer.locate signal (.blobPointer p) =
      pure ⟨p.blockHeight, p.extrinsicIndex, .extrinsic⟩ := rfl
  have hfetched := fetch_quiet hlayer hquiet ⟨p.blockHeight, p.extrinsicIndex, .extrinsic⟩ w
  dsimp only at hfetched
  rw [h.fetches] at hfetched
  rw [retrieveFromChain, hdecoded, pure_bind, hlocated, pure_bind, run_bind_fst, hfetched]
  show ((Batches.decode (Batches.encode batches)).mapError _) = _
  rw [Batches.decode_encode batches h64]
  rfl

/-- What the archive answers, if it answers, was in its store under the digests asked for;
the chain is not touched. -/
theorem retrieveFromArchive_quiet (archive : Store.Archive W)
    (harchive : layer.archive = some archive) (hashes : List Hash) (w : W) :
    ∃ found w', (retrieveFromArchive archive signal hashes).run w = (.ok found, w') ∧
      part.view w' = part.view w ∧ ∀ bodies, found = some bodies → hashes ≠ [] ∧
        List.Forall₂ (fun hash body => archive.Stored w hash body ∧ keccak body = hash)
          hashes bodies := by
  cases hashes with
  | nil => exact ⟨none, w, rfl, rfl, fun bodies h => nomatch h⟩
  | cons hash rest =>
    have hview := archive.admits_getMultiple (Passage.untouched part) signal (hash :: rest)
      (hlayer.get archive harchive) w
    cases houtcome : (archive.getMultiple signal (hash :: rest) w).1 with
    | error halt =>
      rw [archive.getMultiple_quiet hquiet (hpermits archive harchive)] at houtcome
      cases houtcome
    | ok slots =>
      refine ⟨slots.toResult.toOption, (archive.getMultiple signal (hash :: rest) w).2,
        ?_, hview, ?_⟩
      · have hread : (liftM (archive.getMultiple signal (hash :: rest)) : Step W _).run w =
            (.ok (.ok slots), (archive.getMultiple signal (hash :: rest) w).2) := by
          rw [← houtcome]
          rfl
        have hnonempty : (hash :: rest).isEmpty = false := rfl
        rw [retrieveFromArchive, hnonempty]
        exact run_bind_ok hread _
      · intro bodies hfound
        refine ⟨List.cons_ne_nil hash rest, ?_⟩
        refine archive.bodies_of_getMultiple hquiet (hpermits archive harchive) (hash :: rest) w
          slots bodies houtcome ?_
        cases hresult : slots.toResult with
        | error e =>
          rw [hresult] at hfound
          cases hfound
        | ok values =>
          rw [hresult] at hfound
          cases hfound
          rfl

/-- The archive may answer with the sequence or not at all, and then the chain does. -/
theorem retrieve_quiet (hashes : List Hash) (batches : List Bytes) (envelope : Bytes)
    (p : Message.BlobPointer) (w : W) (h : PointsTo (part.view w) batches envelope p)
    (h64 : (Batches.encode batches).length < 2 ^ 64)
    (hbelieved : ∀ a ∈ layer.archive, ∀ bodies, hashes ≠ [] →
      List.Forall₂ (fun hash body => a.Stored w hash body ∧ keccak body = hash) hashes bodies →
        bodies = batches) :
    ((layer.retrieve signal hashes envelope).run w).1 = .ok batches := by
  unfold retrieve
  cases harchive : layer.archive with
  | none => exact retrieveFromChain_quiet hlayer hquiet batches envelope p w h h64
  | some archive =>
    obtain ⟨found, w', hrun, hview, hfound⟩ := retrieveFromArchive_quiet hlayer hquiet hpermits
      archive harchive hashes w
    dsimp only
    rw [run_bind_ok hrun]
    cases found with
    | some bodies =>
      obtain ⟨hnonempty, hserved⟩ := hfound bodies rfl
      rw [hbelieved archive harchive bodies hnonempty hserved]
      rfl
    | none =>
      rw [← hview] at h
      exact retrieveFromChain_quiet hlayer hquiet batches envelope p w' h h64

end Quiet

/-- Bodies with the digests of the batches are the batches, where no digests collide. -/
theorem eq_of_noCollision (a : Store.Archive W) (w : W) (batches bodies : List Bytes)
    (hno : a.NoCollision w batches)
    (h : List.Forall₂ (fun hash body => a.Stored w hash body ∧ keccak body = hash)
      (batches.map keccak) bodies) : bodies = batches := by
  induction batches generalizing bodies with
  | nil =>
    cases h
    rfl
  | cons batch rest ih =>
    obtain ⟨body, others, ⟨hstored, hdigest⟩, hrest, rfl⟩ := List.forall₂_cons_left_iff.mp h
    have hbatch : body = batch := hno batch List.mem_cons_self body hstored hdigest
    have hothers : others = rest :=
      ih others (fun b hb => hno b (List.mem_cons_of_mem batch hb)) hrest
    rw [hbatch, hothers]

/-- A sequence that was posted to a chain in memory is found again by the message returned,
whatever happens later and whatever has become of the copies in the store. The blob is one
that a machine can hold. -/
theorem retrieve_posted {part : Part W Chain.Memory} (hpart : part.Lawful)
    {layer : DataLayer W} (hlayer : OnMemory part layer) (hproofs : layer.proofs = none)
    (hpermits : ∀ a ∈ layer.archive, a.policy.concurrency.toNat ≤ Pool.maxPermits)
    {signal : Signal W} (hquiet : signal.Quiet) (batches : List Bytes)
    (h64 : (Batches.encode batches).length < 2 ^ 64) (w : W)
    (haccepts : (part.view w).rejectReason = none)
    (hroom : (part.view w).blocks.length < 2 ^ 32 - 1) :
    ∃ envelope p w₁, (layer.post signal batches).run w = (.ok envelope, w₁) ∧
      Message.decode envelope = .ok (.blobPointer p) ∧ p.version = 0 ∧
      (∃ blob, (part.view w₁).fetch p.blockHeight p.extrinsicIndex .extrinsic = .ok blob ∧
        p.commitment = keccak blob) ∧
      ∀ w₂, Later part w₁ w₂ →
        ((layer.retrieve signal [] envelope).run w₂).1 = .ok batches ∧
        ((∀ a ∈ layer.archive, a.NoCollision w₂ batches) →
          ((layer.retrieve signal (batches.map keccak) envelope).run w₂).1 = .ok batches) := by
  obtain ⟨i, hsubmit, hfetch, -⟩ := Chain.Memory.fetch_submit (part.view w)
    (Batches.encode batches) haccepts hroom
  obtain ⟨w₁, hpost, hview⟩ := post_quiet hlayer hquiet hpermits hpart hproofs batches w i hsubmit
  rw [← hview] at hfetch
  have hdecode : Message.decode (Message.blobPointer
      (.new i.blockNumber i.index (keccak (Batches.encode batches)))).encode =
        .ok (.blobPointer (.new i.blockNumber i.index (keccak (Batches.encode batches)))) := by
    refine Message.decode_encode _ ?_
    rw [Message.length_encode]
    simp only [Message.payload, Message.BlobPointer.length_encode]
    decide
  refine ⟨_, _, w₁, hpost, hdecode, rfl, ⟨_, hfetch, rfl⟩, ?_⟩
  intro w₂ hlater
  have hpoints : PointsTo (part.view w₂) batches _ _ :=
    PointsTo.mono (growth_of_later hpart hlater) ⟨hdecode, hfetch⟩
  constructor
  · refine retrieve_quiet hlayer hquiet hpermits [] batches _ _ w₂ hpoints h64 ?_
    intro a ha bodies hnonempty
    exact absurd rfl hnonempty
  · intro hno
    refine retrieve_quiet hlayer hquiet hpermits _ batches _ _ w₂ hpoints h64 ?_
    intro a ha bodies hnonempty hserved
    exact eq_of_noCollision a w₂ batches bodies (hno a ha) hserved

abbrev Pair := Chain.Memory × Store.Memory

def chainPart : Part Pair Chain.Memory := ⟨Prod.fst, fun m w => (m, w.2)⟩

def storePart : Part Pair Store.Memory := ⟨Prod.snd, fun s w => (w.1, s)⟩

def mirrored : DataLayer Pair :=
  { chain := some (Chain.Memory.chain chainPart fun _ => pure ())
    proofs := none
    attestations := none
    archive := some ⟨Store.Memory.objects storePart, .standard⟩ }

theorem chainPart_lawful : chainPart.Lawful :=
  ⟨fun _ _ => rfl, fun _ => rfl, fun _ _ _ => rfl⟩

theorem storePart_lawful : storePart.Lawful :=
  ⟨fun _ _ => rfl, fun _ => rfl, fun _ _ _ => rfl⟩

theorem mirrored_onMemory : OnMemory chainPart mirrored := by
  refine ⟨⟨fun _ => pure (), fun _ w => rfl, rfl⟩, ?_, ?_, ?_, ?_, ?_⟩
  · rintro a ⟨⟩ key body expires w
    rfl
  · rintro a ⟨⟩ key w
    rw [Store.Memory.get_objects storePart_lawful]
    rfl
  all_goals
    rintro s ⟨⟩

/-- The copies of the batches are lost, and the chain answers in their place. -/
theorem retrieve_posted_mirrored :
    ∃ envelope w₁, (mirrored.post .never Batches.mixed).run (.empty, .empty) =
        (.ok envelope, w₁) ∧
      ((mirrored.retrieve .never (Batches.mixed.map keccak) envelope).run (w₁.1, .empty)).1 =
        .ok Batches.mixed := by
  have hpermits : ∀ a ∈ mirrored.archive, a.policy.concurrency.toNat ≤ Pool.maxPermits := by
    rintro a ⟨⟩
    decide
  obtain ⟨envelope, p, w₁, hpost, -, -, -, hlater⟩ := retrieve_posted chainPart_lawful
    mirrored_onMemory rfl hpermits Signal.quiet_never Batches.mixed (by decide)
    (.empty, .empty) rfl (by decide)
  refine ⟨envelope, w₁, hpost, ?_⟩
  refine (hlater (w₁.1, .empty) (.single (.elsewhere _ _ rfl))).2 ?_
  rintro a ⟨⟩ batch - body hstored
  rw [Store.Memory.stored_iff storePart_lawful] at hstored
  cases hstored

end Validium.DataLayer
