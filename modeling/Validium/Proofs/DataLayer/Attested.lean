import Validium.Proofs.DataLayer.Mirror
import Validium.Proofs.ProofService.Asking
import Validium.Proofs.Url

/-!
Finding a sequence again by the proof of its submission. The proof service is asked for the
place at which the sequence was included until it serves a proof, and the envelope carries
that proof. Later only the leaf of the proof counts: the record attested for it tells the
block and the place among the leaves of that block, and where there is no such record or its
place is too large for any block, the chain is not asked.
-/
namespace Validium

variable {W : Type}

namespace Attestation

theorem Table.record?_insert (t : Table) (leaf : Hash) (r : Record) :
    (t.insert leaf r).record? leaf = some r := by
  have hfirst : (t.insert leaf r).records.find? (·.1 == leaf) = some (leaf, r) :=
    List.find?_cons_of_pos (beq_self_eq_true leaf)
  rw [record?, hfirst]
  rfl

/-- What a reader of either kind finds for a leaf: a record, even an empty one, or the reason
why there is none. -/
inductive Reader.Finds (leaf : Hash) (w : W) : Reader W → Except String Record → Prop
  | table (part : Part W Table) : Finds leaf w (Table.reader part)
      (((part.view w).record? leaf).elim (.error "leaf has not been attested") .ok)
  | contract (c : ContractReader W) : Finds leaf w c.reader (do
      let data ← (c.client.callContract c.contract (readCall leaf) w).1.mapError (·.message)
      (Record.decode data).mapError fun fault => "undecodable return data: " ++ fault.message)

namespace Reader.Finds

variable {leaf : Hash} {w : W} {reader : Reader W}

theorem of_record {part : Part W Table} {r : Record} (h : (part.view w).record? leaf = some r) :
    (Table.reader part).Finds leaf w (.ok r) := by
  have hfinds : (Table.reader part).Finds leaf w _ := table part
  rw [h] at hfinds
  exact hfinds

theorem of_no_record {part : Part W Table} (h : (part.view w).record? leaf = none) :
    (Table.reader part).Finds leaf w (.error "leaf has not been attested") := by
  have hfinds : (Table.reader part).Finds leaf w _ := table part
  rw [h] at hfinds
  exact hfinds

/-- Both kinds of reader make the same of what they find. -/
theorem read_eq {found : Except String Record} (h : reader.Finds leaf w found) :
    (reader.read leaf w).1 = found.mapError (.notFound leaf) >>= present leaf := by
  cases h with
  | table part =>
    have hread : ((Table.reader part).read leaf w).1 = (part.view w).read leaf := rfl
    rw [hread, Table.read]
    cases (part.view w).record? leaf with
    | none => rfl
    | some r => rfl
  | contract c =>
    have hread : (c.reader.read leaf w).1 =
        readReturn leaf (c.client.callContract c.contract (readCall leaf) w).1 := rfl
    rw [hread]
    cases (c.client.callContract c.contract (readCall leaf) w).1 with
    | error e => rfl
    | ok data =>
      rw [readReturn]
      cases hrecord : Record.decode data with
      | error fault => simp only [Except.mapError, hrecord, bind, Except.bind]
      | ok r => simp only [Except.mapError, hrecord, bind, Except.bind]

theorem read_present {n : UInt32} {i : BitVec 128} (h : reader.Finds leaf w (.ok ⟨n, i⟩))
    (hn : n ≠ 0) : reader.read leaf w = (.ok ⟨n, i⟩, (reader.read leaf w).2) := by
  have hfull : Record.isEmpty ⟨n, i⟩ = false := beq_false_of_ne hn
  have hpresent : present leaf ⟨n, i⟩ = .ok ⟨n, i⟩ := by
    rw [present, hfull]
    rfl
  exact Prod.ext (h.read_eq.trans hpresent) rfl

theorem read_empty {i : BitVec 128} (h : reader.Finds leaf w (.ok ⟨0, i⟩)) :
    reader.read leaf w = (.error (unattested leaf), (reader.read leaf w).2) :=
  Prod.ext h.read_eq rfl

theorem read_missing {reason : String} (h : reader.Finds leaf w (.error reason)) :
    reader.read leaf w = (.error (.notFound leaf reason), (reader.read leaf w).2) :=
  Prod.ext h.read_eq rfl

end Reader.Finds

end Attestation

namespace DataLayer

section Leaves

variable (layer : DataLayer W) (signal : Signal W)

def retrieveLeaf (leaf : Hash) : Step W (List Bytes) := do
  let location ← layer.resolveLeaf signal leaf
  let blob ← layer.fetch signal location
  orFail (fun fault => .format (.batches fault)) (Batches.decode blob)

/-- With no hashes to ask the archive for, a proof stands for its leaf. -/
theorem retrieve_inclusionProof (p : Message.InclusionProof)
    (hp : (Message.inclusionProof p).encode.length < 2 ^ 64) :
    layer.retrieve signal [] (Message.inclusionProof p).encode =
      layer.retrieveLeaf signal p.leaf := by
  have hdecoded : orFail (W := W) Error.format (Message.decode (Message.inclusionProof p).encode) =
      pure (.inclusionProof p) := by
    rw [Message.decode_encode _ hp]
    rfl
  have hchain : layer.retrieveFromChain signal (Message.inclusionProof p).encode =
      layer.retrieveLeaf signal p.leaf := by
    rw [retrieveFromChain, hdecoded, pure_bind]
    rfl
  rw [retrieve]
  cases layer.archive with
  | none => exact hchain
  | some archive =>
    have hnothing : retrieveFromArchive archive signal [] = pure none := rfl
    dsimp only
    rw [hnothing, pure_bind]
    exact hchain

/-- Where a record points, if any block has room for its place. -/
def place (record : Attestation.Record) : Except Error Location :=
  if record.leafIndex.toNat < 2 ^ 32 then
    .ok ⟨record.blockNumber, UInt32.ofNat record.leafIndex.toNat, .leaf⟩
  else .error (.retrieval record.blockNumber record.leafIndex.toNat .leaf
    (.noBlob record.blockNumber record.leafIndex.toNat .leaf))

variable {layer signal} (hquiet : signal.Quiet) {reader : Attestation.Reader W}
  (hreader : layer.attestations = some reader) {leaf : Hash} {w w' : W}

include hquiet hreader

theorem resolveLeaf_of_record {record : Attestation.Record}
    (hread : reader.read leaf w = (.ok record, w')) :
    (layer.resolveLeaf signal leaf).run w = (place record, w') := by
  have hneed : layer.needAttestations = pure reader := by
    rw [needAttestations, hreader]
  have hawait := interrupted_await_quiet hquiet (reader.read leaf) w
  have hrecord : orFail (W := W) Error.ofAttestation (.ok record) = pure record := rfl
  have hsize : UInt32.size = 2 ^ 32 := rfl
  rw [hread] at hawait
  rw [resolveLeaf, hneed, pure_bind, run_bind_ok hawait, hrecord, pure_bind, place, hsize]
  dsimp only
  by_cases hfits : record.leafIndex.toNat < 2 ^ 32
  · rw [if_pos hfits, if_pos hfits]
    rfl
  · rw [if_neg hfits, if_neg hfits]
    rfl

theorem resolveLeaf_of_error {e : Attestation.Error}
    (hread : reader.read leaf w = (.error e, w')) :
    (layer.resolveLeaf signal leaf).run w = (.error (.ofAttestation e), w') := by
  have hneed : layer.needAttestations = pure reader := by
    rw [needAttestations, hreader]
  have hawait := interrupted_await_quiet hquiet (reader.read leaf) w
  rw [hread] at hawait
  rw [resolveLeaf, hneed, pure_bind, run_bind_ok hawait]
  rfl

end Leaves

structure Attesting (part : Part W Chain.Memory) (layer : DataLayer W)
    (reader : Attestation.Reader W) : Prop extends OnMemory part layer where
  attestations : layer.attestations = some reader
  read : ∀ leaf, (Passage.untouched part).Admits (reader.read leaf)

/-- What the record of its leaf makes of a proof. Nothing else of the proof matters, and the
chain is asked only for a record of a block whose place fits 32 bits. -/
structure Decided (part : Part W Chain.Memory) (layer : DataLayer W) (signal : Signal W)
    (reader : Attestation.Reader W) (p : Message.InclusionProof) (w : W) : Prop where
  leaf_only : ∀ q : Message.InclusionProof, q.leaf = p.leaf →
    (Message.inclusionProof q).encode.length < 2 ^ 64 →
    layer.retrieve signal [] (Message.inclusionProof q).encode =
      layer.retrieve signal [] (Message.inclusionProof p).encode
  placed : ∀ n i, reader.Finds p.leaf w (.ok ⟨n, i⟩) → n ≠ 0 → i.toNat < 2 ^ 32 →
    ((layer.retrieve signal [] (Message.inclusionProof p).encode).run w).1 = (do
      let blob ← ((part.view w).fetch n (UInt32.ofNat i.toNat) .leaf).mapError
        (.retrieval n i.toNat .leaf)
      (Batches.decode blob).mapError fun fault => .format (.batches fault))
  beyond : ∀ n i, reader.Finds p.leaf w (.ok ⟨n, i⟩) → n ≠ 0 → 2 ^ 32 ≤ i.toNat →
    ∀ chain, (({ layer with chain }.retrieve signal []
      (Message.inclusionProof p).encode).run w) =
        (.error (.retrieval n i.toNat .leaf (.noBlob n i.toNat .leaf)), (reader.read p.leaf w).2)
  missing : ∀ reason, reader.Finds p.leaf w (.error reason) →
    ∀ chain, (({ layer with chain }.retrieve signal []
      (Message.inclusionProof p).encode).run w) =
        (.error (.attestationNotFound p.leaf reason), (reader.read p.leaf w).2)
  empty : ∀ i, reader.Finds p.leaf w (.ok ⟨0, i⟩) →
    ∀ chain, (({ layer with chain }.retrieve signal []
      (Message.inclusionProof p).encode).run w) =
        (.error (.attestationNotFound p.leaf "leaf has not been attested"),
          (reader.read p.leaf w).2)

section Quiet

variable {part : Part W Chain.Memory} {layer : DataLayer W} {signal : Signal W}
  (hquiet : signal.Quiet)

include hquiet

/-- What the reader finds for the leaf decides what is retrieved, in every world. -/
theorem Attesting.decided {reader : Attestation.Reader W} (h : Attesting part layer reader)
    (p : Message.InclusionProof) (hp : (Message.inclusionProof p).encode.length < 2 ^ 64) (w : W) :
    Decided part layer signal reader p w where
  leaf_only := by
    intro q hleaf hq
    rw [retrieve_inclusionProof layer signal q hq, retrieve_inclusionProof layer signal p hp, hleaf]
  placed := by
    intro n i hfinds hn hi
    have hresolve := resolveLeaf_of_record hquiet h.attestations (hfinds.read_present hn)
    have hplace : place ⟨n, i⟩ = .ok ⟨n, UInt32.ofNat i.toNat, .leaf⟩ := if_pos hi
    have hindex : (UInt32.ofNat i.toNat).toNat = i.toNat := UInt32.toNat_ofNat_of_lt' hi
    have hview : part.view (reader.read p.leaf w).2 = part.view w := h.read p.leaf w
    have hfetched := fetch_quiet h.toOnMemory hquiet ⟨n, UInt32.ofNat i.toNat, .leaf⟩
      (reader.read p.leaf w).2
    dsimp only at hfetched
    rw [hindex, hview] at hfetched
    rw [hplace] at hresolve
    rw [retrieve_inclusionProof layer signal p hp, retrieveLeaf, run_bind_ok hresolve,
      run_bind_fst, hfetched]
    rfl
  beyond := by
    intro n i hfinds hn hi chain
    have hresolve := resolveLeaf_of_record hquiet h.attestations (hfinds.read_present hn)
    have hplace : place ⟨n, i⟩ = .error (.retrieval n i.toNat .leaf (.noBlob n i.toNat .leaf)) :=
      if_neg (Nat.not_lt.mpr hi)
    rw [hplace] at hresolve
    rw [retrieve_inclusionProof _ signal p hp]
    exact run_bind_error hresolve _
  missing := by
    intro reason hfinds chain
    rw [retrieve_inclusionProof _ signal p hp]
    exact run_bind_error (resolveLeaf_of_error hquiet h.attestations hfinds.read_missing) _
  empty := by
    intro i hfinds chain
    rw [retrieve_inclusionProof _ signal p hp]
    exact run_bind_error (resolveLeaf_of_error hquiet h.attestations hfinds.read_empty) _

/-- A chain in memory that takes a blob reports its inclusion. -/
theorem OnMemory.submission_included (h : OnMemory part layer) (hpart : part.Lawful) (blob : Bytes)
    (w : W) {i : Inclusion} (hsubmit : ((part.view w).submit blob).1 = .ok i) :
    ∃ chain ∈ layer.chain, ∃ w₁, chain.submit blob w = (.returned (.ok i), w₁) ∧
      (layer.submission signal blob).run w = (.ok i, w₁) ∧
      part.view w₁ = ((part.view w).submit blob).2 := by
  obtain ⟨delay, hdelay, hchain⟩ := h.chain
  obtain ⟨hreturned, hview⟩ := Chain.Memory.submit_chain part delay hdelay hpart blob w
  have hneed : layer.needChain = pure (Chain.Memory.chain part delay) := by
    rw [needChain, hchain]
  have hthrough := interrupted_awaitBegun_quiet hquiet
    ((Chain.Memory.chain part delay).submit blob) w
  rw [hsubmit] at hreturned
  refine ⟨_, hchain, _, Prod.ext hreturned rfl, ?_, hview⟩
  rw [submission, hneed, pure_bind, run_bind_ok hthrough, hreturned]
  rfl

/-- The message for an inclusion carries the proof that the service gives for it. -/
theorem messageFor_served {service : ProofService.Client W} (hservice : layer.proofs = some service)
    (commitment : Hash) (i : Inclusion) {url : Url} {w : W} {k : Nat} {p : Message.InclusionProof}
    (hserves : service.Serves signal i.blockHash i.index url w k p) :
    (layer.messageFor signal commitment i).run w =
      (.ok (.inclusionProof p), (service.asking signal i.blockHash i.index).after w k) := by
  have hasked : (liftM (service.fetchProof signal i.blockHash i.index) : Step W _).run w =
      (.ok (.ok p), (service.asking signal i.blockHash i.index).after w k) := by
    rw [run_liftM, hserves.fetchProof_eq hquiet]
  rw [messageFor, hservice]
  exact run_bind_ok hasked _

/-- A sequence that a chain in memory takes and that the proof service proves, at whichever
attempt, is found again by the proof: the service is asked for the place of the inclusion, the
envelope carries what it serves, and the attested record of the leaf decides what that leads to,
which for the first leaf of the block is the sequence. -/
theorem retrieve_attested (hpart : part.Lawful) (hlayer : OnMemory part layer)
    {service : ProofService.Client W} (hservice : layer.proofs = some service)
    (hpermits : ∀ a ∈ layer.archive, a.policy.concurrency.toNat ≤ Pool.maxPermits)
    (batches : List Bytes) (h64 : (Batches.encode batches).length < 2 ^ 64) (w : W)
    (haccepts : (part.view w).rejectReason = none)
    (hroom : (part.view w).blocks.length < 2 ^ 32 - 1) :
    ∃ chain ∈ layer.chain, ∃ i w₁,
      chain.submit (Batches.encode batches) w = (.returned (.ok i), w₁) ∧
      ∀ url k p, service.Serves signal i.blockHash i.index url w₁ k p →
        (Message.inclusionProof p).encode.length < 2 ^ 64 →
        ∃ w₂, (layer.post signal batches).run w = (.ok (Message.inclusionProof p).encode, w₂) ∧
          (layer.withoutArchive.post signal batches).run w =
            (.ok (Message.inclusionProof p).encode,
              (service.asking signal i.blockHash i.index).after w₁ k) ∧
          Message.decode (Message.inclusionProof p).encode = .ok (.inclusionProof p) ∧
          ∀ finder reader, Attesting part finder reader →
            (∀ w₃, Decided part finder signal reader p w₃) ∧
            ∀ w₃, Later part w₂ w₃ → reader.Finds p.leaf w₃ (.ok ⟨i.blockNumber, 0⟩) →
              ((finder.retrieve signal [] (Message.inclusionProof p).encode).run w₃).1 =
                .ok batches := by
  obtain ⟨i, hsubmit, -, hnumber, hleaf⟩ :=
    Chain.Memory.fetch_submit (part.view w) (Batches.encode batches) haccepts hroom
  obtain ⟨chain, hchain, w₁, hincluded, hsubmission, hview₁⟩ :=
    hlayer.submission_included hquiet hpart (Batches.encode batches) w hsubmit
  refine ⟨chain, hchain, i, w₁, hincluded, ?_⟩
  intro url k p hserves hp
  have hmessage := messageFor_served hquiet hservice (keccak (Batches.encode batches)) i hserves
  have hpointed : (layer.pointed signal batches).run w =
      (.ok (.inclusionProof p), (service.asking signal i.blockHash i.index).after w₁ k) := by
    rw [pointed, run_bind_ok hsubmission]
    exact hmessage
  obtain ⟨w₂, hcopy, hleads⟩ := layer.copy_quiet signal hquiet hpermits batches
    ((service.asking signal i.blockHash i.index).after w₁ k)
  have hcopied := hleads (Passage.untouched part) hlayer.put
  have hasked := (hlayer.admits_messageFor signal _ i).leads_of_eq hmessage
  have hview₂ : part.view w₂ = ((part.view w).submit (Batches.encode batches)).2 :=
    hcopied.trans (hasked.trans hview₁)
  refine ⟨w₂, ?_, ?_, Message.decode_encode _ hp, ?_⟩
  · rw [post_eq, run_bind_ok hpointed, run_bind_ok hcopy]
    rfl
  · have hwithout : layer.withoutArchive.pointed signal batches = layer.pointed signal batches :=
      rfl
    have hnothing : layer.withoutArchive.copy signal batches = pure () := rfl
    rw [post_eq, hwithout, run_bind_ok hpointed, hnothing, pure_bind]
    rfl
  · intro finder reader hfinder
    have hdecided := hfinder.decided hquiet p hp
    refine ⟨hdecided, ?_⟩
    intro w₃ hlater hfinds
    rw [← hview₂] at hleaf
    have hfetched := Chain.Memory.fetch_mono _ _ (growth_of_later hpart hlater) _ _ _ _ hleaf
    rw [(hdecided w₃).placed _ _ hfinds hnumber (by decide)]
    have hzero : UInt32.ofNat (0 : BitVec 128).toNat = 0 := rfl
    rw [hzero, hfetched]
    show (Batches.decode (Batches.encode batches)).mapError _ = _
    rw [Batches.decode_encode batches h64]
    rfl

end Quiet

abbrev Triple := Chain.Memory × Attestation.Table × Nat

namespace Triple

def chain : Part Triple Chain.Memory := ⟨Prod.fst, fun m w => (m, w.2)⟩

def table : Part Triple Attestation.Table := ⟨fun w => w.2.1, fun t w => (w.1, t, w.2.2)⟩

def proof : Message.InclusionProof where
  dataRootProof := []
  leafProof := [Word.ofNat 3]
  rangeHash := Word.zero
  dataRootIndex := 2
  blobRoot := Word.zero
  bridgeRoot := Word.zero
  leaf := Word.ofNat 7
  leafIndex := 5

def quoted (b : Bytes) : Bytes := [0x22] ++ b ++ [0x22]

def field (name : String) (value : Bytes) : Bytes :=
  quoted (Bytes.ofText name) ++ [0x3a] ++ value

def digits (last : UInt8) : Bytes := quoted (List.replicate 63 0x30 ++ [0x30 + last])

def body : Bytes :=
  [0x7b] ++ List.intercalate [0x2c] [
    field "blobRoot" (digits 0), field "bridgeRoot" (digits 0), field "dataRootIndex" [0x32],
    field "dataRootProof" [0x5b, 0x5d], field "leaf" (digits 7), field "leafIndex" [0x35],
    field "leafProof" ([0x5b] ++ digits 3 ++ [0x5d]), field "rangeHash" (digits 0)] ++ [0x7d]

theorem ofBytes?_body : ProofService.Answer.ofBytes? body =
    some ⟨proof, Word.zero, Word.zero, Word.zero⟩ := by
  decide +kernel

/-- The reply after a number of waits: the proof is ready after the first of them. -/
def replyAfter : Nat → Http.Outcome
  | 0 => .answered 404 none
  | _ + 1 => .answered 200 (some body)

def service : ProofService.Client Triple where
  network := ⟨fun _ w => (replyAfter w.2.2, w)⟩
  clock := ⟨fun _ w => ((), w.1, w.2.1, w.2.2 + 1), pure⟩
  baseUrl := "http://[::1]"
  policy := .fixed 2 (.ofSeconds 1)
  timeout := .ofSeconds 30

def layer : DataLayer Triple where
  chain := some (Chain.Memory.chain chain fun _ => pure ())
  proofs := some service
  attestations := some (Attestation.Table.reader table)
  archive := none

theorem chain_lawful : chain.Lawful := ⟨fun _ _ => rfl, fun _ => rfl, fun _ _ _ => rfl⟩

theorem attesting : Attesting chain layer (Attestation.Table.reader table) := by
  refine ⟨⟨⟨fun _ => pure (), fun _ w => rfl, rfl⟩, ?_, ?_, ?_, ?_, ?_⟩, rfl, fun leaf w => rfl⟩
  · rintro a ⟨⟩
  · rintro a ⟨⟩
  · rintro s ⟨⟩ r w
    rfl
  · rintro s ⟨⟩ d w
    rfl
  · rintro s ⟨⟩ d w
    rfl

theorem exists_parse_proofUrl (blockHash : Hash) (index : UInt32) :
    ∃ url, Url.parse (service.proofUrl blockHash index) = some url := by
  have hurl : service.proofUrl blockHash index =
      "http://[::1]" ++ "/eth/proof/" ++ blockHash.text ++ "?index=" ++ toString index.toNat := rfl
  have hhead : "http://[::1]" ++ "/eth/proof/" = "http://[::1]/" ++ "eth/proof/" := by decide
  rw [hurl, hhead, String.append_assoc, String.append_assoc, String.append_assoc]
  exact Url.exists_parse_append _

/-- The second reply has the proof. -/
theorem serves (blockHash : Hash) (index : UInt32) (m : Chain.Memory) (t : Attestation.Table) :
    ∃ url, service.Serves .never blockHash index url (m, t, 0) 1 proof := by
  obtain ⟨url, haddress⟩ := exists_parse_proofUrl blockHash index
  refine ⟨url, haddress, by decide, ?_, body, _, rfl, ofBytes?_body, rfl⟩
  intro j hj
  have hfirst : j = 0 := Nat.lt_one_iff.mp hj
  rw [hfirst]
  exact .status 404 none (by decide)

end Triple

open Triple in
/-- A sequence that is proven at the second attempt is found by its record and by no other. -/
theorem retrieve_attested_triple :
    ∃ envelope w, (layer.post .never Batches.mixed).run (.empty, .empty, 0) =
        (.ok envelope, w) ∧
      Message.decode envelope = .ok (.inclusionProof proof) ∧
      ((layer.retrieve .never [] envelope).run
        (w.1, Attestation.Table.empty.insert proof.leaf ⟨1, 0⟩, 0)).1 = .ok Batches.mixed ∧
      ((layer.retrieve .never [] envelope).run
        (w.1, Attestation.Table.empty.insert proof.leaf ⟨1, 2 ^ 32⟩, 0)).1 =
          .error (.retrieval 1 (2 ^ 32) .leaf (.noBlob 1 (2 ^ 32) .leaf)) ∧
      ((layer.retrieve .never [] envelope).run (w.1, .empty, 0)).1 =
        .error (.attestationNotFound proof.leaf "leaf has not been attested") := by
  obtain ⟨chain, hchain, i, w₁, hsubmit, hserved⟩ := retrieve_attested Signal.quiet_never
    chain_lawful attesting.toOnMemory rfl nofun Batches.mixed (by decide) (.empty, .empty, 0) rfl
    (by decide)
  cases hchain
  cases hsubmit
  have hsize : (Message.inclusionProof proof).encode.length < 2 ^ 64 := by
    rw [Message.length_encode, Message.payload, Message.InclusionProof.length_encode]
    decide
  obtain ⟨url, hserves⟩ := serves _ _ _ _
  obtain ⟨w, hpost, -, hdecode, hfound⟩ := hserved url 1 proof hserves hsize
  obtain ⟨hdecided, hlater⟩ := hfound layer _ attesting
  refine ⟨_, w, hpost, hdecode, ?_, ?_, ?_⟩
  · exact hlater _ (.single (.elsewhere _ _ rfl))
      (.of_record (Attestation.Table.record?_insert _ _ _))
  · have hbeyond :=
      (hdecided (w.1, Attestation.Table.empty.insert proof.leaf ⟨1, 2 ^ 32⟩, 0)).beyond 1 (2 ^ 32)
        (.of_record (Attestation.Table.record?_insert _ _ _)) (by decide) (by decide) layer.chain
    exact congrArg Prod.fst hbeyond
  · have hmissing := (hdecided (w.1, .empty, 0)).missing _ (.of_no_record rfl) layer.chain
    exact congrArg Prod.fst hmissing

end DataLayer

end Validium
