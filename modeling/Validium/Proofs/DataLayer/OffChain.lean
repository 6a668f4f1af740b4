import Validium.Proofs.DataLayer.Attested
import Validium.Proofs.DataLayer.Commitment

/-!
The data behind a hash. What the store has under the hash is taken only if the hash is its digest,
and then nothing else is looked at. In every other case the layer answers as it would without its
store, if it can look leaves up; if it cannot, it tells what its store has told.
-/
namespace Validium

variable {W : Type}

/-- A reader of either kind has no other reason for an error than that there is no record. -/
theorem Attestation.Reader.Finds.error_eq {leaf : Hash} {w : W} {reader : Reader W}
    {found : Except String Record} (h : reader.Finds leaf w found) {e : Error}
    (he : (reader.read leaf w).1 = .error e) : ∃ reason, e = .notFound leaf reason := by
  rw [h.read_eq] at he
  cases found with
  | error reason =>
    cases he
    exact ⟨reason, rfl⟩
  | ok record =>
    have hpresent : present leaf record = .error e := he
    unfold present at hpresent
    split at hpresent
    · cases hpresent
      exact ⟨_, rfl⟩
    · cases hpresent

namespace DataLayer

/-- What there is at the attested leaf of a hash: the blob of the chain at the place that the
record tells, if any block has room for the place. -/
inductive AtLeaf (chain : Chain W) (reader : Attestation.Reader W) (hash : Hash) (w : W) :
    Except Error Bytes × W → Prop
  | unattested (e : Attestation.Error) (w₁ : W) (hread : reader.read hash w = (.error e, w₁)) :
      AtLeaf chain reader hash w (.error (.ofAttestation e), w₁)
  | beyond (record : Attestation.Record) (w₁ : W) (hread : reader.read hash w = (.ok record, w₁))
      (hplace : 2 ^ 32 ≤ record.leafIndex.toNat) :
      AtLeaf chain reader hash w
        (.error (.retrieval record.blockNumber record.leafIndex.toNat .leaf
          (.noBlob record.blockNumber record.leafIndex.toNat .leaf)), w₁)
  | fetched (record : Attestation.Record) (w₁ : W) (hread : reader.read hash w = (.ok record, w₁))
      (hplace : record.leafIndex.toNat < 2 ^ 32) (outcome : Completion (Except Chain.Error Bytes))
      (w₂ : W) (hfetch : chain.fetch record.blockNumber (.ofNat record.leafIndex.toNat) .leaf w₁ =
        (outcome, w₂)) :
      AtLeaf chain reader hash w ((Chain.settle outcome).mapError
        (.retrieval record.blockNumber record.leafIndex.toNat .leaf), w₂)

def Error.ofStoreAlone : Option Store.Fault → Error
  | none => .notConfigured .storeOrAttestations
  | some .cancelled => .cancelled
  | some fault => .store (.fault fault)

variable (layer : DataLayer W) (signal : Signal W) (hash : Hash) (w : W)

def Held (body : Bytes) (w₁ : W) : Prop :=
  ∃ archive, layer.archive = some archive ∧
    archive.objects.get (archive.objectKey hash) w = (.returned (.ok body), w₁) ∧
    keccak body = hash

/-- There is no store, or it has told why it holds no such body, or it holds another one. -/
inductive Unheld : Option Store.Fault → W → Prop
  | absent (h : layer.archive = none) : Unheld none w
  | faulty (archive : Store.Archive W) (h : layer.archive = some archive) (fault : Store.Fault)
      (w₁ : W)
      (hget : archive.objects.get (archive.objectKey hash) w = (.returned (.error fault), w₁)) :
      Unheld (some fault) w₁
  | corrupt (archive : Store.Archive W) (h : layer.archive = some archive) (body : Bytes) (w₁ : W)
      (hget : archive.objects.get (archive.objectKey hash) w = (.returned (.ok body), w₁))
      (hdigest : keccak body ≠ hash) : Unheld (some (.corrupt (archive.objectKey hash))) w₁

theorem Unheld.leads {layer : DataLayer W} {hash : Hash} {w w₁ : W} {fault : Option Store.Fault}
    (h : layer.Unheld hash w fault w₁) {p : Passage W} (hapart : Apart p layer) :
    p.leads w w₁ := by
  cases h with
  | absent => exact p.refl w
  | faulty archive harchive fault _ hget =>
    have hread := hapart.get archive harchive (archive.objectKey hash) w
    rw [hget] at hread
    exact hread
  | corrupt archive harchive body _ hget =>
    have hread := hapart.get archive harchive (archive.objectKey hash) w
    rw [hget] at hread
    exact hread

/-- A store that answers at all holds the body or tells why it does not. -/
theorem held_or_unheld (layer : DataLayer W) (hash : Hash) (w : W) :
    (∃ body w₁, layer.Held hash w body w₁) ∨ (∃ fault w₁, layer.Unheld hash w fault w₁) ∨
      ∃ archive w₁, layer.archive = some archive ∧
        archive.objects.get (archive.objectKey hash) w = (.brokeDown, w₁) := by
  rcases harchive : layer.archive with - | archive
  · exact .inr (.inl ⟨_, _, .absent harchive⟩)
  rcases hget : archive.objects.get (archive.objectKey hash) w with ⟨(fault | body) | -, w₁⟩
  · exact .inr (.inl ⟨_, _, .faulty archive harchive fault w₁ hget⟩)
  · by_cases hdigest : keccak body = hash
    · exact .inl ⟨body, w₁, archive, harchive, hget, hdigest⟩
    · exact .inr (.inl ⟨_, _, .corrupt archive harchive body w₁ hget hdigest⟩)
  · exact .inr (.inr ⟨archive, w₁, rfl, hget⟩)

section Leaf

variable {layer} {chain : Chain W} {reader : Attestation.Reader W}
  (hchain : layer.chain = some chain) (hreader : layer.attestations = some reader)

include hchain hreader

/-- Where leaves can be looked up, it does not matter what the store has told. -/
theorem offChainDataFromLeaf_eq (fault : Option Store.Fault) :
    layer.offChainDataFromLeaf signal hash fault =
      layer.resolveLeaf signal hash >>= layer.fetch signal := by
  unfold offChainDataFromLeaf
  rw [hchain, hreader]
  rfl

variable {signal} (hquiet : signal.Quiet)

include hquiet

theorem offChainDataFromLeaf_atLeaf (fault : Option Store.Fault) :
    AtLeaf chain reader hash w ((layer.offChainDataFromLeaf signal hash fault).run w) := by
  rw [offChainDataFromLeaf_eq signal hash hchain hreader]
  rcases hread : reader.read hash w with ⟨e | record, w₁⟩
  · rw [run_bind_error (resolveLeaf_of_error hquiet hreader hread)]
    exact .unattested e w₁ hread
  · have hresolve := resolveLeaf_of_record hquiet hreader hread
    unfold place at hresolve
    by_cases hplace : record.leafIndex.toNat < 2 ^ 32
    · rw [if_pos hplace] at hresolve
      have hindex : (UInt32.ofNat record.leafIndex.toNat).toNat = record.leafIndex.toNat :=
        UInt32.toNat_ofNat_of_lt' hplace
      rw [run_bind_ok hresolve, fetch_run layer signal hchain, hquiet]
      dsimp only
      rw [hindex]
      exact .fetched record w₁ hread hplace _ _ rfl
    · rw [if_neg hplace] at hresolve
      rw [run_bind_error hresolve]
      exact .beyond record w₁ hread (Nat.le_of_not_lt hplace)

end Leaf

section Quiet

variable {layer signal hash w} (hquiet : signal.Quiet) {fault : Option Store.Fault} {w₁ : W}

include hquiet

theorem Held.offChainData_run {body : Bytes} (h : layer.Held hash w body w₁) :
    (layer.offChainData signal hash).run w = (.ok body, w₁) := by
  obtain ⟨archive, harchive, hget, hdigest⟩ := h
  have hverified : Store.Archive.verify (archive.objectKey hash) hash body = .ok body :=
    if_pos hdigest
  have hread : archive.getByHash hash w = (.returned (.ok body), w₁) := by
    rw [archive.getByHash_of_returned hget]
    exact congrArg (fun found => (Completion.returned found, w₁)) hverified
  have hawait := interrupted_await_quiet hquiet (archive.getByHash hash) w
  rw [hread] at hawait
  rw [offChainData, harchive]
  exact run_bind_ok hawait _

/-- The store is asked once and left behind. -/
theorem Unheld.offChainData_run (h : layer.Unheld hash w fault w₁) :
    (layer.offChainData signal hash).run w =
      (layer.offChainDataFromLeaf signal hash fault).run w₁ := by
  have hfaulty : ∀ archive, layer.archive = some archive → ∀ f,
      archive.getByHash hash w = (.returned (.error f), w₁) →
      (layer.offChainData signal hash).run w =
        (layer.offChainDataFromLeaf signal hash (some f)).run w₁ := by
    intro archive harchive f hread
    have hawait := interrupted_await_quiet hquiet (archive.getByHash hash) w
    rw [hread] at hawait
    rw [offChainData, harchive]
    exact run_bind_ok hawait _
  cases h with
  | absent harchive => rw [offChainData, harchive]
  | faulty archive harchive f _ hget =>
    exact hfaulty archive harchive f (archive.getByHash_of_returned hget)
  | corrupt archive harchive body _ hget hdigest =>
    have hverified : Store.Archive.verify (archive.objectKey hash) hash body =
        .error (.corrupt (archive.objectKey hash)) := if_neg hdigest
    refine hfaulty archive harchive _ ?_
    rw [archive.getByHash_of_returned hget]
    exact congrArg (fun found => (Completion.returned found, w₁)) hverified

/-- A read that breaks down takes the search with it, and no leaf is looked up. -/
theorem offChainData_of_brokeDown {archive : Store.Archive W}
    (harchive : layer.archive = some archive)
    (hget : archive.objects.get (archive.objectKey hash) w = (.brokeDown, w₁)) :
    (layer.offChainData signal hash).run w = (.error .brokeDown, w₁) := by
  have hread : archive.getByHash hash w = (.brokeDown, w₁) := by
    rw [Store.Archive.getByHash, bind_apply, hget]
    rfl
  have hawait := interrupted_await_quiet hquiet (archive.getByHash hash) w
  rw [hread] at hawait
  rw [offChainData, harchive]
  exact run_bind_ok hawait _

/-- Without a way to look leaves up there is only what the store has told. -/
theorem Unheld.offChainData_alone (h : layer.Unheld hash w fault w₁)
    (hleaf : layer.attestations = none ∨ layer.chain = none) :
    (layer.offChainData signal hash).run w = (.error (.ofStoreAlone fault), w₁) := by
  have hnone : (layer.attestations.isSome && layer.chain.isSome) = false := by
    rcases hleaf with hnone | hnone
    · rw [hnone]
      rfl
    · rw [hnone]
      exact Bool.and_false _
  rw [h.offChainData_run hquiet]
  unfold offChainDataFromLeaf
  rw [hnone]
  rcases fault with - | fault
  · rfl
  · cases fault <;> rfl

end Quiet

section Configured

variable {layer signal hash w} (hquiet : signal.Quiet) {fault : Option Store.Fault} {w₁ : W}
  (h : layer.Unheld hash w fault w₁) {chain : Chain W} {reader : Attestation.Reader W}
  (hchain : layer.chain = some chain) (hreader : layer.attestations = some reader)

include hquiet h hchain hreader

theorem Unheld.offChainData_withoutArchive :
    (layer.offChainData signal hash).run w =
      (layer.withoutArchive.offChainData signal hash).run w₁ := by
  have hwithout : layer.withoutArchive.offChainData signal hash =
      layer.offChainDataFromLeaf signal hash none := rfl
  rw [h.offChainData_run hquiet, hwithout, offChainDataFromLeaf_eq signal hash hchain hreader,
    offChainDataFromLeaf_eq signal hash hchain hreader]

/-- Where neither the chain nor the attestations notice what is read from the store, the layer
without its store answers alike from the start. -/
theorem Unheld.offChainData_alike {p : Passage W} (hapart : Apart p layer) :
    ((layer.offChainData signal hash).run w).1 =
        ((layer.withoutArchive.offChainData signal hash).run w).1 ∧
      p.leads ((layer.withoutArchive.offChainData signal hash).run w).2
        ((layer.offChainData signal hash).run w).2 := by
  have hwithout : layer.withoutArchive.offChainData signal hash =
      layer.resolveLeaf signal hash >>= layer.fetch signal :=
    offChainDataFromLeaf_eq signal hash hchain hreader none
  have hleaf : p.Indifferent (layer.withoutArchive.offChainData signal hash).run := by
    rw [hwithout]
    exact p.indifferent_run_bind _ _ (hapart.indifferent_resolveLeaf hquiet hash)
      fun location => hapart.indifferent_fetch hquiet location
  rw [h.offChainData_withoutArchive hquiet hchain hreader]
  exact hleaf w w₁ (h.leads hapart)

theorem Unheld.offChainData_atLeaf :
    AtLeaf chain reader hash w₁ ((layer.offChainData signal hash).run w) := by
  rw [h.offChainData_run hquiet]
  exact offChainDataFromLeaf_atLeaf hash w₁ hchain hreader hquiet fault

end Configured

/-- The layer answers for this hash as its chain and its attestations do, without its store. -/
structure AsWithoutStore (chain : Chain W) (reader : Attestation.Reader W) (w₁ : W) : Prop where
  same : (layer.offChainData signal hash).run w =
    (layer.withoutArchive.offChainData signal hash).run w₁
  alike : ∀ p : Passage W, Apart p layer → ((layer.offChainData signal hash).run w).1 =
    ((layer.withoutArchive.offChainData signal hash).run w).1
  atLeaf : AtLeaf chain reader hash w₁ ((layer.offChainData signal hash).run w)
  unattested : ∀ found, reader.Finds hash w₁ found → ∀ e, (reader.read hash w₁).1 = .error e →
    ∃ reason, ((layer.offChainData signal hash).run w).1 =
      .error (.attestationNotFound hash reason)

section Prefers

variable {layer signal hash w} (hquiet : signal.Quiet)

include hquiet

/-- Behind a store that does not have the hash the layer finds what it finds without the store. -/
theorem Unheld.asWithoutStore {fault : Option Store.Fault} {w₁ : W}
    (h : layer.Unheld hash w fault w₁) {chain : Chain W} {reader : Attestation.Reader W}
    (hchain : layer.chain = some chain) (hreader : layer.attestations = some reader) :
    layer.AsWithoutStore signal hash w chain reader w₁ where
  same := h.offChainData_withoutArchive hquiet hchain hreader
  alike := fun _ hapart => (h.offChainData_alike hquiet hchain hreader hapart).1
  atLeaf := h.offChainData_atLeaf hquiet hchain hreader
  unattested := by
    intro found hfinds e he
    obtain ⟨reason, rfl⟩ := hfinds.error_eq he
    have hread : reader.read hash w₁ = (.error (.notFound hash reason), _) := Prod.ext he rfl
    refine ⟨reason, ?_⟩
    rw [h.offChainData_run hquiet, offChainDataFromLeaf_eq signal hash hchain hreader,
      run_bind_error (resolveLeaf_of_error hquiet hreader hread)]
    rfl

/-- Data for a hash that the store does not hold is the blob at its leaf. -/
theorem Unheld.atLeaf_of_ok {fault : Option Store.Fault} {w₁ : W}
    (h : layer.Unheld hash w fault w₁) {body : Bytes} {w' : W}
    (hanswer : (layer.offChainData signal hash).run w = (.ok body, w')) :
    ∃ chain reader, layer.chain = some chain ∧ layer.attestations = some reader ∧
      AtLeaf chain reader hash w₁ (.ok body, w') := by
  rcases hreader : layer.attestations with - | reader
  · rw [h.offChainData_alone hquiet (.inl hreader)] at hanswer
    cases hanswer
  rcases hchain : layer.chain with - | chain
  · rw [h.offChainData_alone hquiet (.inr hchain)] at hanswer
    cases hanswer
  rw [← hanswer]
  exact ⟨chain, reader, rfl, rfl, h.offChainData_atLeaf hquiet hchain hreader⟩

/-- An answer is a body that the store holds for the hash, or the blob at its leaf. -/
theorem held_or_atLeaf {body : Bytes} {w' : W}
    (hanswer : (layer.offChainData signal hash).run w = (.ok body, w')) :
    layer.Held hash w body w' ∨ ∃ fault w₁ chain reader, layer.Unheld hash w fault w₁ ∧
      layer.chain = some chain ∧ layer.attestations = some reader ∧
      AtLeaf chain reader hash w₁ (.ok body, w') := by
  rcases held_or_unheld layer hash w with
    ⟨found, w₁, h⟩ | ⟨fault, w₁, h⟩ | ⟨archive, w₁, harchive, hget⟩
  · rw [h.offChainData_run hquiet] at hanswer
    cases hanswer
    exact .inl h
  · obtain ⟨chain, reader, hfound⟩ := h.atLeaf_of_ok hquiet hanswer
    exact .inr ⟨fault, w₁, chain, reader, h, hfound⟩
  · rw [offChainData_of_brokeDown hquiet harchive hget] at hanswer
    cases hanswer

end Prefers

/-- A body of the right digest in the store is the answer, whatever the rest of the layer. In
every other case the answer is the one of the layer without its store, if it can look leaves up,
and if it cannot, what the store has told. So no body of another digest is an answer of the
store. -/
theorem offChainData_prefers_store (layer : DataLayer W) {signal : Signal W}
    (hquiet : signal.Quiet) (hash : Hash) (w : W) :
    (∀ body w₁, layer.Held hash w body w₁ → ∀ chain proofs attestations,
      (({ layer with chain, proofs, attestations } : DataLayer W).offChainData signal hash).run w =
        (.ok body, w₁)) ∧
    (∀ fault w₁, layer.Unheld hash w fault w₁ →
      (∀ chain reader, layer.chain = some chain → layer.attestations = some reader →
        layer.AsWithoutStore signal hash w chain reader w₁) ∧
      (layer.attestations = none ∨ layer.chain = none →
        (layer.offChainData signal hash).run w = (.error (.ofStoreAlone fault), w₁))) ∧
    ∀ body w', (layer.offChainData signal hash).run w = (.ok body, w') →
      layer.Held hash w body w' ∨ ∃ fault w₁ chain reader, layer.Unheld hash w fault w₁ ∧
        layer.chain = some chain ∧ layer.attestations = some reader ∧
        AtLeaf chain reader hash w₁ (.ok body, w') := by
  refine ⟨?_, ?_, fun body w' => held_or_atLeaf hquiet⟩
  · intro body w₁ h chain proofs attestations
    have hsame : Held { layer with chain, proofs, attestations } hash w body w₁ := h
    exact hsame.offChainData_run hquiet
  · intro fault w₁ h
    exact ⟨fun chain reader => h.asWithoutStore hquiet, h.offChainData_alone hquiet⟩

def attested : DataLayer Pair := { mirrored with attestations := some ⟨fun _ => pure (.ok ⟨1, 0⟩)⟩ }

def misfiled (hash : Hash) : Pair :=
  ((Chain.Memory.empty.pushBlock [Batches.encode Batches.mixed]).2,
    Store.Memory.empty.insert (Store.Archive.keyOf .standard hash) [9] none)

/-- A body under a hash that is not its digest is passed over for the blob of the chain, and
without attestations for an error of the store. -/
theorem offChainData_prefers_store_misfiled : ∃ hash, keccak [9] ≠ hash ∧
    ((attested.offChainData .never hash).run (misfiled hash)).1 =
      .ok (Batches.encode Batches.mixed) ∧
    ((mirrored.offChainData .never hash).run (misfiled hash)).1 =
      .error (.store (.fault (.corrupt (Store.Archive.keyOf .standard hash)))) := by
  obtain ⟨hash, hdigest⟩ : ∃ hash, keccak [9] ≠ hash := by
    by_cases h : keccak [9] = Word.zero
    · exact ⟨Word.ofNat 1, by rw [h]; decide⟩
    · exact ⟨Word.zero, h⟩
  have hbody : (misfiled hash).2.body? (Store.Archive.keyOf .standard hash) = some [9] := by
    rw [misfiled, Store.Memory.body?_insert, Function.update_self]
  have hget : (Store.Memory.objects storePart).get (Store.Archive.keyOf .standard hash)
      (misfiled hash) = (.returned (.ok [9]), misfiled hash) := by
    rw [Store.Memory.get_objects storePart_lawful]
    exact congrArg (fun found => (Completion.returned (Store.Memory.answer _ found), _)) hbody
  have hattested : attested.Unheld hash (misfiled hash) _ (misfiled hash) :=
    .corrupt _ rfl [9] _ hget hdigest
  have hmirrored : mirrored.Unheld hash (misfiled hash) _ (misfiled hash) :=
    .corrupt _ rfl [9] _ hget hdigest
  refine ⟨hash, hdigest, ?_, ?_⟩
  · have hleaf := (((offChainData_prefers_store attested Signal.quiet_never hash _).2.1
      _ _ hattested).1 _ _ rfl rfl).atLeaf
    generalize (attested.offChainData .never hash).run (misfiled hash) = answer at hleaf ⊢
    cases hleaf with
    | unattested e w₁ hread => cases hread
    | beyond record w₁ hread hplace =>
      cases hread
      exact absurd hplace (by decide)
    | fetched record w₁ hread hplace outcome w₂ hfetch =>
      cases hread
      cases hfetch
      rfl
  · have halone := ((offChainData_prefers_store mirrored Signal.quiet_never hash _).2.1
      _ _ hmirrored).2 (.inl rfl)
    exact congrArg Prod.fst halone

def givingUp : DataLayer Unit :=
  { empty with
    archive := some ⟨{
      name := "memory"
      put := fun _ _ _ => pure (.returned (.ok ()))
      get := fun _ => pure (.returned (.error .cancelled))
      health := pure (.ok ()) }, .standard⟩ }

/-- It is not so that what the store has told is always told as an error of the store. -/
theorem not_always_store : ¬ ∀ (layer : DataLayer Unit) (hash : Hash) (fault : Store.Fault),
    layer.Unheld hash () (some fault) () → layer.attestations = none →
      ((layer.offChainData .never hash).run ()).1 = .error (.store (.fault fault)) := by
  intro halways
  have hunheld : givingUp.Unheld Word.zero () (some .cancelled) () := .faulty _ rfl _ _ rfl
  have htold := halways givingUp Word.zero .cancelled hunheld rfl
  cases htold

end DataLayer

end Validium
