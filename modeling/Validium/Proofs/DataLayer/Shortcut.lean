import Validium.Proofs.DataLayer.Retrieval
import Validium.Proofs.World.Indifference

/-!
The archive as a shortcut. When it serves every hash, its bodies are the answer and nothing
else is looked at. When it does not, whatever the reason, the answer is the one of the same
layer without an archive, errors included, provided that reading objects is nothing that the
chain or the attestations take notice of.
-/
namespace Validium.DataLayer

variable {W α : Type}

def withoutArchive (layer : DataLayer W) : DataLayer W := { layer with archive := none }

/-- Reading objects leads along a passage that the chain and the attestations do not
notice. -/
structure Apart (p : Passage W) (layer : DataLayer W) : Prop where
  get : ∀ a ∈ layer.archive, ∀ key, p.Admits (a.objects.get key)
  fetch : ∀ c ∈ layer.chain, ∀ block index kind, p.Indifferent (c.fetch block index kind)
  read : ∀ r ∈ layer.attestations, ∀ leaf, p.Indifferent (r.read leaf)

theorem indifferent_orFail (p : Passage W) {ε : Type} (error : ε → Error) (r : Except ε α) :
    p.Indifferent (orFail (W := W) error r).run := by
  cases r with
  | ok a => exact p.indifferent_pure _
  | error e => exact p.indifferent_pure _

theorem indifferent_interrupted (p : Passage W) (step : Interruptible W α)
    (h : p.Indifferent step.run) : p.Indifferent (interrupted step).run := by
  intro w w' hw
  obtain ⟨hsame, hleads⟩ := h w w' hw
  exact ⟨congrArg (Except.mapError fun _ => Error.cancelled) hsame, hleads⟩

section Quiet

variable {p : Passage W} {layer : DataLayer W} {signal : Signal W} (hquiet : signal.Quiet)

include hquiet

theorem Apart.indifferent_resolveLeaf (h : Apart p layer) (leaf : Hash) :
    p.Indifferent (layer.resolveLeaf signal leaf).run := by
  cases hreader : layer.attestations with
  | none =>
    rw [resolveLeaf, needAttestations, hreader]
    exact p.indifferent_pure _
  | some reader =>
    have hneed : layer.needAttestations = pure reader := by
      rw [needAttestations, hreader]
    rw [resolveLeaf, hneed, pure_bind]
    have hread := p.indifferent_await hquiet _ (h.read reader hreader leaf)
    refine p.indifferent_run_bind _ _ (indifferent_interrupted p _ hread) ?_
    intro outcome
    refine p.indifferent_run_bind _ _ (indifferent_orFail p _ outcome) ?_
    intro record
    dsimp only
    split
    · exact p.indifferent_pure _
    · exact p.indifferent_pure _

theorem Apart.indifferent_fetch (h : Apart p layer) (l : Location) :
    p.Indifferent (layer.fetch signal l).run := by
  cases hchain : layer.chain with
  | none =>
    rw [DataLayer.fetch, needChain, hchain]
    exact p.indifferent_pure _
  | some chain =>
    have hneed : layer.needChain = pure chain := by
      rw [needChain, hchain]
    rw [DataLayer.fetch, hneed, pure_bind]
    have hfetch := p.indifferent_awaitBegun hquiet _
      (h.fetch chain hchain l.block l.index l.kind)
    refine p.indifferent_run_bind _ _ (indifferent_interrupted p _ hfetch) ?_
    intro outcome
    exact indifferent_orFail p _ _

theorem Apart.indifferent_retrieveFromChain (h : Apart p layer) (envelope : Bytes) :
    p.Indifferent (layer.retrieveFromChain signal envelope).run := by
  refine p.indifferent_run_bind _ _ (indifferent_orFail p _ _) ?_
  intro message
  refine p.indifferent_run_bind _ _ ?_ ?_
  · cases message with
    | blobPointer pointer => exact p.indifferent_pure _
    | inclusionProof proof => exact h.indifferent_resolveLeaf hquiet proof.leaf
  · intro location
    refine p.indifferent_run_bind _ _ (h.indifferent_fetch hquiet location) ?_
    intro blob
    exact indifferent_orFail p _ _

variable (archive : Store.Archive W)
  (hpermits : archive.policy.concurrency.toNat ≤ Pool.maxPermits)

include hpermits

/-- The archive is asked for nothing but the objects of the hashes, and what it gives is
taken for an answer exactly when it serves them all. -/
theorem retrieveFromArchive_run (hashes : List Hash) (hnonempty : hashes ≠ []) (w : W) :
    ∃ found, (retrieveFromArchive archive signal hashes).run w =
        (.ok found, (archive.readEach hashes w).2) ∧
      ∀ bodies, found = some bodies ↔ archive.Serves w hashes bodies := by
  have hread : (liftM (archive.getMultiple signal hashes) : Step W _).run w =
      (.ok (.ok (Store.Slots.ofResults (hashes.map archive.objectKey)
        ((hashes.mapM archive.getByHash w).1.map Store.settle))),
        (archive.readEach hashes w).2) := by
    rw [archive.getMultiple_quiet hquiet hpermits, ← archive.mapM_getByHash_world]
    rfl
  have hlen : (hashes.map archive.objectKey).length =
      ((hashes.mapM archive.getByHash w).1.map Store.settle).length := by
    rw [List.length_map, List.length_map, (Pool.mapM_ran archive.objects.reading archive.getByHash
      archive.reading_admits_getByHash hashes w).length_eq]
  have hsome : hashes.isEmpty = false := List.isEmpty_eq_false_iff.mpr hnonempty
  refine ⟨(Store.Slots.ofResults (hashes.map archive.objectKey)
    ((hashes.mapM archive.getByHash w).1.map Store.settle)).toResult.toOption, ?_, ?_⟩
  · rw [retrieveFromArchive, hsome]
    exact run_bind_ok hread _
  · intro bodies
    rw [← archive.mapM_getByHash_eq_ok_iff, ← Store.map_settle_eq_ok_iff,
      ← Store.Slots.toResult_ofResults _ _ hlen]
    generalize (Store.Slots.ofResults (hashes.map archive.objectKey)
      ((hashes.mapM archive.getByHash w).1.map Store.settle)).toResult = result
    cases result with
    | error e => simp [Except.toOption]
    | ok values => simp [Except.toOption]

end Quiet

/-- Where the archive serves every hash of a sequence, the answer is what it serves, in the
order of the hashes, after those reads and nothing else, whatever the envelope and the rest
of the layer. In every other case the layer answers as it would without its archive. -/
theorem retrieve_shortcut (layer : DataLayer W) {signal : Signal W} (hquiet : signal.Quiet)
    (hpermits : ∀ a ∈ layer.archive, a.policy.concurrency.toNat ≤ Pool.maxPermits)
    (hashes : List Hash) (envelope : Bytes) (w : W) :
    (∀ archive ∈ layer.archive, ∀ bodies, hashes ≠ [] → archive.Serves w hashes bodies →
      (layer.retrieve signal hashes envelope).run w =
        (.ok bodies, (archive.readEach hashes w).2)) ∧
    ∀ p : Passage W, Apart p layer →
      (∀ archive ∈ layer.archive, ∀ bodies, hashes ≠ [] → ¬ archive.Serves w hashes bodies) →
      ((layer.retrieve signal hashes envelope).run w).1 =
          ((layer.withoutArchive.retrieve signal hashes envelope).run w).1 ∧
        p.leads ((layer.withoutArchive.retrieve signal hashes envelope).run w).2
          ((layer.retrieve signal hashes envelope).run w).2 := by
  have hwithout : layer.withoutArchive.retrieve signal hashes envelope =
      layer.retrieveFromChain signal envelope := rfl
  constructor
  · intro archive harchive bodies hnonempty hserves
    obtain ⟨found, hrun, hfound⟩ := retrieveFromArchive_run hquiet archive
      (hpermits archive harchive) hashes hnonempty w
    rw [(hfound bodies).mpr hserves] at hrun
    have harchive : layer.archive = some archive := harchive
    unfold retrieve
    simp only [harchive]
    rw [run_bind_ok hrun]
    rfl
  · intro p hapart hunserved
    rw [hwithout]
    unfold retrieve
    cases harchive : layer.archive with
    | none => exact ⟨rfl, p.refl _⟩
    | some archive =>
      have hchain := hapart.indifferent_retrieveFromChain hquiet envelope
      by_cases hempty : hashes = []
      · -- No object is read, so both runs start in one world.
        subst hempty
        exact ⟨rfl, p.refl _⟩
      · obtain ⟨found, hrun, hfound⟩ := retrieveFromArchive_run hquiet archive
          (hpermits archive harchive) hashes hempty w
        cases found with
        | some bodies =>
          exact absurd ((hfound bodies).mp rfl) (hunserved archive harchive bodies hempty)
        | none =>
          dsimp only
          rw [run_bind_ok hrun]
          have hreads : p.leads w (archive.readEach hashes w).2 :=
            p.admits_mapM hashes _ (fun hash => hapart.get archive harchive _) w
          exact hchain w _ hreads

/-- A layer with its chain in one part of the world and its store elsewhere is one where
the chain does not notice what is read. -/
theorem OnMemory.apart {part : Part W Chain.Memory} {layer : DataLayer W}
    (h : OnMemory part layer) (hpart : part.Lawful)
    (hread : ∀ r ∈ layer.attestations, ∀ leaf, (Passage.untouched part).Indifferent (r.read leaf)) :
    Apart (Passage.untouched part) layer := by
  refine ⟨h.get, ?_, hread⟩
  intro chain hchain block index kind w w' hw
  obtain ⟨delay, hdelay, hmemory⟩ := h.chain
  cases hmemory.symm.trans hchain
  have hview : part.view w' = part.view w := hw
  constructor
  · rw [Chain.Memory.fetch_chain part delay hdelay, Chain.Memory.fetch_chain part delay hdelay,
      hview]
  · have hleft := Chain.Memory.untouched_admits_fetch part delay hdelay hpart block index kind w
    have hright := Chain.Memory.untouched_admits_fetch part delay hdelay hpart block index kind w'
    exact (hright.trans hview).trans hleft.symm

def keeping (body : Bytes) : Store.Memory :=
  Store.Memory.empty.insert (Store.Archive.keyOf .standard (keccak body)) body none

/-- A body that the store has answers for an envelope that leads nowhere. Asked of an empty
store, the same hash is answered by the chain. -/
theorem retrieve_shortcut_mirrored :
    (mirrored.retrieve .never [keccak [1, 2, 3]] []).run (.empty, keeping [1, 2, 3]) =
      (.ok [[1, 2, 3]], (.empty, keeping [1, 2, 3])) ∧
    ((mirrored.retrieve .never [keccak [1, 2, 3]]
        (Message.blobPointer (.new 1 1 .zero)).encode).run
          ((Chain.Memory.empty.pushBlock [Batches.encode Batches.mixed]).2, .empty)).1 =
      ((mirrored.withoutArchive.retrieve .never [keccak [1, 2, 3]]
        (Message.blobPointer (.new 1 1 .zero)).encode).run
          ((Chain.Memory.empty.pushBlock [Batches.encode Batches.mixed]).2, .empty)).1 := by
  have hpermits : ∀ a ∈ mirrored.archive, a.policy.concurrency.toNat ≤ Pool.maxPermits := by
    rintro a ⟨⟩
    decide
  have hapart : Apart (Passage.untouched chainPart) mirrored :=
    mirrored_onMemory.apart chainPart_lawful nofun
  constructor
  · have hbody : (keeping [1, 2, 3]).body? (Store.Archive.keyOf .standard (keccak [1, 2, 3])) =
        some [1, 2, 3] := by
      rw [keeping, Store.Memory.body?_insert, Function.update_self]
    have hserves : Store.Archive.Serves ⟨Store.Memory.objects storePart, .standard⟩
        (Chain.Memory.empty, keeping [1, 2, 3]) [keccak [1, 2, 3]] [[1, 2, 3]] := by
      apply (Store.Memory.serves_iff storePart_lawful _ _ _ _).mpr
      exact ⟨congrArg (fun found => [found]) hbody, rfl⟩
    have hanswer := (retrieve_shortcut mirrored Signal.quiet_never hpermits
      [keccak [1, 2, 3]] [] _).1 _ rfl _ (List.cons_ne_nil _ _) hserves
    rw [Store.Memory.readEach_objects storePart_lawful] at hanswer
    exact hanswer
  · apply ((retrieve_shortcut mirrored Signal.quiet_never hpermits _ _ _).2
      (Passage.untouched chainPart) hapart _).1
    intro archive harchive bodies _ hserves
    cases harchive
    rw [Store.Memory.serves_iff storePart_lawful] at hserves
    cases bodies with
    | nil => cases hserves.2
    | cons body others => cases (List.cons.inj hserves.1).1

end Validium.DataLayer
