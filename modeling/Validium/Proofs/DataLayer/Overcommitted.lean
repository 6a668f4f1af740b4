import Validium.DataLayer.OfSettings
import Validium.Proofs.Abi.Exact
import Validium.Proofs.DataLayer.Mirror
import Validium.Proofs.Settings.Agreement

/-!
Stores that are to work on more items at a time than there can be permits for. No number is
refused: either form of settings takes any, and only zero is replaced. What is wrong with a
number that is too large shows when several items are handed to the store. A sequence that is
posted is on the chain by then, and the message that leads to it is lost. Nothing else that a
data layer does ends in this way.
-/
namespace Validium

variable {W α β : Type}

namespace Pool

theorem one_le_permits (concurrency : UInt64) : 1 ≤ permits concurrency := Nat.le_max_left _ _

/-- The pool asks for too many permits exactly if its number is beyond them and the signal has not
fired before. Nothing has begun then. -/
theorem run_eq_overcommitted_iff (signal : Signal W) (concurrency : UInt64)
    (jobs : List (StateM W (Completion α))) (w w' : W) :
    run signal concurrency jobs w = (.error .overcommitted, w') ↔
      maxPermits < permits concurrency ∧ signal.fired w = false ∧ w' = w := by
  rw [run_apply]
  by_cases hfired : signal.fired w = true
  · rw [if_pos hfired]
    exact iff_of_false nofun fun h => by simp [hfired] at h
  · rw [if_neg hfired]
    by_cases hover : maxPermits < permits concurrency
    · rw [if_pos hover, Prod.mk.injEq]
      exact ⟨fun h => ⟨hover, Bool.eq_false_iff.mpr hfired, h.2.symm⟩, fun h => ⟨rfl, h.2.2.symm⟩⟩
    · rw [if_neg hover]
      exact iff_of_false (fun h => collect_ne_overcommitted signal jobs w (congrArg Prod.fst h))
        fun h => hover h.1

end Pool

namespace Store

def Policy.Overcommits (p : Policy) : Prop := Pool.maxPermits < p.concurrency.toNat

instance (p : Policy) : Decidable p.Overcommits := inferInstanceAs (Decidable (_ < _))

theorem Policy.maxPermits_lt_permits_iff (p : Policy) :
    Pool.maxPermits < Pool.permits p.effectiveConcurrency ↔ p.Overcommits := by
  constructor
  · intro hover
    by_contra hfits
    exact Nat.not_lt.mpr (Archive.permits_effectiveConcurrency p (Nat.not_lt.mp hfits)) hover
  · intro hover
    have hnonzero : p.concurrency ≠ 0 := by
      intro hzero
      rw [Overcommits, hzero] at hover
      exact absurd hover (by decide)
    rw [Policy.effectiveConcurrency, if_neg hnonzero]
    exact Nat.lt_of_lt_of_le hover (Nat.le_max_right _ _)

namespace Archive

variable (m : Archive W) (signal : Signal W) (w w' : W)

theorem each_eq_overcommitted_iff (keys : List String)
    (jobs : List (StateM W (Completion (Except Fault α)))) :
    m.each signal keys jobs w = (.error .overcommitted, w') ↔
      m.policy.Overcommits ∧ signal.fired w = false ∧ w' = w := by
  rw [← m.policy.maxPermits_lt_permits_iff, ← Pool.run_eq_overcommitted_iff signal _ jobs,
    each_eq, map_apply]
  rcases Pool.run signal m.policy.effectiveConcurrency jobs w with ⟨halt | results, w₁⟩
  · constructor
    · rintro ⟨⟩
      rfl
    · rintro ⟨⟩
      rfl
  · exact iff_of_false nofun nofun

theorem putMultiple_eq_overcommitted_iff (bodies : List Bytes) :
    m.putMultiple signal bodies w = (.error .overcommitted, w') ↔
      m.policy.Overcommits ∧ signal.fired w = false ∧ w' = w := by
  rw [putMultiple_eq, each_eq_overcommitted_iff]

theorem getMultiple_eq_overcommitted_iff (hashes : List Hash) :
    m.getMultiple signal hashes w = (.error .overcommitted, w') ↔
      m.policy.Overcommits ∧ signal.fired w = false ∧ w' = w := by
  rw [getMultiple_eq, each_eq_overcommitted_iff]

end Archive

end Store

/-! ### Settings with any number -/

namespace Settings

def withConcurrency (s : Settings) (n : UInt64) : Settings :=
  { s with store := { s.store with concurrency := n } }

section Variables

variable {lookup : String → Option String} {name other : String} {text : Option String}

theorem present_update (h : name ≠ other) :
    present (Function.update lookup other text) name = present lookup name := by
  rw [present, present, Function.update_of_ne h]

/-- Setting one variable leaves the others. -/
theorem readVariable_update (h : name ≠ other) (read : String → Except String α) (otherwise : α) :
    readVariable (Function.update lookup other text) name read otherwise =
      readVariable lookup name read otherwise := by
  rw [readVariable, readVariable, present_update h]

/-- Next to variables that are accepted any number is. -/
theorem ofLookup_update {s : Settings} (h : ofLookup lookup = .ok s) (n : UInt64) :
    ofLookup (Function.update lookup "DA_S3_CONCURRENCY" (some (numberText n.toNat))) =
      .ok (s.withConcurrency n) := by
  have hnumber : readVariable
      (Function.update lookup "DA_S3_CONCURRENCY" (some (numberText n.toNat)))
      "DA_S3_CONCURRENCY" (readNumber 64) Store.Policy.usualConcurrency.toNat = .ok n.toNat := by
    refine readVariable_numberText ?_ n.toNat_lt
    rw [Function.update_self, Option.getD_some]
  rw [ofLookup] at h ⊢
  simp (disch := decide) only [readVariable_update, present_update, Function.update_of_ne, hnumber]
  obtain ⟨enabled, henabled, h⟩ := exists_of_bind h
  obtain ⟨retryCount, hretry, h⟩ := exists_of_bind h
  obtain ⟨waitSeconds, hwait, h⟩ := exists_of_bind h
  obtain ⟨bucketEnabled, hbucket, h⟩ := exists_of_bind h
  obtain ⟨concurrency, -, h⟩ := exists_of_bind h
  obtain ⟨discard, hdiscard, h⟩ := exists_of_bind h
  obtain ⟨rfl, hvalid⟩ := (validated_eq_ok_iff _ s).mp h
  rw [henabled, hretry, hwait, hbucket, hdiscard]
  refine (validated_eq_ok_iff _ _).mpr ⟨?_, hvalid⟩
  simp only [withConcurrency, UInt64.ofNat_toNat]

end Variables

/-- Valid settings are read back from their object with any number in it. -/
theorem ofFile_withConcurrency {s : Settings} (h : s.validate = .ok ()) (n : UInt64)
    (path : String) :
    ofFile path (.ok (Bytes.ofText (s.withConcurrency n).written.compact)) =
      .ok (s.withConcurrency n) := by
  have hvalid : (s.withConcurrency n).validate = .ok () := h
  exact ofFile_of_spells hvalid (Json.Tree.ofBytes?_compact (legible_written _))
    (spells_written _) path

end Settings

namespace DataLayer

/-! ### Steps that ask for no permits -/

def Spared (x : Step W α) : Prop := ∀ w w', x.run w ≠ (.error .overcommitted, w')

section Spared

theorem spared_pure (a : α) : Spared (pure a : Step W α) := fun _ _ => nofun

theorem spared_throw {e : Error} (h : e ≠ .overcommitted) : Spared (throw e : Step W α) :=
  fun _ _ hrun => h (Except.error.inj (congrArg Prod.fst hrun))

theorem spared_liftM (x : StateM W α) : Spared (liftM x : Step W α) := fun _ _ => nofun

theorem spared_interrupted (step : Interruptible W α) : Spared (interrupted step) := by
  intro w w'
  rw [run_interrupted]
  cases (step.run w).1 <;> exact nofun

theorem spared_orFail {ε : Type} {error : ε → Error} (h : ∀ e, error e ≠ .overcommitted)
    (r : Except ε α) : Spared (orFail (W := W) error r) := by
  cases r with
  | ok a => exact spared_pure a
  | error e => exact spared_throw (h e)

variable {x : Step W α} {f : α → Step W β}

/-- After a step that asks for no permits, it is the next that lacks them. -/
theorem Spared.run_bind_iff (hx : Spared x) (w w' : W) :
    (x >>= f).run w = (.error .overcommitted, w') ↔
      ∃ a w₁, x.run w = (.ok a, w₁) ∧ (f a).run w₁ = (.error .overcommitted, w') := by
  constructor
  · intro h
    rcases hrun : x.run w with ⟨e | a, w₁⟩
    · rw [run_bind_error hrun] at h
      cases h
      exact absurd hrun (hx w w')
    · rw [run_bind_ok hrun] at h
      exact ⟨a, w₁, rfl, h⟩
  · rintro ⟨a, w₁, hrun, h⟩
    rw [run_bind_ok hrun, h]

theorem Spared.bind (hx : Spared x) (hf : ∀ a, Spared (f a)) : Spared (x >>= f) := by
  intro w w' h
  obtain ⟨a, w₁, -, hnext⟩ := (hx.run_bind_iff w w').mp h
  exact hf a w₁ w' hnext

/-- Before steps that ask for no permits, it is the first that lacks them. -/
theorem run_bind_iff_of_spared (hf : ∀ a, Spared (f a)) (w w' : W) :
    (x >>= f).run w = (.error .overcommitted, w') ↔ x.run w = (.error .overcommitted, w') := by
  rcases hrun : x.run w with ⟨e | a, w₁⟩
  · rw [run_bind_error hrun, Prod.mk.injEq, Prod.mk.injEq, Except.error.injEq, Except.error.injEq]
  · rw [run_bind_ok hrun]
    exact iff_of_false (hf a w₁ w') nofun

/-- A step that runs the pool lacks permits where the pool does. -/
theorem run_pool_iff {γ : Type} (action : StateM W (Except Pool.Halt γ)) {f : γ → Step W β}
    (hf : ∀ c, Spared (f c)) (w w' : W) :
    (do let outcome ← (liftM action : Step W _); orFail .ofHalt outcome >>= f).run w =
        (.error .overcommitted, w') ↔ action w = (.error .overcommitted, w') := by
  rw [run_bind_ok (run_liftM action w), run_bind_iff_of_spared hf]
  rcases action w with ⟨(- | -) | a, w₁⟩
  · exact iff_of_false nofun nofun
  · constructor
    · rintro ⟨⟩
      rfl
    · rintro ⟨⟩
      rfl
  · exact iff_of_false nofun nofun

end Spared

section Parts

variable (layer : DataLayer W) (signal : Signal W)

theorem spared_needChain : Spared layer.needChain := by
  unfold needChain
  cases layer.chain with
  | none => exact spared_throw nofun
  | some chain => exact spared_pure chain

theorem spared_needAttestations : Spared layer.needAttestations := by
  unfold needAttestations
  cases layer.attestations with
  | none => exact spared_throw nofun
  | some reader => exact spared_pure reader

theorem ofAttestation_ne_overcommitted (e : Attestation.Error) :
    Error.ofAttestation e ≠ .overcommitted := by
  cases e <;> exact nofun

theorem spared_call (step : Interruptible W (Completion (Except Chain.Error α)))
    {error : Chain.Error → Error} (herror : ∀ e, error e ≠ .overcommitted) :
    Spared (do let outcome ← interrupted step; orFail error (Chain.settle outcome)) :=
  (spared_interrupted step).bind fun _ => spared_orFail herror _

theorem spared_submission (blob : Bytes) : Spared (layer.submission signal blob) :=
  layer.spared_needChain.bind fun _ => spared_call _ nofun

theorem spared_messageFor (commitment : Hash) (inclusion : Inclusion) :
    Spared (layer.messageFor signal commitment inclusion) := by
  unfold messageFor
  cases layer.proofs with
  | none => exact spared_pure _
  | some service =>
    refine (spared_liftM _).bind fun proof => ?_
    exact (spared_orFail ofAttestation_ne_overcommitted _).bind fun p => spared_pure _

theorem spared_pointed (batches : List Bytes) : Spared (layer.pointed signal batches) :=
  (layer.spared_submission signal _).bind fun _ => layer.spared_messageFor signal _ _

theorem spared_resolveLeaf (leaf : Hash) : Spared (layer.resolveLeaf signal leaf) := by
  refine layer.spared_needAttestations.bind fun reader => ?_
  refine (spared_interrupted _).bind fun outcome => ?_
  refine (spared_orFail ofAttestation_ne_overcommitted _).bind fun record => ?_
  dsimp only
  split_ifs
  · exact spared_pure _
  · exact spared_throw nofun

theorem spared_locate (message : Message) : Spared (layer.locate signal message) := by
  cases message with
  | blobPointer p => exact spared_pure _
  | inclusionProof p => exact layer.spared_resolveLeaf signal p.leaf

theorem spared_fetch (l : Location) : Spared (layer.fetch signal l) :=
  layer.spared_needChain.bind fun _ => spared_call _ nofun

theorem spared_retrieveFromChain (envelope : Bytes) :
    Spared (layer.retrieveFromChain signal envelope) := by
  refine (spared_orFail nofun _).bind fun message => ?_
  refine (layer.spared_locate signal message).bind fun location => ?_
  refine (layer.spared_fetch signal location).bind fun blob => ?_
  exact spared_orFail nofun _

theorem spared_offChainDataFromLeaf (hash : Hash) (fault : Option Store.Fault) :
    Spared (layer.offChainDataFromLeaf signal hash fault) := by
  unfold offChainDataFromLeaf
  split_ifs
  · exact (layer.spared_resolveLeaf signal hash).bind fun _ => layer.spared_fetch signal _
  · cases fault with
    | none => exact spared_throw nofun
    | some fault => exact spared_throw (by cases fault <;> exact nofun)

/-- A single body is read without a permit. -/
theorem spared_offChainData (hash : Hash) : Spared (layer.offChainData signal hash) := by
  unfold offChainData
  cases layer.archive with
  | none => exact layer.spared_offChainDataFromLeaf signal hash none
  | some archive =>
    refine (spared_interrupted _).bind fun found => ?_
    rcases found with (fault | body) | _
    · exact layer.spared_offChainDataFromLeaf signal hash (some fault)
    · exact spared_pure body
    · exact spared_throw nofun

end Parts

/-! ### Layers that lack permits -/

def Overcommits (layer : DataLayer W) : Prop := ∃ a ∈ layer.archive, a.policy.Overcommits

theorem overcommits_iff {layer : DataLayer W} {archive : Store.Archive W}
    (h : layer.archive = some archive) : layer.Overcommits ↔ archive.policy.Overcommits := by
  rw [Overcommits, h]
  simp

theorem not_overcommits {layer : DataLayer W} (h : layer.archive = none) : ¬ layer.Overcommits := by
  rw [Overcommits, h]
  simp

/-- The store of a layer made from settings is the directory they name, under their policy. -/
theorem archive_of_ofSettings {around : Surroundings W} {s : Settings} {chain : Option (Chain W)}
    {layer : DataLayer W} (h : ofSettings around s chain = .ok layer) :
    layer.archive = s.directory.map fun dir =>
      ⟨Store.FileSystem.objects around.files dir, s.store⟩ := by
  obtain ⟨proofs, -, h⟩ := exists_of_bind h
  obtain ⟨attestations, -, h⟩ := exists_of_bind h
  obtain ⟨archive, harchive, h⟩ := exists_of_bind h
  cases h
  rw [archiveOf] at harchive
  split_ifs at harchive
  exact (Except.ok.inj harchive).symm

/-- A layer that is made from settings has their number unchanged, if it has an archive. -/
theorem overcommits_of_ofSettings {around : Surroundings W} {s : Settings}
    {chain : Option (Chain W)} {layer : DataLayer W} (h : ofSettings around s chain = .ok layer) :
    layer.Overcommits ↔ s.directory.isSome ∧ s.store.Overcommits := by
  have harchive := archive_of_ofSettings h
  cases hdirectory : s.directory with
  | none =>
    rw [hdirectory] at harchive
    exact iff_of_false (not_overcommits harchive) nofun
  | some dir =>
    rw [hdirectory] at harchive
    rw [overcommits_iff harchive]
    exact (and_iff_right rfl).symm

section Runs

variable (layer : DataLayer W) (signal : Signal W) (w w' : W)

theorem copy_eq_overcommitted_iff (batches : List Bytes) :
    (layer.copy signal batches).run w = (.error .overcommitted, w') ↔
      layer.Overcommits ∧ signal.fired w = false ∧ w' = w := by
  unfold copy
  cases harchive : layer.archive with
  | none => exact iff_of_false nofun fun h => not_overcommits harchive h.1
  | some archive =>
    rw [overcommits_iff harchive, ← archive.putMultiple_eq_overcommitted_iff signal w w' batches]
    exact run_pool_iff _ (fun _ => spared_pure ()) w w'

theorem retrieveFromArchive_eq_overcommitted_iff (archive : Store.Archive W)
    (hashes : List Hash) :
    (retrieveFromArchive archive signal hashes).run w = (.error .overcommitted, w') ↔
      hashes ≠ [] ∧ archive.policy.Overcommits ∧ signal.fired w = false ∧ w' = w := by
  unfold retrieveFromArchive
  cases hashes with
  | nil => exact iff_of_false nofun fun h => h.1 rfl
  | cons hash rest =>
    rw [and_iff_right (List.cons_ne_nil hash rest),
      ← archive.getMultiple_eq_overcommitted_iff signal w w' (hash :: rest)]
    exact run_pool_iff _ (fun _ => spared_pure _) w w'

/-- A retrieval asks for the permits as soon as there are hashes. -/
theorem retrieve_eq_overcommitted_iff (hashes : List Hash) (envelope : Bytes) :
    (layer.retrieve signal hashes envelope).run w = (.error .overcommitted, w') ↔
      hashes ≠ [] ∧ layer.Overcommits ∧ signal.fired w = false ∧ w' = w := by
  have hchain := layer.spared_retrieveFromChain signal envelope
  unfold retrieve
  cases harchive : layer.archive with
  | none =>
    exact iff_of_false (hchain w w') fun h => not_overcommits harchive h.2.1
  | some archive =>
    rw [overcommits_iff harchive, ← retrieveFromArchive_eq_overcommitted_iff,
      run_bind_iff_of_spared]
    -- the chain answers where the archive does not
    intro found
    cases found with
    | none => exact hchain
    | some batches => exact spared_pure batches

/-- Without its archive the layer posts a sequence well where it makes a message for it. -/
theorem exists_envelope_iff (batches : List Bytes) :
    (∃ envelope, (layer.withoutArchive.post signal batches).run w = (.ok envelope, w')) ↔
      ∃ message, (layer.pointed signal batches).run w = (.ok message, w') := by
  have hwithout : layer.withoutArchive.post signal batches =
      layer.pointed signal batches >>= fun message => pure message.encode := by
    rw [post_eq]
    rfl
  rw [hwithout]
  constructor
  · rintro ⟨envelope, h⟩
    obtain ⟨message, w₁, hrun, hend⟩ := exists_of_run_bind h
    cases hend
    exact ⟨message, hrun⟩
  · rintro ⟨message, hrun⟩
    exact ⟨message.encode, run_bind_ok hrun _⟩

/-- Posting lacks permits where the layer without its archive would have ended well. -/
theorem post_eq_overcommitted_iff (batches : List Bytes) :
    (layer.post signal batches).run w = (.error .overcommitted, w') ↔
      layer.Overcommits ∧ signal.fired w' = false ∧
        ∃ envelope, (layer.withoutArchive.post signal batches).run w = (.ok envelope, w') := by
  rw [post_eq, (layer.spared_pointed signal batches).run_bind_iff, exists_envelope_iff]
  simp only [run_bind_iff_of_spared fun _ => spared_pure _, copy_eq_overcommitted_iff]
  constructor
  · rintro ⟨message, w₁, hrun, hover, hfired, rfl⟩
    exact ⟨hover, hfired, message, hrun⟩
  · rintro ⟨hover, hfired, message, hrun⟩
    exact ⟨message, w', hrun, hover, hfired, rfl⟩

end Runs

theorem OnMemory.withoutArchive {part : Part W Chain.Memory} {layer : DataLayer W}
    (h : OnMemory part layer) : OnMemory part layer.withoutArchive :=
  ⟨h.chain, nofun, nofun, h.exchange, h.sleep, h.spread⟩

/-- A chain in memory has the blob of a sequence whose message is lost. -/
theorem OnMemory.post_overcommitted {part : Part W Chain.Memory} {layer : DataLayer W}
    {signal : Signal W} (h : OnMemory part layer) (hpart : part.Lawful)
    (hproofs : layer.proofs = none) (hquiet : signal.Quiet) (hover : layer.Overcommits)
    (batches : List Bytes) (w : W) (haccepts : (part.view w).rejectReason = none)
    (hroom : (part.view w).blocks.length < 2 ^ 32 - 1) :
    ∃ (i : Inclusion) (w' : W), (layer.post signal batches).run w = (.error .overcommitted, w') ∧
      (part.view w').fetch i.blockNumber i.index .extrinsic = .ok (Batches.encode batches) := by
  obtain ⟨i, hsubmit, hfetch, -⟩ :=
    Chain.Memory.fetch_submit (part.view w) (Batches.encode batches) haccepts hroom
  obtain ⟨w', hpost, hview⟩ :=
    post_quiet h.withoutArchive hquiet nofun hpart hproofs batches w i hsubmit
  rw [← hview] at hfetch
  exact ⟨i, w', (layer.post_eq_overcommitted_iff signal w w' batches).mpr
    ⟨hover, hquiet w', _, hpost⟩, hfetch⟩

/-- The number of items that a store works on at a time has a lower bound and no upper one. A store
asks for at least one permit, and for no more than there can be exactly where it does not
overcommit; variables and objects are accepted with any number, and a layer is made with it. An
archive that overcommits refuses every list of items, unless the signal has fired before. So
posting to it fails exactly where all is done but the copies, and reading from it wherever there
are hashes to read. Single bodies are read all the same. -/
theorem overcommitted_iff_overcommits :
    (∀ p : Store.Policy, 1 ≤ Pool.permits p.effectiveConcurrency ∧
      (Pool.permits p.effectiveConcurrency ≤ Pool.maxPermits ↔ ¬ p.Overcommits)) ∧
    (∀ (m : Store.Archive W) (signal : Signal W) (w w' : W),
      (∀ bodies, m.putMultiple signal bodies w = (.error .overcommitted, w') ↔
        m.policy.Overcommits ∧ signal.fired w = false ∧ w' = w) ∧
      ∀ hashes, m.getMultiple signal hashes w = (.error .overcommitted, w') ↔
        m.policy.Overcommits ∧ signal.fired w = false ∧ w' = w) ∧
    (∀ (layer : DataLayer W) (signal : Signal W) (w w' : W),
      (∀ batches, (layer.post signal batches).run w = (.error .overcommitted, w') ↔
        layer.Overcommits ∧ signal.fired w' = false ∧
          ∃ envelope, (layer.withoutArchive.post signal batches).run w = (.ok envelope, w')) ∧
      (∀ hashes envelope,
        (layer.retrieve signal hashes envelope).run w = (.error .overcommitted, w') ↔
          hashes ≠ [] ∧ layer.Overcommits ∧ signal.fired w = false ∧ w' = w) ∧
      ∀ hash, (layer.offChainData signal hash).run w ≠ (.error .overcommitted, w')) ∧
    (∀ (around : Surroundings W) (s : Settings) (chain : Option (Chain W)) (layer : DataLayer W),
      ofSettings around s chain = .ok layer →
      (layer.Overcommits ↔ s.directory.isSome ∧ s.store.Overcommits)) ∧
    ∀ (s : Settings) (n : UInt64),
      (∀ lookup, Settings.ofLookup lookup = .ok s →
        Settings.ofLookup (Function.update lookup "DA_S3_CONCURRENCY"
          (some (Settings.numberText n.toNat))) = .ok (s.withConcurrency n)) ∧
      (s.validate = .ok () → ∀ path, Settings.ofFile path
        (.ok (Bytes.ofText (s.withConcurrency n).written.compact)) =
          .ok (s.withConcurrency n)) := by
  refine ⟨?_, ?_, ?_, ?_, ?_⟩
  · intro p
    rw [← p.maxPermits_lt_permits_iff, Nat.not_lt]
    exact ⟨Pool.one_le_permits _, Iff.rfl⟩
  · intro m signal w w'
    exact ⟨m.putMultiple_eq_overcommitted_iff signal w w',
      m.getMultiple_eq_overcommitted_iff signal w w'⟩
  · intro layer signal w w'
    exact ⟨layer.post_eq_overcommitted_iff signal w w',
      layer.retrieve_eq_overcommitted_iff signal w w',
      fun hash => layer.spared_offChainData signal hash w w'⟩
  · intro around s chain layer h
    exact overcommits_of_ofSettings h
  · intro s n
    exact ⟨fun lookup h => Settings.ofLookup_update h n,
      fun h path => Settings.ofFile_withConcurrency h n path⟩

abbrev Premises := Chain.Memory × Store.FileSystem

namespace Premises

def chainPart : Part Premises Chain.Memory := ⟨Prod.fst, fun m w => (m, w.2)⟩

theorem chainPart_lawful : chainPart.Lawful :=
  ⟨fun _ _ => rfl, fun _ => rfl, fun _ _ _ => rfl⟩

def chain : Chain Premises := Chain.Memory.chain chainPart fun _ => pure ()

def surroundings : Surroundings Premises :=
  { network := ⟨fun _ => pure (.failed .unreachable)⟩
    clock := ⟨fun _ => pure (), pure⟩
    files := ⟨Prod.snd, fun files w => (w.1, files)⟩ }

def untouched : Premises := (.empty, ⟨⟨[]⟩, 1, 0⟩)

def lookup : String → Option String :=
  Function.update (fun _ => none) "DA_FS_STORE_DIR" (some "batches")

def settings : Settings := { Settings.standard with directory := some "batches" }

theorem ofLookup_eq : Settings.ofLookup lookup = .ok settings := by decide

def layer (n : UInt64) : DataLayer Premises :=
  { chain := some chain
    proofs := none
    attestations := none
    archive := some ⟨Store.FileSystem.objects surroundings.files "batches",
      (settings.withConcurrency n).store⟩ }

theorem ofSettings_eq (n : UInt64) :
    ofSettings surroundings (settings.withConcurrency n) (some chain) = .ok (layer n) := rfl

theorem layer_onMemory (n : UInt64) : OnMemory chainPart (layer n) := by
  refine ⟨⟨fun _ => pure (), fun _ w => rfl, rfl⟩, ?_, ?_, nofun, nofun, nofun⟩
  · rintro a ⟨⟩ key body expires w
    rfl
  · rintro a ⟨⟩ key w
    rfl

end Premises

/-- One item more than there can be permits for is accepted in either form of settings, and a
sequence is lost by it: its blob is on the chain, and nothing tells where. -/
theorem accepted_number_loses_sequence :
    Settings.ofLookup (Function.update Premises.lookup "DA_S3_CONCURRENCY"
        (some "2305843009213693952")) =
      .ok (Premises.settings.withConcurrency 2305843009213693952) ∧
    (∃ path bytes, Settings.ofFile path (.ok bytes) =
      .ok (Premises.settings.withConcurrency 2305843009213693952)) ∧
    ¬ Pool.permits (Premises.settings.withConcurrency
        2305843009213693952).store.effectiveConcurrency ≤ Pool.maxPermits ∧
    ∃ layer, ofSettings Premises.surroundings
        (Premises.settings.withConcurrency 2305843009213693952) (some Premises.chain) =
          .ok layer ∧
      ∃ (i : Inclusion) (w' : Premises),
        (layer.post .never Batches.mixed).run Premises.untouched = (.error .overcommitted, w') ∧
        w'.1.fetch i.blockNumber i.index .extrinsic = .ok (Batches.encode Batches.mixed) := by
  have hmade := Premises.ofSettings_eq 2305843009213693952
  have hover : (Premises.layer 2305843009213693952).Overcommits :=
    (overcommits_of_ofSettings hmade).mpr ⟨rfl, by decide⟩
  have hlookup := Settings.ofLookup_update Premises.ofLookup_eq 2305843009213693952
  have hvalid : Premises.settings.validate = .ok () := by decide
  refine ⟨hlookup, ⟨"backend.json", _, Settings.ofFile_withConcurrency hvalid _ _⟩, by decide,
    _, hmade, ?_⟩
  exact (Premises.layer_onMemory _).post_overcommitted Premises.chainPart_lawful rfl
    Signal.quiet_never hover Batches.mixed Premises.untouched rfl (by decide)

/-- As many items as there can be permits for are worked on, and with one more neither posting
nor reading goes through. -/
theorem overcommitted_iff_overcommits_edge :
    (∃ s layer, Settings.ofLookup (Function.update Premises.lookup "DA_S3_CONCURRENCY"
        (some "2305843009213693951")) = .ok s ∧
      ofSettings Premises.surroundings s (some Premises.chain) = .ok layer ∧
      Pool.permits s.store.effectiveConcurrency ≤ Pool.maxPermits ∧
      ∀ w', (layer.post .never Batches.mixed).run Premises.untouched ≠
        (.error .overcommitted, w')) ∧
    ∃ s layer, (∃ path bytes, Settings.ofFile path (.ok bytes) = .ok s) ∧
      ofSettings Premises.surroundings s (some Premises.chain) = .ok layer ∧
      Pool.maxPermits < Pool.permits s.store.effectiveConcurrency ∧
      (∃ w', (layer.post .never Batches.mixed).run Premises.untouched =
        (.error .overcommitted, w')) ∧
      (layer.retrieve .never [keccak [1]] []).run Premises.untouched =
        (.error .overcommitted, Premises.untouched) := by
  obtain ⟨hpermits, -, hruns, hmade, haccepted⟩ := overcommitted_iff_overcommits (W := Premises)
  refine ⟨⟨_, _, (haccepted Premises.settings 2305843009213693951).1 _ Premises.ofLookup_eq,
    Premises.ofSettings_eq _, (hpermits _).2.mpr (by decide), ?_⟩, ?_⟩
  · intro w' h
    have hover := (((hruns _ _ _ _).1 _).mp h).1
    rw [hmade _ _ _ _ (Premises.ofSettings_eq _)] at hover
    exact absurd hover.2 (by decide)
  · have hover : (Premises.layer 2305843009213693952).Overcommits :=
      (hmade _ _ _ _ (Premises.ofSettings_eq _)).mpr ⟨rfl, by decide⟩
    obtain ⟨i, hsubmit, -⟩ :=
      Chain.Memory.fetch_submit .empty (Batches.encode Batches.mixed) rfl (by decide)
    obtain ⟨w', hpost, -⟩ := post_quiet (Premises.layer_onMemory _).withoutArchive
      Signal.quiet_never nofun Premises.chainPart_lawful rfl Batches.mixed Premises.untouched i
      hsubmit
    refine ⟨_, _, ⟨"backend.json", _,
      (haccepted Premises.settings 2305843009213693952).2 (by decide) _⟩,
      Premises.ofSettings_eq _, by decide, ?_, ?_⟩
    · exact ⟨w', ((hruns _ _ _ _).1 _).mpr ⟨hover, rfl, _, hpost⟩⟩
    · exact ((hruns _ _ _ _).2.1 _ _).mpr ⟨List.cons_ne_nil _ _, hover, rfl, rfl⟩

end DataLayer

end Validium
