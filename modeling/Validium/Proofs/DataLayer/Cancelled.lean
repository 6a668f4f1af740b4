import Validium.Proofs.DataLayer.Fired
import Validium.Proofs.DataLayer.Mirror
import Validium.Proofs.Migration.Tour

/-!
Operations that say they were given up. They say so only where the signal has fired, as long as
the parts that they ask do not say so by themselves: pools and repetitions look at the signal
before they report, and of the errors of the other parts none is taken for a cancellation. With
what becomes of operations under a fired signal this goes both ways.
-/
namespace Validium

variable {W α β ε : Type}

namespace Pool

variable (signal : Signal W)

theorem warrants_collect (jobs : List (StateM W (Completion α))) :
    signal.Warrants (· = .error .cancelled) (collect signal jobs) := by
  induction jobs with
  | nil => exact Signal.warrants_pure _ nofun
  | cons job rest ih =>
    intro w
    rw [collect, bind_apply, signal.isFired_bind_apply]
    cases hfired : signal.fired (job w).2 with
    | true =>
      intro _
      exact hfired
    | false =>
      specialize ih (job w).2
      simp only [Bool.false_eq_true, if_false]
      rw [bind_apply]
      cases hrest : (collect signal rest (job w).2).1 with
      | error halt =>
        rw [hrest] at ih
        intro hhalt
        cases hhalt
        exact ih rfl
      | ok results =>
        intro hhalt
        cases hhalt

theorem warrants_run (concurrency : UInt64) (jobs : List (StateM W (Completion α))) :
    signal.Warrants (· = .error .cancelled) (run signal concurrency jobs) := by
  intro w
  have hcollect := warrants_collect signal jobs w
  rw [run_apply]
  cases hfired : signal.fired w with
  | true =>
    intro _
    exact hfired
  | false =>
    rw [if_neg Bool.false_ne_true]
    split
    · intro hover
      cases hover
    · exact hcollect

end Pool

namespace Store.Archive

variable (m : Archive W) (signal : Signal W)

theorem warrants_each (keys : List String)
    (jobs : List (StateM W (Completion (Except Fault α)))) :
    signal.Warrants (· = .error .cancelled) (m.each signal keys jobs) := by
  rw [each_eq]
  refine Signal.warrants_map (Pool.warrants_run signal _ jobs) _ ?_
  intro outcome hhalt
  cases outcome with
  | error halt =>
    cases hhalt
    rfl
  | ok results => cases hhalt

theorem warrants_getMultiple (hashes : List Hash) :
    signal.Warrants (· = .error .cancelled) (m.getMultiple signal hashes) := by
  rw [getMultiple_eq]
  exact m.warrants_each signal _ _

theorem warrants_putMultiple (bodies : List Bytes) :
    signal.Warrants (· = .error .cancelled) (m.putMultiple signal bodies) := by
  rw [putMultiple_eq]
  exact m.warrants_each signal _ _

/-- Only a store that reports a cancellation by itself reports one for a body. -/
theorem getByHash_ne_cancelled
    (hcandid : ∀ key w, (m.objects.get key w).1 ≠ .returned (.error .cancelled)) (hash : Hash)
    (w : W) : (m.getByHash hash w).1 ≠ .returned (.error .cancelled) := by
  have hread : (m.getByHash hash w).1 = (m.objects.get (m.objectKey hash) w).1.map
      (· >>= verify (m.objectKey hash) hash) := rfl
  have hget := hcandid (m.objectKey hash) w
  rw [hread]
  intro hcancelled
  cases hcompletion : (m.objects.get (m.objectKey hash) w).1 with
  | brokeDown =>
    rw [hcompletion] at hcancelled
    cases hcancelled
  | returned result =>
    rw [hcompletion] at hget hcancelled
    cases result with
    | error fault =>
      cases hcancelled
      exact hget rfl
    | ok body =>
      have hverify : verify (m.objectKey hash) hash body = .error .cancelled :=
        Completion.returned.inj hcancelled
      unfold verify at hverify
      split at hverify
      · cases hverify
      · cases hverify

end Store.Archive

namespace Retry.Repetition

/-- No outcome of an attempt is taken for a cancellation. -/
theorem conclusion_ne_cancelled (r : Repetition W ε α) {w : W} {i : Nat}
    {result : Except (Error ε) α} (h : r.conclusion w i = some result) :
    result ≠ .error .cancelled := by
  unfold conclusion at h
  split at h
  · cases h
    exact nofun
  · split at h
    · cases h
      exact nofun
    · split at h
      · cases h
        exact nofun
      · cases h

/-- Repeating looks at the signal itself before it reports that it was given up. -/
theorem warrants_run (r : Repetition W ε α) :
    r.signal.Warrants (· = .error .cancelled) r.run := by
  intro w hcancelled
  obtain ⟨i, hi, hfails, hsilent, hfired | ⟨hquiet, result, hresult⟩⟩ := Repetition.exists_end r w
  · rw [Repetition.run_of_fired hi hfails hsilent hfired]
    exact hfired
  · rw [Repetition.run_of_conclusion hi hfails (Repetition.silent_of_lt hsilent hquiet) result
      hresult] at hcancelled
    exact absurd hcancelled (r.conclusion_ne_cancelled hresult)

end Retry.Repetition

theorem ProofService.Client.warrants_fetchProof (c : Client W) (signal : Signal W)
    (blockHash : Hash) (index : UInt32) :
    signal.Warrants (· = .error .cancelled) (c.fetchProof signal blockHash index) := by
  have hrun : signal.Warrants (· = .error .cancelled) (c.asking signal blockHash index).run :=
    (c.asking signal blockHash index).warrants_run
  rw [fetchProof_eq]
  refine Signal.warrants_map hrun _ ?_
  intro outcome hcancelled
  rcases outcome with (_ | _ | _) | a
  · rfl
  all_goals cases hcancelled

theorem Migrator.warrants_run (m : Migrator W) (signal : Signal W) (first last : UInt64) :
    signal.Warrants (fun result => ∃ report, result = .returned report ∧ report.interrupted = true)
      (m.run signal first last) := by
  rintro w ⟨report, hreport, hinterrupted⟩
  obtain ⟨visits, ending, htour, htold⟩ := m.run_tour signal (Prod.ext hreport rfl)
  obtain ⟨hreturned, rfl⟩ := Migration.Report.told_eq_returned_iff.mp htold.symm
  refine htour.fired ?_ hreturned
  intro hending
  rw [hending] at hinterrupted
  cases hinterrupted

namespace DataLayer

variable (layer : DataLayer W) (signal : Signal W)

structure Candid : Prop where
  attestations : ∀ reader ∈ layer.attestations, ∀ leaf w,
    (reader.read leaf w).1 ≠ .error .cancelled
  objects : ∀ archive ∈ layer.archive, ∀ key w,
    (archive.objects.get key w).1 ≠ .returned (.error .cancelled)

def Cancels (r : Except Error α) : Prop := r = .error .cancelled

variable {layer signal}

/-- Of what follows a step only the values that the step can give have to be looked at. -/
theorem warrants_step {x : Step W α} {f : α → Step W β}
    (hx : signal.Warrants Cancels x.run)
    (hf : ∀ a, (∃ w, (x.run w).1 = .ok a) → signal.Warrants Cancels (f a).run) :
    signal.Warrants Cancels (x >>= f).run := by
  intro w
  rw [ExceptT.run_bind, bind_apply]
  cases hresult : (x.run w).1 with
  | ok a => exact hf a ⟨w, hresult⟩ (x.run w).2
  | error e =>
    intro hcancels
    cases hcancels
    exact hx w hresult

theorem warrants_value (a : α) : signal.Warrants Cancels (pure a : Step W α).run :=
  Signal.warrants_pure _ nofun

theorem warrants_throw {e : Error} (h : e ≠ .cancelled) :
    signal.Warrants Cancels (throw e : Step W α).run := by
  refine Signal.warrants_pure _ ?_
  intro hcancels
  cases hcancels
  exact h rfl

theorem warrants_interrupted {step : Interruptible W α}
    (h : signal.Warrants CutShort step.run) : signal.Warrants Cancels (interrupted step).run := by
  intro w hcancels
  rw [run_interrupted] at hcancels
  refine h w ?_
  cases hresult : (step.run w).1 with
  | ok a =>
    rw [hresult] at hcancels
    cases hcancels
  | error c => rfl

/-- An error that is no cancellation needs no warrant. -/
theorem warrants_orFail {error : ε → Error} {r : Except ε α}
    (h : ∀ e, r = .error e → error e ≠ .cancelled) :
    signal.Warrants Cancels (orFail error r : Step W α).run := by
  cases r with
  | ok a => exact warrants_value a
  | error e => exact warrants_throw (h e rfl)

/-- An action whose report of a cancellation is warranted may end an operation with it. -/
theorem warrants_orFail_lift {x : StateM W (Except ε α)} {error : ε → Error} {c : ε}
    (hx : signal.Warrants (· = .error c) x) (hc : ∀ e, error e = .cancelled → e = c)
    {f : α → Step W β} (hf : ∀ a, signal.Warrants Cancels (f a).run) :
    signal.Warrants Cancels ((liftM x : Step W _) >>= fun r => orFail error r >>= f).run := by
  intro w
  rw [run_bind_ok (run_liftM x w)]
  cases hresult : (x w).1 with
  | ok a => exact hf a (x w).2
  | error e =>
    intro hcancels
    have hcancelled : (Except.error (error e) : Except Error β) = .error .cancelled := hcancels
    have he := hc e (Except.error.inj hcancelled)
    rw [he] at hresult
    exact hx w hresult

/-- A value that gets through the signal is the one that the step has given. -/
theorem step_of_interrupted {step : StateM W α} {w : W} {a : α}
    (h : ((interrupted (signal.await step)).run w).1 = .ok a) : (step w).1 = a := by
  rw [run_interrupted] at h
  obtain hcut | hcut | hthrough := signal.await_cases step w
  · rw [hcut] at h
    cases h
  · rw [hcut] at h
    cases h
  · rw [hthrough] at h
    exact Except.ok.inj h

theorem eq_cancelled_of_ofAttestation {e : Attestation.Error}
    (h : Error.ofAttestation e = .cancelled) : e = .cancelled := by
  cases e with
  | cancelled => rfl
  | _ => cases h

theorem eq_cancelled_of_ofHalt {halt : Pool.Halt} (h : Error.ofHalt halt = .cancelled) :
    halt = .cancelled := by
  cases halt with
  | cancelled => rfl
  | overcommitted => cases h

theorem eq_cancelled_of_ofStore {fault : Store.Fault}
    (h : Error.ofStore (.fault fault) = .cancelled) : fault = .cancelled := by
  cases fault with
  | cancelled => rfl
  | _ => cases h

theorem warrants_needChain : signal.Warrants Cancels (layer.needChain).run := by
  unfold needChain
  cases layer.chain with
  | none => exact warrants_throw nofun
  | some chain => exact warrants_value chain

/-- A call of the chain, the errors of which are no cancellations. -/
theorem warrants_call (step : StateM W (Completion (Except Chain.Error α)))
    {error : Chain.Error → Error} (herror : ∀ e, error e ≠ .cancelled) :
    signal.Warrants Cancels (do
      let outcome ← interrupted (signal.awaitBegun step)
      orFail error (Chain.settle outcome) : Step W α).run := by
  refine warrants_step (warrants_interrupted (Signal.warrants_awaitBegun step)) ?_
  intro outcome _
  exact warrants_orFail fun e _ => herror e

theorem warrants_submission (blob : Bytes) :
    signal.Warrants Cancels (layer.submission signal blob).run :=
  warrants_step warrants_needChain fun _ _ => warrants_call _ nofun

theorem warrants_messageFor (commitment : Hash) (inclusion : Inclusion) :
    signal.Warrants Cancels (layer.messageFor signal commitment inclusion).run := by
  unfold messageFor
  cases layer.proofs with
  | none => exact warrants_value _
  | some service =>
    exact warrants_orFail_lift (service.warrants_fetchProof signal _ _)
      (fun _ => eq_cancelled_of_ofAttestation) fun proof => warrants_value _

theorem warrants_post (batches : List Bytes) :
    signal.Warrants Cancels (layer.post signal batches).run := by
  rw [post_eq]
  refine warrants_step ?_ ?_
  · refine warrants_step (warrants_submission _) ?_
    intro inclusion _
    exact warrants_messageFor _ inclusion
  · intro message _
    refine warrants_step ?_ fun _ _ => warrants_value _
    unfold copy
    cases layer.archive with
    | none => exact warrants_value ()
    | some archive =>
      exact warrants_orFail_lift (archive.warrants_putMultiple signal batches)
        (fun _ => eq_cancelled_of_ofHalt) fun slots => warrants_value _

theorem warrants_resolveLeaf (hcandid : layer.Candid) (leaf : Hash) :
    signal.Warrants Cancels (layer.resolveLeaf signal leaf).run := by
  unfold resolveLeaf needAttestations
  cases hreader : layer.attestations with
  | none => exact warrants_throw nofun
  | some reader =>
    dsimp only
    rw [pure_bind]
    refine warrants_step (warrants_interrupted (Signal.warrants_await _)) ?_
    intro outcome ⟨w, houtcome⟩
    refine warrants_step (warrants_orFail ?_) ?_
    · intro e he hcancelled
      refine hcandid.attestations reader hreader leaf w ?_
      rw [step_of_interrupted houtcome, he, eq_cancelled_of_ofAttestation hcancelled]
    · intro record _
      split
      · exact warrants_value _
      · exact warrants_throw nofun

theorem warrants_fetch (l : Location) :
    signal.Warrants Cancels (layer.fetch signal l).run :=
  warrants_step warrants_needChain fun _ _ => warrants_call _ nofun

theorem warrants_retrieveFromChain (hcandid : layer.Candid) (envelope : Bytes) :
    signal.Warrants Cancels (layer.retrieveFromChain signal envelope).run := by
  refine warrants_step (warrants_orFail nofun) ?_
  intro message _
  refine warrants_step ?_ ?_
  · cases message with
    | blobPointer p => exact warrants_value _
    | inclusionProof p => exact warrants_resolveLeaf hcandid p.leaf
  · intro location _
    refine warrants_step (warrants_fetch location) ?_
    intro blob _
    exact warrants_orFail nofun

theorem warrants_retrieve (hcandid : layer.Candid) (hashes : List Hash) (envelope : Bytes) :
    signal.Warrants Cancels (layer.retrieve signal hashes envelope).run := by
  have hchain : signal.Warrants Cancels (layer.retrieveFromChain signal envelope).run :=
    warrants_retrieveFromChain hcandid envelope
  unfold retrieve
  cases layer.archive with
  | none => exact hchain
  | some archive =>
    refine warrants_step ?_ ?_
    · unfold retrieveFromArchive
      split
      · exact warrants_value _
      · exact warrants_orFail_lift (archive.warrants_getMultiple signal hashes)
          (fun _ => eq_cancelled_of_ofHalt) fun slots => warrants_value _
    · intro found _
      cases found with
      | none => exact hchain
      | some batches => exact warrants_value batches

theorem warrants_offChainData (hcandid : layer.Candid) (hash : Hash) :
    signal.Warrants Cancels (layer.offChainData signal hash).run := by
  have hleaf : ∀ fault, fault ≠ some .cancelled →
      signal.Warrants Cancels (layer.offChainDataFromLeaf signal hash fault).run := by
    intro fault hfault
    unfold offChainDataFromLeaf
    split
    · refine warrants_step (warrants_resolveLeaf hcandid hash) ?_
      intro location _
      exact warrants_fetch location
    · split
      · refine warrants_throw ?_
        intro hcancelled
        exact hfault (congrArg some (eq_cancelled_of_ofStore hcancelled))
      · exact warrants_throw nofun
  unfold offChainData
  cases harchive : layer.archive with
  | none => exact hleaf none nofun
  | some archive =>
    refine warrants_step (warrants_interrupted (Signal.warrants_await _)) ?_
    rintro ((fault | body) | _) ⟨w, houtcome⟩
    case returned.ok => exact warrants_value body
    case brokeDown => exact warrants_throw nofun
    case returned.error =>
      refine hleaf (some fault) ?_
      intro hcancelled
      cases hcancelled
      exact archive.getByHash_ne_cancelled (hcandid.objects archive harchive) hash w
        (step_of_interrupted houtcome)

end DataLayer

namespace Signal

/-- What operations come to that start in a world where the signal has fired: the layer finds
nothing and turns to no store, and the others leave the world as it is. -/
structure Supersedes (signal : Signal W) (w : W) : Prop where
  layer : ∀ layer : DataLayer W, layer.KeepsFired signal → layer.Superseded signal w
  putMultiple : ∀ (archive : Store.Archive W) bodies,
    archive.putMultiple signal bodies w = (.error .cancelled, w)
  getMultiple : ∀ (archive : Store.Archive W) hashes,
    archive.getMultiple signal hashes w = (.error .cancelled, w)
  fetchProof : ∀ (service : ProofService.Client W) blockHash index,
    service.fetchProof signal blockHash index w = (.error .cancelled, w)
  migration : ∀ (m : Migrator W) first last, first ≤ last →
    m.run signal first last w = (.returned ⟨0, 0, 0, 0, 0, 0, true⟩, w)

structure Accountable (signal : Signal W) : Prop where
  post : ∀ (layer : DataLayer W) batches,
    signal.Warrants DataLayer.Cancels (layer.post signal batches).run
  retrieve : ∀ layer : DataLayer W, layer.Candid → ∀ hashes envelope,
    signal.Warrants DataLayer.Cancels (layer.retrieve signal hashes envelope).run
  offChainData : ∀ layer : DataLayer W, layer.Candid → ∀ hash,
    signal.Warrants DataLayer.Cancels (layer.offChainData signal hash).run
  putMultiple : ∀ (archive : Store.Archive W) bodies,
    signal.Warrants (· = .error .cancelled) (archive.putMultiple signal bodies)
  getMultiple : ∀ (archive : Store.Archive W) hashes,
    signal.Warrants (· = .error .cancelled) (archive.getMultiple signal hashes)
  fetchProof : ∀ (service : ProofService.Client W) blockHash index,
    signal.Warrants (· = .error .cancelled) (service.fetchProof signal blockHash index)
  migration : ∀ (m : Migrator W) first last,
    signal.Warrants (fun result => ∃ report, result = .returned report ∧ report.interrupted = true)
      (m.run signal first last)

/-- A fired signal goes before whatever an operation would do or find, and none of them reports
a cancellation that was not asked for. -/
theorem cancellation_supersedes (signal : Signal W) :
    (∀ w, signal.fired w = true → signal.Supersedes w) ∧ signal.Accountable := by
  constructor
  · intro w hfired
    exact {
      layer := fun layer hkeeps => layer.superseded hkeeps hfired
      putMultiple := fun archive => archive.putMultiple_fired hfired
      getMultiple := fun archive => archive.getMultiple_fired hfired
      fetchProof := fun service _ _ => service.fetchProof_fired signal _ _ hfired
      migration := fun m _ _ => m.run_fired hfired }
  · exact {
      post := fun layer => DataLayer.warrants_post
      retrieve := fun layer => DataLayer.warrants_retrieve
      offChainData := fun layer => DataLayer.warrants_offChainData
      putMultiple := fun archive => archive.warrants_putMultiple signal
      getMultiple := fun archive => archive.warrants_getMultiple signal
      fetchProof := fun service => service.warrants_fetchProof signal
      migration := fun m => m.warrants_run signal }

/-- A layer whose chain, attestations and store are asked in vain. The world counts the calls of
the first two. -/
def vain : DataLayer Nat where
  chain := some ⟨fun _ calls => (.returned (.error (.rejected "full")), calls + 1),
    fun _ _ _ calls => (.returned (.error (.unavailable "down")), calls + 1)⟩
  proofs := none
  attestations := some ⟨fun leaf calls => (.error (Attestation.unattested leaf), calls + 1)⟩
  archive := some ⟨⟨"void", fun _ _ _ => pure (.returned (.ok ())),
    fun key => pure (.returned (.error (.notFound key))), pure (.ok ())⟩, .standard⟩

def third : Signal Nat := ⟨fun calls => 3 ≤ calls⟩

/-- The signal fires with the third call. A chain that refuses, a run of the migrator and a lookup
that finds nothing all end as cancelled then. -/
theorem cancellation_supersedes_third :
    (∀ batches, ∃ p, DataLayer.Fails (vain.post third batches) 3 p ∧ vain.GivenUp 3 p) ∧
    Migrator.troubled.run third 1 9 3 = (.returned ⟨0, 0, 0, 0, 0, 0, true⟩, 3) ∧
    ((vain.offChainData third .zero).run 2).1 = .error .cancelled ∧
    third.fired ((vain.offChainData third .zero).run 2).2 = true := by
  have hkeeps : vain.KeepsFired third := by
    intro chain hchain call calls hfired
    have hlater : 3 ≤ calls := of_decide_eq_true hfired
    cases hchain
    cases call with
    | submit blob => exact decide_eq_true (Nat.le_succ_of_le hlater)
    | fetch l => exact decide_eq_true (Nat.le_succ_of_le hlater)
  have hcandid : vain.Candid := by
    constructor
    · intro reader hreader leaf calls
      cases hreader
      exact nofun
    · intro archive harchive key calls
      cases harchive
      exact nofun
  have hsupersedes := (cancellation_supersedes third).1 3 rfl
  have hreported : ((vain.offChainData third .zero).run 2).1 = .error .cancelled := rfl
  exact ⟨(hsupersedes.layer vain hkeeps).post, hsupersedes.migration _ 1 9 (by decide), hreported,
    (cancellation_supersedes third).2.offChainData vain hcandid .zero 2 hreported⟩

end Signal

end Validium
