import Validium.Proofs.DataLayer.Shortcut
import Validium.Proofs.Retry.Interruptible
import Validium.Proofs.World.Logbook

/-!
The archive as a mirror. A sequence is posted as if there were no archive, and copied then: so
what becomes of the copies changes neither the answer nor anything that the store does not
touch, and where posting has failed nothing is copied. A layer with a log beside its world
notes what the chain reports and what is put.
-/
namespace Validium

variable {W α : Type}

open Logbook

def ProofService.Client.besideLog (c : Client W) : Client (W × Logbook) :=
  ⟨c.network.besideLog, c.clock.besideLog, c.baseUrl, c.policy, c.timeout⟩

namespace Store.Archive

def noting (m : Archive W) : Archive (W × Logbook) := ⟨m.objects.noting, m.policy⟩

def copies (m : Archive W) (batches : List Bytes) : Logbook :=
  batches.map fun b => .put (m.policy.keyHead ++ (keccak b).digits) b none

end Store.Archive

namespace Pool

/-- Once jobs are begun, a run can only be cancelled. -/
theorem collect_ne_overcommitted (signal : Signal W) (jobs : List (StateM W (Completion α)))
    (w : W) : (collect signal jobs w).1 ≠ .error .overcommitted := by
  induction jobs generalizing w with
  | nil =>
    intro h
    cases h
  | cons job rest ih =>
    rw [Passage.collect_cons]
    by_cases hfired : signal.fired (job w).2 = true
    · rw [if_pos hfired]
      intro h
      cases h
    · rw [if_neg hfired]
      cases hrest : (collect signal rest (job w).2).1 with
      | error halt =>
        intro h
        cases h
        exact ih _ hrest
      | ok others =>
        intro h
        cases h

/-- Jobs that note one entry each note, in their order, the entries of those that were begun;
where there are results, that is all of them. -/
theorem collect_notes (signal : Signal (W × Logbook)) {β : Type} (note : β → Entry)
    (job : β → StateM (W × Logbook) (Completion α))
    (hjob : ∀ item s, (job item s).2.2 = s.2 ++ [note item]) (items : List β)
    (s : W × Logbook) :
    ∃ begun rest, items = begun ++ rest ∧
      (collect signal (items.map job) s).2.2 = s.2 ++ begun.map note ∧
      ∀ results, (collect signal (items.map job) s).1 = .ok results → rest = [] := by
  induction items generalizing s with
  | nil => exact ⟨[], [], rfl, (List.append_nil s.2).symm, fun _ _ => rfl⟩
  | cons item items ih =>
    have hnoted := hjob item s
    rw [List.map_cons, collect, bind_apply, signal.isFired_bind_apply]
    cases signal.fired (job item s).2 with
    | true =>
      refine ⟨[item], items, rfl, hnoted, ?_⟩
      intro results hresults
      cases hresults
    | false =>
      obtain ⟨begun, rest, hitems, hlog, hall⟩ := ih (job item s).2
      refine ⟨item :: begun, rest, by rw [hitems, List.cons_append], ?_, ?_⟩
      · rw [hnoted, List.append_assoc] at hlog
        simp only [Bool.false_eq_true, if_false]
        rw [bind_apply]
        cases (collect signal (items.map job) (job item s).2).1 with
        | error halt => exact hlog
        | ok results => exact hlog
      · simp only [Bool.false_eq_true, if_false]
        rw [bind_apply]
        intro results hresults
        cases hothers : (collect signal (items.map job) (job item s).2).1 with
        | error halt =>
          rw [hothers] at hresults
          cases hresults
        | ok others => exact hall others hothers

/-- A pool whose jobs note one entry each leaves the notes of the jobs it has begun, in their order,
and of all jobs if it has results. -/
theorem run_notes (signal : Signal (W × Logbook)) (concurrency : UInt64) {β : Type}
    (note : β → Entry) (job : β → StateM (W × Logbook) (Completion α))
    (hjob : ∀ item s, (job item s).2.2 = s.2 ++ [note item]) (items : List β)
    (s : W × Logbook) :
    ∃ begun rest, items = begun ++ rest ∧
      (run signal concurrency (items.map job) s).2.2 = s.2 ++ begun.map note ∧
      (∀ results, (run signal concurrency (items.map job) s).1 = .ok results → rest = []) ∧
      ((run signal concurrency (items.map job) s).1 = .error .overcommitted → begun = []) := by
  rw [run_apply]
  by_cases hfired : signal.fired s = true
  · rw [if_pos hfired]
    refine ⟨[], items, rfl, (List.append_nil s.2).symm, ?_, fun _ => rfl⟩
    intro results hresults
    cases hresults
  · rw [if_neg hfired]
    by_cases hover : maxPermits < permits concurrency
    · rw [if_pos hover]
      refine ⟨[], items, rfl, (List.append_nil s.2).symm, ?_, fun _ => rfl⟩
      intro results hresults
      cases hresults
    · rw [if_neg hover]
      obtain ⟨begun, rest, hitems, hlog, hall⟩ := collect_notes signal note job hjob items s
      refine ⟨begun, rest, hitems, hlog, hall, ?_⟩
      intro hhalt
      exact absurd hhalt (collect_ne_overcommitted signal _ s)

end Pool

namespace Store.Archive

/-- Of the batches to be copied some are begun, in their order: all of them, where there is a
result, and none, where too many permits are asked for. -/
theorem putMultiple_notes (m : Archive W) (signal : Signal (W × Logbook)) (batches : List Bytes)
    (s : W × Logbook) :
    ∃ begun rest, batches = begun ++ rest ∧
      (m.noting.putMultiple signal batches s).2.2 = s.2 ++ m.copies begun ∧
      (∀ slots, (m.noting.putMultiple signal batches s).1 = .ok slots → rest = []) ∧
      ((m.noting.putMultiple signal batches s).1 = .error .overcommitted → begun = []) := by
  have hjob : ∀ body s, (m.noting.keepOne body s).2.2 =
      s.2 ++ [.put (m.policy.keyHead ++ (keccak body).digits) body none] := by
    intro body s
    rw [keepOne, bind_apply]
    cases (m.noting.objects.put (m.noting.objectKey (keccak body)) body none s).1 <;> rfl
  obtain ⟨begun, rest, hbatches, hlog, hall, hover⟩ := Pool.run_notes signal
    m.noting.policy.effectiveConcurrency _ m.noting.keepOne hjob batches s
  rw [putMultiple_eq, each_eq, map_apply]
  refine ⟨begun, rest, hbatches, hlog, ?_, ?_⟩
  · intro slots hslots
    cases hrun : (Pool.run signal m.noting.policy.effectiveConcurrency
        (batches.map m.noting.keepOne) s).1 with
    | error halt =>
      rw [hrun] at hslots
      cases hslots
    | ok results => exact hall results hrun
  · intro hhalt
    cases hrun : (Pool.run signal m.noting.policy.effectiveConcurrency
        (batches.map m.noting.keepOne) s).1 with
    | error halt =>
      rw [hrun] at hhalt
      cases hhalt
      exact hover hrun
    | ok results =>
      rw [hrun] at hhalt
      cases hhalt

end Store.Archive

namespace DataLayer

section Parts

variable (layer : DataLayer W) (signal : Signal W)

def submission (blob : Bytes) : Step W Inclusion := do
  let chain ← layer.needChain
  let outcome ← interrupted (signal.awaitBegun (chain.submit blob))
  orFail .submission (Chain.settle outcome)

def pointed (batches : List Bytes) : Step W Message := do
  let inclusion ← layer.submission signal (Batches.encode batches)
  layer.messageFor signal (keccak (Batches.encode batches)) inclusion

def copy (batches : List Bytes) : Step W Unit :=
  match layer.archive with
  | some archive => do
    let outcome ← archive.putMultiple signal batches
    let _ ← orFail .ofHalt outcome
  | none => pure ()

/-- Posting is submitting and then copying. -/
theorem post_eq (batches : List Bytes) :
    layer.post signal batches = (do
      let message ← layer.pointed signal batches
      layer.copy signal batches
      return message.encode) := by
  unfold post pointed submission copy
  simp only [bind_assoc]
  cases layer.archive with
  | none => simp
  | some archive => simp

/-- Under a signal that never fires copying goes well, and touches what the puts touch. -/
theorem copy_quiet (hquiet : signal.Quiet)
    (hpermits : ∀ a ∈ layer.archive, a.policy.concurrency.toNat ≤ Pool.maxPermits)
    (batches : List Bytes) (w : W) :
    ∃ w', (layer.copy signal batches).run w = (.ok (), w') ∧
      ∀ p : Passage W,
        (∀ a ∈ layer.archive, ∀ key body expires, p.Admits (a.objects.put key body expires)) →
        p.leads w w' := by
  unfold copy
  cases harchive : layer.archive with
  | none => exact ⟨w, rfl, fun p _ => p.refl w⟩
  | some archive =>
    have hput := archive.putMultiple_quiet hquiet (hpermits archive harchive) batches
    refine ⟨(archive.putMultiple signal batches w).2, ?_, ?_⟩
    · dsimp only
      rw [run_bind_ok (run_liftM _ w), hput]
      rfl
    · intro p hputs
      exact archive.admits_putMultiple p signal batches
        (fun body => hputs archive rfl _ body none) w

/-- A step once begun has its effect, whether its result is handed on or not. -/
theorem run_interrupted_awaitBegun (step : StateM W α) (w : W) :
    (interrupted (signal.awaitBegun step)).run w = (.error .cancelled, (step w).2) ∨
      (interrupted (signal.awaitBegun step)).run w = (.ok (step w).1, (step w).2) := by
  rw [run_interrupted]
  obtain hcut | hthrough := signal.awaitBegun_cases step w
  · rw [hcut]
    exact .inl rfl
  · rw [hthrough]
    exact .inr rfl

end Parts

def logged (layer : DataLayer W) : DataLayer (W × Logbook) where
  chain := layer.chain.map Chain.noting
  proofs := layer.proofs.map ProofService.Client.besideLog
  attestations := layer.attestations.map Attestation.Reader.besideLog
  archive := layer.archive.map Store.Archive.noting

section Accord

variable (layer : DataLayer W) (signal : Signal W)

theorem accord_orFail {ε : Type} (error : ε → Error) (r : Except ε α) :
    Accord Of (orFail (W := W × Logbook) error r).run (orFail (W := W) error r).run := by
  cases r with
  | ok a => exact Accord.pure _
  | error e => exact Accord.pure _

theorem accord_interrupted {x : Interruptible (W × Logbook) α} {y : Interruptible W α}
    (h : Accord Of x.run y.run) : Accord Of (interrupted x).run (interrupted y).run := by
  intro s w hw
  obtain ⟨hsame, hnext⟩ := h s w hw
  exact ⟨congrArg (Except.mapError fun _ => Error.cancelled) hsame, hnext⟩

theorem accord_submission (blob : Bytes) :
    Accord Of (layer.logged.submission signal.besideLog blob).run
      (layer.submission signal blob).run := by
  unfold submission needChain
  have hchain : layer.logged.chain = layer.chain.map Chain.noting := rfl
  rw [hchain]
  cases layer.chain with
  | none => exact Accord.pure _
  | some chain =>
    rw [Option.map_some, pure_bind, pure_bind]
    have hsubmit : Accord Of (chain.noting.submit blob) (chain.submit blob) := accord_noted _ _
    refine Accord.run_bind
      (accord_interrupted (Accord.awaitBegun signal.fired_besideLog hsubmit)) ?_
    intro outcome
    exact accord_orFail _ _

theorem accord_fetchProof (service : ProofService.Client W) (blockHash : Hash) (index : UInt32) :
    Accord Of (service.besideLog.fetchProof signal.besideLog blockHash index)
      (service.fetchProof signal blockHash index) := by
  have hfetch : ∀ url, Accord Of (service.besideLog.fetchOnce url) (service.fetchOnce url) := by
    intro url
    unfold ProofService.Client.fetchOnce
    cases Url.parse url with
    | none => exact Accord.pure _
    | some url => exact (service.network.accord_besideLog _).map _
  refine (Accord.repeating signal.fired_besideLog service.clock.accord_sleep
    service.clock.accord_spread service.policy (fun _ => hfetch _) _).bind ?_
  intro outcome
  exact Accord.pure _

theorem accord_messageFor (commitment : Hash) (inclusion : Inclusion) :
    Accord Of (layer.logged.messageFor signal.besideLog commitment inclusion).run
      (layer.messageFor signal commitment inclusion).run := by
  unfold messageFor
  have hproofs : layer.logged.proofs = layer.proofs.map ProofService.Client.besideLog := rfl
  rw [hproofs]
  cases layer.proofs with
  | none => exact Accord.pure _
  | some service =>
    refine Accord.run_bind (Accord.run_lift (accord_fetchProof signal service _ _)) ?_
    intro proof
    refine Accord.run_bind (accord_orFail _ _) ?_
    intro p
    exact Accord.pure _

theorem accord_copy (batches : List Bytes) :
    Accord Of (layer.logged.copy signal.besideLog batches).run
      (layer.copy signal batches).run := by
  unfold copy
  have harchive : layer.logged.archive = layer.archive.map Store.Archive.noting := rfl
  rw [harchive]
  cases layer.archive with
  | none => exact Accord.pure _
  | some archive =>
    have hjob : ∀ body, Accord Of (archive.noting.keepOne body) (archive.keepOne body) := by
      intro body
      refine (archive.objects.accord_put _ _ _).bind ?_
      intro completion
      cases completion with
      | brokeDown => exact Accord.pure _
      | returned result => exact Accord.pure _
    have hput : Accord Of (archive.noting.putMultiple signal.besideLog batches)
        (archive.putMultiple signal batches) := by
      rw [Store.Archive.putMultiple_eq, Store.Archive.putMultiple_eq, Store.Archive.each_eq,
        Store.Archive.each_eq]
      refine (Accord.pool signal.fired_besideLog _ ?_).map _
      rw [List.forall₂_map_left_iff, List.forall₂_map_right_iff, List.forall₂_same]
      intro body _
      exact hjob body
    refine Accord.run_bind (Accord.run_lift hput) ?_
    intro outcome
    refine Accord.run_bind (accord_orFail _ _) ?_
    intro slots
    exact Accord.pure _

/-- The log changes nothing of what is posted. -/
theorem accord_post (batches : List Bytes) :
    Accord Of (layer.logged.post signal.besideLog batches).run
      (layer.post signal batches).run := by
  rw [post_eq, post_eq]
  refine Accord.run_bind ?_ ?_
  · refine Accord.run_bind (layer.accord_submission signal _) ?_
    intro inclusion
    exact layer.accord_messageFor signal _ inclusion
  · intro message
    refine Accord.run_bind (layer.accord_copy signal batches) ?_
    intro copied
    exact Accord.pure _

end Accord

section Notes

variable (layer : DataLayer W) (signal : Signal (W × Logbook)) (s : W × Logbook)

/-- At most a submission is noted on the way to an inclusion, and that one has it. -/
theorem submission_notes (blob : Bytes) :
    ∃ noted, ((layer.logged.submission signal blob).run s).2.2 = s.2 ++ noted ∧
      (∀ e ∈ noted, e.isPut = false) ∧
      ∀ i, ((layer.logged.submission signal blob).run s).1 = .ok i →
        noted = [.submitted blob (.returned (.ok i))] := by
  unfold submission needChain
  have hchain : layer.logged.chain = layer.chain.map Chain.noting := rfl
  rw [hchain]
  cases layer.chain with
  | none =>
    refine ⟨[], (List.append_nil s.2).symm, List.forall_mem_nil _, ?_⟩
    intro i h
    cases h
  | some chain =>
    rw [Option.map_some, pure_bind]
    refine ⟨[.submitted blob (chain.submit blob s.1).1], ?_, List.forall_mem_singleton.mpr rfl, ?_⟩
    · obtain hcut | hthrough := run_interrupted_awaitBegun signal (chain.noting.submit blob) s
      · rw [run_bind_error hcut]
        rfl
      · rw [run_bind_ok hthrough]
        cases Chain.settle (chain.noting.submit blob s).1 <;> rfl
    · intro i h
      obtain hcut | hthrough := run_interrupted_awaitBegun signal (chain.noting.submit blob) s
      · rw [run_bind_error hcut] at h
        cases h
      · rw [run_bind_ok hthrough] at h
        have hnoted : (chain.noting.submit blob s).1 = (chain.submit blob s.1).1 := rfl
        rw [hnoted] at h
        rcases houtcome : (chain.submit blob s.1).1 with (e | i') | ⟨⟩
        all_goals rw [houtcome] at h
        · cases h
        · cases h
          rfl
        · cases h

/-- Up to the message nothing is put, and a message means that the chain took the blob. -/
theorem pointed_notes (batches : List Bytes) :
    ∃ noted, ((layer.logged.pointed signal batches).run s).2.2 = s.2 ++ noted ∧
      (∀ e ∈ noted, e.isPut = false) ∧
      ∀ message, ((layer.logged.pointed signal batches).run s).1 = .ok message →
        ∃ i, noted = [.submitted (Batches.encode batches) (.returned (.ok i))] := by
  have hsteady : ∀ inclusion, (Passage.steady Prod.snd).Admits (layer.logged.messageFor signal
      (keccak (Batches.encode batches)) inclusion).run := by
    intro inclusion
    apply admits_messageFor
    intro service hservice
    obtain ⟨service, -, rfl⟩ := Option.mem_map.mp hservice
    exact admits_fetchProof _ _ signal _ _ (fun _ => steady_admits_unnoted _)
      (fun _ => steady_admits_unnoted _) (fun _ => steady_admits_unnoted _)
  obtain ⟨noted, hlog, hnone, hincluded⟩ :=
    layer.submission_notes signal s (Batches.encode batches)
  refine ⟨noted, ?_, hnone, ?_⟩
  · rcases hrun : (layer.logged.submission signal (Batches.encode batches)).run s with ⟨e | i, s₁⟩
    · rw [pointed, run_bind_error hrun]
      rw [hrun] at hlog
      exact hlog
    · rw [pointed, run_bind_ok hrun]
      rw [hrun] at hlog
      exact (hsteady i s₁).trans hlog
  · intro message h
    rcases hrun : (layer.logged.submission signal (Batches.encode batches)).run s with ⟨e | i, s₁⟩
    · rw [pointed, run_bind_error hrun] at h
      cases h
    · exact ⟨i, hincluded i (congrArg Prod.fst hrun)⟩

/-- Copying notes puts of batches in their order: of all of them, where it goes well, and of
none, where it fails without being cancelled. -/
theorem copy_notes (archive : Store.Archive W) (harchive : layer.archive = some archive)
    (batches : List Bytes) :
    ∃ begun rest, batches = begun ++ rest ∧
      ((layer.logged.copy signal batches).run s).2.2 = s.2 ++ archive.copies begun ∧
      (((layer.logged.copy signal batches).run s).1 = .ok () → rest = []) ∧
      ∀ e, ((layer.logged.copy signal batches).run s).1 = .error e → e ≠ .cancelled →
        begun = [] := by
  have hlogged : layer.logged.archive = some archive.noting := by
    rw [logged, harchive]
    rfl
  obtain ⟨begun, rest, hbatches, hlog, hall, hover⟩ :=
    archive.putMultiple_notes signal batches s
  unfold copy
  rw [hlogged]
  dsimp only
  rw [run_bind_ok (run_liftM _ s)]
  refine ⟨begun, rest, hbatches, ?_, ?_, ?_⟩
  · rw [← hlog]
    cases (archive.noting.putMultiple signal batches s).1 <;> rfl
  · intro h
    cases hresult : (archive.noting.putMultiple signal batches s).1 with
    | error halt =>
      rw [hresult] at h
      cases h
    | ok slots => exact hall slots hresult
  · intro e h hcancelled
    cases hresult : (archive.noting.putMultiple signal batches s).1 with
    | error halt =>
      rw [hresult] at h
      cases halt with
      | cancelled =>
        cases h
        exact absurd rfl hcancelled
      | overcommitted => exact hover hresult
    | ok slots =>
      rw [hresult] at h
      cases h

/-- The log of a sequence that is posted. Whatever is put follows the sequence's inclusion;
nothing is put where posting fails without being cancelled; and where it ends well every batch
is put once. -/
structure Posted (layer : DataLayer W) (batches : List Bytes) (result : Except Error Bytes)
    (log : Logbook) : Prop where
  included : ∀ earlier e later, log = earlier ++ e :: later → e.isPut = true →
    ∃ i, .submitted (Batches.encode batches) (.returned (.ok i)) ∈ earlier
  failed : ∀ e, result = .error e → e ≠ .cancelled → ∀ entry ∈ log, entry.isPut = false
  posted : ∀ envelope, result = .ok envelope → ∀ a ∈ layer.archive, ∃ i,
    log = .submitted (Batches.encode batches) (.returned (.ok i)) :: a.copies batches

/-- A log without puts is that of a post that failed or has no store to copy to. -/
theorem posted_of_no_puts {layer : DataLayer W} {batches : List Bytes}
    {result : Except Error Bytes} {log : Logbook} (hnone : ∀ e ∈ log, e.isPut = false)
    (hresult : ∀ envelope, result = .ok envelope → layer.archive = none) :
    Posted layer batches result log := by
  refine ⟨?_, fun _ _ _ => hnone, ?_⟩
  · rintro earlier e later rfl hput
    have hnot := hnone e (List.mem_append_right _ List.mem_cons_self)
    rw [hput] at hnot
    cases hnot
  · intro envelope henvelope a ha
    have hsome : layer.archive = some a := ha
    rw [hresult envelope henvelope] at hsome
    cases hsome

/-- Whatever a post ends with, its log is that of a submission and of the copies behind it. -/
theorem post_notes (batches : List Bytes) :
    ∃ log, ((layer.logged.post signal batches).run s).2.2 = s.2 ++ log ∧
      Posted layer batches ((layer.logged.post signal batches).run s).1 log := by
  obtain ⟨noted, hlog, hnone, hincluded⟩ := layer.pointed_notes signal s batches
  rw [post_eq]
  rcases hrun : (layer.logged.pointed signal batches).run s with ⟨e | message, s₁⟩
  · rw [run_bind_error hrun]
    rw [hrun] at hlog
    refine ⟨noted, hlog, posted_of_no_puts hnone ?_⟩
    intro envelope henvelope
    cases henvelope
  · rw [run_bind_ok hrun]
    rw [hrun] at hlog
    cases harchive : layer.archive with
    | none =>
      have hcopy : layer.logged.copy signal batches = pure () := by
        have hlogged : layer.logged.archive = none := by
          rw [logged, harchive]
          rfl
        rw [copy, hlogged]
      rw [hcopy, pure_bind]
      exact ⟨noted, hlog, posted_of_no_puts hnone fun _ _ => harchive⟩
    | some archive =>
      obtain ⟨i, rfl⟩ := hincluded message (congrArg Prod.fst hrun)
      obtain ⟨begun, rest, hbatches, hcopied, hall, hfailed⟩ :=
        layer.copy_notes signal s₁ archive harchive batches
      have hlater : ∀ earlier e later,
          Entry.submitted (Batches.encode batches) (.returned (.ok i)) :: archive.copies begun =
            earlier ++ e :: later → e.isPut = true →
          ∃ i, .submitted (Batches.encode batches) (.returned (.ok i)) ∈ earlier := by
        intro earlier e later h hput
        cases earlier with
        | nil =>
          obtain ⟨rfl, -⟩ := List.cons.inj h
          cases hput
        | cons first earlier =>
          obtain ⟨rfl, -⟩ := List.cons.inj h
          exact ⟨i, List.mem_cons_self⟩
      rcases hcopy : (layer.logged.copy signal batches).run s₁ with ⟨e | ⟨⟩, s₂⟩
      · rw [run_bind_error hcopy]
        rw [hcopy] at hcopied hfailed
        refine ⟨_, hcopied.trans (by rw [hlog, List.append_assoc]; rfl), hlater, ?_, ?_⟩
        · intro e' he' hcancelled
          cases he'
          rw [hfailed e rfl hcancelled]
          exact List.forall_mem_singleton.mpr rfl
        · intro envelope henvelope
          cases henvelope
      · rw [run_bind_ok hcopy]
        rw [hcopy] at hcopied hall
        refine ⟨_, hcopied.trans (by rw [hlog, List.append_assoc]; rfl), hlater, ?_, ?_⟩
        · intro e he
          cases he
        · intro envelope henvelope a ha
          cases harchive.symm.trans ha
          rw [hbatches, hall rfl, List.append_nil]
          exact ⟨i, rfl⟩

end Notes

/-- A chain in memory that rejects a submission is left as it is. -/
theorem OnMemory.submission_rejected {part : Part W Chain.Memory} {layer : DataLayer W}
    (h : OnMemory part layer) (hpart : part.Lawful) (signal : Signal W) (blob : Bytes) (w : W)
    {reason : String} (hrejects : (part.view w).rejectReason = some reason) :
    ∃ e w', (layer.submission signal blob).run w = (.error e, w') ∧
      part.view w' = part.view w ∧
      (e = .cancelled ∧ ¬ signal.Quiet ∨ e = .submission (.rejected reason)) := by
  obtain ⟨delay, hdelay, hneed⟩ := h.needChain_eq
  obtain ⟨hreturned, hview⟩ := Chain.Memory.submit_chain part delay hdelay hpart blob w
  have hrejected : (part.view w).submit blob = (.error (.rejected reason), part.view w) := by
    rw [Chain.Memory.submit, hrejects]
  rw [hrejected] at hreturned hview
  rw [submission, hneed, pure_bind]
  by_cases hquiet : signal.Quiet
  · have hthrough := interrupted_awaitBegun_quiet hquiet
      ((Chain.Memory.chain part delay).submit blob) w
    rw [run_bind_ok hthrough, hreturned]
    exact ⟨_, _, rfl, hview, .inr rfl⟩
  · obtain hcut | hthrough :=
      run_interrupted_awaitBegun signal ((Chain.Memory.chain part delay).submit blob) w
    · rw [run_bind_error hcut]
      exact ⟨_, _, rfl, hview, .inl ⟨rfl, hquiet⟩⟩
    · rw [run_bind_ok hthrough, hreturned]
      exact ⟨_, _, rfl, hview, .inr rfl⟩

/-- What an archive has to do with a sequence that is posted. As long as the signal does not
fire, the answer is the one that the layer gives without its archive, and what the store's puts
do not touch, such as the chain, is left as it would be then. Whatever the signal does, no
batch is put before its sequence is included; where posting fails without being cancelled none
is put; and where it ends well every batch is put once, under its digest. A chain in memory that
rejects the sequence stays as it was. -/
theorem post_mirror (layer : DataLayer W) (signal : Signal W) (batches : List Bytes) {w w' : W}
    {result : Except Error Bytes} (hpost : (layer.post signal batches).run w = (result, w')) :
    (signal.Quiet → (∀ a ∈ layer.archive, a.policy.concurrency.toNat ≤ Pool.maxPermits) →
      ∃ w₁, (layer.withoutArchive.post signal batches).run w = (result, w₁) ∧
        ∀ p : Passage W,
          (∀ a ∈ layer.archive, ∀ key body expires, p.Admits (a.objects.put key body expires)) →
          p.leads w₁ w') ∧
    (∃ log, (layer.logged.post signal.besideLog batches).run (w, []) = (result, w', log) ∧
      Posted layer batches result log) ∧
    ∀ (part : Part W Chain.Memory) (reason : String), part.Lawful → OnMemory part layer →
      (part.view w).rejectReason = some reason →
      part.view w' = part.view w ∧ (result = .error .cancelled ∧ ¬ signal.Quiet ∨
        result = .error (.submission (.rejected reason))) := by
  refine ⟨?_, ?_, ?_⟩
  · intro hquiet hpermits
    rw [post_eq] at hpost ⊢
    have hpointed : layer.withoutArchive.pointed signal batches = layer.pointed signal batches :=
      rfl
    rw [hpointed]
    rcases hrun : (layer.pointed signal batches).run w with ⟨e | message, w₁⟩
    · rw [run_bind_error hrun] at hpost ⊢
      cases hpost
      exact ⟨_, rfl, fun p _ => p.refl _⟩
    · obtain ⟨w₂, hcopy, hleads⟩ := layer.copy_quiet signal hquiet hpermits batches w₁
      rw [run_bind_ok hrun, run_bind_ok hcopy] at hpost
      cases hpost
      rw [run_bind_ok hrun]
      exact ⟨w₁, rfl, hleads⟩
  · have hlogged := (layer.accord_post signal batches).eq_of_fst w []
    obtain ⟨log, hlog, hposted⟩ := layer.post_notes signal.besideLog (w, []) batches
    rw [List.nil_append] at hlog
    rw [hlog, hpost] at hlogged
    rw [hlogged] at hposted
    exact ⟨log, hlogged, hposted⟩
  · intro part reason hpart hlayer hrejects
    obtain ⟨e, w₁, hrun, hview, hend⟩ :=
      hlayer.submission_rejected hpart signal (Batches.encode batches) w hrejects
    rw [post_eq, pointed, bind_assoc, run_bind_error hrun] at hpost
    cases hpost
    refine ⟨hview, hend.imp ?_ ?_⟩
    · exact fun h => ⟨congrArg Except.error h.1, h.2⟩
    · exact congrArg Except.error

/-- A sequence is posted and copied, and then, on a chain that is full, rejected. -/
theorem post_mirror_mirrored :
    (∃ envelope w₁ w', (mirrored.post .never Batches.mixed).run (.empty, .empty) =
        (.ok envelope, w') ∧
      (mirrored.withoutArchive.post .never Batches.mixed).run (.empty, .empty) =
        (.ok envelope, w₁) ∧ w'.1 = w₁.1 ∧
      ∃ i, (mirrored.logged.post Signal.never.besideLog Batches.mixed).run ((.empty, .empty), []) =
        (.ok envelope, w', .submitted (Batches.encode Batches.mixed) (.returned (.ok i)) ::
          Store.Archive.copies ⟨Store.Memory.objects storePart, .standard⟩ Batches.mixed)) ∧
    ∃ w', (mirrored.post .never Batches.mixed).run (⟨[], some "full", none⟩, .empty) =
        (.error (.submission (.rejected "full")), w') ∧ w'.1 = ⟨[], some "full", none⟩ := by
  have hpermits : ∀ a ∈ mirrored.archive, a.policy.concurrency.toNat ≤ Pool.maxPermits := by
    rintro a ⟨⟩
    decide
  constructor
  · obtain ⟨i, hsubmit, -⟩ := Chain.Memory.fetch_submit .empty (Batches.encode Batches.mixed) rfl
      (by decide)
    obtain ⟨w', hpost, -⟩ := post_quiet mirrored_onMemory Signal.quiet_never hpermits
      chainPart_lawful rfl Batches.mixed (.empty, .empty) i hsubmit
    obtain ⟨hquiet, ⟨log, hlogged, hposted⟩, -⟩ := post_mirror mirrored .never Batches.mixed hpost
    obtain ⟨w₁, hwithout, hleads⟩ := hquiet Signal.quiet_never hpermits
    obtain ⟨i, rfl⟩ := hposted.posted _ rfl _ rfl
    refine ⟨_, w₁, w', hpost, hwithout, hleads (Passage.untouched chainPart) ?_, i, hlogged⟩
    exact mirrored_onMemory.put
  · obtain ⟨-, -, hrejected⟩ := post_mirror mirrored .never Batches.mixed
      (w := (⟨[], some "full", none⟩, .empty)) rfl
    obtain ⟨hview, ⟨-, hloud⟩ | hresult⟩ :=
      hrejected chainPart "full" chainPart_lawful mirrored_onMemory rfl
    · exact absurd Signal.quiet_never hloud
    · exact ⟨_, Prod.ext hresult rfl, hview⟩

end DataLayer

end Validium
