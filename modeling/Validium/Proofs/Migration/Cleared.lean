import Validium.Proofs.Migration.Tour
import Validium.Proofs.Migration.Writers
import Validium.Proofs.World.Logbook

/-!
What a migration puts, and when. A migrator with a log beside its world notes what the service
answers and which objects are put. The log of a run is made of those of the batches that were
begun, one after another. Where there is a service, an object is put only right after the
service has accepted the bytes of the object, for the same batch.
-/
namespace Validium

variable {W : Type}

open Logbook

def JsonRpc.Client.besideLog (c : Client W) : Client (W × Logbook) :=
  ⟨c.network.besideLog, c.url, c.timeout⟩

def RawSubmission.Client.noting (c : Client W) : Client (W × Logbook) :=
  ⟨c.network.noting, c.endpoint, c.apiKey⟩

/-- Without the log it is the same step. -/
theorem Accord.unlogged {α : Type} {x : StateM (W × Logbook) α} {y : StateM W α}
    (h : Accord Of x y) {s s' : W × Logbook} {a : α} (hx : x s = (a, s')) : y s.1 = (a, s'.1) := by
  obtain ⟨hresult, hworld⟩ := h s s.1 rfl
  rw [hx] at hresult hworld
  exact Prod.ext hresult.symm hworld.symm

namespace Migration

def Occurrence.unlogged (o : Occurrence (W × Logbook)) : Occurrence W :=
  ⟨o.hash, o.before.1, o.outcome, o.after.1⟩

def Visit.unlogged : Visit (W × Logbook) → Visit W
  | .unread block e => .unread block e
  | .read block found begun => .read block found (begun.map Occurrence.unlogged)

end Migration

namespace Migrator

open Migration

variable (m : Migrator W) (signal : Signal W)

def logged : Migrator (W × Logbook) where
  scanner := ⟨m.scanner.client.besideLog, m.scanner.contract⟩
  committee := m.committee.besideLog
  submission := m.submission.map RawSubmission.Client.noting
  archive := ⟨m.archive.objects.noting, m.archive.policy⟩
  clock := m.clock.besideLog
  policy := m.policy

section Accord

theorem accord_submit (c : RawSubmission.Client W) (data : Bytes) :
    Accord Of (c.noting.submit data) (c.submit data) := by
  unfold RawSubmission.Client.submit
  have hkey : c.noting.apiKey = c.apiKey := rfl
  rw [hkey]
  by_cases htext : RawSubmission.Client.isHeaderText c.apiKey = true
  · rw [if_pos htext, if_pos htext]
    exact (c.network.accord_noting _).map _
  · rw [if_neg htext, if_neg htext]
    exact Accord.pure _

theorem accord_keep (hash : Hash) (data : Bytes) :
    Accord Of (m.logged.keep signal.besideLog hash data).run (m.keep signal hash data).run := by
  have hput : Accord Of (m.logged.archive.put data hash none) (m.archive.put data hash none) :=
    m.archive.objects.accord_put _ _ _
  refine Accord.run_bind (Accord.await signal.fired_besideLog hput) ?_
  rintro ((fault | ⟨⟩) | _)
  · exact Accord.pure _
  · exact Accord.pure _
  · exact Accord.pure _

theorem accord_uploadOnce (hash : Hash) (data : Bytes) :
    Accord Of (m.logged.uploadOnce signal.besideLog hash data).run
      (m.uploadOnce signal hash data).run := by
  unfold uploadOnce
  have hlogged : m.logged.submission = m.submission.map RawSubmission.Client.noting := rfl
  rw [hlogged]
  cases m.submission with
  | none => exact m.accord_keep signal hash data
  | some client =>
    refine Accord.run_bind (Accord.await signal.fired_besideLog (accord_submit client data)) ?_
    intro outcome
    cases outcome with
    | error e => exact Accord.pure _
    | ok answer => exact m.accord_keep signal hash data

theorem accord_migrateBatch (hash : Hash) :
    Accord Of (m.logged.migrateBatch signal.besideLog hash) (m.migrateBatch signal hash) := by
  have hfetch : Accord Of (m.logged.fetch signal.besideLog hash).run (m.fetch signal hash).run := by
    refine Accord.repeatingInside signal.fired_besideLog m.clock.accord_sleep
      m.clock.accord_spread m.policy ?_ _
    intro attempt
    refine Accord.await signal.fired_besideLog ?_
    exact ((m.committee.network.accord_besideLog _).map _).map _
  have hupload : ∀ data, Accord Of (m.logged.upload signal.besideLog hash data).run
      (m.upload signal hash data).run := by
    intro data
    refine Accord.repeatingInside signal.fired_besideLog m.clock.accord_sleep
      m.clock.accord_spread m.policy ?_ _
    intro attempt
    exact m.accord_uploadOnce signal hash data
  refine hfetch.bind ?_
  rintro (c | ((e | e | e) | data))
  · exact Accord.pure _
  · exact Accord.pure _
  · exact Accord.pure _
  · exact Accord.pure _
  · refine (hupload data).bind ?_
    rintro (c | ((e | e | e) | (⟨⟩ | _)))
    · exact Accord.pure _
    · exact Accord.pure _
    · exact Accord.pure _
    · exact Accord.pure _
    · exact Accord.pure _
    · exact Accord.pure _

theorem accord_migrateBatches (hashes : List Hash) (report : Report) :
    Accord Of (m.logged.migrateBatches signal.besideLog hashes report)
      (m.migrateBatches signal hashes report) := by
  induction hashes generalizing report with
  | nil => exact Accord.pure _
  | cons hash rest ih =>
    refine (m.accord_migrateBatch signal hash).bind ?_
    intro outcome
    cases outcome with
    | cancelled => exact Accord.pure _
    | brokeDown => exact Accord.pure _
    | migrated => exact ih _
    | fetchFailed => exact ih _
    | uploadFailed => exact ih _

theorem accord_scan (block : UInt64) :
    Accord Of (signal.besideLog.await (m.logged.scanner.batchHashes block)).run
      (signal.await (m.scanner.batchHashes block)).run :=
  Accord.await signal.fired_besideLog
    (((m.scanner.client.network.accord_besideLog _).map _).map _)

/-- A log beside the run does not change the run. -/
theorem accord_runFrom (count : Nat) (block : UInt64) (report : Report) :
    Accord Of (m.logged.runFrom signal.besideLog count block report)
      (m.runFrom signal count block report) := by
  induction count generalizing block report with
  | zero => exact Accord.pure _
  | succ count ih =>
    refine (m.accord_scan signal block).bind ?_
    rintro (c | (e | hashes))
    · exact Accord.pure _
    · exact ih _ _
    · refine (m.accord_migrateBatches signal hashes _).bind ?_
      rintro (counted | _)
      · by_cases hinterrupted : counted.interrupted = true
        · simp only [if_pos hinterrupted]
          exact Accord.pure _
        · simp only [if_neg hinterrupted]
          exact ih _ _
      · exact Accord.pure _

/-- The log changes nothing of a run. -/
theorem run_logged (first last : UInt64) (w : W) :
    ∃ log, m.logged.run signal.besideLog first last (w, []) =
      ((m.run signal first last w).1, (m.run signal first last w).2, log) :=
  ⟨_, (m.accord_runFrom signal _ first .empty).eq_of_fst w []⟩

end Accord

section Unlogged

variable {m signal} {s s' : W × Logbook}

/-- Without the log the work is the same. -/
theorem Works.unlogged {hashes : List Hash} {begun : List (Occurrence (W × Logbook))}
    {cut : Completion Bool} (h : m.logged.Works signal.besideLog hashes s begun cut s') :
    m.Works signal hashes s.1 (begun.map Occurrence.unlogged) cut s'.1 := by
  induction h with
  | nil s => exact .nil s.1
  | cons hbatch hdone hrest ih =>
    exact .cons ((m.accord_migrateBatch signal _).unlogged hbatch) hdone ih
  | cut hbatch => exact .cut ((m.accord_migrateBatch signal _).unlogged hbatch)
  | brokeDown hbatch => exact .brokeDown ((m.accord_migrateBatch signal _).unlogged hbatch)

/-- The log changes nothing of the course of a run either. -/
theorem Tour.unlogged {count : Nat} {block : UInt64} {visits : List (Visit (W × Logbook))}
    {ending : Ending} (h : m.logged.Tour signal.besideLog count block s visits ending s') :
    m.Tour signal count block s.1 (visits.map Visit.unlogged) ending s'.1 := by
  induction h with
  | completed block s => exact .completed block s.1
  | whileReading hscan => exact .whileReading ((m.accord_scan signal _).unlogged hscan)
  | unread hscan hrest ih => exact .unread ((m.accord_scan signal _).unlogged hscan) ih
  | read hscan hworks hrest ih =>
    exact .read ((m.accord_scan signal _).unlogged hscan) hworks.unlogged ih
  | insideBlock hscan hworks =>
    exact .insideBlock ((m.accord_scan signal _).unlogged hscan) hworks.unlogged
  | brokeDown hscan hworks =>
    exact .brokeDown ((m.accord_scan signal _).unlogged hscan) hworks.unlogged

end Unlogged

/-- The service's acceptance of bytes with the hash, and the put of the same bytes under the
key of the hash. -/
def Clears (client : RawSubmission.Client W) (hash : Hash) (a e : Entry) : Prop :=
  ∃ body status answer,
    a = .exchanged (client.request body) (.answered status (some answer)) ∧
      Http.isSuccess status = true ∧
      e = .put (m.archive.objectKey hash) body none ∧ keccak body = hash

end Migrator

namespace Migration.Occurrence

def events (o : Occurrence (W × Logbook)) : Logbook := o.after.2.drop o.before.2.length

/-- Everything that a batch put was cleared by the service before: each put directly follows
the service's acceptance of the same bytes. So a batch puts nothing where the service accepted
nothing, and one that could not be fetched does nothing that is noted. -/
structure Cleared (m : Migrator W) (client : RawSubmission.Client W)
    (o : Occurrence (W × Logbook)) : Prop where
  guarded : Guarded (m.Clears client o.hash) o.events
  unaccepted : (∀ request status answer, .exchanged request (.answered status answer) ∈ o.events →
    Http.isSuccess status = false) → ∀ e ∈ o.events, e.isPut = false
  fetchFailed : o.outcome = .fetchFailed → o.events = []

theorem events_eq {o : Occurrence (W × Logbook)} {added : Logbook}
    (h : o.after.2 = o.before.2 ++ added) : o.events = added := by
  rw [events, h, List.drop_left]

end Migration.Occurrence

namespace RawSubmission.Client

theorem accepted_of_readOutcome {o : Http.Outcome} {answer : Bytes}
    (h : readOutcome o = .ok answer) :
    ∃ status, o = .answered status (some answer) ∧ Http.isSuccess status = true := by
  rcases o with f | ⟨status, none | body⟩
  · cases h
  · cases h
  · by_cases hsuccess : Http.isSuccess status = true
    · rw [readOutcome, if_pos hsuccess] at h
      cases h
      exact ⟨status, rfl, hsuccess⟩
    · rw [readOutcome, if_neg hsuccess] at h
      cases h

/-- A submission is one exchange, which is noted, unless the key cannot be sent. -/
theorem submit_noting (c : Client W) (data : Bytes) (s : W × Logbook) :
    (∃ e, c.noting.submit data s = (.error e, s)) ∨
      ∃ o w, c.noting.submit data s =
        (readOutcome o, w, s.2 ++ [.exchanged (c.request data) o]) := by
  unfold submit
  by_cases hkey : isHeaderText c.noting.apiKey = true
  · rw [if_pos hkey]
    exact .inr ⟨_, _, rfl⟩
  · rw [if_neg hkey]
    exact .inl ⟨_, rfl⟩

end RawSubmission.Client

namespace Migrator

open Migration

section Logs

variable {m : Migrator W} (signal : Signal (W × Logbook)) {P : Logbook → Prop} (hP : Joins P)

theorem around_logged (hexchanged : ∀ r o, P [.exchanged r o]) : Around (adding hP) m.logged := by
  refine ⟨fun r => adding_admits_unnoted hP _, fun r => adding_admits_unnoted hP _, ?_,
    fun d => adding_admits_unnoted hP _, fun d => adding_admits_unnoted hP _⟩
  intro c hc r
  obtain ⟨client, -, rfl⟩ := Option.mem_map.mp hc
  exact adding_admits_noted hP _ _ (hexchanged r)

/-- A batch only ever adds to the log. -/
theorem adding_admits_migrateBatch (hash : Hash) :
    (adding joins_any).Admits (m.logged.migrateBatch signal hash) := by
  refine (around_logged joins_any fun _ _ => trivial).admits_migrateBatch signal ?_ hash
  intro data
  apply m.logged.archive.admits_put
  intro until?
  exact adding_admits_noted joins_any _ _ fun _ => trivial

theorem steady_admits_fetch (hash : Hash) :
    (Passage.steady Prod.snd).Admits (m.logged.fetch signal hash).run :=
  m.logged.admits_fetch signal _ (fun _ => steady_admits_unnoted _)
    (fun _ => steady_admits_unnoted _) (fun _ => steady_admits_unnoted _) hash

theorem keep_logged (hash : Hash) (data : Bytes) (s : W × Logbook) :
    ((m.logged.keep signal hash data).run s).2.2 = s.2 ∨
      ((m.logged.keep signal hash data).run s).2.2 =
        s.2 ++ [.put (m.archive.objectKey hash) data none] := by
  have hput : (m.logged.archive.put data hash none s).2.2 =
      s.2 ++ [.put (m.archive.objectKey hash) data none] := by
    have hexpires : (if m.logged.archive.policy.discardAfterTimeout then none else none) =
        (none : Option Nat) := ite_self none
    unfold Store.Archive.put
    rw [hexpires]
    rfl
  rcases signal.await_cases (m.logged.archive.put data hash none) s with hcut | hcut | hthrough
  · rw [keep, run_bind_error hcut]
    exact .inl rfl
  · rw [keep, run_bind_error hcut]
    exact .inr hput
  · rw [keep, run_bind_ok hthrough]
    right
    rcases (m.logged.archive.put data hash none s).1 with (fault | ⟨⟩) | _
    · exact hput
    · exact hput
    · exact hput

variable {client : RawSubmission.Client W} (hclient : client ∈ m.submission)

include hclient

/-- One attempt at an upload submits the data first, and puts it once that is accepted. -/
theorem adding_admits_uploadOnce {hash : Hash} {data : Bytes} (hdigest : keccak data = hash) :
    (adding (joins_guarded (m.Clears client hash))).Admits
      (m.logged.uploadOnce signal hash data).run := by
  intro s
  have hasked : ∀ o, Guarded (m.Clears client hash) [.exchanged (client.request data) o] :=
    fun o => guarded_of_not_isPut (List.forall_mem_singleton.mpr rfl)
  have hsubmission : m.logged.submission = some client.noting := by
    have hmember : m.submission = some client := hclient
    rw [logged, hmember]
    rfl
  rw [uploadOnce, hsubmission]
  dsimp only
  rcases client.submit_noting data s with ⟨e, hsubmit⟩ | ⟨o, w, hsubmit⟩
  · rcases signal.await_cases (client.noting.submit data) s with hcut | hcut | hthrough
    · rw [run_bind_error hcut]
      exact Passage.refl _ _
    · rw [run_bind_error hcut, hsubmit]
      exact Passage.refl _ _
    · rw [run_bind_ok hthrough, hsubmit]
      exact Passage.refl _ _
  · rcases signal.await_cases (client.noting.submit data) s with hcut | hcut | hthrough
    · rw [run_bind_error hcut]
      exact Passage.refl _ _
    · rw [run_bind_error hcut, hsubmit]
      exact ⟨_, rfl, hasked o⟩
    · rw [run_bind_ok hthrough, hsubmit]
      cases houtcome : RawSubmission.Client.readOutcome o with
      | error e => exact ⟨_, rfl, hasked o⟩
      | ok answer =>
        obtain ⟨status, rfl, hsuccess⟩ := RawSubmission.Client.accepted_of_readOutcome houtcome
        have hcleared : m.Clears client hash
            (.exchanged (client.request data) (.answered status (some answer)))
            (.put (m.archive.objectKey hash) data none) :=
          ⟨data, status, answer, rfl, hsuccess, rfl, hdigest⟩
        rcases m.keep_logged signal hash data (w, s.2 ++ [.exchanged (client.request data)
          (.answered status (some answer))]) with hkept | hkept
        · exact ⟨_, hkept, hasked _⟩
        · refine ⟨_, hkept.trans (List.append_assoc _ _ _), guarded_pair rfl hcleared⟩

/-- Each attempt to upload adds an answer of the service, and a put only behind one that accepts. -/
theorem adding_admits_upload {hash : Hash} {data : Bytes} (hdigest : keccak data = hash) :
    (adding (joins_guarded (m.Clears client hash))).Admits
      (m.logged.upload signal hash data).run := by
  refine Passage.admits_interruptible _ _ signal _ (fun _ => adding_admits_unnoted _ _)
    (fun _ => adding_admits_unnoted _ _) _ _ ?_ _ _
  intro attempt
  exact adding_admits_uploadOnce signal hclient hdigest

/-- In the log of a batch whatever is put was accepted by the service just before. -/
theorem cleared_of_batch (o : Occurrence (W × Logbook))
    (h : m.logged.migrateBatch signal o.hash o.before = (o.outcome, o.after)) :
    o.Cleared m client := by
  have hguarded : Guarded (m.Clears client o.hash) o.events ∧
      (o.outcome = .fetchFailed → o.events = []) := by
    obtain ⟨r, hfetch, -⟩ | ⟨data, s, r, hfetch, hupload, hend⟩ :=
      m.logged.migrateBatch_cases signal h
    · have hsame := m.steady_admits_fetch signal o.hash o.before
      rw [hfetch] at hsame
      have hnothing : o.events = [] :=
        Occurrence.events_eq (Eq.trans hsame (List.append_nil _).symm)
      rw [hnothing]
      exact ⟨(joins_guarded _).nil, fun _ => rfl⟩
    · have hsame := m.steady_admits_fetch signal o.hash o.before
      have hdigest := m.logged.digest_of_fetch signal o.hash data _ _ hfetch
      rw [hfetch] at hsame
      have hadded := adding_admits_upload signal hclient hdigest s
      rw [hupload] at hadded
      obtain ⟨added, hlog, hguarded⟩ := hadded
      have hnoted : o.events = added :=
        Occurrence.events_eq (hlog.trans (congrArg (· ++ added) hsame))
      rw [hnoted]
      refine ⟨hguarded, ?_⟩
      intro hfailed
      rw [hfailed] at hend
      obtain hother | ⟨hother, -⟩ | ⟨hother, -⟩ | ⟨hother, -⟩ := hend
      · cases hother
      · cases hother
      · cases hother
      · cases hother
  refine ⟨hguarded.1, ?_, hguarded.2⟩
  intro hunaccepted e he
  by_contra hput
  obtain ⟨earlier, later, hevents⟩ := List.append_of_mem he
  obtain ⟨before, a, rfl, body, status, answer, rfl, hsuccess, -⟩ :=
    hguarded.1 earlier e later hevents (Bool.eq_true_of_not_eq_false hput)
  have hfailed := hunaccepted (client.request body) status (some answer) (by simp [hevents])
  rw [hsuccess] at hfailed
  cases hfailed

end Logs

section Whole

variable {m : Migrator W} {signal : Signal (W × Logbook)} {s s' : W × Logbook}

/-- The log of a block is made of the logs of its batches. -/
theorem Works.log {hashes : List Hash} {begun : List (Occurrence (W × Logbook))}
    {cut : Completion Bool}
    (h : m.logged.Works signal hashes s begun cut s') :
    s'.2 = s.2 ++ begun.flatMap Occurrence.events := by
  induction h with
  | nil s => exact (List.append_nil s.2).symm
  | @cons hash rest s s₁ s₂ outcome begun cut hbatch hdone hrest ih =>
    obtain ⟨added, hlog, -⟩ := m.adding_admits_migrateBatch signal hash s
    rw [hbatch] at hlog
    rw [ih, List.flatMap_cons, Occurrence.events_eq hlog, hlog, List.append_assoc]
  | @cut hash rest s s₁ hbatch | @brokeDown hash rest s s₁ hbatch =>
    obtain ⟨added, hlog, -⟩ := m.adding_admits_migrateBatch signal hash s
    rw [hbatch] at hlog
    rw [List.flatMap_singleton, Occurrence.events_eq hlog, hlog]

/-- The log of a course is made of the logs of the batches begun in it. -/
theorem Tour.log {count : Nat} {block : UInt64} {visits : List (Visit (W × Logbook))}
    {ending : Ending} (h : m.logged.Tour signal count block s visits ending s') :
    s'.2 = s.2 ++ (visits.flatMap Visit.begun).flatMap Occurrence.events := by
  have hsteady : ∀ block, (Passage.steady Prod.snd).Admits
      (signal.await (m.logged.scanner.batchHashes block)).run := by
    intro block
    refine Passage.admits_await _ _ _ ?_
    exact Passage.admits_map _ _ _ (Passage.admits_map _ _ _ (steady_admits_unnoted _))
  induction h with
  | completed block s => exact (List.append_nil s.2).symm
  | @whileReading count block s s₁ c hscan =>
    have hsame := hsteady block s
    rw [hscan] at hsame
    exact Eq.trans hsame (List.append_nil s.2).symm
  | @unread count block s s₁ s₂ e visits ending hscan hrest ih =>
    have hsame := hsteady block s
    rw [hscan] at hsame
    exact ih.trans (congrArg (· ++ _) hsame)
  | @read count block s s₁ s₂ s₃ hashes begun visits ending hscan hworks hrest ih =>
    have hsame : s₁.2 = s.2 := by
      have hscanned := hsteady block s
      rw [hscan] at hscanned
      exact hscanned
    rw [ih, hworks.log, hsame, List.flatMap_cons, List.flatMap_append, List.append_assoc]
    rfl
  | @insideBlock count block s s₁ s₂ hashes begun hscan hworks
  | @brokeDown count block s s₁ s₂ hashes begun hscan hworks =>
    have hsame : s₁.2 = s.2 := by
      have hscanned := hsteady block s
      rw [hscan] at hscanned
      exact hscanned
    rw [hworks.log, hsame, List.flatMap_singleton]
    rfl

end Whole

end Migrator

end Validium
