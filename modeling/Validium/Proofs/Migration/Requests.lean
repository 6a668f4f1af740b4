import Validium.Proofs.JsonRpc.Returned
import Validium.Proofs.Migration.Cleared
import Validium.Proofs.Retry.Foretold
import Validium.Proofs.Server.Exchange

/-!
The requests that the migration of one batch makes. The committee is asked until it returns bytes,
and what it returned is final, right or wrong; then the data is uploaded until an upload lands. All
of it can be told from the answers that there will be, which a script gives in their order: how the
batch ends, and each effect that it has on the way.
-/
namespace Validium

variable {W : Type}

namespace Migration

structure Script where
  committee : Nat → Http.Outcome
  service : Nat → Http.Outcome
  store : Nat → Except Store.Fault Unit

inductive Effect where
  | asked (request : Http.Request)
  | submitted (request : Http.Request)
  | put (key : String) (body : Bytes) (expires : Option Nat)
  deriving DecidableEq

namespace Effect

def isAsked : Effect → Bool
  | .asked _ => true
  | _ => false

def isSubmitted : Effect → Bool
  | .submitted _ => true
  | _ => false

def isPut : Effect → Bool
  | .put .. => true
  | _ => false

end Effect

def effectless {α : Type} (x : StateM W α) : StateM (W × List Effect) α := fun s =>
  ((x s.1).1, (x s.1).2, s.2)

/-- A step with one effect, which is answered by the number of effects of its kind before it. -/
def answering {α : Type} (answer : Nat → α) (kind : Effect → Bool) (e : Effect) :
    StateM (W × List Effect) α := fun s => (answer (s.2.countP kind), s.1, s.2 ++ [e])

def Script.Returns (script : Script) (i : Nat) : Prop :=
  ∃ d, JsonRpc.Returned (script.committee i) d

def Script.network (script : Script) : Network (W × List Effect) :=
  ⟨fun r => answering script.committee Effect.isAsked (.asked r)⟩

end Migration

open Migration

def RawSubmission.Client.accepts : Http.Outcome → Bool
  | .answered status (some _) => Http.isSuccess status
  | _ => false

theorem RawSubmission.Client.readOutcome_of_accepts {o : Http.Outcome} (h : accepts o = true) :
    ∃ answer, readOutcome o = .ok answer := by
  rcases o with f | ⟨status, none | body⟩
  · cases h
  · cases h
  · exact ⟨body, if_pos h⟩

theorem RawSubmission.Client.readOutcome_of_not_accepts {o : Http.Outcome}
    (h : accepts o = false) : ∃ e, readOutcome o = .error e := by
  rcases o with f | ⟨status, none | body⟩
  · exact ⟨_, rfl⟩
  · exact ⟨_, rfl⟩
  · exact ⟨_, if_neg (Bool.eq_false_iff.mp h)⟩

def RawSubmission.Client.scripted (c : RawSubmission.Client W) (script : Script) :
    RawSubmission.Client (W × List Effect) :=
  ⟨⟨fun r => answering script.service Effect.isSubmitted (.submitted r)⟩, c.endpoint, c.apiKey⟩

namespace RawSubmission.Client

variable (c : Client W) (script : Script) (data : Bytes) {s : W × List Effect}

theorem submit_scripted (hkey : isHeaderText c.apiKey = true) :
    (c.scripted script).submit data s =
      (readOutcome (script.service (s.2.countP Effect.isSubmitted)), s.1,
        s.2 ++ [.submitted (c.request data)]) := by
  rw [submit, scripted, if_pos hkey]
  rfl

theorem submit_unsendable (hkey : isHeaderText c.apiKey = false) :
    (c.scripted script).submit data s = (.error (.transport "builder error"), s) := by
  rw [submit, scripted, if_neg (Bool.eq_false_iff.mp hkey)]
  rfl

end RawSubmission.Client

namespace Migrator

variable (m : Migrator W) (script : Script)

def budget : Nat := max 1 m.policy.maxAttempts.toNat

def scripted : Migrator (W × List Effect) where
  scanner := ⟨⟨script.network, m.scanner.client.url, m.scanner.client.timeout⟩, m.scanner.contract⟩
  committee := ⟨script.network, m.committee.url, m.committee.timeout⟩
  submission := m.submission.map fun client => client.scripted script
  archive := {
    objects := {
      name := m.archive.objects.name
      put := fun key body expires =>
        answering (fun n => .returned (script.store n)) Effect.isPut (.put key body expires)
      get := fun key => effectless (m.archive.objects.get key)
      health := effectless m.archive.objects.health }
    policy := m.archive.policy }
  clock := ⟨fun d => effectless (m.clock.sleep d), fun d => effectless (m.clock.spread d)⟩
  policy := m.policy

section Plain

variable (signal : Signal W) (hash : Hash) (data : Bytes)

def tryKeep : StateM W (Except UploadError (Completion Unit)) := do
  match ← m.archive.put data hash none with
  | .brokeDown => return .ok .brokeDown
  | .returned (.ok ()) => return .ok (.returned ())
  | .returned (.error fault) => return .error (.store fault)

def tryUpload : StateM W (Except UploadError (Completion Unit)) :=
  match m.submission with
  | none => m.tryKeep hash data
  | some client => do
    match ← client.submit data with
    | .error e => return .error (.submission e)
    | .ok _ => m.tryKeep hash data

def fetching : Retry.Repetition W Committee.Error Bytes where
  policy := m.policy
  signal := signal
  clock := m.clock
  op _ := Committee.fetch m.committee hash
  retryable := Committee.Error.isRetryable

def uploading : Retry.Repetition W UploadError (Completion Unit) where
  policy := m.policy
  signal := signal
  clock := m.clock
  op _ := m.tryUpload hash data
  retryable _ := true

variable {signal} (hquiet : signal.Quiet)

include hquiet

theorem fetch_quiet :
    (m.fetch signal hash).run = Except.ok <$> (m.fetching signal hash).run :=
  (m.fetching signal hash).run_interruptible hquiet fun _ => Signal.await_quiet hquiet _

theorem keep_quiet :
    (m.keep signal hash data).run = Except.ok <$> m.tryKeep hash data := by
  refine (Signal.likeness W).bind (Signal.await_quiet hquiet (m.archive.put data hash none)) ?_
  rintro ((fault | ⟨⟩) | _)
  · rfl
  · rfl
  · rfl

theorem uploadOnce_quiet :
    (m.uploadOnce signal hash data).run = Except.ok <$> m.tryUpload hash data := by
  unfold uploadOnce tryUpload
  cases m.submission with
  | none => exact m.keep_quiet hash data hquiet
  | some client =>
    refine (Signal.likeness W).bind (Signal.await_quiet hquiet (client.submit data)) ?_
    intro outcome
    cases outcome with
    | error e => rfl
    | ok answer => exact m.keep_quiet hash data hquiet

theorem upload_quiet :
    (m.upload signal hash data).run = Except.ok <$> (m.uploading signal hash data).run :=
  (m.uploading signal hash data).run_interruptible hquiet fun _ =>
    m.uploadOnce_quiet hash data hquiet

/-- What fails for good, or too often, to be fetched ends the batch. -/
theorem migrateBatch_of_unfetched {w : W} {e : Retry.Error Committee.Error}
    (h : ((m.fetching signal hash).run w).1 = .error e) (he : e ≠ .cancelled) :
    m.migrateBatch signal hash w = (.fetchFailed, ((m.fetching signal hash).run w).2) := by
  rw [migrateBatch, bind_apply, m.fetch_quiet hash hquiet, map_apply, h]
  cases e with
  | cancelled => exact absurd rfl he
  | exhausted attempts last => rfl
  | fatal attempt error => rfl

/-- Once it is fetched, the batch ends as its upload does. -/
theorem migrateBatch_of_fetched {w w' : W} {outcome : BatchOutcome}
    (hfetched : (m.fetching signal hash).run w = (.ok data, w'))
    (hend : ((m.uploading signal hash data).run w').1 = .ok (.returned ()) ∧ outcome = .migrated ∨
      (∃ attempts last, ((m.uploading signal hash data).run w').1 =
        .error (.exhausted attempts last)) ∧ outcome = .uploadFailed) :
    m.migrateBatch signal hash w = (outcome, ((m.uploading signal hash data).run w').2) := by
  rw [migrateBatch, bind_apply, m.fetch_quiet hash hquiet, map_apply, hfetched]
  dsimp only
  rw [bind_apply, m.upload_quiet hash data hquiet, map_apply]
  rcases hend with ⟨hresult, houtcome⟩ | ⟨⟨attempts, last, hresult⟩, houtcome⟩
  · rw [hresult, houtcome]
    rfl
  · rw [hresult, houtcome]
    rfl

end Plain

section Scripted

variable (hash : Hash) (data : Bytes)

def ask : Effect := .asked (m.committee.request Committee.method (Committee.params hash))

/-- What an attempt sends to the service, if there is one. A key that cannot stand in a header
cannot be sent. -/
def sent : List Effect :=
  match m.submission with
  | none => []
  | some client =>
    if RawSubmission.Client.isHeaderText client.apiKey then [.submitted (client.request data)]
    else []

def taken (i : Nat) : Bool :=
  m.submission.all fun client => RawSubmission.Client.isHeaderText client.apiKey &&
    RawSubmission.Client.accepts (script.service i)

/-- The effects of attempt `i` at an upload: the data is sent first, and put only where it was
taken. -/
def attempt (i : Nat) : List Effect :=
  m.sent data ++
    if m.taken script i then [.put (m.archive.objectKey hash) data none] else []

def Lands (i : Nat) : Prop :=
  m.taken script i = true ∧
    script.store ((List.range i).countP (m.taken script)) = .ok ()

instance (i : Nat) : Decidable (m.Lands script i) :=
  inferInstanceAs (Decidable (_ ∧ _))

/-- A put is answered by what the store has for it, after so many others. -/
theorem tryKeep_scripted {n : Nat} {s : W × List Effect} (hput : s.2.countP Effect.isPut = n) :
    ∃ o, (m.scripted script).tryKeep hash data s =
        (Except.map .returned o, s.1, s.2 ++ [.put (m.archive.objectKey hash) data none]) ∧
      (o = .ok () ↔ script.store n = .ok ()) := by
  have hexpires : (if m.archive.policy.discardAfterTimeout then none else none) =
      (none : Option Nat) := ite_self none
  have hstep : (m.scripted script).archive.put data hash none s =
      (.returned (script.store (s.2.countP Effect.isPut)), s.1,
        s.2 ++ [.put (m.archive.objectKey hash) data
          (if m.archive.policy.discardAfterTimeout then none else none)]) := rfl
  rw [hexpires, hput] at hstep
  refine ⟨(script.store n).mapError .store, ?_, mapError_eq_ok_iff _ _ _⟩
  rw [tryKeep, bind_apply, hstep]
  rcases script.store n with fault | ⟨⟩
  · rfl
  · rfl

/-- An attempt has its effects, and ends well where it lands. -/
theorem tryUpload_scripted {i : Nat} {s : W × List Effect}
    (hsubmitted : ∀ client ∈ m.submission,
      RawSubmission.Client.isHeaderText client.apiKey = true →
        s.2.countP Effect.isSubmitted = i)
    (hput : s.2.countP Effect.isPut = (List.range i).countP (m.taken script)) :
    ∃ o, (m.scripted script).tryUpload hash data s =
        (Except.map .returned o, s.1, s.2 ++ m.attempt script hash data i) ∧
      (o = .ok () ↔ m.Lands script i) := by
  have hscripted : (m.scripted script).submission =
      m.submission.map fun client => client.scripted script := rfl
  unfold tryUpload Lands
  rw [hscripted]
  cases hsubmission : m.submission with
  | none =>
    have htaken : m.taken script i = true := by rw [taken, hsubmission, Option.all_none]
    obtain ⟨o, hkept, hok⟩ := m.tryKeep_scripted script hash data hput
    refine ⟨o, ?_, by simp only [hok, htaken, true_and]⟩
    simp only [attempt, sent, hsubmission, htaken]
    exact hkept
  | some client =>
    rw [Option.map_some]
    dsimp only
    cases hkey : RawSubmission.Client.isHeaderText client.apiKey with
    | false =>
      have htaken : m.taken script i = false := by
        rw [taken, hsubmission, Option.all_some, hkey, Bool.false_and]
      refine ⟨.error (.submission (.transport "builder error")), ?_, by simp [htaken]⟩
      rw [bind_apply, client.submit_unsendable script data hkey]
      simp only [attempt, sent, hsubmission, hkey, htaken, Bool.false_eq_true, if_false,
        List.append_nil]
      rfl
    | true =>
      rw [bind_apply, client.submit_scripted script data hkey, hsubmitted client hsubmission hkey]
      cases haccepts : RawSubmission.Client.accepts (script.service i) with
      | false =>
        have htaken : m.taken script i = false := by
          rw [taken, hsubmission, Option.all_some, haccepts, Bool.and_false]
        obtain ⟨e, he⟩ := RawSubmission.Client.readOutcome_of_not_accepts haccepts
        refine ⟨.error (.submission e), ?_, by simp [htaken]⟩
        simp only [attempt, sent, hsubmission, hkey, htaken, he, Bool.false_eq_true, if_false,
          if_true, List.append_nil]
        rfl
      | true =>
        have htaken : m.taken script i = true := by
          rw [taken, hsubmission, Option.all_some, haccepts, hkey, Bool.and_self]
        obtain ⟨answer, hanswer⟩ := RawSubmission.Client.readOutcome_of_accepts haccepts
        have hput' : (s.2 ++ [Effect.submitted (client.request data)]).countP Effect.isPut =
            (List.range i).countP (m.taken script) := by
          rw [List.countP_append, hput]
          rfl
        obtain ⟨o, hkept, hok⟩ := m.tryKeep_scripted script hash data
          (s := (s.1, s.2 ++ [Effect.submitted (client.request data)])) hput'
        refine ⟨o, ?_, by simp only [hok, htaken, true_and]⟩
        simp only [attempt, sent, hsubmission, hkey, htaken, hanswer, if_true]
        rw [hkept, List.append_assoc]

/-- There is a put for each attempt that the service takes. -/
theorem countP_isPut_attempts (n : Nat) :
    ((List.range n).flatMap (m.attempt script hash data)).countP Effect.isPut =
      (List.range n).countP (m.taken script) := by
  have hsent : (m.sent data).countP Effect.isPut = 0 := by
    unfold sent
    split
    · rfl
    · split <;> rfl
  induction n with
  | zero => rfl
  | succ n ih =>
    rw [List.range_succ, List.flatMap_append, List.flatMap_singleton, List.countP_append,
      List.countP_append, ih, List.countP_singleton, attempt, List.countP_append, hsent]
    cases m.taken script n <;> rfl

theorem countP_isSubmitted_attempts {client : RawSubmission.Client W}
    (hclient : client ∈ m.submission)
    (hkey : RawSubmission.Client.isHeaderText client.apiKey = true) (n : Nat) :
    ((List.range n).flatMap (m.attempt script hash data)).countP Effect.isSubmitted = n := by
  have hsubmission : m.submission = some client := hclient
  have hsent : m.sent data = [.submitted (client.request data)] := by
    simp only [sent, hsubmission, hkey, if_true]
  induction n with
  | zero => rfl
  | succ n ih =>
    rw [List.range_succ, List.flatMap_append, List.flatMap_singleton, List.countP_append, ih,
      attempt, hsent]
    cases m.taken script n <;> rfl

theorem flatMap_ask (n : Nat) :
    (List.range n).flatMap (fun _ => [m.ask hash]) = List.replicate n (m.ask hash) := by
  rw [← List.map_eq_flatMap, List.map_const', List.length_range]

theorem countP_replicate_ask {kind : Effect → Bool} (hkind : kind (m.ask hash) = false)
    (n : Nat) : (List.replicate n (m.ask hash)).countP kind = 0 := by
  rw [List.countP_replicate, hkind]
  rfl

variable (signal : Signal (W × List Effect))

/-- What attempt `i` to upload can end with. -/
structure Ends (i : Nat) (o : Except UploadError (Completion Unit)) : Prop where
  lands : m.Lands script i → o = .ok (.returned ())
  fails : ¬ m.Lands script i → ∃ e, o = .error e

theorem ends_of_iff {i : Nat} {result : Except UploadError Unit}
    (h : result = .ok () ↔ m.Lands script i) :
    m.Ends script i (Except.map .returned result) := by
  constructor
  · intro hlands
    rw [h.mpr hlands]
    rfl
  · intro hlands
    rcases result with e | ⟨⟩
    · exact ⟨e, rfl⟩
    · exact absurd (h.mp rfl) hlands

/-- The attempts to fetch the data, each of which is one request. -/
theorem foretold_fetching :
    ((m.scripted script).fetching signal hash).Foretold []
      (fun i o => o = Committee.readResult hash
        (JsonRpc.readOutcome Committee.method (script.committee i)))
      fun _ => [m.ask hash] := by
  refine ⟨?_, fun d s => rfl, fun d s => rfl⟩
  intro i s hlog
  have hcount : s.2.countP Effect.isAsked = i := by
    rw [hlog, List.nil_append, flatMap_ask, List.countP_replicate]
    exact if_pos rfl
  exact ⟨congrArg (fun n => Committee.readResult hash
    (JsonRpc.readOutcome Committee.method (script.committee n))) hcount, rfl⟩

/-- The attempts to upload the data, after so many requests for it. -/
theorem foretold_uploading (k : Nat) :
    ((m.scripted script).uploading signal hash data).Foretold (List.replicate k (m.ask hash))
      (m.Ends script) (m.attempt script hash data) := by
  refine ⟨?_, fun d s => rfl, fun d s => rfl⟩
  intro i s hlog
  have hput : s.2.countP Effect.isPut = (List.range i).countP (m.taken script) := by
    rw [hlog, List.countP_append, m.countP_replicate_ask hash rfl, countP_isPut_attempts,
      Nat.zero_add]
  have hsubmitted : ∀ client ∈ m.submission,
      RawSubmission.Client.isHeaderText client.apiKey = true →
        s.2.countP Effect.isSubmitted = i := by
    intro client hclient hkey
    rw [hlog, List.countP_append, m.countP_replicate_ask hash rfl,
      m.countP_isSubmitted_attempts script hash data hclient hkey, Nat.zero_add]
  obtain ⟨o, hstep, hok⟩ := m.tryUpload_scripted script hash data hsubmitted hput
  have hop : ((m.scripted script).uploading signal hash data).op (Retry.number i) s =
      (Except.map .returned o, s.1, s.2 ++ m.attempt script hash data i) := hstep
  rw [hop]
  exact ⟨m.ends_of_iff script hok, rfl⟩

end Scripted

section Answers

variable (hash : Hash) {o : Http.Outcome}

/-- Bytes that are returned are final, right or wrong. -/
theorem readResult_of_returned {d : Bytes} (h : JsonRpc.Returned o d) :
    Committee.readResult hash (JsonRpc.readOutcome Committee.method o) =
      if keccak d = hash then .ok d else .error (.mismatch hash (keccak d)) := by
  rw [Committee.readResult, (JsonRpc.decodeHexResult_readOutcome_iff _ o d).mpr h]

/-- Where no bytes are returned, it is worth asking again. -/
theorem readResult_of_not_returned (h : ¬ ∃ d, JsonRpc.Returned o d) :
    ∃ e, Committee.readResult hash (JsonRpc.readOutcome Committee.method o) = .error e ∧
      e.isRetryable = true := by
  cases hread : JsonRpc.readOutcome Committee.method o >>=
      JsonRpc.decodeHexResult Committee.method with
  | error e =>
    rw [Committee.readResult, hread]
    exact ⟨_, rfl, rfl⟩
  | ok d => exact absurd ⟨d, (JsonRpc.decodeHexResult_readOutcome_iff _ o d).mp hread⟩ h

end Answers

section Whole

variable {script} {hash : Hash} {signal : Signal (W × List Effect)} (hquiet : signal.Quiet) (w : W)

theorem budget_fetching : ((m.scripted script).fetching signal hash).budget = m.budget :=
  Retry.Repetition.budget_eq _

theorem budget_uploading (data : Bytes) :
    ((m.scripted script).uploading signal hash data).budget = m.budget :=
  Retry.Repetition.budget_eq _

include hquiet

/-- Where no bytes are returned, all that happens is that the committee is asked. -/
theorem migrateBatch_of_silence (h : ∀ i < m.budget, ¬ script.Returns i) :
    ∃ w', (m.scripted script).migrateBatch signal hash (w, []) =
      (.fetchFailed, w', List.replicate m.budget (m.ask hash)) := by
  have hbudget : ((m.scripted script).fetching signal hash).budget = m.budget := m.budget_fetching
  obtain ⟨⟨e, he⟩, hlog⟩ := (m.foretold_fetching script hash signal).run_of_fails w hquiet
    fun j hj o ho => ho ▸ readResult_of_not_returned hash (h j (hbudget ▸ hj))
  rw [(m.scripted script).migrateBatch_of_unfetched hash hquiet he nofun]
  refine ⟨_, Prod.ext rfl (Prod.ext rfl ?_)⟩
  rw [hlog, List.nil_append, flatMap_ask, hbudget]

variable {k : Nat} (hk : k < m.budget) (hfirst : ∀ i < k, ¬ script.Returns i) {d : Bytes}
  (hreturned : JsonRpc.Returned (script.committee k) d)

include hk hfirst hreturned

/-- The first bytes that are returned end the requests, and wrong ones the batch. -/
theorem migrateBatch_of_mismatch (hne : keccak d ≠ hash) :
    ∃ w', (m.scripted script).migrateBatch signal hash (w, []) =
      (.fetchFailed, w', List.replicate (k + 1) (m.ask hash)) := by
  have hwrong := readResult_of_returned hash hreturned
  rw [if_neg hne] at hwrong
  obtain ⟨he, hlog⟩ := (m.foretold_fetching script hash signal).run_of_fatal w hquiet
    (m.budget_fetching ▸ hk) (fun j hj o ho => ho ▸ readResult_of_not_returned hash (hfirst j hj))
    (fun o ho => ho.trans hwrong) rfl
  rw [(m.scripted script).migrateBatch_of_unfetched hash hquiet he nofun]
  refine ⟨_, Prod.ext rfl (Prod.ext rfl ?_)⟩
  rw [hlog, List.nil_append, flatMap_ask]

theorem fetching_of_match (hdigest : keccak d = hash) :
    ∃ w', ((m.scripted script).fetching signal hash).run (w, []) =
      (.ok d, w', List.replicate (k + 1) (m.ask hash)) := by
  have hright := readResult_of_returned hash hreturned
  rw [if_pos hdigest] at hright
  obtain ⟨hvalue, hlog⟩ := (m.foretold_fetching script hash signal).run_of_value w hquiet
    (m.budget_fetching ▸ hk) (fun j hj o ho => ho ▸ readResult_of_not_returned hash (hfirst j hj))
    (fun o ho => ho.trans hright)
  refine ⟨_, Prod.ext hvalue (Prod.ext rfl ?_)⟩
  rw [hlog, List.nil_append, flatMap_ask]

variable (hdigest : keccak d = hash)

include hdigest

/-- With the right bytes there are uploads up to the first that lands. -/
theorem migrateBatch_of_landing {j : Nat} (hj : j < m.budget)
    (hbefore : ∀ i < j, ¬ m.Lands script i) (hlands : m.Lands script j) :
    ∃ w', (m.scripted script).migrateBatch signal hash (w, []) = (.migrated, w',
      List.replicate (k + 1) (m.ask hash) ++
        (List.range (j + 1)).flatMap (m.attempt script hash d)) := by
  obtain ⟨w₁, hfetched⟩ := m.fetching_of_match hquiet w hk hfirst hreturned hdigest
  obtain ⟨hvalue, hlog⟩ := (m.foretold_uploading script hash d signal (k + 1)).run_of_value w₁
    hquiet (m.budget_uploading d ▸ hj)
    (fun i hi o ho => (ho.fails (hbefore i hi)).imp fun _ he => ⟨he, rfl⟩)
    (fun o ho => ho.lands hlands)
  rw [(m.scripted script).migrateBatch_of_fetched hash d hquiet hfetched (.inl ⟨hvalue, rfl⟩)]
  exact ⟨_, Prod.ext rfl (Prod.ext rfl hlog)⟩

/-- Where no upload lands, there are as many as attempts. -/
theorem migrateBatch_of_no_landing (hnever : ∀ i < m.budget, ¬ m.Lands script i) :
    ∃ w', (m.scripted script).migrateBatch signal hash (w, []) = (.uploadFailed, w',
      List.replicate (k + 1) (m.ask hash) ++
        (List.range m.budget).flatMap (m.attempt script hash d)) := by
  have hbudget : ((m.scripted script).uploading signal hash d).budget = m.budget :=
    m.budget_uploading d
  obtain ⟨w₁, hfetched⟩ := m.fetching_of_match hquiet w hk hfirst hreturned hdigest
  obtain ⟨⟨e, he⟩, hlog⟩ := (m.foretold_uploading script hash d signal (k + 1)).run_of_fails w₁
    hquiet fun i hi o ho =>
      (ho.fails (hnever i (hbudget ▸ hi))).imp fun _ he => ⟨he, rfl⟩
  rw [(m.scripted script).migrateBatch_of_fetched hash d hquiet hfetched (.inr ⟨⟨_, e, he⟩, rfl⟩)]
  refine ⟨_, Prod.ext rfl (Prod.ext rfl ?_)⟩
  rw [hlog, hbudget]

end Whole

/-- Every effect of a batch can be told from the answers. The committee is asked until it returns
bytes, and at most as often as there are attempts. Only if these bytes have the hash are there
uploads, up to the first that lands, and also at most as many. -/
theorem migrateBatch_spends (hash : Hash) {signal : Signal (W × List Effect)}
    (hquiet : signal.Quiet) (w : W) :
    let budget := max 1 m.policy.maxAttempts.toNat
    let asks := fun n => List.replicate n (m.ask hash)
    let uploads := fun d n => (List.range n).flatMap (m.attempt script hash d)
    ∃ outcome w' effects,
      (m.scripted script).migrateBatch signal hash (w, []) = (outcome, w', effects) ∧
      ((∀ i < budget, ¬ script.Returns i) →
        outcome = .fetchFailed ∧ effects = asks budget) ∧
      ∀ k < budget, (∀ i < k, ¬ script.Returns i) →
        ∀ d, JsonRpc.Returned (script.committee k) d →
          (keccak d ≠ hash → outcome = .fetchFailed ∧ effects = asks (k + 1)) ∧
          (keccak d = hash →
            (∀ j < budget, (∀ i < j, ¬ m.Lands script i) → m.Lands script j →
              outcome = .migrated ∧ effects = asks (k + 1) ++ uploads d (j + 1)) ∧
            ((∀ i < budget, ¬ m.Lands script i) →
              outcome = .uploadFailed ∧ effects = asks (k + 1) ++ uploads d budget)) := by
  intro budget asks uploads
  rcases hrun : (m.scripted script).migrateBatch signal hash (w, []) with ⟨outcome, w', effects⟩
  refine ⟨outcome, w', effects, rfl, ?_⟩
  have hends : ∀ {outcome' effects'}, (∃ w₁, (m.scripted script).migrateBatch signal hash (w, []) =
      (outcome', w₁, effects')) → outcome = outcome' ∧ effects = effects' := by
    rintro outcome' effects' ⟨w₁, hrun'⟩
    rw [hrun] at hrun'
    cases hrun'
    exact ⟨rfl, rfl⟩
  constructor
  · intro hsilent
    exact hends (m.migrateBatch_of_silence hquiet w hsilent)
  intro k hk hfirst d hreturned
  constructor
  · intro hne
    exact hends (m.migrateBatch_of_mismatch hquiet w hk hfirst hreturned hne)
  intro hdigest
  constructor
  · intro j hj hbefore hlands
    exact hends
      (m.migrateBatch_of_landing hquiet w hk hfirst hreturned hdigest hj hbefore hlands)
  · intro hnever
    exact hends (m.migrateBatch_of_no_landing hquiet w hk hfirst hreturned hdigest hnever)

/-- The first answer of each kind is a failure, and all others are not. -/
def stumbling (data : Bytes) : Script where
  committee i := if i = 0 then .failed .timedOut else
    Server.telling (.string (Hex.encode0x data))
  service i := .answered (if i = 0 then 503 else 202) (some [])
  store i := if i = 0 then .error (.backend "disk" "full") else .ok ()

theorem returned_stumbling (data : Bytes) :
    JsonRpc.Returned ((stumbling data).committee 1) data := by
  have hread := Server.readOutcome_ok Committee.method (v := .string (Hex.encode0x data)) trivial
  rw [← JsonRpc.decodeHexResult_readOutcome_iff Committee.method]
  exact (congrArg (· >>= JsonRpc.decodeHexResult Committee.method) hread).trans
    ((JsonRpc.decodeHexResult_string _ _ _).mpr (JsonRpc.spellsHex_encode0x data))

/-- The second request and the third attempt go well. -/
theorem migrateBatch_spends_stumbling :
    ∃ w' ask submitted put,
      ask = troubled.ask (keccak [42]) ∧ troubled.sent [42] = [submitted] ∧
      put = .put (troubled.archive.objectKey (keccak [42])) [42] none ∧
      (troubled.scripted (stumbling [42])).migrateBatch .never (keccak [42]) (0, []) =
        (.migrated, w', [ask, ask, submitted, submitted, put, submitted, put]) := by
  obtain ⟨outcome, w', effects, hrun, -, hreturned⟩ :=
    troubled.migrateBatch_spends (stumbling [42]) (keccak [42]) Signal.quiet_never 0
  have hsilent : ∀ i < 1, ¬ (stumbling [42]).Returns i := by
    rintro i hi ⟨d, hd⟩
    have hzero : i = 0 := by omega
    rw [hzero] at hd
    exact JsonRpc.Fault.not_returned (.transport _) d hd
  have hlanded := ((hreturned 1 (by decide) hsilent [42] (returned_stumbling [42])).2 rfl).1
  obtain ⟨houtcome, heffects⟩ := hlanded 2 (by decide) (by decide) (by decide)
  rw [houtcome, heffects] at hrun
  exact ⟨w', _, _, _, rfl, rfl, rfl, hrun⟩

end Migrator

end Validium
