import Validium.Proofs.Migration.Answered
import Validium.Proofs.Retry.Warranted

/-!
The course of a migration. Blocks are visited in order, and the batches found in each are
worked through in order; the signal may end this while a block is read or inside the batches
of one, and so may a store that breaks down. Every run takes such a course, and its report, if
nothing broke down, is the count of what lies on it. So the counts of a report account for every
block of the range and every batch that was found.
-/
namespace Validium

variable {W : Type}

namespace Migration

def BatchOutcome.IsEnd (o : BatchOutcome) : Prop := o ≠ .cancelled ∧ o ≠ .brokeDown

structure Occurrence (W : Type) where
  hash : Hash
  before : W
  outcome : BatchOutcome
  after : W

inductive Visit (W : Type) where
  | unread (block : UInt64) (e : Rollup.ScanError)
  | read (block : UInt64) (found : List Hash) (begun : List (Occurrence W))

namespace Visit

def block : Visit W → UInt64
  | .unread block _ => block
  | .read block _ _ => block

def wasRead : Visit W → Bool
  | .unread _ _ => false
  | .read _ _ _ => true

def found : Visit W → List Hash
  | .unread _ _ => []
  | .read _ found _ => found

def begun : Visit W → List (Occurrence W)
  | .unread _ _ => []
  | .read _ _ begun => begun

section Parts

variable (b : UInt64) (e : Rollup.ScanError) (hashes : List Hash) (os : List (Occurrence W))

@[simp] theorem wasRead_unread : (unread b e : Visit W).wasRead = false := rfl

@[simp] theorem wasRead_read : (read b hashes os).wasRead = true := rfl

@[simp] theorem found_unread : (unread b e : Visit W).found = [] := rfl

@[simp] theorem found_read : (read b hashes os).found = hashes := rfl

@[simp] theorem begun_unread : (unread b e : Visit W).begun = [] := rfl

@[simp] theorem begun_read : (read b hashes os).begun = os := rfl

end Parts

end Visit

inductive Ending where
  | completed
  | whileReading
  | insideBlock
  | brokeDown
  deriving DecidableEq

namespace Report

def plus (r s : Report) : Report where
  blocksScanned := r.blocksScanned + s.blocksScanned
  blocksFailed := r.blocksFailed + s.blocksFailed
  batchesFound := r.batchesFound + s.batchesFound
  batchesMigrated := r.batchesMigrated + s.batchesMigrated
  fetchFailures := r.fetchFailures + s.fetchFailures
  uploadFailures := r.uploadFailures + s.uploadFailures
  interrupted := r.interrupted || s.interrupted

theorem empty_plus (r : Report) : empty.plus r = r := by
  simp [plus, empty]

def done (r : Report) : Nat := r.batchesMigrated + r.fetchFailures + r.uploadFailures

/-- The count of the batches that were begun, the last of which may have been cut short. -/
def ofBegun (begun : List (Occurrence W)) (cut : Bool) : Report where
  blocksScanned := 0
  blocksFailed := 0
  batchesFound := 0
  batchesMigrated := begun.countP fun o => o.outcome = .migrated
  fetchFailures := begun.countP fun o => o.outcome = .fetchFailed
  uploadFailures := begun.countP fun o => o.outcome = .uploadFailed
  interrupted := cut

def ofVisits (visits : List (Visit W)) (ending : Ending) : Report where
  blocksScanned := visits.countP Visit.wasRead
  blocksFailed := visits.countP fun v => !v.wasRead
  batchesFound := ((visits.filter Visit.wasRead).map fun v => v.found.length).sum
  batchesMigrated := (visits.flatMap Visit.begun).countP fun o => o.outcome = .migrated
  fetchFailures := (visits.flatMap Visit.begun).countP fun o => o.outcome = .fetchFailed
  uploadFailures := (visits.flatMap Visit.begun).countP fun o => o.outcome = .uploadFailed
  interrupted := ending ≠ .completed

def told (visits : List (Visit W)) : Ending → Completion Report
  | .brokeDown => .brokeDown
  | ending => .returned (.ofVisits visits ending)

theorem told_of_ne {ending : Ending} (h : ending ≠ .brokeDown) (visits : List (Visit W)) :
    told visits ending = .returned (.ofVisits visits ending) := by
  cases ending with
  | brokeDown => exact absurd rfl h
  | completed => rfl
  | whileReading => rfl
  | insideBlock => rfl

theorem told_eq_brokeDown_iff {visits : List (Visit W)} {ending : Ending} :
    told visits ending = .brokeDown ↔ ending = .brokeDown := by
  cases ending <;> simp [told]

theorem told_eq_returned_iff {visits : List (Visit W)} {ending : Ending} {r : Report} :
    told visits ending = .returned r ↔ ending ≠ .brokeDown ∧ r = .ofVisits visits ending := by
  cases ending <;> simp [told, eq_comm]

def Accounts (r : Report) (blocks : Nat) : Ending → Prop
  | .completed => r.blocksScanned + r.blocksFailed = blocks ∧ r.done = r.batchesFound
  | .whileReading => r.blocksScanned + r.blocksFailed < blocks ∧ r.done = r.batchesFound
  | .insideBlock => 1 ≤ r.blocksScanned ∧ r.blocksScanned + r.blocksFailed ≤ blocks ∧
      r.done < r.batchesFound
  | .brokeDown => True

/-- One more block before the others, all of whose batches have come to an end. -/
theorem Accounts.plus {r s : Report} {blocks : Nat} {ending : Ending}
    (hs : s.Accounts blocks ending) (hblock : r.blocksScanned + r.blocksFailed = 1)
    (hdone : r.done = r.batchesFound) : (r.plus s).Accounts (blocks + 1) ending := by
  unfold done at hdone
  cases ending with
  | completed =>
    obtain ⟨hblocks, hall⟩ := hs
    unfold done at hall
    simp only [Accounts, Report.plus, done]
    omega
  | whileReading =>
    obtain ⟨hblocks, hall⟩ := hs
    unfold done at hall
    simp only [Accounts, Report.plus, done]
    omega
  | insideBlock =>
    obtain ⟨hread, hblocks, hall⟩ := hs
    unfold done at hall
    simp only [Accounts, Report.plus, done]
    omega
  | brokeDown => trivial

theorem addBatch_plus (r : Report) (o : Occurrence W) (h : o.outcome.IsEnd)
    (rest : List (Occurrence W)) (cut : Bool) :
    (r.addBatch o.outcome).plus (ofBegun rest cut) = r.plus (ofBegun (o :: rest) cut) := by
  cases houtcome : o.outcome with
  | cancelled => exact absurd houtcome h.1
  | brokeDown => exact absurd houtcome h.2
  | migrated => simp [addBatch, plus, ofBegun, houtcome]; omega
  | fetchFailed => simp [addBatch, plus, ofBegun, houtcome]; omega
  | uploadFailed => simp [addBatch, plus, ofBegun, houtcome]; omega

theorem addBatch_cancelled (r : Report) (o : Occurrence W) (h : o.outcome = .cancelled) :
    r.addBatch .cancelled = r.plus (ofBegun [o] true) := by
  simp [addBatch, plus, ofBegun, h]

theorem addFailedBlock_plus (r : Report) (block : UInt64) (e : Rollup.ScanError)
    (visits : List (Visit W)) (ending : Ending) :
    r.addFailedBlock.plus (ofVisits visits ending) =
      r.plus (ofVisits (.unread block e :: visits) ending) := by
  simp [addFailedBlock, plus, ofVisits]
  omega

theorem addFailedBlock_told (r : Report) (block : UInt64) (e : Rollup.ScanError)
    (visits : List (Visit W)) (ending : Ending) :
    (told visits ending).map r.addFailedBlock.plus =
      (told (.unread block e :: visits) ending).map r.plus := by
  cases ending <;> simp only [told, Completion.map, addFailedBlock_plus _ block e]

theorem interrupt_eq (r : Report) :
    r.interrupt = r.plus (ofVisits ([] : List (Visit W)) .whileReading) := by
  simp [interrupt, plus, ofVisits]

theorem addBlock_plus_begun (r : Report) (block : UInt64) (hashes : List Hash)
    (begun : List (Occurrence W)) :
    (r.addBlock hashes).plus (ofBegun begun true) =
      r.plus (ofVisits [.read block hashes begun] .insideBlock) := by
  simp [addBlock, plus, ofBegun, ofVisits, List.filter_cons]

theorem addBlock_plus (r : Report) (block : UInt64) (hashes : List Hash)
    (begun : List (Occurrence W)) (visits : List (Visit W)) (ending : Ending) :
    ((r.addBlock hashes).plus (ofBegun begun false)).plus (ofVisits visits ending) =
      r.plus (ofVisits (.read block hashes begun :: visits) ending) := by
  simp [addBlock, plus, ofBegun, ofVisits, List.countP_cons, List.filter_cons]
  omega

theorem addBlock_told (r : Report) (block : UInt64) (hashes : List Hash)
    (begun : List (Occurrence W)) (visits : List (Visit W)) (ending : Ending) :
    (told visits ending).map ((r.addBlock hashes).plus (ofBegun begun false)).plus =
      (told (.read block hashes begun :: visits) ending).map r.plus := by
  cases ending <;> simp only [told, Completion.map, addBlock_plus _ block]

end Report

end Migration

namespace Migrator

open Migration

variable (m : Migrator W) (signal : Signal W)

/-- Batches worked through in order: all of them, or up to one that was cut short or broke
down. -/
inductive Works : List Hash → W → List (Occurrence W) → Completion Bool → W → Prop
  | nil (w : W) : Works [] w [] (.returned false) w
  | cons {hash : Hash} {rest : List Hash} {w w₁ w₂ : W} {outcome : BatchOutcome}
      {begun : List (Occurrence W)} {cut : Completion Bool}
      (hbatch : m.migrateBatch signal hash w = (outcome, w₁)) (hdone : outcome.IsEnd)
      (hrest : Works rest w₁ begun cut w₂) :
      Works (hash :: rest) w (⟨hash, w, outcome, w₁⟩ :: begun) cut w₂
  | cut {hash : Hash} {rest : List Hash} {w w₁ : W}
      (hbatch : m.migrateBatch signal hash w = (.cancelled, w₁)) :
      Works (hash :: rest) w [⟨hash, w, .cancelled, w₁⟩] (.returned true) w₁
  | brokeDown {hash : Hash} {rest : List Hash} {w w₁ : W}
      (hbatch : m.migrateBatch signal hash w = (.brokeDown, w₁)) :
      Works (hash :: rest) w [⟨hash, w, .brokeDown, w₁⟩] .brokeDown w₁

inductive Tour : Nat → UInt64 → W → List (Visit W) → Ending → W → Prop
  | completed (block : UInt64) (w : W) : Tour 0 block w [] .completed w
  | whileReading {count : Nat} {block : UInt64} {w w₁ : W} {c : Cancelled}
      (hscan : (signal.await (m.scanner.batchHashes block)).run w = (.error c, w₁)) :
      Tour (count + 1) block w [] .whileReading w₁
  | unread {count : Nat} {block : UInt64} {w w₁ w₂ : W} {e : Rollup.ScanError}
      {visits : List (Visit W)} {ending : Ending}
      (hscan : (signal.await (m.scanner.batchHashes block)).run w = (.ok (.error e), w₁))
      (hrest : Tour count (block + 1) w₁ visits ending w₂) :
      Tour (count + 1) block w (.unread block e :: visits) ending w₂
  | read {count : Nat} {block : UInt64} {w w₁ w₂ w₃ : W} {hashes : List Hash}
      {begun : List (Occurrence W)} {visits : List (Visit W)} {ending : Ending}
      (hscan : (signal.await (m.scanner.batchHashes block)).run w = (.ok (.ok hashes), w₁))
      (hworks : Works m signal hashes w₁ begun (.returned false) w₂)
      (hrest : Tour count (block + 1) w₂ visits ending w₃) :
      Tour (count + 1) block w (.read block hashes begun :: visits) ending w₃
  | insideBlock {count : Nat} {block : UInt64} {w w₁ w₂ : W} {hashes : List Hash}
      {begun : List (Occurrence W)}
      (hscan : (signal.await (m.scanner.batchHashes block)).run w = (.ok (.ok hashes), w₁))
      (hworks : Works m signal hashes w₁ begun (.returned true) w₂) :
      Tour (count + 1) block w [.read block hashes begun] .insideBlock w₂
  | brokeDown {count : Nat} {block : UInt64} {w w₁ w₂ : W} {hashes : List Hash}
      {begun : List (Occurrence W)}
      (hscan : (signal.await (m.scanner.batchHashes block)).run w = (.ok (.ok hashes), w₁))
      (hworks : Works m signal hashes w₁ begun .brokeDown w₂) :
      Tour (count + 1) block w [.read block hashes begun] .brokeDown w₂

/-- Batches are always worked through in this way, and are counted as they end. -/
theorem exists_works (hashes : List Hash) (w : W) :
    ∃ begun cut w', m.Works signal hashes w begun cut w' ∧
      ∀ report, m.migrateBatches signal hashes report w =
        (cut.map fun cut => report.plus (.ofBegun begun cut), w') := by
  induction hashes generalizing w with
  | nil =>
    refine ⟨[], .returned false, w, .nil w, ?_⟩
    intro report
    rw [migrateBatches]
    exact Prod.ext (by simp [Report.plus, Report.ofBegun]; rfl) rfl
  | cons hash rest ih =>
    rcases hbatch : m.migrateBatch signal hash w with ⟨outcome, w₁⟩
    have hgoes : outcome.IsEnd → ∃ begun cut w', m.Works signal (hash :: rest) w begun cut w' ∧
        ∀ report, m.migrateBatches signal (hash :: rest) report w =
          (cut.map fun cut => report.plus (.ofBegun begun cut), w') := by
      intro hdone
      obtain ⟨begun, cut, w₂, hworks, hcount⟩ := ih w₁
      refine ⟨_, cut, w₂, .cons hbatch hdone hworks, ?_⟩
      intro report
      simp only [← Report.addBatch_plus report ⟨hash, w, outcome, w₁⟩ hdone]
      rw [migrateBatches, bind_apply, hbatch, ← hcount]
      cases outcome with
      | cancelled => exact absurd rfl hdone.1
      | brokeDown => exact absurd rfl hdone.2
      | migrated => rfl
      | fetchFailed => rfl
      | uploadFailed => rfl
    cases outcome with
    | cancelled =>
      refine ⟨_, .returned true, w₁, .cut hbatch, ?_⟩
      intro report
      rw [migrateBatches, bind_apply, hbatch, Completion.map_returned,
        ← Report.addBatch_cancelled report _ rfl]
      rfl
    | brokeDown =>
      refine ⟨_, .brokeDown, w₁, .brokeDown hbatch, ?_⟩
      intro report
      rw [migrateBatches, bind_apply, hbatch]
      rfl
    | migrated => exact hgoes ⟨nofun, nofun⟩
    | fetchFailed => exact hgoes ⟨nofun, nofun⟩
    | uploadFailed => exact hgoes ⟨nofun, nofun⟩

/-- Every run takes a course, and what it tells is the count of the course. -/
theorem exists_tour (count : Nat) (block : UInt64) (w : W) :
    ∃ visits ending w', m.Tour signal count block w visits ending w' ∧
      ∀ report, report.interrupted = false → m.runFrom signal count block report w =
        ((Report.told visits ending).map report.plus, w') := by
  induction count generalizing block w with
  | zero =>
    refine ⟨[], .completed, w, .completed block w, ?_⟩
    intro report hreport
    rw [runFrom]
    exact Prod.ext (by simp [Report.told, Report.plus, Report.ofVisits]; rfl) rfl
  | succ count ih =>
    rcases hscan : (signal.await (m.scanner.batchHashes block)).run w with ⟨outcome, w₁⟩
    rcases outcome with c | (e | hashes)
    · refine ⟨[], .whileReading, w₁, .whileReading hscan, ?_⟩
      intro report hreport
      have hends : Ending.whileReading ≠ .brokeDown := nofun
      rw [runFrom, bind_apply, hscan, Report.told_of_ne hends, Completion.map_returned,
        ← Report.interrupt_eq]
      rfl
    · obtain ⟨visits, ending, w₂, htour, hcount⟩ := ih (block + 1) w₁
      refine ⟨_, ending, w₂, .unread hscan htour, ?_⟩
      intro report hreport
      rw [runFrom, bind_apply, hscan, ← Report.addFailedBlock_told]
      exact hcount report.addFailedBlock hreport
    · obtain ⟨begun, cut, w₂, hworks, hbegun⟩ := m.exists_works signal hashes w₁
      rcases cut with (_ | _) | _
      case returned.true =>
        refine ⟨_, .insideBlock, w₂, .insideBlock hscan hworks, ?_⟩
        intro report hreport
        have hends : Ending.insideBlock ≠ .brokeDown := nofun
        rw [runFrom, bind_apply, hscan, Report.told_of_ne hends, Completion.map_returned,
          ← Report.addBlock_plus_begun]
        dsimp only
        rw [bind_apply, hbegun]
        exact congrFun (if_pos (Bool.or_true _)) w₂
      case brokeDown =>
        refine ⟨_, .brokeDown, w₂, .brokeDown hscan hworks, ?_⟩
        intro report hreport
        rw [runFrom, bind_apply, hscan]
        dsimp only
        rw [bind_apply, hbegun]
        rfl
      case returned.false =>
        obtain ⟨visits, ending, w₃, htour, hcount⟩ := ih (block + 1) w₂
        refine ⟨_, ending, w₃, .read hscan hworks htour, ?_⟩
        intro report hreport
        have hgoes : ((report.addBlock hashes).plus (.ofBegun begun false)).interrupted = false :=
          (Bool.or_false _).trans hreport
        rw [runFrom, bind_apply, hscan, ← Report.addBlock_told]
        dsimp only
        rw [bind_apply, hbegun, Completion.map_returned]
        dsimp only
        rw [hgoes]
        exact hcount _ hgoes

/-- How the migration of a batch comes to its end: with the fetch, or with the upload of the
data that was fetched. -/
theorem migrateBatch_cases {hash : Hash} {w w' : W} {outcome : BatchOutcome}
    (h : m.migrateBatch signal hash w = (outcome, w')) :
    (∃ r, (m.fetch signal hash).run w = (r, w') ∧
      (outcome = .fetchFailed ∨ outcome = .cancelled ∧ Retry.GivenUp r)) ∨
    ∃ data w₁ r, (m.fetch signal hash).run w = (.ok (.ok data), w₁) ∧
      (m.upload signal hash data).run w₁ = (r, w') ∧
      (outcome = .uploadFailed ∨ outcome = .migrated ∧ r = .ok (.ok (.returned ())) ∨
        outcome = .brokeDown ∧ r = .ok (.ok .brokeDown) ∨
        outcome = .cancelled ∧ Retry.GivenUp r) := by
  rw [migrateBatch, bind_apply] at h
  rcases hfetch : (m.fetch signal hash).run w with ⟨c | ((e | e | e) | data), w₁⟩
  all_goals rw [hfetch] at h
  · cases h
    exact .inl ⟨_, rfl, .inr ⟨rfl, trivial⟩⟩
  · cases h
    exact .inl ⟨_, rfl, .inr ⟨rfl, trivial⟩⟩
  · cases h
    exact .inl ⟨_, rfl, .inl rfl⟩
  · cases h
    exact .inl ⟨_, rfl, .inl rfl⟩
  · dsimp only at h
    rw [bind_apply] at h
    right
    rcases hupload : (m.upload signal hash data).run w₁ with ⟨c | ((e | e | e) | (⟨⟩ | _)), w₂⟩
    all_goals rw [hupload] at h
    · cases h
      exact ⟨data, w₁, _, rfl, hupload, .inr (.inr (.inr ⟨rfl, trivial⟩))⟩
    · cases h
      exact ⟨data, w₁, _, rfl, hupload, .inr (.inr (.inr ⟨rfl, trivial⟩))⟩
    · cases h
      exact ⟨data, w₁, _, rfl, hupload, .inl rfl⟩
    · cases h
      exact ⟨data, w₁, _, rfl, hupload, .inl rfl⟩
    · cases h
      exact ⟨data, w₁, _, rfl, hupload, .inr (.inl ⟨rfl, rfl⟩)⟩
    · cases h
      exact ⟨data, w₁, _, rfl, hupload, .inr (.inr (.inl ⟨rfl, rfl⟩))⟩

section Puts

variable {m signal} {hash : Hash} {data : Bytes} {w w' : W} {completion : Completion Unit}

/-- An upload without an error ends with the put. -/
theorem exists_put_of_uploadOnce
    (h : (m.uploadOnce signal hash data).run w = (.ok (.ok completion), w')) :
    ∃ w₁, m.archive.put data hash none w₁ = (completion.map .ok, w') := by
  have hkept : ∀ w, (m.keep signal hash data).run w = (.ok (.ok completion), w') →
      ∃ w₁, m.archive.put data hash none w₁ = (completion.map .ok, w') := by
    intro w h
    obtain ⟨(fault | ⟨⟩) | _, w₁, hput, hend⟩ := exists_of_run_bind h
    · cases hend
    · cases hend
      exact ⟨w, Signal.step_of_await hput⟩
    · cases hend
      exact ⟨w, Signal.step_of_await hput⟩
  unfold uploadOnce at h
  cases hsubmission : m.submission with
  | none =>
    rw [hsubmission] at h
    exact hkept w h
  | some client =>
    rw [hsubmission] at h
    obtain ⟨outcome, w₁, -, hrest⟩ := exists_of_run_bind h
    cases outcome with
    | error e => cases hrest
    | ok answer => exact hkept w₁ hrest

/-- An upload that ends without an error ends with its last put. -/
theorem exists_put_of_upload
    (h : (m.upload signal hash data).run w = (.ok (.ok completion), w')) :
    ∃ w₁, m.archive.put data hash none w₁ = (completion.map .ok, w') := by
  obtain ⟨n, w₁, hattempt⟩ := Retry.exists_attempt_of_value _ _ _ _ _ _ _ _ _ _ h
  exact exists_put_of_uploadOnce hattempt

theorem exists_put_of_brokeDown (h : m.migrateBatch signal hash w = (.brokeDown, w')) :
    ∃ data w₁, m.archive.put data hash none w₁ = (.brokeDown, w') := by
  obtain ⟨r, -, hother | ⟨hother, -⟩⟩ | ⟨data, w₁, r, -, hupload, hend⟩ :=
    m.migrateBatch_cases signal h
  · cases hother
  · cases hother
  · obtain hother | ⟨hother, -⟩ | ⟨-, rfl⟩ | ⟨hother, -⟩ := hend
    · cases hother
    · cases hother
    · exact ⟨data, exists_put_of_upload hupload⟩
    · cases hother

theorem Works.exists_put {hashes : List Hash} {begun : List (Occurrence W)}
    (h : m.Works signal hashes w begun .brokeDown w') :
    ∃ hash data w₁, m.archive.put data hash none w₁ = (.brokeDown, w') := by
  generalize hleft : Completion.brokeDown = left at h
  induction h with
  | nil w => cases hleft
  | cons hbatch hdone hrest ih => exact ih hleft
  | cut hbatch => cases hleft
  | brokeDown hbatch => exact ⟨_, exists_put_of_brokeDown hbatch⟩

/-- A run breaks down in a put, and nothing is done after it. -/
theorem Tour.exists_put {count : Nat} {block : UInt64} {visits : List (Visit W)}
    (h : m.Tour signal count block w visits .brokeDown w') :
    ∃ hash data w₁, m.archive.put data hash none w₁ = (.brokeDown, w') := by
  generalize hending : Ending.brokeDown = ending at h
  induction h with
  | completed block w => cases hending
  | whileReading hscan => cases hending
  | unread hscan hrest ih => exact ih hending
  | read hscan hworks hrest ih => exact ih hending
  | insideBlock hscan hworks => cases hending
  | brokeDown hscan hworks => exact hworks.exists_put

end Puts

section Cancelled

/-- An upload that was given up was so because the signal fired. -/
theorem warrants_uploadOnce (hash : Hash) (data : Bytes) :
    signal.Warrants CutShort (m.uploadOnce signal hash data).run := by
  have hkeep : signal.Warrants CutShort (m.keep signal hash data).run := by
    refine Signal.warrants_run_bind (Signal.warrants_await _) ?_
    rintro ((fault | ⟨⟩) | _)
    · exact Signal.warrants_pure _ (not_cutShort_ok _)
    · exact Signal.warrants_pure _ (not_cutShort_ok _)
    · exact Signal.warrants_pure _ (not_cutShort_ok _)
  unfold uploadOnce
  cases m.submission with
  | none => exact hkeep
  | some client =>
    refine Signal.warrants_run_bind (Signal.warrants_await _) ?_
    intro outcome
    cases outcome with
    | error e => exact Signal.warrants_pure _ (not_cutShort_ok _)
    | ok answer => exact hkeep

theorem warrants_migrateBatch (hash : Hash) :
    signal.Warrants (· = .cancelled) (m.migrateBatch signal hash) := by
  have hfetch : signal.Warrants Retry.GivenUp (m.fetch signal hash).run := by
    apply Retry.warrants_interruptible
    intro attempt
    exact Signal.warrants_await _
  have hupload : ∀ data, signal.Warrants Retry.GivenUp (m.upload signal hash data).run := by
    intro data
    apply Retry.warrants_interruptible
    intro attempt
    exact m.warrants_uploadOnce signal hash data
  intro w hcancelled
  obtain ⟨r, hrun, hend⟩ | ⟨data, w₁, r, -, hrun, hend⟩ :=
    m.migrateBatch_cases signal (Prod.ext hcancelled rfl)
  · have hfired := hfetch w
    rw [hrun] at hfired
    obtain hfailed | ⟨-, hgiven⟩ := hend
    · cases hfailed
    · exact hfired hgiven
  · have hfired := hupload data w₁
    rw [hrun] at hfired
    obtain hfailed | ⟨hmigrated, -⟩ | ⟨hbroke, -⟩ | ⟨-, hgiven⟩ := hend
    · cases hfailed
    · cases hmigrated
    · cases hbroke
    · exact hfired hgiven

end Cancelled

section Accounts

variable {m signal} {w w' : W}

theorem Works.fired {hashes : List Hash} {begun : List (Occurrence W)}
    (h : m.Works signal hashes w begun (.returned true) w') : signal.fired w' = true := by
  generalize hcut : Completion.returned true = cut at h
  induction h with
  | nil w => cases hcut
  | cons hbatch hdone hrest ih => exact ih hcut
  | @cut hash rest w w₁ hbatch =>
    have hwarrants := m.warrants_migrateBatch signal hash w
    rw [hbatch] at hwarrants
    exact hwarrants rfl
  | brokeDown hbatch => cases hcut

/-- Of the batches of a block all have come to an end, unless the last was cut short. -/
theorem Works.done_add {hashes : List Hash} {begun : List (Occurrence W)} {cut : Bool}
    (h : m.Works signal hashes w begun (.returned cut) w') :
    (Report.ofBegun begun cut).done + (if cut then 1 else 0) ≤ hashes.length ∧
      (cut = false → (Report.ofBegun begun cut).done = hashes.length) := by
  generalize hleft : Completion.returned cut = left at h
  induction h with
  | nil w =>
    cases hleft
    simp [Report.done, Report.ofBegun]
  | cut hbatch =>
    cases hleft
    simp [Report.done, Report.ofBegun]
  | brokeDown hbatch => cases hleft
  | @cons hash rest w w₁ w₂ outcome begun left hbatch hdone hrest ih =>
    specialize ih hleft
    have hone : (Report.ofBegun (⟨hash, w, outcome, w₁⟩ :: begun) cut).done =
        (Report.ofBegun begun cut).done + 1 := by
      cases outcome with
      | cancelled => exact absurd rfl hdone.1
      | brokeDown => exact absurd rfl hdone.2
      | migrated => simp [Report.done, Report.ofBegun]; omega
      | fetchFailed => simp [Report.done, Report.ofBegun]; omega
      | uploadFailed => simp [Report.done, Report.ofBegun]; omega
    rw [hone, List.length_cons]
    exact ⟨by omega, fun hcut => congrArg (· + 1) (ih.2 hcut)⟩

/-- Only the signal cuts a course short, unless something breaks down. -/
theorem Tour.fired {count : Nat} {block : UInt64} {visits : List (Visit W)} {ending : Ending}
    (h : m.Tour signal count block w visits ending w') (hending : ending ≠ .completed)
    (hreturned : ending ≠ .brokeDown) : signal.fired w' = true := by
  induction h with
  | completed block w => exact absurd rfl hending
  | @whileReading count block w w₁ c hscan =>
    have hwarrants : signal.Warrants CutShort (signal.await (m.scanner.batchHashes block)).run :=
      Signal.warrants_await _
    specialize hwarrants w
    rw [hscan] at hwarrants
    exact hwarrants rfl
  | unread hscan hrest ih => exact ih hending hreturned
  | read hscan hworks hrest ih => exact ih hending hreturned
  | insideBlock hscan hworks => exact hworks.fired
  | brokeDown hscan hworks => exact absurd rfl hreturned

/-- The counts of a course account for every block and every batch of it. -/
theorem Tour.accounts {count : Nat} {block : UInt64} {visits : List (Visit W)} {ending : Ending}
    (h : m.Tour signal count block w visits ending w') :
    (Report.ofVisits visits ending).Accounts count ending := by
  induction h with
  | completed block w => exact ⟨rfl, rfl⟩
  | whileReading hscan => exact ⟨Nat.succ_pos _, rfl⟩
  | @unread count block w w₁ w₂ e visits ending hscan hrest ih =>
    rw [← Report.empty_plus (.ofVisits (.unread block e :: visits) ending),
      ← Report.addFailedBlock_plus]
    exact ih.plus rfl rfl
  | @read count block w w₁ w₂ w₃ hashes begun visits ending hscan hworks hrest ih =>
    have hdone := hworks.done_add.2 rfl
    rw [← Report.empty_plus (.ofVisits (.read block hashes begun :: visits) ending),
      ← Report.addBlock_plus]
    refine ih.plus rfl ?_
    simp only [Report.done, Report.ofBegun, Report.plus, Report.addBlock, Report.empty] at hdone ⊢
    omega
  | @insideBlock count block w w₁ w₂ hashes begun hscan hworks =>
    have hless := hworks.done_add.1
    rw [← Report.empty_plus (.ofVisits [.read block hashes begun] .insideBlock),
      ← Report.addBlock_plus_begun]
    simp only [Report.Accounts, Report.done, Report.ofBegun, Report.plus, Report.addBlock,
      Report.empty, if_true] at hless ⊢
    omega
  | brokeDown hscan hworks => trivial

end Accounts

section Occurrences

variable {m signal} {w w' : W}

/-- What was begun has run as it stands there. -/
theorem Works.batch {hashes : List Hash} {begun : List (Occurrence W)} {cut : Completion Bool}
    (h : m.Works signal hashes w begun cut w') :
    ∀ o ∈ begun, m.migrateBatch signal o.hash o.before = (o.outcome, o.after) := by
  induction h with
  | nil w => exact List.forall_mem_nil _
  | cons hbatch hdone hrest ih => exact List.forall_mem_cons.mpr ⟨hbatch, ih⟩
  | cut hbatch | brokeDown hbatch => exact List.forall_mem_singleton.mpr hbatch

/-- Every occurrence on a course is a run of its batch. -/
theorem Tour.batch {count : Nat} {block : UInt64} {visits : List (Visit W)} {ending : Ending}
    (h : m.Tour signal count block w visits ending w') :
    ∀ o ∈ visits.flatMap Visit.begun,
      m.migrateBatch signal o.hash o.before = (o.outcome, o.after) := by
  induction h with
  | completed block w => exact List.forall_mem_nil _
  | whileReading hscan => exact List.forall_mem_nil _
  | unread hscan hrest ih => exact ih
  | read hscan hworks hrest ih =>
    rw [List.flatMap_cons]
    exact List.forall_mem_append.mpr ⟨hworks.batch, ih⟩
  | insideBlock hscan hworks | brokeDown hscan hworks =>
    rw [List.flatMap_singleton]
    exact hworks.batch

end Occurrences

/-- The course of a run from its first block to its last. -/
theorem run_tour {first last : UInt64} {w w' : W} {result : Completion Report}
    (hrun : m.run signal first last w = (result, w')) :
    ∃ visits ending, m.Tour signal (blockCount first last) first w visits ending w' ∧
      result = Report.told visits ending := by
  obtain ⟨visits, ending, w₁, htour, hcount⟩ := m.exists_tour signal (blockCount first last) first w
  have hsame : (Report.told visits ending).map Report.empty.plus = Report.told visits ending := by
    cases ending <;> simp only [Report.told, Completion.map, Report.empty_plus]
  rw [run, hcount .empty rfl, hsame, Prod.mk.injEq] at hrun
  obtain ⟨rfl, rfl⟩ := hrun
  exact ⟨visits, ending, htour, rfl⟩

section Unique

variable {m signal} {w w' w₂ : W}

/-- There is one way in which batches are worked through. -/
theorem Works.unique {hashes : List Hash} {begun begun₂ : List (Occurrence W)}
    {cut cut₂ : Completion Bool} (h : m.Works signal hashes w begun cut w')
    (h₂ : m.Works signal hashes w begun₂ cut₂ w₂) : begun₂ = begun ∧ cut₂ = cut ∧ w₂ = w' := by
  induction h generalizing begun₂ cut₂ w₂ with
  | nil w =>
    cases h₂
    exact ⟨rfl, rfl, rfl⟩
  | cons hbatch hdone hrest ih =>
    cases h₂ with
    | cons hbatch₂ hdone₂ hrest₂ =>
      cases hbatch.symm.trans hbatch₂
      obtain ⟨rfl, rfl, rfl⟩ := ih hrest₂
      exact ⟨rfl, rfl, rfl⟩
    | cut hbatch₂ =>
      cases hbatch.symm.trans hbatch₂
      exact absurd rfl hdone.1
    | brokeDown hbatch₂ =>
      cases hbatch.symm.trans hbatch₂
      exact absurd rfl hdone.2
  | cut hbatch =>
    cases h₂ with
    | cons hbatch₂ hdone₂ hrest₂ =>
      cases hbatch.symm.trans hbatch₂
      exact absurd rfl hdone₂.1
    | cut hbatch₂ =>
      cases hbatch.symm.trans hbatch₂
      exact ⟨rfl, rfl, rfl⟩
    | brokeDown hbatch₂ => cases hbatch.symm.trans hbatch₂
  | brokeDown hbatch =>
    cases h₂ with
    | cons hbatch₂ hdone₂ hrest₂ =>
      cases hbatch.symm.trans hbatch₂
      exact absurd rfl hdone₂.2
    | cut hbatch₂ => cases hbatch.symm.trans hbatch₂
    | brokeDown hbatch₂ =>
      cases hbatch.symm.trans hbatch₂
      exact ⟨rfl, rfl, rfl⟩

/-- A run takes no other course. -/
theorem Tour.unique {count : Nat} {block : UInt64} {visits visits₂ : List (Visit W)}
    {ending ending₂ : Ending} (h : m.Tour signal count block w visits ending w')
    (h₂ : m.Tour signal count block w visits₂ ending₂ w₂) :
    visits₂ = visits ∧ ending₂ = ending ∧ w₂ = w' := by
  induction h generalizing visits₂ ending₂ w₂ with
  | completed block w =>
    cases h₂
    exact ⟨rfl, rfl, rfl⟩
  | whileReading hscan =>
    cases h₂ with
    | whileReading hscan₂ =>
      cases hscan.symm.trans hscan₂
      exact ⟨rfl, rfl, rfl⟩
    | unread hscan₂ | read hscan₂ | insideBlock hscan₂ | brokeDown hscan₂ =>
      cases hscan.symm.trans hscan₂
  | unread hscan hrest ih =>
    cases h₂ with
    | unread hscan₂ hrest₂ =>
      cases hscan.symm.trans hscan₂
      obtain ⟨rfl, rfl, rfl⟩ := ih hrest₂
      exact ⟨rfl, rfl, rfl⟩
    | whileReading hscan₂ | read hscan₂ | insideBlock hscan₂ | brokeDown hscan₂ =>
      cases hscan.symm.trans hscan₂
  | read hscan hworks hrest ih =>
    cases h₂ with
    | whileReading hscan₂ | unread hscan₂ => cases hscan.symm.trans hscan₂
    | read hscan₂ hworks₂ hrest₂ =>
      cases hscan.symm.trans hscan₂
      obtain ⟨rfl, -, rfl⟩ := hworks.unique hworks₂
      obtain ⟨rfl, rfl, rfl⟩ := ih hrest₂
      exact ⟨rfl, rfl, rfl⟩
    | insideBlock hscan₂ hworks₂ | brokeDown hscan₂ hworks₂ =>
      cases hscan.symm.trans hscan₂
      cases (hworks.unique hworks₂).2.1
  | insideBlock hscan hworks =>
    cases h₂ with
    | whileReading hscan₂ | unread hscan₂ => cases hscan.symm.trans hscan₂
    | insideBlock hscan₂ hworks₂ =>
      cases hscan.symm.trans hscan₂
      obtain ⟨rfl, -, rfl⟩ := hworks.unique hworks₂
      exact ⟨rfl, rfl, rfl⟩
    | read hscan₂ hworks₂ | brokeDown hscan₂ hworks₂ =>
      cases hscan.symm.trans hscan₂
      cases (hworks.unique hworks₂).2.1
  | brokeDown hscan hworks =>
    cases h₂ with
    | whileReading hscan₂ | unread hscan₂ => cases hscan.symm.trans hscan₂
    | brokeDown hscan₂ hworks₂ =>
      cases hscan.symm.trans hscan₂
      obtain ⟨rfl, -, rfl⟩ := hworks.unique hworks₂
      exact ⟨rfl, rfl, rfl⟩
    | read hscan₂ hworks₂ | insideBlock hscan₂ hworks₂ =>
      cases hscan.symm.trans hscan₂
      cases (hworks.unique hworks₂).2.1

/-- So a course that is found tells what the run tells. -/
theorem Tour.run_eq {first last : UInt64} {visits : List (Visit W)} {ending : Ending}
    (h : m.Tour signal (blockCount first last) first w visits ending w') :
    m.run signal first last w = (Report.told visits ending, w') := by
  rcases hrun : m.run signal first last w with ⟨result, w₂⟩
  obtain ⟨visits₂, ending₂, htour, htold⟩ := m.run_tour signal hrun
  obtain ⟨rfl, rfl, hend⟩ := h.unique htour
  exact Prod.ext htold hend

end Unique

/-- The report of a run accounts for everything. It is the count of the run's course, in which
every block that was read stands with the hashes that the scanner returned for it. When the run
was not interrupted, every block was read or has failed and every batch that was found has come
to an end. When it was, the signal has fired: either while a block was read, and no batch is
missing from the counts, or inside a block, and then one is. There is a report unless the store
breaks down in a put. -/
theorem run_accounted {first last : UInt64} {w w' : W} {result : Completion Report}
    (hrun : m.run signal first last w = (result, w')) :
    (result = .brokeDown →
      ∃ hash data w₁, m.archive.put data hash none w₁ = (.brokeDown, w')) ∧
    ∀ report, result = .returned report →
    ∃ visits ending, m.Tour signal (blockCount first last) first w visits ending w' ∧
      report = .ofVisits visits ending ∧
      report.batchesFound = ((visits.filter Visit.wasRead).map fun v => v.found.length).sum ∧
      (report.interrupted = false →
        report.blocksScanned + report.blocksFailed = blockCount first last ∧
          report.done = report.batchesFound) ∧
      (report.interrupted = true →
        signal.fired w' = true ∧ 1 ≤ blockCount first last ∧
          (ending = .whileReading ∧
              report.blocksScanned + report.blocksFailed < blockCount first last ∧
              report.done = report.batchesFound ∨
            ending = .insideBlock ∧ 1 ≤ report.blocksScanned ∧
              report.blocksScanned + report.blocksFailed ≤ blockCount first last ∧
              report.done < report.batchesFound)) := by
  obtain ⟨visits, ending, htour, htold⟩ := m.run_tour signal hrun
  constructor
  · intro hbroke
    rw [Report.told_eq_brokeDown_iff.mp (htold.symm.trans hbroke)] at htour
    exact htour.exists_put
  intro report hreport
  obtain ⟨hreturned, rfl⟩ := Report.told_eq_returned_iff.mp (htold.symm.trans hreport)
  have haccounts := htour.accounts
  have hfired := fun hending => htour.fired hending hreturned
  refine ⟨visits, ending, htour, rfl, rfl, ?_⟩
  cases ending with
  | brokeDown => exact absurd rfl hreturned
  | completed =>
    refine ⟨fun _ => haccounts, ?_⟩
    intro hinterrupted
    cases hinterrupted
  | whileReading =>
    constructor
    · intro hinterrupted
      cases hinterrupted
    · intro _
      have hpos : 1 ≤ blockCount first last := Nat.lt_of_le_of_lt (Nat.zero_le _) haccounts.1
      exact ⟨hfired (by decide), hpos, .inl ⟨rfl, haccounts⟩⟩
  | insideBlock =>
    constructor
    · intro hinterrupted
      cases hinterrupted
    · intro _
      have hpos : 1 ≤ blockCount first last :=
        haccounts.1.trans ((Nat.le_add_right _ _).trans haccounts.2.1)
      exact ⟨hfired (by decide), hpos, .inr ⟨rfl, haccounts⟩⟩

def troubles : Nat → Http.Outcome
  | 1 => Rollup.twice [keccak [1], keccak [2]]
  | 2 | 7 => Server.telling (.string (Hex.encode0x [1]))
  | 3 => .answered 202 (some [])
  | 8 | 9 | 10 => .answered 503 (some [])
  | _ => .failed .unreachable

/-- A migrator into a store that takes everything. The world counts the requests. -/
def troubled : Migrator Nat :=
  let network : Network Nat := ⟨fun _ asked => (troubles asked, asked + 1)⟩
  among network network network
    { name := "bottomless"
      put := fun _ _ _ => return .returned (.ok ())
      get := fun key => return .returned (.error (.notFound key))
      health := return .ok () }

/-- The first block cannot be read. In the second the signal fires with the fourth of its batches;
of the others one is migrated, one is not served and one is refused by the service. -/
theorem run_accounted_troubled :
    let signal : Signal Nat := ⟨fun asked => 12 ≤ asked⟩
    ∃ report w' visits, troubled.run signal 1 9 0 = (.returned report, w') ∧
      report = ⟨1, 1, 4, 1, 1, 1, true⟩ ∧ signal.fired w' = true ∧
      troubled.Tour signal (blockCount 1 9) 1 0 visits .insideBlock w' ∧
      report = .ofVisits visits .insideBlock ∧ report.done < report.batchesFound := by
  intro signal
  have hunread : (signal.await (troubled.scanner.batchHashes 1)).run 0 =
    (.ok (.error (.rpc (.transport "eth_getBlockByNumber" .unreachable))), 1) := rfl
  have hcount : [keccak [1], keccak [2]].length < 2 ^ 32 := by decide
  have hscan : (signal.await (troubled.scanner.batchHashes 2)).run 1 =
      (.ok (.ok [keccak [1], keccak [2], keccak [1], keccak [2]]), 2) :=
    Signal.await_of_unfired rfl (Rollup.Scanner.batchHashes_of_twice rfl hcount rfl) rfl
  have hkept : (troubled.upload signal (keccak [1]) [1]).run 3 =
      (.ok (.ok (.returned ())), 4) :=
    Prod.ext (by decide +kernel) (by decide +kernel)
  have hmigrated : troubled.migrateBatch signal (keccak [1]) 2 = (.migrated, 4) :=
    migrateBatch_of_served rfl rfl rfl rfl hkept
  have hunserved : troubled.migrateBatch signal (keccak [2]) 4 = (.fetchFailed, 7) :=
    Prod.ext (by decide +kernel) (by decide +kernel)
  have hrefused : (troubled.upload signal (keccak [1]) [1]).run 8 =
      (.ok (.error (.exhausted 3 (.submission (.status 503 "")))), 11) :=
    Prod.ext (by decide +kernel) (by decide +kernel)
  have hfailed : troubled.migrateBatch signal (keccak [1]) 7 = (.uploadFailed, 11) :=
    migrateBatch_of_served rfl rfl rfl rfl hrefused
  have hcut : troubled.migrateBatch signal (keccak [2]) 11 = (.cancelled, 12) :=
    Prod.ext (by decide +kernel) (by decide +kernel)
  have htour : troubled.Tour signal (blockCount 1 9) 1 0 _ .insideBlock 12 :=
    .unread hunread (.insideBlock hscan (.cons hmigrated ⟨nofun, nofun⟩
      (.cons hunserved ⟨nofun, nofun⟩ (.cons hfailed ⟨nofun, nofun⟩ (.cut hcut)))))
  obtain ⟨visits, ending, htaken, hreport, -, -, hinterrupted⟩ :=
    (troubled.run_accounted signal htour.run_eq).2 _ rfl
  obtain ⟨hfired, -, ⟨-, -, hall⟩ | ⟨rfl, -, -, hmissing⟩⟩ := hinterrupted rfl
  · exact absurd hall (by decide)
  · exact ⟨_, _, visits, htour.run_eq, rfl, hfired, htaken, hreport, hmissing⟩

end Migrator

end Validium
