import Validium.Proofs.Migration.Cleared
import Validium.Proofs.Store.Recall

/-!
A migration whose report is clean has lost nothing. All blocks were read and all batches found
in them were migrated; each of these was put under its hash, where a store that gives back what
was put still has it at the end, since whatever is put under the hash later has the hash too.
-/
namespace Validium

variable {W : Type}

open Logbook Migration

namespace Migrator

variable {m : Migrator W} {signal : Signal W} {w w' : W}

section Passages

variable (p : Passage W) (hbatch : ∀ hash, p.Admits (m.migrateBatch signal hash))

include hbatch

theorem Works.leads {hashes : List Hash} {begun : List (Occurrence W)} {cut : Completion Bool}
    (h : m.Works signal hashes w begun cut w') : p.leads w w' := by
  induction h with
  | nil w => exact p.refl w
  | cons hrun hdone hrest ih => exact p.trans ((hbatch _).leads_of_eq hrun) ih
  | cut hrun | brokeDown hrun => exact (hbatch _).leads_of_eq hrun

/-- A course leads only where its scans and batches lead. -/
theorem Tour.leads (hscan : ∀ block, p.Admits (signal.await (m.scanner.batchHashes block)).run)
    {count : Nat} {block : UInt64} {visits : List (Visit W)} {ending : Ending}
    (h : m.Tour signal count block w visits ending w') : p.leads w w' := by
  induction h with
  | completed block w => exact p.refl w
  | whileReading hrun => exact (hscan _).leads_of_eq hrun
  | unread hrun hrest ih => exact p.trans ((hscan _).leads_of_eq hrun) ih
  | read hrun hworks hrest ih =>
    exact p.trans ((hscan _).leads_of_eq hrun) (p.trans (hworks.leads p hbatch) ih)
  | insideBlock hrun hworks | brokeDown hrun hworks =>
    exact p.trans ((hscan _).leads_of_eq hrun) (hworks.leads p hbatch)

end Passages

section Stored

variable {contents : W → Store.Contents} (hstore : m.archive.objects.Recalls contents)

include hstore

/-- A batch that was migrated is in the store. -/
theorem has_of_migrated {hash : Hash} (h : m.migrateBatch signal hash w = (.migrated, w')) :
    (contents w').Has (m.archive.objectKey hash) hash := by
  obtain ⟨r, -, hother | ⟨hother, -⟩⟩ | ⟨data, w₁, r, hfetch, hupload, hend⟩ :=
    m.migrateBatch_cases signal h
  · cases hother
  · cases hother
  · obtain hother | ⟨-, rfl⟩ | ⟨hother, -⟩ | ⟨hother, -⟩ := hend
    · cases hother
    · obtain ⟨w₂, hput⟩ := exists_put_of_upload hupload
      exact m.archive.has_of_put hstore (m.digest_of_fetch signal hash data _ _ hfetch) hput
    · cases hother
    · cases hother

variable (hbatch : ∀ hash other,
    (Store.retaining contents (m.archive.objectKey hash) hash).Admits (m.migrateBatch signal other))

include hbatch

/-- Batches that were all migrated are all in the store behind the last, since none of them takes
another's place. -/
theorem Works.has {hashes : List Hash} {begun : List (Occurrence W)}
    (h : m.Works signal hashes w begun (.returned false) w')
    (hmigrated : ∀ o ∈ begun, o.outcome = .migrated) :
    ∀ hash ∈ hashes, (contents w').Has (m.archive.objectKey hash) hash := by
  generalize hcut : Completion.returned false = cut at h
  induction h with
  | nil w => exact List.forall_mem_nil _
  | @cons hash rest w w₁ w₂ outcome begun cut hrun hdone hrest ih =>
    obtain ⟨hfirst, hothers⟩ := List.forall_mem_cons.mp hmigrated
    have houtcome : outcome = .migrated := hfirst
    rw [houtcome] at hrun
    refine List.forall_mem_cons.mpr ⟨?_, ih hothers hcut⟩
    exact hrest.leads _ (hbatch hash) (has_of_migrated hstore hrun)
  | cut hrun | brokeDown hrun => cases hcut

/-- The same of all blocks of a course that came to its end. -/
theorem Tour.has (hscan : ∀ hash block,
      (Store.retaining contents (m.archive.objectKey hash) hash).Admits
        (signal.await (m.scanner.batchHashes block)).run)
    {count : Nat} {block : UInt64} {visits : List (Visit W)}
    (h : m.Tour signal count block w visits .completed w')
    (hmigrated : ∀ o ∈ visits.flatMap Visit.begun, o.outcome = .migrated) :
    ∀ hash ∈ visits.flatMap Visit.found, (contents w').Has (m.archive.objectKey hash) hash := by
  generalize hending : Ending.completed = ending at h
  induction h with
  | completed block w => exact List.forall_mem_nil _
  | whileReading hrun => cases hending
  | unread hrun hrest ih => exact ih hmigrated hending
  | @read count block w w₁ w₂ w₃ hashes begun visits ending hrun hworks hrest ih =>
    rw [List.flatMap_cons] at hmigrated ⊢
    obtain ⟨hhere, hlater⟩ := List.forall_mem_append.mp hmigrated
    refine List.forall_mem_append.mpr ⟨?_, ih hlater hending⟩
    intro hash hhash
    exact hrest.leads _ (hbatch hash) (hscan hash) (hworks.has hstore hbatch hhere hash hhash)
  | insideBlock hrun hworks | brokeDown hrun hworks => cases hending

end Stored

section Clean

theorem Works.isEnd {hashes : List Hash} {begun : List (Occurrence W)}
    (h : m.Works signal hashes w begun (.returned false) w') : ∀ o ∈ begun, o.outcome.IsEnd := by
  generalize hcut : Completion.returned false = cut at h
  induction h with
  | nil w => exact List.forall_mem_nil _
  | cons hrun hdone hrest ih => exact List.forall_mem_cons.mpr ⟨hdone, ih hcut⟩
  | cut hrun | brokeDown hrun => cases hcut

theorem Tour.isEnd {count : Nat} {block : UInt64} {visits : List (Visit W)}
    (h : m.Tour signal count block w visits .completed w') :
    ∀ o ∈ visits.flatMap Visit.begun, o.outcome.IsEnd := by
  generalize hending : Ending.completed = ending at h
  induction h with
  | completed block w => exact List.forall_mem_nil _
  | whileReading hrun => cases hending
  | unread hrun hrest ih => exact ih hending
  | read hrun hworks hrest ih =>
    rw [List.flatMap_cons]
    exact List.forall_mem_append.mpr ⟨hworks.isEnd, ih hending⟩
  | insideBlock hrun hworks | brokeDown hrun hworks => cases hending

/-- A course that was not cut short goes through all blocks. -/
theorem Tour.blocks {count : Nat} {block : UInt64} {visits : List (Visit W)}
    (h : m.Tour signal count block w visits .completed w') :
    visits.map Visit.block = (List.range count).map fun i => block + UInt64.ofNat i := by
  generalize hending : Ending.completed = ending at h
  have hshift : ∀ (block : UInt64) (count : Nat),
      ((List.range (count + 1)).map fun i => block + UInt64.ofNat i) =
        block :: (List.range count).map fun i => block + 1 + UInt64.ofNat i := by
    intro block count
    rw [List.range_succ_eq_map, List.map_cons, List.map_map]
    refine congrArg₂ List.cons (UInt64.add_zero block) (List.map_congr_left ?_)
    intro i _
    rw [Function.comp_apply, Nat.succ_eq_add_one, UInt64.ofNat_add, UInt64.add_comm (.ofNat i),
      ← UInt64.add_assoc]
    rfl
  induction h with
  | completed block w => rfl
  | whileReading hrun => cases hending
  | unread hrun hrest ih => rw [List.map_cons, ih hending, hshift]; rfl
  | read hrun hworks hrest ih => rw [List.map_cons, ih hending, hshift]; rfl
  | insideBlock hrun hworks | brokeDown hrun hworks => cases hending

/-- A clean report is that of a course on which nothing failed and nothing is missing. -/
theorem Tour.clean {count : Nat} {block : UInt64} {visits : List (Visit W)} {ending : Ending}
    (h : m.Tour signal count block w visits ending w')
    (hclean : (Report.ofVisits visits ending).isClean = true) :
    ending = .completed ∧ (∀ v ∈ visits, v.wasRead = true) ∧
      (∀ o ∈ visits.flatMap Visit.begun, o.outcome = .migrated) ∧
      (Report.ofVisits visits ending).batchesMigrated = (visits.flatMap Visit.found).length := by
  simp only [Report.isClean, Bool.and_eq_true, Bool.not_eq_true', beq_iff_eq] at hclean
  obtain ⟨⟨⟨huninterrupted, hblocks⟩, hfetches⟩, huploads⟩ := hclean
  have hcompleted : ending = .completed := by
    simpa [Report.ofVisits] using huninterrupted
  subst hcompleted
  have hread : ∀ v ∈ visits, v.wasRead = true := by
    intro v hv
    simpa using List.countP_eq_zero.mp hblocks v hv
  refine ⟨rfl, hread, ?_, ?_⟩
  · intro o ho
    have hfetched := List.countP_eq_zero.mp hfetches o ho
    have huploaded := List.countP_eq_zero.mp huploads o ho
    cases houtcome : o.outcome with
    | migrated => rfl
    | fetchFailed => exact absurd (decide_eq_true houtcome) hfetched
    | uploadFailed => exact absurd (decide_eq_true houtcome) huploaded
    | cancelled => exact absurd houtcome (h.isEnd o ho).1
    | brokeDown => exact absurd houtcome (h.isEnd o ho).2
  · have hfound : (Report.ofVisits visits .completed).batchesFound =
        (visits.flatMap Visit.found).length := by
      rw [List.length_flatMap, Report.ofVisits, List.filter_eq_self.mpr hread]
    have hall : (Report.ofVisits visits .completed).done = _ := h.accounts.2
    rw [Report.done, hfetches, huploads] at hall
    exact hall.trans hfound

end Clean

/-- Of a run with a clean report nothing is missing in a store that gives back what was put:
every block of the range was read, every hash found in one is served from the store, and as
many batches were migrated as were found. And whatever becomes of a run, with a service nothing
is put early. The log of what is put and of what the service answers is made of the logs of the
batches begun, and in each of these whatever is put was cleared by the service just before. -/
theorem run_lossless {first last : UInt64} {result : Completion Report}
    (hrun : m.run signal first last w = (result, w')) :
    (∀ report contents, result = .returned report → m.archive.objects.Recalls contents →
      Around (Passage.steady contents) m → report.isClean = true →
      ∃ visits, m.Tour signal (blockCount first last) first w visits .completed w' ∧
        visits.map Visit.block =
          (List.range (blockCount first last)).map (fun i => first + UInt64.ofNat i) ∧
        (∀ v ∈ visits, v.wasRead = true) ∧
        (∀ hash ∈ visits.flatMap Visit.found,
          ∃ body, (m.archive.getByHash hash w').1 = .returned (.ok body) ∧ keccak body = hash) ∧
        report.batchesMigrated = (visits.flatMap Visit.found).length) ∧
    ∃ visits ending log,
      m.logged.run signal.besideLog first last (w, []) = (result, w', log) ∧
      m.logged.Tour signal.besideLog (blockCount first last) first (w, []) visits ending (w', log) ∧
      result = Report.told visits ending ∧
      log = (visits.flatMap Visit.begun).flatMap Occurrence.events ∧
      ∀ client ∈ m.submission, ∀ o ∈ visits.flatMap Visit.begun, o.Cleared m client := by
  constructor
  · intro report contents hreport hstore haround hclean
    obtain ⟨visits, ending, htour, htold⟩ := m.run_tour signal hrun
    obtain ⟨-, rfl⟩ := Report.told_eq_returned_iff.mp (htold.symm.trans hreport)
    obtain ⟨rfl, hread, hmigrated, hcount⟩ := htour.clean hclean
    refine ⟨visits, htour, htour.blocks, hread, ?_, hcount⟩
    intro hash hhash
    apply m.archive.getByHash_of_has hstore
    have hretaining : ∀ hash,
        Around (Store.retaining contents (m.archive.objectKey hash) hash) m := by
      intro hash
      exact haround.mono (Store.retaining_of_steady contents (m.archive.objectKey hash) hash)
    refine htour.has hstore ?_ ?_ hmigrated hash hhash
    · intro hash other
      refine (hretaining hash).admits_migrateBatch signal ?_ other
      intro data
      exact m.archive.retaining_admits_put hstore hash data none
    · intro hash block
      refine Passage.admits_await _ _ _ ?_
      exact Passage.admits_map _ _ _ (Passage.admits_map _ _ _ ((hretaining hash).scan _))
  · obtain ⟨log, hlogged⟩ := m.run_logged signal first last w
    rw [hrun] at hlogged
    obtain ⟨visits, ending, htour, htold⟩ := m.logged.run_tour signal.besideLog hlogged
    refine ⟨visits, ending, log, hlogged, htour, htold, htour.log, ?_⟩
    intro client hclient o ho
    exact cleared_of_batch signal.besideLog hclient o (htour.batch o ho)

abbrev Counted := Nat × Store.Memory

def deliveries : Nat → Http.Outcome
  | 0 => Rollup.twice [keccak [1], keccak [2]]
  | 1 | 6 => Server.telling (.string (Hex.encode0x [1]))
  | 4 | 8 => Server.telling (.string (Hex.encode0x [2]))
  | 10 => Rollup.twice []
  | 11 => Rollup.twice [keccak [3]]
  | 12 | 16 => Server.telling (.string (Hex.encode0x [3]))
  | 2 | 13 | 14 | 15 => .answered 503 (some [])
  | _ => .answered 202 (some [])

def courier : Migrator Counted :=
  let network : Network Counted := ⟨fun _ w => (deliveries w.1, w.1 + 1, w.2)⟩
  among network network network (Store.Memory.objects ⟨Prod.snd, fun s w => (w.1, s)⟩)

def carrier : RawSubmission.Client Counted :=
  ⟨courier.committee.network, courier.committee.url, "key"⟩

def keeping (s : Store.Memory) (data : Bytes) : Store.Memory :=
  s.insert (courier.archive.objectKey (keccak data)) data none

def answered (data : Bytes) (status : Nat) : Entry :=
  .exchanged (carrier.request data) (.answered status (some []))

def kept (data : Bytes) : Entry := .put (courier.archive.objectKey (keccak data)) data none

section Courier

variable (data : Bytes) (n : Nat) (s : Store.Memory) (log : Logbook)

theorem submit_courier {status : Nat} (h : deliveries n = .answered status (some [])) :
    (Signal.never.besideLog.await (carrier.noting.submit data)).run ((n, s), log) =
      (.ok (RawSubmission.Client.readOutcome (.answered status (some []))), (n + 1, s),
        log ++ [answered data status]) := by
  have hsubmit : carrier.noting.submit data ((n, s), log) =
      (RawSubmission.Client.readOutcome (deliveries n), (n + 1, s),
        log ++ [.exchanged (carrier.request data) (deliveries n)]) := rfl
  rw [h] at hsubmit
  exact Signal.await_of_unfired rfl hsubmit rfl

/-- A batch that is served and accepted at once. -/
theorem migrateBatch_courier
    (hserved : deliveries n = Server.telling (.string (Hex.encode0x data)))
    (haccepted : deliveries (n + 1) = .answered 202 (some [])) :
    courier.logged.migrateBatch Signal.never.besideLog (keccak data) ((n, s), log) =
      (.migrated, (n + 2, keeping s data), log ++ [answered data 202] ++ [kept data]) := by
  have hupload : (courier.logged.upload Signal.never.besideLog (keccak data) data).run
      ((n + 1, s), log) = (.ok (.ok (.returned ())), (n + 2, keeping s data),
        log ++ [answered data 202] ++ [kept data]) :=
    Retry.runFrom_of_value rfl (run_bind_ok (submit_courier data (n + 1) s log haccepted) _)
  exact migrateBatch_of_served rfl rfl (congrArg (·, (n + 1, s), log) hserved) rfl hupload

theorem uploadOnce_courier (h : deliveries n = .answered 503 (some [])) :
    (courier.logged.uploadOnce Signal.never.besideLog (keccak data) data).run ((n, s), log) =
      (.ok (.error (.submission (.status 503 ""))), (n + 1, s), log ++ [answered data 503]) :=
  run_bind_ok (submit_courier data n s log h) _

/-- Two batches are found in the first block, each of them twice, and none in the second. The
first submission is refused. -/
theorem exists_tour_courier :
    ∃ visits stored,
      courier.Tour .never (blockCount 7 8) 7 (0, .empty) visits .completed (11, stored) ∧
      visits.flatMap Visit.found = [keccak [1], keccak [2], keccak [1], keccak [2]] ∧
      Report.ofVisits visits .completed = ⟨2, 0, 4, 4, 0, 0, false⟩ := by
  let signal : Signal (Counted × Logbook) := Signal.never.besideLog
  have hcount : [keccak [1], keccak [2]].length < 2 ^ 32 := by decide
  have hnone : ([] : List Hash).length < 2 ^ 32 := by decide
  have hfirst : (signal.await (courier.logged.scanner.batchHashes 7)).run ((0, .empty), []) =
      (.ok (.ok [keccak [1], keccak [2], keccak [1], keccak [2]]), (1, .empty), []) :=
    Signal.await_of_unfired rfl (Rollup.Scanner.batchHashes_of_twice rfl hcount rfl) rfl
  have hsecond : ∀ s log, (signal.await (courier.logged.scanner.batchHashes 8)).run ((10, s), log) =
      (.ok (.ok []), (11, s), log) := fun s log =>
    Signal.await_of_unfired rfl (Rollup.Scanner.batchHashes_of_twice rfl hnone rfl) rfl
  have hretried : ∀ s log, (courier.logged.upload signal (keccak [1]) [1]).run ((2, s), log) =
      (.ok (.ok (.returned ())), (4, keeping s [1]),
        log ++ [answered [1] 503] ++ [answered [1] 202] ++ [kept [1]]) := by
    intro s log
    have hrefused := uploadOnce_courier [1] 2 s log rfl
    have haccepted := submit_courier [1] 3 s (log ++ [answered [1] 503]) rfl
    exact (Retry.runFrom_of_failure rfl hrefused rfl rfl (fun _ _ => rfl) fun _ _ => rfl).trans
      (Retry.runFrom_of_value rfl (run_bind_ok haccepted _))
  have hworks : courier.logged.Works signal [keccak [1], keccak [2], keccak [1], keccak [2]]
      ((1, .empty), []) _ (.returned false) _ :=
    .cons (migrateBatch_of_served rfl rfl rfl rfl (hretried _ _)) ⟨nofun, nofun⟩
      (.cons (migrateBatch_courier [2] 4 _ _ rfl rfl) ⟨nofun, nofun⟩
        (.cons (migrateBatch_courier [1] 6 _ _ rfl rfl) ⟨nofun, nofun⟩
          (.cons (migrateBatch_courier [2] 8 _ _ rfl rfl) ⟨nofun, nofun⟩ (.nil _))))
  have htour : courier.logged.Tour signal (blockCount 7 8) 7 ((0, .empty), []) _ .completed _ :=
    .read hfirst hworks (.read (hsecond _ _) (.nil _) (.completed _ _))
  exact ⟨_, _, htour.unlogged, rfl, rfl⟩

/-- One batch is found twice in the next block. The service refuses it the first time. -/
theorem exists_tour_courier_refused (stored : Store.Memory) :
    ∃ visits, courier.logged.Tour Signal.never.besideLog (blockCount 9 9) 9 ((11, stored), [])
        visits .completed ((18, keeping stored [3]), [answered [3] 503, answered [3] 503,
          answered [3] 503, answered [3] 202, kept [3]]) ∧
      Report.ofVisits (visits.map Visit.unlogged) .completed = ⟨1, 0, 2, 1, 0, 1, false⟩ := by
  let signal : Signal (Counted × Logbook) := Signal.never.besideLog
  have hcount : [keccak [3]].length < 2 ^ 32 := by decide
  have hscan : (signal.await (courier.logged.scanner.batchHashes 9)).run ((11, stored), []) =
      (.ok (.ok [keccak [3], keccak [3]]), (12, stored), []) :=
    Signal.await_of_unfired rfl (Rollup.Scanner.batchHashes_of_twice rfl hcount rfl) rfl
  have hrefused : (courier.logged.upload signal (keccak [3]) [3]).run ((13, stored), []) =
      (.ok (.error (.exhausted 3 (.submission (.status 503 "")))), (16, stored),
        [answered [3] 503, answered [3] 503, answered [3] 503]) := by
    have hthird := uploadOnce_courier [3] 15 stored [answered [3] 503, answered [3] 503] rfl
    refine (Retry.runFrom_of_failure rfl (uploadOnce_courier [3] 13 stored [] rfl) rfl rfl
      (fun _ _ => rfl) fun _ _ => rfl).trans ?_
    refine (Retry.runFrom_of_failure rfl (uploadOnce_courier [3] 14 stored _ rfl) rfl rfl
      (fun _ _ => rfl) fun _ _ => rfl).trans ?_
    exact Retry.runFrom_of_last rfl hthird rfl
  have hworks : courier.logged.Works signal [keccak [3], keccak [3]] ((12, stored), []) _
      (.returned false) _ :=
    .cons (migrateBatch_of_served rfl rfl rfl rfl hrefused) ⟨nofun, nofun⟩
      (.cons (migrateBatch_courier [3] 16 _ _ rfl rfl) ⟨nofun, nofun⟩ (.nil _))
  exact ⟨_, .read hscan hworks (.completed _ _), rfl⟩

end Courier

/-- After a clean run over two blocks all that was found in them is served. In the run over the
next block a batch is refused, and what is put there was accepted just before. -/
theorem run_lossless_courier :
    ∃ stored w,
      courier.run .never 7 8 (0, .empty) = (.returned ⟨2, 0, 4, 4, 0, 0, false⟩, 11, stored) ∧
      (∀ hash ∈ [keccak [1], keccak [2], keccak [1], keccak [2]], ∃ body,
        (courier.archive.getByHash hash (11, stored)).1 = .returned (.ok body) ∧
          keccak body = hash) ∧
      courier.run .never 9 9 (11, stored) = (.returned ⟨1, 0, 2, 1, 0, 1, false⟩, w) ∧
      ∃ visits, courier.logged.Tour Signal.never.besideLog (blockCount 9 9) 9 ((11, stored), [])
          visits .completed (w, [answered [3] 503, answered [3] 503, answered [3] 503,
            answered [3] 202, kept [3]]) ∧
        ∀ o ∈ visits.flatMap Visit.begun, o.Cleared courier carrier := by
  obtain ⟨found, stored, hclean, hfound, hcounts⟩ := exists_tour_courier
  obtain ⟨next, hrefused, hfailures⟩ := exists_tour_courier_refused stored
  have hrun : courier.run .never 7 8 (0, .empty) =
      (.returned ⟨2, 0, 4, 4, 0, 0, false⟩, 11, stored) := by
    rw [hclean.run_eq, ← hcounts]
    rfl
  have hagain : courier.run .never 9 9 (11, stored) =
      (.returned ⟨1, 0, 2, 1, 0, 1, false⟩, 18, keeping stored [3]) := by
    rw [hrefused.unlogged.run_eq, ← hfailures]
    rfl
  have hpart : (Part.mk Prod.snd fun s w => (w.1, s) : Part Counted Store.Memory).Lawful :=
    ⟨fun _ _ => rfl, fun _ => rfl, fun _ _ _ => rfl⟩
  have haround : Around (Passage.steady fun w : Counted => w.2.body?) courier :=
    around_among (fun _ _ => rfl) (fun _ _ => rfl) (fun _ _ => rfl) _
  obtain ⟨visits, htaken, -, -, hserved, -⟩ :=
    (run_lossless hrun).1 _ _ rfl (Store.Memory.recalls_objects hpart) haround rfl
  obtain ⟨rfl, -, -⟩ := hclean.unique htaken
  rw [hfound] at hserved
  obtain ⟨begun, ending, log, -, hlogged, -, -, hcleared⟩ := (run_lossless hagain).2
  obtain ⟨rfl, -, -⟩ := hrefused.unique hlogged
  exact ⟨stored, _, hrun, hserved, hagain, begun, hrefused, hcleared carrier rfl⟩

end Migrator

end Validium
