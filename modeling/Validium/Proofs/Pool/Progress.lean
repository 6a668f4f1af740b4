import Mathlib
import Validium.Proofs.Pool.Schedule

/-!
A run of the pool comes to its end. A caller that has not ended is never stuck: a permit that
is not free is held by a worker, which can go on with it. And no run goes on for ever: the
signal fires once, every job is handed out once, workers come nearer to their ends with each
turn, and between two joins the caller only looks, polls and sleeps once.
-/
namespace Validium.Pool

variable {W α : Type} {limit : Nat} {s : State W α}

section Unstuck

theorem exists_turn_of_running (limit : Nat) {i : Nat} {rest : Work W α}
    (h : s.workers[i]? = some (.running rest)) :
    ∃ act t, act ≠ .drop ∧ Step limit s (.turn i act) t := by
  cases rest with
  | ended result =>
    exact ⟨.finish, _, by simp, .turn s i _ _ _ _ _ h (.finish s.world s.free result) (by simp)⟩
  | step effect next =>
    exact ⟨.progress, _, by simp,
      .turn s i _ _ _ _ _ h (.progress s.world s.free effect next) (by simp)⟩

theorem exists_start (limit : Nat) {i : Nat} {work : Work W α}
    (h : s.workers[i]? = some (.waiting work)) (hfree : 0 < s.free) :
    ∃ t, Step limit s (.turn i .start) t := by
  obtain ⟨free, hfree⟩ : ∃ n, s.free = n + 1 := ⟨s.free - 1, by omega⟩
  have hturn := Turn.start s.world free work
  rw [← hfree] at hturn
  exact ⟨_, .turn s i _ _ _ _ _ h hturn (by simp)⟩

theorem exists_running (h : 0 < s.running) :
    ∃ (i : Nat) (rest : Work W α), s.workers[i]? = some (.running rest) := by
  obtain ⟨worker, hmem, hrunning⟩ := List.countP_pos_iff.mp h
  obtain ⟨i, hi⟩ := List.mem_iff_getElem?.mp hmem
  cases worker with
  | running rest => exact ⟨i, rest, hi⟩
  | _ => cases hrunning

/-- As long as a worker waits or runs, one of them can take a turn. -/
theorem exists_turn (hpermits : s.running + s.free = limit) (hlimit : 0 < limit)
    {worker : Worker W α} (hmem : worker ∈ s.workers) (hjoined : worker.isJoined = false)
    (hfinished : worker.isFinished = false) (hdropped : isDropped worker = false) :
    ∃ e t, e ≠ .fire ∧ Step limit s e t := by
  by_cases hrunning : 0 < s.running
  · obtain ⟨i, rest, hi⟩ := exists_running hrunning
    obtain ⟨act, t, -, hstep⟩ := exists_turn_of_running limit hi
    exact ⟨_, t, by simp, hstep⟩
  · obtain ⟨i, hi⟩ := List.mem_iff_getElem?.mp hmem
    cases worker with
    | waiting work =>
      obtain ⟨t, hstep⟩ := exists_start limit hi (by omega)
      exact ⟨_, t, by simp, hstep⟩
    | running rest =>
      obtain ⟨act, t, -, hstep⟩ := exists_turn_of_running limit hi
      exact ⟨_, t, by simp, hstep⟩
    | finished result => cases hfinished
    | joined result => cases hjoined
    | withdrawn => cases hdropped
    | aborted => cases hdropped

theorem exists_step_of_move {caller : Caller W α} (h : Move limit s caller) :
    ∃ e t, e ≠ .fire ∧ Step limit s e t :=
  ⟨.move, _, by simp, .move s caller h⟩

/-- A caller that polls joins a worker, ends, or goes to sleep. -/
theorem exists_step_of_polling (hat : s.caller = .polling) :
    ∃ e t, e ≠ .fire ∧ Step limit s e t := by
  by_cases hfinished : ∃ worker ∈ s.workers, worker.isFinished = true
  · obtain ⟨worker, hmem, hworker⟩ := hfinished
    obtain ⟨i, hi⟩ := List.mem_iff_getElem?.mp hmem
    cases worker with
    | finished result => exact ⟨.join i, _, by simp, .join s i result hat hi⟩
    | _ => cases hworker
  · by_cases hall : ∀ worker ∈ s.workers, worker.isJoined = true
    · exact exists_step_of_move (.conclude hat hall)
    · have hnone : ∀ worker ∈ s.workers, worker.isFinished = false := by
        intro worker hmem
        by_contra hworker
        exact hfinished ⟨worker, hmem, by simpa using hworker⟩
      push Not at hall
      obtain ⟨worker, hmem, hworker⟩ := hall
      exact exists_step_of_move (.park hat hnone ⟨worker, hmem, by simpa using hworker⟩)

/-- Something other than the signal can always happen until the caller has ended. -/
theorem exists_step {jobs : List (Work W α)} (hroster : Roster limit jobs s)
    (hpermits : s.running + s.free = limit) (hlimit : 0 < limit)
    (hunended : ∀ result, s.caller ≠ .ended result) : ∃ e t, e ≠ .fire ∧ Step limit s e t := by
  have hplaced := hroster.placed
  cases hcaller : s.caller with
  | entering left =>
    cases hfired : s.fired with
    | true => exact exists_step_of_move (.refuse left hcaller hfired)
    | false =>
      by_cases hover : maxPermits < limit
      · exact exists_step_of_move (.overcommit left hcaller hfired hover)
      · exact exists_step_of_move (.enter left hcaller hfired (Nat.not_lt.mp hover))
  | spawning left =>
    cases left with
    | nil => exact exists_step_of_move (.spawned hcaller)
    | cons work left => exact ⟨.spawn, _, by simp, .spawn s work left hcaller⟩
  | looking =>
    cases hfired : s.fired with
    | true => exact exists_step_of_move (.giveUp hcaller hfired)
    | false => exact exists_step_of_move (.look hcaller hfired)
  | polling => exact exists_step_of_polling hcaller
  | parked =>
    simp only [Placed, hcaller] at hplaced
    obtain ⟨-, worker, hmem, hjoined⟩ := hplaced
    cases hfinished : worker.isFinished with
    | true => exact exists_step_of_move (.wake hcaller (.inr ⟨worker, hmem, hfinished⟩))
    | false =>
      have hdropped := hroster.kept (by rw [hcaller]; simp) worker hmem
      exact exists_turn hpermits hlimit hmem hjoined hfinished hdropped
  | ended result => exact absurd hcaller (hunended result)

end Unstuck

section Finite

inductive Ahead : Worker W α → Worker W α → Prop
  | turn {act : Act} {w w' : W} {free free' : Nat} {worker worker' : Worker W α} :
      Turn act w free worker w' free' worker' → Ahead worker' worker
  | join (result : Completion α) : Ahead (.joined result) (.finished result)

theorem acc_settled {worker : Worker W α} (h : ∀ worker', ¬ Ahead worker' worker) :
    Acc Ahead worker :=
  Acc.intro _ fun worker' hahead => absurd hahead (h worker')

theorem acc_joined (result : Completion α) : Acc Ahead (.joined result : Worker W α) := by
  apply acc_settled
  rintro worker' (hturn | -)
  cases hturn

theorem acc_withdrawn : Acc Ahead (.withdrawn : Worker W α) := by
  apply acc_settled
  rintro worker' (hturn | -)
  cases hturn

theorem acc_aborted : Acc Ahead (.aborted : Worker W α) := by
  apply acc_settled
  rintro worker' (hturn | -)
  cases hturn

theorem acc_finished (result : Completion α) : Acc Ahead (.finished result : Worker W α) := by
  refine Acc.intro _ ?_
  intro worker' hahead
  cases hahead with
  | turn hturn => cases hturn
  | join => exact acc_joined result

theorem acc_running (rest : Work W α) : Acc Ahead (.running rest : Worker W α) := by
  induction rest with
  | ended result =>
    refine Acc.intro _ ?_
    intro worker' hahead
    cases hahead with
    | turn hturn =>
      cases hturn with
      | finish => exact acc_finished result
      | abort => exact acc_aborted
  | step effect next ih =>
    refine Acc.intro _ ?_
    intro worker' hahead
    cases hahead with
    | turn hturn =>
      cases hturn with
      | progress => exact ih _
      | abort => exact acc_aborted

theorem acc_waiting (work : Work W α) : Acc Ahead (.waiting work : Worker W α) := by
  refine Acc.intro _ ?_
  intro worker' hahead
  cases hahead with
  | turn hturn =>
    cases hturn with
    | start => exact acc_running work
    | withdraw => exact acc_withdrawn

theorem wellFounded_ahead : WellFounded (Ahead : Worker W α → Worker W α → Prop) := by
  refine ⟨fun worker => ?_⟩
  cases worker with
  | waiting work => exact acc_waiting work
  | running rest => exact acc_running rest
  | finished result => exact acc_finished result
  | joined result => exact acc_joined result
  | withdrawn => exact acc_withdrawn
  | aborted => exact acc_aborted

/-- How many of its own moves the caller is from a join or from giving up, or from its sleep
when there is nothing to join. -/
def distance (fired finished : Bool) : Caller W α → Nat
  | .looking => if fired then 0 else if finished then 1 else 2
  | .polling => if fired then 2 else if finished then 0 else 1
  | .parked => if fired then 1 else if finished then 2 else 0
  | _ => 0

def stage : Caller W α → Nat
  | .entering jobs => jobs.length + 3
  | .spawning left => left.length + 2
  | .ended _ => 0
  | _ => 1

def remaining (s : State W α) : Nat × Nat × Multiset (Worker W α) × Nat :=
  ((!s.fired).toNat, stage s.caller, s.workers,
    distance s.fired (s.workers.any Worker.isFinished) s.caller)

def Less : Nat × Nat × Multiset (Worker W α) × Nat → Nat × Nat × Multiset (Worker W α) × Nat →
    Prop :=
  Prod.Lex (· < ·) (Prod.Lex (· < ·) (Prod.Lex (Relation.CutExpand Ahead) (· < ·)))

theorem wellFounded_less : WellFounded (Less (W := W) (α := α)) :=
  wellFounded_lt.prod_lex (wellFounded_lt.prod_lex
    (wellFounded_ahead.cutExpand.prod_lex wellFounded_lt))

theorem less_of_stage {s t : State W α} (hfired : t.fired = s.fired)
    (h : stage t.caller < stage s.caller) : Less (remaining t) (remaining s) := by
  unfold remaining Less
  rw [hfired]
  exact Prod.Lex.right _ (Prod.Lex.left _ _ h)

/-- At one stage of the caller it is the workers that count. -/
theorem less_of_workers {s t : State W α} (hfired : t.fired = s.fired)
    (hstage : stage t.caller = stage s.caller)
    (h : Relation.CutExpand Ahead (t.workers : Multiset (Worker W α)) s.workers) :
    Less (remaining t) (remaining s) := by
  unfold remaining Less
  rw [hfired, hstage]
  exact Prod.Lex.right _ (Prod.Lex.right _ (Prod.Lex.left _ _ h))

theorem less_of_distance {caller : Caller W α} (hstage : stage caller = stage s.caller)
    (h : distance s.fired (s.workers.any Worker.isFinished) caller <
      distance s.fired (s.workers.any Worker.isFinished) s.caller) :
    Less (remaining { s with caller := caller }) (remaining s) := by
  unfold remaining Less
  rw [hstage]
  exact Prod.Lex.right _ (Prod.Lex.right _ (Prod.Lex.right _ h))

theorem less_of_move {caller : Caller W α} (h : Move limit s caller) :
    Less (remaining { s with caller := caller }) (remaining s) := by
  cases h with
  | refuse jobs hat hfired => exact less_of_stage rfl (by simp [hat, stage])
  | overcommit jobs hat hfired hover => exact less_of_stage rfl (by simp [hat, stage])
  | enter jobs hat hfired hlimit => exact less_of_stage rfl (by simp [hat, stage])
  | spawned hat => exact less_of_stage rfl (by simp [hat, stage])
  | giveUp hat hfired => exact less_of_stage rfl (by simp [hat, stage])
  | conclude hat hall => exact less_of_stage rfl (by simp [hat, stage])
  | look hat hfired =>
    refine less_of_distance (by rw [hat]; rfl) ?_
    rw [hat, hfired]
    cases s.workers.any Worker.isFinished <;> simp [distance]
  | park hat hnone hsome =>
    have hany : s.workers.any Worker.isFinished = false := by
      simpa using hnone
    refine less_of_distance (by rw [hat]; rfl) ?_
    rw [hat, hany]
    cases s.fired <;> simp [distance]
  | wake hat hnews =>
    refine less_of_distance (by rw [hat]; rfl) ?_
    rw [hat]
    rcases hnews with hfired | hsome
    · simp [distance, hfired]
    · have hany : s.workers.any Worker.isFinished = true := by
        simpa using hsome
      rw [hany]
      cases s.fired <;> simp [distance]

theorem less_of_step {t : State W α} {e : Event} (h : Step limit s e t) :
    Less (remaining t) (remaining s) := by
  cases h with
  | fire hfired =>
    unfold remaining Less
    rw [hfired]
    exact Prod.Lex.left _ _ (by simp)
  | turn i act worker worker' w free hworker hturn hdrop =>
    exact less_of_workers rfl rfl (cutExpand_set hworker (.turn hturn))
  | spawn work left hat => exact less_of_stage rfl (by simp [hat, stage])
  | join i result hat hworker =>
    exact less_of_workers rfl (by simp [hat, stage]) (cutExpand_set hworker (.join result))
  | move caller hmove => exact less_of_move hmove

/-- No sequence of steps is infinite. -/
theorem wellFounded_step :
    WellFounded fun t s : State W α => ∃ e, Step limit s e t :=
  Subrelation.wf (fun ⟨_, hstep⟩ => less_of_step hstep) (InvImage.wf remaining wellFounded_less)

end Finite

end Validium.Pool
