import Mathlib
import Validium.Proofs.Pool.Schedule
import Validium.Proofs.Positions
import Validium.Proofs.World.Passage

/-!
The pool's run of its jobs in the order in which they are listed is one of its runs. The first
worker that waits gets a permit, comes to its end and is joined before the next one starts.
-/
namespace Validium

theorem Completion.ofSlot_value? {α : Type} (result : Completion α) :
    Completion.ofSlot result.value? = result := by
  cases result <;> rfl

theorem Completion.ofSlot_comp_value? {α : Type} :
    Completion.ofSlot ∘ Completion.value? = (id : Completion α → Completion α) :=
  funext ofSlot_value?

namespace Pool

variable {W α : Type} (limit : Nat)

def midway (w : W) (done : List (Completion α)) (rest : List (Worker W α)) (free : Nat)
    (caller : Caller W α) : State W α :=
  ⟨w, done.map .joined ++ rest, done.map Completion.value? ++ List.replicate rest.length none,
    free, caller, false⟩

section Steps

variable {w : W} {free : Nat} (done : List (Completion α)) (rest : List (Worker W α))

theorem step_turn {act : Act} {w' : W} {free' : Nat} {worker worker' : Worker W α}
    (h : Turn act w free worker w' free' worker') (hact : act ≠ .drop) :
    Step limit (midway w done (worker :: rest) free .looking) (.turn done.length act)
      (midway w' done (worker' :: rest) free' .looking) := by
  have hworker : (midway w done (worker :: rest) free .looking).workers[done.length]? =
      some worker := by
    simp [midway]
  have hstep := @Step.turn W α limit _ done.length act worker worker' w' free' hworker h
    fun hdrop => absurd hdrop hact
  have hset := set_length_append (done.map Worker.joined) worker worker' rest
  rw [List.length_map] at hset
  simp only [midway, hset, List.length_cons] at hstep
  exact hstep

theorem step_join (result : Completion α) :
    Step limit (midway w done (.finished result :: rest) free .polling) (.join done.length)
      (midway w (done ++ [result]) rest free .looking) := by
  have hworker : (midway w done (.finished result :: rest) free .polling).workers[done.length]? =
      some (.finished result) := by
    simp [midway]
  have hstep := @Step.join W α limit _ done.length result rfl hworker
  have hworkers :=
    set_length_append (done.map Worker.joined) (.finished result) (.joined result) rest
  have hslots := set_length_append (done.map Completion.value?) none result.value?
    (List.replicate rest.length none)
  rw [List.length_map] at hworkers hslots
  simp only [midway, List.length_cons, List.replicate_succ, hworkers, hslots] at hstep
  simpa [midway, List.replicate_succ] using hstep

/-- A job that is running can be run to its end without a turn of any other. -/
theorem exists_run_of_running (work : Work W α) (w : W) :
    ∃ es, Run limit (midway w done (.running work :: rest) free .looking) es
      (midway (work.run w).2 done (.finished (work.run w).1 :: rest) (free + 1) .looking) := by
  induction work generalizing w with
  | ended result =>
    exact ⟨_, Steps.nil.snoc (step_turn limit done rest (.finish w free result) (by simp))⟩
  | step effect next ih =>
    obtain ⟨es, hes⟩ := ih w (effect w)
    have hstep := step_turn limit done rest (.progress w free effect next) (by simp)
    exact ⟨_, (Steps.nil.snoc hstep).trans hes⟩

/-- A job that waits can be started and run to its end while a permit is free. -/
theorem exists_run_of_waiting (work : Work W α) (w : W) (free : Nat) :
    ∃ es, Run limit (midway w done (.waiting work :: rest) (free + 1) .looking) es
      (midway (work.run w).2 done (.finished (work.run w).1 :: rest) (free + 1) .looking) := by
  obtain ⟨es, hes⟩ := exists_run_of_running limit done rest work w
  have hstep := step_turn limit done rest (.start w free work) (by simp)
  exact ⟨_, (Steps.nil.snoc hstep).trans hes⟩

end Steps

/-- When all workers wait, the jobs can be worked through in their order, the signal firing
after the job after which it is seen. -/
theorem exists_run_of_collect (signal : Signal W) (works : List (Work W α)) (w : W)
    (done : List (Completion α)) (free : Nat) :
    ∃ es t, Run limit (midway w done (works.map .waiting) (free + 1) .looking) es t ∧
      t.caller = .ended ((collect signal (works.map Work.run) w).1.map (done ++ ·)) ∧
      t.world = (collect signal (works.map Work.run) w).2 ∧
      (t.fired = true → (collect signal (works.map Work.run) w).1 = .error .cancelled) := by
  induction works generalizing w done with
  | nil =>
    have hlook : Run limit (midway w done [] (free + 1) .looking) [.move]
        (midway w done [] (free + 1) .polling) := Steps.nil.snoc (.move _ _ (.look rfl rfl))
    have hend := hlook.snoc (.move _ _ (.conclude rfl (by simp [midway, Worker.isJoined])))
    refine ⟨_, _, hend, ?_, rfl, nofun⟩
    simp [midway, Completion.ofSlot_comp_value?, collect, Except.map, pure, StateT.pure]
  | cons work works ih =>
    obtain ⟨es, hes⟩ := exists_run_of_waiting limit done (works.map .waiting) work w free
    rw [List.map_cons, List.map_cons, collect, bind_apply, signal.isFired_bind_apply]
    cases hfired : signal.fired (work.run w).2 with
    | true =>
      have hfire := hes.snoc (.fire _ rfl)
      exact ⟨_, _, hfire.snoc (.move _ _ (.giveUp rfl rfl)), rfl, rfl, fun _ => rfl⟩
    | false =>
      have hlook := hes.snoc (.move _ _ (.look rfl rfl))
      have hjoin := hlook.snoc (step_join limit done (works.map .waiting) (work.run w).1)
      obtain ⟨es', t, hes', hcaller, hworld, hcut⟩ :=
        ih (work.run w).2 (done ++ [(work.run w).1])
      refine ⟨_, t, hjoin.trans hes', hcaller.trans ?_, hworld.trans ?_, ?_⟩
      · simp only [Bool.false_eq_true, if_false]
        rw [bind_apply]
        cases (collect signal (works.map Work.run) (work.run w).2).1 with
        | error halt => rfl
        | ok results => simp [Except.map, pure, StateT.pure]
      · simp only [Bool.false_eq_true, if_false]
        rw [bind_apply]
        cases (collect signal (works.map Work.run) (work.run w).2).1 <;> rfl
      · intro ht
        simp only [Bool.false_eq_true, if_false]
        rw [bind_apply, hcut ht]
        rfl

theorem exists_run_of_spawning (w : W) (works left : List (Work W α)) (slots : List (Option α))
    (free : Nat) : ∃ es, Run limit ⟨w, works.map .waiting, slots, free, .spawning left, false⟩ es
      ⟨w, (works ++ left).map .waiting, slots, free, .looking, false⟩ := by
  induction left generalizing works with
  | nil =>
    rw [List.append_nil]
    exact ⟨_, Steps.nil.snoc (.move _ _ (.spawned rfl))⟩
  | cons work left ih =>
    obtain ⟨es, hes⟩ := ih (works ++ [work])
    rw [List.map_append, List.append_assoc] at hes
    exact ⟨_, (Steps.nil.snoc (.spawn _ work left rfl)).trans hes⟩

/-- What the pool does in the listed order, one of its runs does, in which the signal fires
only if it is seen to have fired. -/
theorem exists_run_of_run (signal : Signal W) (concurrency : UInt64) (works : List (Work W α))
    (w : W) : ∃ es t,
      Run (permits concurrency)
        (State.initial (permits concurrency) works w (signal.fired w)) es t ∧
      t.caller = .ended (run signal concurrency (works.map Work.run) w).1 ∧
      t.world = (run signal concurrency (works.map Work.run) w).2 ∧
      (t.fired = true → (run signal concurrency (works.map Work.run) w).1 = .error .cancelled) := by
  have hpos := permits_pos concurrency
  obtain ⟨free, hfree⟩ : ∃ n, permits concurrency = n + 1 := ⟨permits concurrency - 1, by omega⟩
  rw [run_apply]
  cases hfired : signal.fired w with
  | true =>
    exact ⟨_, _, Steps.nil.snoc (Step.move _ _ (.refuse works rfl rfl)), rfl, rfl, fun _ => rfl⟩
  | false =>
    by_cases hover : maxPermits < permits concurrency
    · simp only [Bool.false_eq_true, if_false, if_pos hover]
      exact ⟨_, _, Steps.nil.snoc (Step.move _ _ (.overcommit works rfl rfl hover)), rfl, rfl,
        nofun⟩
    · simp only [Bool.false_eq_true, if_false, if_neg hover]
      have henter := Move.enter (s := State.initial (permits concurrency) works w false) works rfl
        rfl (Nat.le_of_not_lt hover)
      obtain ⟨es, hspawn⟩ := exists_run_of_spawning (permits concurrency) w [] works
        (List.replicate works.length none) (permits concurrency)
      obtain ⟨es', t, hcollect, hcaller, hworld, hcut⟩ :=
        exists_run_of_collect (permits concurrency) signal works w [] free
      have hmap : ∀ result : Except Halt (List (Completion α)), result.map ([] ++ ·) = result := by
        intro result
        cases result <;> rfl
      rw [hmap] at hcaller
      have hwaiting : midway w [] (works.map .waiting) (free + 1) .looking =
          ⟨w, ([] ++ works).map .waiting, List.replicate works.length none, permits concurrency,
            .looking, false⟩ := by
        simp [midway, hfree]
      rw [hwaiting] at hcollect
      exact ⟨_, t, ((Steps.nil.snoc (Step.move _ _ henter)).trans hspawn).trans hcollect, hcaller,
        hworld, hcut⟩

end Pool

end Validium
