import Mathlib
import Validium.Proofs.Pool.Progress

/-!
Bounded work without loss. However a run of the pool goes, no more workers hold a permit than
there are permits, a worker that ends gives its permit back, and no job is begun twice. While
a job is unfinished something can happen, so a run that stops before the signal has fired has
finished every job, and each of them once.
-/
namespace Validium.Pool

variable {W α : Type} {limit : Nat} {s t : State W α}

namespace Worker

def hasBegun : Worker W α → Bool
  | .waiting _ => false
  | .withdrawn => false
  | _ => true

def hasEnded : Worker W α → Bool
  | .finished _ => true
  | .joined _ => true
  | _ => false

end Worker

structure Notes (mark : Worker W α → Bool) (act : Act) : Prop where
  waiting : ∀ work, mark (.waiting work) = false
  joined : ∀ result, mark (.joined result) = mark (.finished result)
  turn : ∀ {a : Act} {w w' : W} {free free' : Nat} {worker worker' : Worker W α},
    Turn a w free worker w' free' worker' →
      (mark worker').toNat = (mark worker).toNat + if a = act then 1 else 0

theorem notes_hasBegun : Notes (Worker.hasBegun : Worker W α → Bool) .start where
  waiting := fun _ => rfl
  joined := fun _ => rfl
  turn := by
    intro a w w' free free' worker worker' h
    cases h <;> rfl

theorem notes_hasEnded : Notes (Worker.hasEnded : Worker W α → Bool) .finish where
  waiting := fun _ => rfl
  joined := fun _ => rfl
  turn := by
    intro a w w' free free' worker worker' h
    cases h <;> rfl

theorem step_count {mark : Worker W α → Bool} {act : Act} (hmark : Notes mark act) {e : Event}
    (h : Step limit s e t) (i : Nat) : (t.workers[i]?.any mark).toNat =
      (s.workers[i]?.any mark).toNat + [e].count (.turn i act) := by
  cases h with
  | fire hfired => simp
  | turn j a worker worker' w free hworker hturn hdrop =>
    rw [getElem?_set_any hworker]
    by_cases hij : j = i
    · subst hij
      rw [if_pos rfl, hworker, hmark.turn hturn]
      by_cases ha : a = act <;> simp [ha]
    · simp [hij]
  | spawn work left hat =>
    rcases Nat.lt_trichotomy i s.workers.length with hi | rfl | hi
    · rw [List.getElem?_append_left hi]
      simp
    · rw [List.getElem?_concat_length, List.getElem?_eq_none (Nat.le_refl _)]
      simp [hmark.waiting]
    · rw [List.getElem?_eq_none (by simp; omega), List.getElem?_eq_none (Nat.le_of_lt hi)]
      simp
  | join j result hat hworker =>
    rw [getElem?_set_any hworker]
    by_cases hij : j = i
    · subst hij
      rw [if_pos rfl, hworker, hmark.joined]
      simp
    · simp [hij]
  | move caller hmove => simp

/-- A worker with the mark has taken the turn once, and one without it never. -/
theorem run_count {mark : Worker W α → Bool} {act : Act} (hmark : Notes mark act)
    {jobs : List (Work W α)} {w : W} {fired : Bool} {es : List Event}
    (h : Run limit (State.initial limit jobs w fired) es t) (i : Nat) :
    es.count (.turn i act) = (t.workers[i]?.any mark).toNat := by
  induction h with
  | nil => rfl
  | snoc _ hstep ih => rw [List.count_append, ih, step_count hmark hstep]

structure Bounded (limit : Nat) (jobs : List (Work W α)) (es : List Event) (t : State W α) :
    Prop where
  conserved : t.running + t.free = limit
  bounded : t.running ≤ limit
  started_once : ∀ i, es.count (.turn i .start) ≤ 1
  /-- A worker whose job is at its end can end, whether it returns or breaks down. -/
  can_finish : ∀ (i : Nat) (result : Completion α),
    t.workers[i]? = some (.running (.ended result)) → ∃ u, Step limit t (.turn i .finish) u
  gives_back : ∀ i u, Step limit t (.turn i .finish) u →
    u.free = t.free + 1 ∧ u.running + 1 = t.running
  can_start : ∀ (i : Nat) (work : Work W α), t.workers[i]? = some (.waiting work) →
    t.running < limit → ∃ u, Step limit t (.turn i .start) u
  goes_on : t.fired = false → (∃ i < jobs.length, es.count (.turn i .finish) = 0) →
    ∃ e u, e ≠ .fire ∧ Step limit t e u
  complete : t.fired = false → (∀ e u, Step limit t e u → e = .fire) →
    ∀ i < jobs.length, es.count (.turn i .finish) = 1

theorem gives_back_of_step {i : Nat} (h : Step limit s (.turn i .finish) t) :
    t.free = s.free + 1 ∧ t.running + 1 = s.running := by
  have hpermits := step_permits h
  have hfree : t.free = s.free + 1 := by
    cases h with
    | turn _ _ worker worker' w free hworker hturn hdrop =>
      cases hturn
      rfl
  exact ⟨hfree, by omega⟩

/-- A caller that has ended although the signal has not fired has joined a worker for every
job. -/
theorem finished_of_ended {jobs : List (Work W α)} {w : W} {fired : Bool} {es : List Event}
    (h : Run limit (State.initial limit jobs w fired) es t) (hlimit : limit ≤ maxPermits)
    (hfired : t.fired = false) {result : Except Halt (List (Completion α))}
    (hat : t.caller = .ended result) (i : Nat) (hi : i < jobs.length) :
    es.count (.turn i .finish) = 1 := by
  obtain ⟨results, rfl⟩ := exists_results_of_ended hlimit (run_roster h) hfired hat
  have hplaced := (run_roster h).placed
  simp only [Placed, hat] at hplaced
  obtain ⟨hlength, hall, -⟩ := hplaced
  have hget := List.getElem?_eq_getElem (l := t.workers) (i := i) (by omega)
  have hjoined := hall _ (List.mem_of_getElem? hget)
  rw [run_count notes_hasEnded h, hget]
  cases hworker : t.workers[i] with
  | joined => rfl
  | _ => rw [hworker] at hjoined; cases hjoined

/-- While a job is unfinished and the signal has not fired, there is a step to take. -/
theorem goes_on_of_unfinished {jobs : List (Work W α)} {w : W} {fired : Bool} {es : List Event}
    (h : Run limit (State.initial limit jobs w fired) es t) (hpos : 0 < limit)
    (hlimit : limit ≤ maxPermits) (hfired : t.fired = false)
    (hunfinished : ∃ i < jobs.length, es.count (.turn i .finish) = 0) :
    ∃ e u, e ≠ .fire ∧ Step limit t e u := by
  refine exists_step (run_roster h) (permits_conserved h) hpos ?_
  intro result hat
  obtain ⟨i, hi, hcount⟩ := hunfinished
  have hone := finished_of_ended h hlimit hfired hat i hi
  omega

/-- In every state that can be reached no more jobs run than there are permits; none has started
twice, and each gives its permit back when it ends. Until the signal fires the run goes on, to the
end of every job. -/
theorem run_bounded (concurrency : UInt64) (hlimit : permits concurrency ≤ maxPermits)
    (jobs : List (Work W α)) (w : W) (fired : Bool) (es : List Event) (t : State W α)
    (h : Run (permits concurrency) (State.initial (permits concurrency) jobs w fired) es t) :
    Bounded (permits concurrency) jobs es t := by
  have hpermits := permits_conserved h
  have hgoes := goes_on_of_unfinished h (permits_pos concurrency) hlimit
  refine ⟨hpermits, by omega, ?_, ?_, fun _ _ => gives_back_of_step, ?_, hgoes, ?_⟩
  · intro i
    rw [run_count notes_hasBegun h]
    exact Bool.toNat_le _
  · intro i result hi
    exact ⟨_, .turn t i _ _ _ _ _ hi (.finish t.world t.free result) (by simp)⟩
  · intro i work hi hfew
    exact exists_start _ hi (by omega)
  · intro hfired hstuck i hi
    have hat : ∃ result, t.caller = .ended result := by
      by_contra hnone
      obtain ⟨e, u, he, hstep⟩ := exists_step (run_roster h) hpermits (permits_pos concurrency)
        fun result hat => hnone ⟨result, hat⟩
      exact he (hstuck e u hstep)
    obtain ⟨result, hat⟩ := hat
    exact finished_of_ended h hlimit hfired hat i hi

/-- One permit for two jobs, the second of which breaks down while the first still waits. -/
theorem run_bounded_onePermit :
    let jobs : List (Work Unit Nat) := [.ended (.returned 7), .ended .brokeDown]
    let es : List Event := [.move, .spawn, .spawn, .turn 1 .start, .turn 1 .finish]
    let t : State Unit Nat :=
      ⟨(), [.waiting (.ended (.returned 7)), .finished .brokeDown], [none, none], 1,
        .spawning [], false⟩
    permits 1 ≤ maxPermits ∧
      Run (permits 1) (State.initial (permits 1) jobs () false) es t ∧
      Bounded (permits 1) jobs es t := by
  intro jobs es t
  have hlimit : permits 1 ≤ maxPermits := by decide
  have hrun : Run (permits 1) (State.initial (permits 1) jobs () false) es t := by
    have henter := Steps.nil.snoc (Step.move (State.initial (permits 1) jobs () false) _
      (.enter jobs rfl rfl hlimit))
    have hfirst := henter.snoc (.spawn _ (.ended (.returned 7)) [.ended .brokeDown] rfl)
    have hsecond := hfirst.snoc (.spawn _ (.ended .brokeDown) [] rfl)
    have hstart := hsecond.snoc (.turn _ 1 .start _ _ _ _ rfl (.start () 0 _) (by simp))
    exact hstart.snoc (.turn _ 1 .finish _ _ _ _ rfl (.finish () 0 .brokeDown) (by simp))
  exact ⟨hlimit, hrun, run_bounded 1 hlimit jobs () false es t hrun⟩

end Validium.Pool
