import Validium.Proofs.World.Passage

/-!
Steps under a signal that may fire, and repeating inside such a step. A step that was not cut
short is the step itself, and a value that repeating gives is the value of one of its attempts.
-/
namespace Validium

variable {W α β ε : Type}

/-- A sequence of two steps ends well only if both do. -/
theorem exists_of_run_bind {x : ExceptT ε (StateM W) α} {f : α → ExceptT ε (StateM W) β}
    {w w' : W} {b : β} (h : (x >>= f).run w = (.ok b, w')) :
    ∃ a w₁, x.run w = (.ok a, w₁) ∧ (f a).run w₁ = (.ok b, w') := by
  have hrun : (x >>= f).run w = (ExceptT.bindCont f (x.run w).1) (x.run w).2 := rfl
  rw [hrun] at h
  rcases hx : x.run w with ⟨e | a, w₁⟩
  · rw [hx] at h
    cases h
  · rw [hx] at h
    exact ⟨a, w₁, rfl, h⟩

/-- A step that runs on once begun is taken, and its result is kept unless the signal has fired
by then. -/
theorem Signal.awaitBegun_run (signal : Signal W) (step : StateM W α) (w : W) :
    (signal.awaitBegun step).run w =
      (if signal.fired (step w).2 then .error .cancelled else .ok (step w).1, (step w).2) := by
  rw [awaitBegun, liftM_eq_lift, ExceptT.run_bind_lift, bind_apply, liftM_eq_lift,
    ExceptT.run_bind_lift, signal.isFired_bind_apply]
  cases signal.fired (step w).2 <;> rfl

/-- A step once begun is taken whole; only its result may be withheld. -/
theorem Signal.awaitBegun_cases (signal : Signal W) (step : StateM W α) (w : W) :
    (signal.awaitBegun step).run w = (.error .cancelled, (step w).2) ∨
      (signal.awaitBegun step).run w = (.ok (step w).1, (step w).2) := by
  rw [awaitBegun_run]
  cases signal.fired (step w).2 with
  | true => exact .inl rfl
  | false => exact .inr rfl

/-- A step under the signal is not begun, or is cut short once begun, or goes through. -/
theorem Signal.await_cases (signal : Signal W) (step : StateM W α) (w : W) :
    (signal.await step).run w = (.error .cancelled, w) ∨
      (signal.await step).run w = (.error .cancelled, (step w).2) ∨
      (signal.await step).run w = (.ok (step w).1, (step w).2) := by
  rw [await, liftM_eq_lift, ExceptT.run_bind_lift, signal.isFired_bind_apply]
  cases signal.fired w with
  | true => exact .inl rfl
  | false => exact .inr (signal.awaitBegun_cases step w)

/-- A step that was not cut short is the step itself. -/
theorem Signal.step_of_await {signal : Signal W} {step : StateM W α} {w w' : W} {a : α}
    (h : (signal.await step).run w = (.ok a, w')) : step w = (a, w') := by
  rcases signal.await_cases step w with hcut | hcut | hthrough
  · rw [hcut] at h
    cases h
  · rw [hcut] at h
    cases h
  · rw [hthrough] at h
    cases h
    rfl

namespace Retry

variable (policy : Policy) (signal : Signal W) (clock : Clock W)
  (op : UInt32 → Interruptible W (Except ε α)) (retryable : ε → Bool)

/-- A value that repeating gives is one that an attempt gave, and nothing was done after
it. -/
theorem exists_attempt_of_value (left : Nat) (attempt : UInt32) (w w' : W) (value : α)
    (h : (runFrom policy (.interruptible signal clock) op retryable left attempt).run w =
      (.ok (.ok value), w')) : ∃ n w₁, (op n).run w₁ = (.ok (.ok value), w') := by
  induction left using Nat.strongRecOn generalizing attempt w with
  | ind left ih =>
    unfold runFrom at h
    obtain ⟨fired, w₁, -, h⟩ := exists_of_run_bind h
    cases fired with
    | true => cases h
    | false =>
      obtain ⟨outcome, w₂, houtcome, h⟩ := exists_of_run_bind h
      cases outcome with
      | ok result =>
        cases h
        exact ⟨attempt, _, houtcome⟩
      | error e =>
        dsimp only at h
        cases hretry : retryable e with
        | false =>
          rw [hretry] at h
          cases h
        | true =>
          rw [hretry] at h
          cases left with
          | zero => cases h
          | succ left =>
            obtain ⟨d, w₃, -, h⟩ := exists_of_run_bind h
            obtain ⟨slept, w₄, -, h⟩ := exists_of_run_bind h
            obtain ⟨fired, w₅, -, h⟩ := exists_of_run_bind h
            cases fired with
            | true => cases h
            | false => exact ih left (Nat.lt_succ_self left) (attempt + 1) _ h

end Retry

end Validium
