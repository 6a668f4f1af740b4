import Validium.Retry

/-!
Relations between actions that sequencing keeps, and what they say of repeating. Repeating is
made of attempts, waits and looks at the signal alone, so what holds of these holds of a run.
-/
namespace Validium

structure Likeness (m n : Type → Type) [Monad m] [Monad n] where
  Like : {α : Type} → m α → n α → Prop
  pure : ∀ {α : Type} (a : α), Like (Pure.pure a) (Pure.pure a)
  bind : ∀ {α β : Type} {x : m α} {y : n α} {f : α → m β} {g : α → n β},
    Like x y → (∀ a, Like (f a) (g a)) → Like (x >>= f) (y >>= g)

/-- Repeating looks at its surroundings through the pacing alone, so attempts and pacings that
are alike make runs that are alike. -/
theorem Likeness.runFrom {m n : Type → Type} {ε α : Type} [Monad m] [Monad n] (L : Likeness m n)
    (policy : Retry.Policy) (pacing : Retry.Pacing m) (pacing' : Retry.Pacing n)
    (hfired : L.Like pacing.fired pacing'.fired)
    (hsleep : ∀ d, L.Like (pacing.sleep d) (pacing'.sleep d))
    (hspread : ∀ d, L.Like (pacing.spread d) (pacing'.spread d))
    (op : UInt32 → m (Except ε α)) (op' : UInt32 → n (Except ε α))
    (hop : ∀ attempt, L.Like (op attempt) (op' attempt)) (retryable : ε → Bool) (left : Nat)
    (attempt : UInt32) :
    L.Like (Retry.runFrom policy pacing op retryable left attempt)
      (Retry.runFrom policy pacing' op' retryable left attempt) := by
  have hdelay : ∀ k, L.Like (Retry.delay policy pacing k) (Retry.delay policy pacing' k) := by
    intro k
    unfold Retry.delay
    cases policy.backoff with
    | fixed => exact L.pure _
    | exponential => exact hspread _
  -- The budget is looked at only after a failure, so its two cases are split there.
  induction left using Nat.strongRecOn generalizing attempt with
  | ind left ih =>
    unfold Retry.runFrom
    refine L.bind hfired ?_
    intro fired
    cases fired with
    | true => exact L.pure _
    | false =>
      refine L.bind (hop attempt) ?_
      intro outcome
      cases outcome with
      | ok value => exact L.pure _
      | error e =>
        dsimp only
        cases retryable e with
        | false => exact L.pure _
        | true =>
          cases left with
          | zero => exact L.pure _
          | succ left =>
            refine L.bind (hdelay attempt) ?_
            intro d
            refine L.bind (hsleep d) ?_
            intro slept
            refine L.bind hfired ?_
            intro fired
            cases fired with
            | true => exact L.pure _
            | false => exact ih left (Nat.lt_succ_self left) (attempt + 1)

end Validium
