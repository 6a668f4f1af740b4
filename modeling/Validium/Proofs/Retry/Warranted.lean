import Validium.Proofs.World.Passage

/-!
Operations that report having been given up. They do so only where the signal has fired: an
awaited step because the signal is looked at last, and an operation made of such steps because
it stops at the first of them that was cut short.
-/
namespace Validium

variable {W α β ε : Type}

/-- Wherever the action ends with a result of the kind, the signal has fired. -/
def Signal.Warrants (signal : Signal W) (givenUp : α → Prop) (x : StateM W α) : Prop :=
  ∀ w, givenUp (x w).1 → signal.fired (x w).2 = true

def CutShort (r : Except Cancelled α) : Prop := r = .error .cancelled

theorem not_cutShort_ok (a : α) : ¬ CutShort (.ok a) := by
  intro h
  cases h

namespace Signal

variable {signal : Signal W} {givenUp : α → Prop}

theorem warrants_pure (a : α) (h : ¬ givenUp a) : signal.Warrants givenUp (pure a) := by
  intro w hgiven
  exact absurd hgiven h

theorem warrants_map {givenUp' : β → Prop} {x : StateM W α} (hx : signal.Warrants givenUp x)
    (f : α → β) (hf : ∀ a, givenUp' (f a) → givenUp a) : signal.Warrants givenUp' (f <$> x) := by
  intro w hgiven
  exact hx w (hf _ hgiven)

/-- A sequence may report what cut its first step short. -/
theorem warrants_run_bind {givenUp : Except Cancelled α → Prop} {x : Interruptible W β}
    {f : β → Interruptible W α} (hx : signal.Warrants CutShort x.run)
    (hf : ∀ b, signal.Warrants givenUp (f b).run) : signal.Warrants givenUp (x >>= f).run := by
  intro w
  rw [ExceptT.run_bind, bind_apply]
  cases hresult : (x.run w).1 with
  | ok b => exact hf b (x.run w).2
  | error c =>
    intro hgiven
    exact hx w hresult

theorem warrants_run_lift (x : StateM W α) :
    signal.Warrants CutShort (liftM x : Interruptible W α).run := by
  intro w hcut
  cases hcut

/-- Where a look at the signal finds it fired, nothing more has to be shown. -/
theorem warrants_isFired_bind {givenUp : Except Cancelled α → Prop} (a : Except Cancelled α)
    (f : Bool → Interruptible W α) (hfired : (f true).run = pure a)
    (hquiet : signal.Warrants givenUp (f false).run) :
    signal.Warrants givenUp (liftM signal.isFired >>= f).run := by
  intro w hgiven
  rw [liftM_eq_lift, ExceptT.run_bind_lift, signal.isFired_bind_apply] at hgiven ⊢
  cases hw : signal.fired w with
  | true =>
    rw [hfired]
    exact hw
  | false =>
    rw [hw] at hgiven
    exact hquiet w hgiven

theorem warrants_awaitBegun (step : StateM W α) :
    signal.Warrants CutShort (signal.awaitBegun step).run := by
  refine warrants_run_bind (warrants_run_lift step) ?_
  intro a
  exact warrants_isFired_bind (.error .cancelled) _ rfl (warrants_pure _ (not_cutShort_ok a))

theorem warrants_await (step : StateM W α) :
    signal.Warrants CutShort (signal.await step).run :=
  warrants_isFired_bind (.error .cancelled) _ rfl (warrants_awaitBegun step)

end Signal

namespace Retry

def GivenUp : Except Cancelled (Except (Error ε) α) → Prop
  | .error _ => True
  | .ok (.error .cancelled) => True
  | .ok _ => False

variable (policy : Policy) (signal : Signal W) (clock : Clock W)
  (op : UInt32 → Interruptible W (Except ε α)) (retryable : ε → Bool)

/-- Repetition is cut short only where the signal has fired. -/
theorem warrants_interruptible (hop : ∀ attempt, signal.Warrants CutShort (op attempt).run)
    (left : Nat) (attempt : UInt32) : signal.Warrants GivenUp
      (runFrom policy (.interruptible signal clock) op retryable left attempt).run := by
  have hdelay : ∀ n,
      signal.Warrants CutShort (delay policy (.interruptible signal clock) n).run := by
    intro n
    unfold delay
    cases policy.backoff with
    | fixed => exact Signal.warrants_pure _ (not_cutShort_ok _)
    | exponential => exact Signal.warrants_run_lift _
  induction left using Nat.strongRecOn generalizing attempt with
  | ind left ih =>
    unfold runFrom
    refine Signal.warrants_isFired_bind (.ok (.error .cancelled)) _ rfl ?_
    refine Signal.warrants_run_bind (hop attempt) ?_
    intro outcome
    cases outcome with
    | ok value => exact Signal.warrants_pure _ id
    | error e =>
      dsimp only
      cases retryable e with
      | false => exact Signal.warrants_pure _ id
      | true =>
        cases left with
        | zero => exact Signal.warrants_pure _ id
        | succ left =>
          refine Signal.warrants_run_bind (hdelay attempt) ?_
          intro d
          refine Signal.warrants_run_bind (Signal.warrants_await _) ?_
          intro slept
          refine Signal.warrants_isFired_bind (.ok (.error .cancelled)) _ rfl ?_
          exact ih left (Nat.lt_succ_self left) (attempt + 1)

end Retry

end Validium
