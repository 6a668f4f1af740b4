import Validium.Proofs.Retry.Course

/-!
Repeating attempts that can be told beforehand. Where the effects of each attempt and whether it
concludes the run depend on its number alone, a run ends with the first attempt that concludes it,
and its effects are those of the attempts up to this one, one after the other. Under a signal that
never fires it does not matter whether the run is itself a step that is awaited.
-/
namespace Validium

variable {W E ε α : Type}

def Signal.likeness (W : Type) : Likeness (ExceptT Cancelled (StateM W)) (StateM W) where
  Like x y := x.run = Except.ok <$> y
  pure _ := rfl
  bind := by
    intro α β x y f g hx hf
    rw [ExceptT.run_bind, hx, map_eq_pure_bind, map_eq_pure_bind, bind_assoc, bind_assoc]
    refine bind_congr fun a => ?_
    rw [pure_bind]
    exact (hf a).trans (map_eq_pure_bind _ _)

namespace Retry.Repetition

/-- Under a quiet signal it does not matter whether the signal is looked at inside an attempt. -/
theorem run_interruptible (r : Repetition W ε α) (hquiet : r.signal.Quiet)
    {op : UInt32 → Interruptible W (Except ε α)} (hop : ∀ n, (op n).run = Except.ok <$> r.op n) :
    (runIf r.policy (.interruptible r.signal r.clock) op r.retryable).run =
      Except.ok <$> r.run :=
  (Signal.likeness W).runFrom r.policy (.interruptible r.signal r.clock) r.pacing rfl
    (fun d => Signal.await_quiet hquiet (r.clock.sleep d)) (fun _ => rfl) op r.op hop
    r.retryable _ _

/-- Each attempt has an outcome of this kind and adds these effects to those that there are, and
waits have no effects. -/
structure Foretold (r : Repetition (W × List E) ε α) (log : List E)
    (kind : Nat → Except ε α → Prop) (effects : Nat → List E) : Prop where
  op : ∀ i (s : W × List E), s.2 = log ++ (List.range i).flatMap effects →
    kind i (r.op (number i) s).1 ∧ (r.op (number i) s).2.2 = s.2 ++ effects i
  sleep : ∀ d s, (r.clock.sleep d s).2.2 = s.2
  spread : ∀ d s, (r.clock.spread d s).2.2 = s.2

namespace Foretold

variable {r : Repetition (W × List E) ε α} {log : List E} {kind : Nat → Except ε α → Prop}
  {effects : Nat → List E} (h : r.Foretold log kind effects) (w : W)

include h

theorem pause (n : UInt32) (s : W × List E) : (r.pause n s).2.2 = s.2 := by
  unfold Repetition.pause delay
  cases r.policy.backoff with
  | fixed => exact h.sleep _ _
  | exponential => exact (h.sleep _ _).trans (h.spread _ _)

theorem before (i : Nat) :
    (r.before (w, log) i).2 = log ++ (List.range i).flatMap effects := by
  induction i with
  | zero => exact (List.append_nil log).symm
  | succ i ih =>
    rw [Repetition.before, h.pause, (h.op i _ ih).2, ih, List.range_succ, List.flatMap_append,
      List.flatMap_singleton, List.append_assoc]

theorem outcome (i : Nat) : kind i (r.outcome (w, log) i) :=
  (h.op i _ (h.before w i)).1

theorem after (i : Nat) :
    (r.after (w, log) i).2 = log ++ (List.range (i + 1)).flatMap effects := by
  rw [Repetition.after, (h.op i _ (h.before w i)).2, h.before w i, List.range_succ,
    List.flatMap_append, List.flatMap_singleton, List.append_assoc]

variable (hquiet : r.signal.Quiet)

include hquiet

/-- Result and log of a run whose attempts are foretold. -/
theorem run_of_conclusion {i : Nat} (hi : i < r.budget)
    (hfails : ∀ j < i, ∀ o, kind j o → ∃ e, o = .error e ∧ r.retryable e = true)
    {result : Except (Error ε) α} (hresult : r.conclusion (w, log) i = some result) :
    (r.run (w, log)).1 = result ∧
      (r.run (w, log)).2.2 = log ++ (List.range (i + 1)).flatMap effects := by
  have hall : ∀ j < i, r.Fails (w, log) j := fun j hj => hfails j hj _ (h.outcome w j)
  rw [Repetition.run_of_conclusion hi hall (fun j _ => hquiet _) result hresult]
  exact ⟨rfl, h.after w i⟩

/-- The first attempt with a value ends the run. -/
theorem run_of_value {i : Nat} (hi : i < r.budget)
    (hfails : ∀ j < i, ∀ o, kind j o → ∃ e, o = .error e ∧ r.retryable e = true) {value : α}
    (hvalue : ∀ o, kind i o → o = .ok value) :
    (r.run (w, log)).1 = .ok value ∧
      (r.run (w, log)).2.2 = log ++ (List.range (i + 1)).flatMap effects := by
  apply h.run_of_conclusion w hquiet hi hfails
  rw [conclusion, hvalue _ (h.outcome w i)]

/-- So does the first failure that is not worth another attempt. -/
theorem run_of_fatal {i : Nat} (hi : i < r.budget)
    (hfails : ∀ j < i, ∀ o, kind j o → ∃ e, o = .error e ∧ r.retryable e = true) {e : ε}
    (he : ∀ o, kind i o → o = .error e) (hfatal : r.retryable e = false) :
    (r.run (w, log)).1 = .error (.fatal (number i) e) ∧
      (r.run (w, log)).2.2 = log ++ (List.range (i + 1)).flatMap effects := by
  apply h.run_of_conclusion w hquiet hi hfails
  rw [conclusion, he _ (h.outcome w i)]
  exact if_pos hfatal

/-- Where all attempts fail, all are made. -/
theorem run_of_fails
    (hfails : ∀ j < r.budget, ∀ o, kind j o → ∃ e, o = .error e ∧ r.retryable e = true) :
    (∃ e, (r.run (w, log)).1 = .error (.exhausted r.policy.attempts e)) ∧
      (r.run (w, log)).2.2 = log ++ (List.range r.budget).flatMap effects := by
  have hpos := r.budget_pos
  have hlast : r.budget - 1 + 1 = r.budget := by omega
  obtain ⟨e, he, hretry⟩ := hfails (r.budget - 1) (by omega) _ (h.outcome w _)
  have hresult : r.conclusion (w, log) (r.budget - 1) =
      some (.error (.exhausted r.policy.attempts e)) := by
    rw [conclusion, he]
    simp only [hretry, hlast, if_true]
    rfl
  obtain ⟨hrun, hlog⟩ := h.run_of_conclusion w hquiet (by omega)
    (fun j hj => hfails j (by omega)) hresult
  rw [hlast] at hlog
  exact ⟨⟨e, hrun⟩, hlog⟩

end Foretold

end Retry.Repetition

end Validium
