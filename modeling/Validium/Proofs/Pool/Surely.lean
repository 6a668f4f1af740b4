import Validium.Proofs.Pool.Outcome
import Validium.Proofs.Pool.Quiet

/-!
What every run of the pool comes to as long as the signal has not fired, whatever the order of
its steps. Such a run never stops before its end and cannot go on for ever, so what holds at
every end surely comes about; and the pool's run of its jobs in their order is one such run.
-/
namespace Validium.Pool

variable {W α : Type}

/-- Every run in which the signal has not fired comes to an end, with results that have the
property together with the world. -/
structure Surely (limit : Nat) (jobs : List (Work W α)) (w : W)
    (P : List (Completion α) → W → Prop) : Prop where
  ended : ∀ es t result, Run limit (State.initial limit jobs w false) es t → t.fired = false →
    t.caller = .ended result → ∃ results, result = .ok results ∧ P results t.world
  goes_on : ∀ es t, Run limit (State.initial limit jobs w false) es t →
    (∀ result, t.caller ≠ .ended result) → ∃ e u, e ≠ .fire ∧ Step limit t e u
  finite : ∀ es t, Run limit (State.initial limit jobs w false) es t →
    Acc (fun v u => ∃ e, Step limit u e v) t

section Ends

variable {limit : Nat} {jobs : List (Work W α)} {w : W} {P : List (Completion α) → W → Prop}

/-- What holds of the results at every end is sure, as the pool cannot get stuck. -/
theorem surely_of_ended (hpos : 0 < limit) (hlimit : limit ≤ maxPermits)
    (h : ∀ es t results, Run limit (State.initial limit jobs w false) es t →
      t.caller = .ended (.ok results) → P results t.world) : Surely limit jobs w P where
  ended := by
    intro es t result hrun hfired hat
    obtain ⟨results, rfl⟩ := exists_results_of_ended hlimit (run_roster hrun) hfired hat
    exact ⟨results, rfl, h es t results hrun hat⟩
  goes_on := fun es t hrun => exists_step (run_roster hrun) (permits_conserved hrun) hpos
  finite := fun es t hrun => wellFounded_step.apply t

/-- It is enough to know the results to which each job can come. -/
theorem surely_of_ends (hpos : 0 < limit) (hlimit : limit ≤ maxPermits)
    (h : ∀ results w', List.Forall₂ Work.Ends jobs results → P results w') :
    Surely limit jobs w P :=
  surely_of_ended hpos hlimit fun _ t results hrun hat =>
    h results t.world (ends_of_ended (run_roster hrun) hat)

end Ends

theorem Work.ends_ofAction (action : StateM W (Completion α)) (result : Completion α)
    (h : (Work.ofAction action).Ends result) : ∃ w, result = (action w).1 := by
  cases h with
  | step _ _ w _ hrest =>
    cases hrest
    exact ⟨w, rfl⟩

/-- What surely comes about is what the pool's run in the listed order returns. -/
theorem Surely.run {concurrency : UInt64} {works : List (Work W α)} {w : W}
    {P : List (Completion α) → W → Prop} (h : Surely (permits concurrency) works w P)
    {signal : Signal W} (hquiet : signal.Quiet) (hlimit : permits concurrency ≤ maxPermits) :
    ∃ results, (Pool.run signal concurrency (works.map Work.run) w).1 = .ok results ∧
      P results (Pool.run signal concurrency (works.map Work.run) w).2 := by
  obtain ⟨es, t, hrun, hcaller, hworld, hcut⟩ := exists_run_of_run signal concurrency works w
  rw [hquiet w] at hrun
  have hok := congrFun (run_quiet hquiet concurrency hlimit works Work.run) w
  rw [map_apply] at hok
  have hfired : t.fired = false := by
    cases hfires : t.fired with
    | false => rfl
    | true =>
      have hcancelled := hcut hfires
      rw [hok] at hcancelled
      cases hcancelled
  obtain ⟨results, hresult, hresults⟩ := h.ended es t _ hrun hfired hcaller
  exact ⟨results, hresult, hworld ▸ hresults⟩

end Validium.Pool
