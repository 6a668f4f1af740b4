import Validium.Proofs.World.Passage

/-!
Runs under a signal that never fires. Nothing is cut short: an awaited step gives its own
result, and the pool runs every job, one after another, and has one result for each.
-/
namespace Validium

variable {W α β γ : Type}

def Signal.Quiet (signal : Signal W) : Prop := ∀ w, signal.fired w = false

namespace Signal

theorem quiet_never : (never : Signal W).Quiet := by
  intro w
  rfl

theorem isFired_bind_quiet {signal : Signal W} (hquiet : signal.Quiet)
    (f : Bool → StateM W β) : signal.isFired >>= f = f false := by
  funext w
  exact congrArg (fun fired => f fired w) (hquiet w)

theorem awaitBegun_quiet {signal : Signal W} (hquiet : signal.Quiet) (step : StateM W α) :
    (signal.awaitBegun step).run = Except.ok <$> step := by
  simp only [awaitBegun, liftM_eq_lift, ExceptT.run_bind_lift, isFired_bind_quiet hquiet]
  exact bind_pure_comp Except.ok step

theorem await_quiet {signal : Signal W} (hquiet : signal.Quiet) (step : StateM W α) :
    (signal.await step).run = Except.ok <$> step := by
  simp only [await, liftM_eq_lift, ExceptT.run_bind_lift, isFired_bind_quiet hquiet,
    Bool.false_eq_true, if_false]
  exact bind_pure_comp Except.ok step

end Signal

namespace Pool

theorem collect_quiet {signal : Signal W} (hquiet : signal.Quiet)
    (jobs : List (StateM W (Completion α))) :
    collect signal jobs = Except.ok <$> jobs.mapM id := by
  induction jobs with
  | nil => rfl
  | cons job rest ih =>
    simp only [collect, Signal.isFired_bind_quiet hquiet, ih, List.mapM_cons, id, map_bind]
    simp

/-- Where the signal never fires, the pool does its jobs one by one. -/
theorem run_quiet {signal : Signal W} (hquiet : signal.Quiet) (concurrency : UInt64)
    (hpermits : permits concurrency ≤ maxPermits) (items : List β)
    (job : β → StateM W (Completion α)) :
    run signal concurrency (items.map job) = Except.ok <$> items.mapM job := by
  have hnot : ¬ maxPermits < permits concurrency := Nat.not_lt.mpr hpermits
  simp only [run, Signal.isFired_bind_quiet hquiet, if_neg hnot, collect_quiet hquiet]
  rw [List.mapM_map]
  rfl

theorem map_mapM (f : β → StateM W α) (g : α → γ) (items : List β) :
    List.map g <$> items.mapM f = items.mapM fun item => g <$> f item := by
  induction items with
  | nil => rfl
  | cons item rest ih =>
    simp only [List.mapM_cons, map_bind, ← ih]
    simp

/-- Each job ran at a world that the jobs before it led to. -/
theorem mapM_ran (p : Passage W) (f : β → StateM W α) (h : ∀ item, p.Admits (f item))
    (items : List β) (w : W) :
    List.Forall₂ (fun item result => ∃ w', p.leads w w' ∧ (f item w').1 = result)
      items (items.mapM f w).1 := by
  induction items generalizing w with
  | nil => exact List.Forall₂.nil
  | cons item rest ih =>
    rw [List.mapM_cons]
    refine List.Forall₂.cons ⟨w, p.refl w, rfl⟩ ((ih (f item w).2).imp ?_)
    rintro j result ⟨w', hw', hresult⟩
    exact ⟨w', p.trans (h item w) hw', hresult⟩

end Pool

end Validium
