import Validium.Proofs.Pool.Quiet
import Validium.Proofs.World.Accord

/-!
Two runs of one action. An action is indifferent to a passage when it does not notice where
on the passage it starts: from both ends it returns the same, and the passage joins the
worlds that it leaves. What is put together from indifferent actions is indifferent, as long
as the signal that is looked at in between never fires.
-/
namespace Validium.Passage

variable {W α β ε : Type}

def Indifferent (p : Passage W) (action : StateM W α) : Prop :=
  ∀ w w', p.leads w w' → (action w').1 = (action w).1 ∧ p.leads (action w).2 (action w').2

variable (p : Passage W)

/-- The two runs accord, the later world first. -/
theorem indifferent_iff_accord (action : StateM W α) :
    p.Indifferent action ↔ Accord (fun w' w => p.leads w w') action action :=
  ⟨fun h w' w => h w w', fun h w w' => h w' w⟩

theorem indifferent_pure (a : α) : p.Indifferent (pure a : StateM W α) :=
  (p.indifferent_iff_accord _).mpr (Accord.pure a)

theorem indifferent_run_bind (x : ExceptT ε (StateM W) α) (f : α → ExceptT ε (StateM W) β)
    (hx : p.Indifferent x.run) (hf : ∀ a, p.Indifferent (f a).run) :
    p.Indifferent (x >>= f).run := by
  rw [indifferent_iff_accord] at hx ⊢
  refine hx.run_bind ?_
  intro a
  exact (p.indifferent_iff_accord _).mp (hf a)

section Quiet

variable {signal : Signal W} (hquiet : signal.Quiet)

include hquiet

theorem indifferent_awaitBegun (step : StateM W α) (h : p.Indifferent step) :
    p.Indifferent (signal.awaitBegun step).run := by
  rw [indifferent_iff_accord] at h ⊢
  refine h.awaitBegun ?_
  intro w' w _
  rw [hquiet w', hquiet w]

theorem indifferent_await (step : StateM W α) (h : p.Indifferent step) :
    p.Indifferent (signal.await step).run := by
  rw [indifferent_iff_accord] at h ⊢
  refine h.await ?_
  intro w' w _
  rw [hquiet w', hquiet w]

end Quiet

end Validium.Passage
