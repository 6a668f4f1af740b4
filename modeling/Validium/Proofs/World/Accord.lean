import Validium.Proofs.World.Passage

/-!
Two runs, each in a world of its own. Actions accord along a relation between the worlds when
from related worlds they return the same and leave related worlds. What is put together in the
same way from actions that accord does accord, repeating and pools included, as long as the
two signals cannot be told apart along the relation.
-/
namespace Validium

variable {V W α β ε : Type}

def Accord (R : V → W → Prop) (x : StateM V α) (y : StateM W α) : Prop :=
  ∀ v w, R v w → (x v).1 = (y w).1 ∧ R (x v).2 (y w).2

namespace Accord

section Sequencing

variable {R : V → W → Prop}

theorem pure (a : α) : Accord R (Pure.pure a) (Pure.pure a) := by
  intro v w hw
  exact ⟨rfl, hw⟩

theorem bind {x : StateM V α} {y : StateM W α} {f : α → StateM V β} {g : α → StateM W β}
    (hx : Accord R x y) (hf : ∀ a, Accord R (f a) (g a)) : Accord R (x >>= f) (y >>= g) := by
  intro v w hw
  obtain ⟨hsame, hnext⟩ := hx v w hw
  have hrun : (x >>= f) v = f (y w).1 (x v).2 := congrArg (fun a => f a (x v).2) hsame
  rw [hrun]
  exact hf (y w).1 (x v).2 (y w).2 hnext

theorem map {x : StateM V α} {y : StateM W α} (hx : Accord R x y) (f : α → β) :
    Accord R (f <$> x) (f <$> y) := by
  intro v w hw
  obtain ⟨hsame, hnext⟩ := hx v w hw
  exact ⟨congrArg f hsame, hnext⟩

theorem run_bind {x : ExceptT ε (StateM V) α} {y : ExceptT ε (StateM W) α}
    {f : α → ExceptT ε (StateM V) β} {g : α → ExceptT ε (StateM W) β}
    (hx : Accord R x.run y.run) (hf : ∀ a, Accord R (f a).run (g a).run) :
    Accord R (x >>= f).run (y >>= g).run := by
  rw [ExceptT.run_bind, ExceptT.run_bind]
  refine hx.bind ?_
  intro r
  cases r with
  | ok a => exact hf a
  | error e => exact pure _

theorem run_lift {x : StateM V α} {y : StateM W α} (hx : Accord R x y) :
    Accord R (liftM x : ExceptT ε (StateM V) α).run (liftM y : ExceptT ε (StateM W) α).run := by
  intro v w hw
  obtain ⟨hsame, hnext⟩ := hx v w hw
  exact ⟨congrArg Except.ok hsame, hnext⟩

end Sequencing

/-- Where one action only notes more than the other, both are told by one run. -/
theorem eq_of_fst {x : StateM (W × V) α} {y : StateM W α}
    (h : Accord (fun s w => s.1 = w) x y) (w : W) (v : V) :
    x (w, v) = ((y w).1, (y w).2, (x (w, v)).2.2) := by
  obtain ⟨hsame, hworld⟩ := h (w, v) w rfl
  exact Prod.ext hsame (Prod.ext hworld rfl)

end Accord

def Accord.likeness (R : V → W → Prop) : Likeness (StateM V) (StateM W) :=
  ⟨Accord R, Accord.pure, Accord.bind⟩

def Accord.likenessExcept (ε : Type) (R : V → W → Prop) :
    Likeness (ExceptT ε (StateM V)) (ExceptT ε (StateM W)) :=
  ⟨fun x y => Accord R x.run y.run, fun a => Accord.pure (Except.ok a), Accord.run_bind⟩

namespace Accord

section Signals

variable {R : V → W → Prop} {signal : Signal V} {signal' : Signal W}
  (hsignal : ∀ v w, R v w → signal.fired v = signal'.fired w)

include hsignal

theorem isFired : Accord R signal.isFired signal'.isFired := by
  intro v w hw
  exact ⟨hsignal v w hw, hw⟩

theorem awaitBegun {x : StateM V α} {y : StateM W α} (hx : Accord R x y) :
    Accord R (signal.awaitBegun x).run (signal'.awaitBegun y).run := by
  refine run_bind (run_lift hx) ?_
  intro a
  refine run_bind (run_lift (isFired hsignal)) ?_
  intro fired
  cases fired with
  | true => exact pure _
  | false => exact pure _

theorem await {x : StateM V α} {y : StateM W α} (hx : Accord R x y) :
    Accord R (signal.await x).run (signal'.await y).run := by
  refine run_bind (run_lift (isFired hsignal)) ?_
  intro fired
  cases fired with
  | true => exact pure _
  | false => exact awaitBegun hsignal hx

theorem collect {jobs : List (StateM V (Completion α))} {jobs' : List (StateM W (Completion α))}
    (hjobs : List.Forall₂ (Accord R) jobs jobs') :
    Accord R (Pool.collect signal jobs) (Pool.collect signal' jobs') := by
  induction hjobs with
  | nil => exact pure _
  | cons hjob _ ih =>
    refine hjob.bind ?_
    intro result
    refine (isFired hsignal).bind ?_
    intro fired
    cases fired with
    | true => exact pure _
    | false =>
      refine ih.bind ?_
      intro outcome
      cases outcome with
      | ok results => exact pure _
      | error halt => exact pure _

/-- Pools of jobs in accord are in accord. -/
theorem pool (concurrency : UInt64) {jobs : List (StateM V (Completion α))}
    {jobs' : List (StateM W (Completion α))} (hjobs : List.Forall₂ (Accord R) jobs jobs') :
    Accord R (Pool.run signal concurrency jobs) (Pool.run signal' concurrency jobs') := by
  refine (isFired hsignal).bind ?_
  intro fired
  cases fired with
  | true => exact pure _
  | false =>
    by_cases hover : Pool.maxPermits < Pool.permits concurrency
    · simp only [if_pos hover]
      exact pure _
    · simp only [if_neg hover]
      exact collect hsignal hjobs

variable {clock : Clock V} {clock' : Clock W}
  (hsleep : ∀ d, Accord R (clock.sleep d) (clock'.sleep d))
  (hspread : ∀ d, Accord R (clock.spread d) (clock'.spread d))

include hsleep hspread

/-- Repetitions of attempts in accord are in accord. -/
theorem repeating (policy : Retry.Policy) {op : UInt32 → StateM V (Except ε α)}
    {op' : UInt32 → StateM W (Except ε α)} (hop : ∀ attempt, Accord R (op attempt) (op' attempt))
    (retryable : ε → Bool) :
    Accord R (Retry.runIf policy (.ofClock signal clock) op retryable)
      (Retry.runIf policy (.ofClock signal' clock') op' retryable) :=
  (likeness R).runFrom policy (.ofClock signal clock) (.ofClock signal' clock')
    (isFired hsignal) hsleep hspread op op' hop retryable _ _

theorem repeatingInside (policy : Retry.Policy) {op : UInt32 → Interruptible V (Except ε α)}
    {op' : UInt32 → Interruptible W (Except ε α)}
    (hop : ∀ attempt, Accord R (op attempt).run (op' attempt).run) (retryable : ε → Bool) :
    Accord R (Retry.runIf policy (.interruptible signal clock) op retryable).run
      (Retry.runIf policy (.interruptible signal' clock') op' retryable).run := by
  refine (likenessExcept Cancelled R).runFrom policy (.interruptible signal clock)
    (.interruptible signal' clock') ?_ ?_ ?_ op op' hop retryable _ _
  · exact run_lift (isFired hsignal)
  · intro d
    exact await hsignal (hsleep d)
  · intro d
    exact run_lift (hspread d)

end Signals

end Accord

end Validium
