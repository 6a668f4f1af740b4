import Mathlib
import Validium.Pool
import Validium.Proofs.Retry.Alike
import Validium.World

/-!
What actions can make of the world, whatever they return. A passage is a reflexive and
transitive relation between worlds, and an action keeps to it when each of its runs leads
along it. An operation keeps to a passage as soon as the steps that it is made of do, so a
frame or an order of growth is shown for the steps alone.
-/
namespace Validium

structure Passage (W : Type) where
  leads : W → W → Prop
  refl : ∀ w, leads w w
  trans : ∀ {a b c}, leads a b → leads b c → leads a c

variable {W S α β ε : Type}

theorem liftM_eq_lift (x : StateM W α) :
    (liftM x : ExceptT ε (StateM W) α) = ExceptT.lift x := rfl

theorem run_liftM (x : StateM W α) (w : W) :
    (liftM x : ExceptT ε (StateM W) α).run w = (.ok (x w).1, (x w).2) := rfl

theorem bind_apply (x : StateM W α) (f : α → StateM W β) (w : W) :
    (x >>= f) w = f (x w).1 (x w).2 := rfl

theorem map_apply (f : α → β) (x : StateM W α) (w : W) :
    (f <$> x) w = (f (x w).1, (x w).2) := rfl

theorem run_bind_ok {x : ExceptT ε (StateM W) α} {a : α} {w w' : W} (h : x.run w = (.ok a, w'))
    (f : α → ExceptT ε (StateM W) β) : (x >>= f).run w = (f a).run w' := by
  rw [ExceptT.run_bind, bind_apply, h]

theorem run_bind_error {x : ExceptT ε (StateM W) α} {e : ε} {w w' : W}
    (h : x.run w = (.error e, w')) (f : α → ExceptT ε (StateM W) β) :
    (x >>= f).run w = (.error e, w') := by
  rw [ExceptT.run_bind, bind_apply, h]
  rfl

theorem run_bind_fst (x : ExceptT ε (StateM W) α) (f : α → ExceptT ε (StateM W) β) (w : W) :
    ((x >>= f).run w).1 = (x.run w).1 >>= fun a => ((f a).run (x.run w).2).1 := by
  rw [ExceptT.run_bind, bind_apply]
  cases (x.run w).1 <;> rfl

theorem Signal.isFired_bind_apply (signal : Signal W) (f : Bool → StateM W α) (w : W) :
    (signal.isFired >>= f) w = f (signal.fired w) w := rfl

/-- The pool looks at the signal first, then at the permits. -/
theorem Pool.run_apply (signal : Signal W) (concurrency : UInt64)
    (jobs : List (StateM W (Completion α))) (w : W) :
    Pool.run signal concurrency jobs w =
      if signal.fired w then (.error .cancelled, w)
      else if maxPermits < permits concurrency then (.error .overcommitted, w)
      else collect signal jobs w := by
  rw [run, signal.isFired_bind_apply]
  cases signal.fired w with
  | true => rfl
  | false =>
    simp only [Bool.false_eq_true, if_false]
    by_cases hover : maxPermits < permits concurrency
    · rw [if_pos hover, if_pos hover]
      rfl
    · rw [if_neg hover, if_neg hover]

namespace Passage

def Admits (p : Passage W) (action : StateM W α) : Prop :=
  ∀ w, p.leads w (action w).2

def untouched (part : Part W S) : Passage W :=
  ⟨fun w w' => part.view w' = part.view w, fun _ => rfl, fun hab hbc => hbc.trans hab⟩

def steady (see : W → S) : Passage W :=
  ⟨fun w w' => see w' = see w, fun _ => rfl, fun hab hbc => hbc.trans hab⟩

/-- What leads only there leads only to a wider place too. -/
theorem Admits.mono {p q : Passage W} {action : StateM W α}
    (hsub : ∀ w w', p.leads w w' → q.leads w w') (h : p.Admits action) :
    q.Admits action := by
  intro w
  exact hsub w _ (h w)

theorem Admits.leads_of_eq {p : Passage W} {action : StateM W α} (h : p.Admits action) {a : α}
    {w w' : W} (hrun : action w = (a, w')) : p.leads w w' := by
  have hleads := h w
  rw [hrun] at hleads
  exact hleads

section Sequencing

variable (p : Passage W)

theorem admits_pure (a : α) : p.Admits (pure a : StateM W α) := by
  intro w
  exact p.refl w

theorem admits_bind (x : StateM W α) (f : α → StateM W β)
    (hx : p.Admits x) (hf : ∀ a, p.Admits (f a)) : p.Admits (x >>= f) := by
  intro w
  exact p.trans (hx w) (hf (x w).1 (x w).2)

/-- What follows may depend on how the first action ended. -/
theorem admits_bind_result (x : StateM W α) (f : α → StateM W β) (hx : p.Admits x)
    (hf : ∀ w, p.leads (x w).2 (f (x w).1 (x w).2).2) : p.Admits (x >>= f) := by
  intro w
  exact p.trans (hx w) (hf w)

theorem admits_get : p.Admits (get : StateM W W) := by
  intro w
  exact p.refl w

theorem admits_run_bind (x : ExceptT ε (StateM W) α) (f : α → ExceptT ε (StateM W) β)
    (hx : p.Admits x.run) (hf : ∀ a, p.Admits (f a).run) : p.Admits (x >>= f).run := by
  rw [ExceptT.run_bind]
  refine p.admits_bind x.run _ hx ?_
  intro r
  cases r with
  | ok a => exact hf a
  | error e => exact p.admits_pure _

theorem admits_run_lift (x : StateM W α) (hx : p.Admits x) :
    p.Admits (liftM x : ExceptT ε (StateM W) α).run := by
  intro w
  exact hx w

theorem admits_map (x : StateM W α) (f : α → β) (hx : p.Admits x) : p.Admits (f <$> x) := by
  intro w
  exact hx w

theorem admits_mapM (items : List β) (f : β → StateM W α) (h : ∀ item, p.Admits (f item)) :
    p.Admits (items.mapM f) := by
  induction items with
  | nil => exact p.admits_pure _
  | cons item rest ih =>
    rw [List.mapM_cons]
    refine p.admits_bind _ _ (h item) ?_
    intro result
    exact p.admits_bind _ _ ih fun results => p.admits_pure _

end Sequencing

section Signals

variable (p : Passage W) (signal : Signal W)

theorem admits_isFired : p.Admits signal.isFired := by
  intro w
  exact p.refl w

/-- Looking at the signal changes nothing, so only the two ways on matter. -/
theorem admits_isFired_bind (f : Bool → StateM W α) (hfired : p.Admits (f true))
    (hquiet : p.Admits (f false)) : p.Admits (signal.isFired >>= f) := by
  intro w
  rw [signal.isFired_bind_apply]
  cases signal.fired w with
  | true => exact hfired w
  | false => exact hquiet w

theorem admits_awaitBegun (step : StateM W α) (h : p.Admits step) :
    p.Admits (signal.awaitBegun step).run := by
  refine p.admits_run_bind _ _ (p.admits_run_lift step h) ?_
  intro a
  refine p.admits_run_bind _ _ (p.admits_run_lift _ (p.admits_isFired signal)) ?_
  intro fired
  cases fired with
  | true => exact p.admits_pure _
  | false => exact p.admits_pure _

theorem admits_await (step : StateM W α) (h : p.Admits step) :
    p.Admits (signal.await step).run := by
  refine p.admits_run_bind _ _ (p.admits_run_lift _ (p.admits_isFired signal)) ?_
  intro fired
  cases fired with
  | true => exact p.admits_pure _
  | false => exact p.admits_awaitBegun signal step h

theorem admits_collect (jobs : List (StateM W (Completion α)))
    (h : ∀ job ∈ jobs, p.Admits job) : p.Admits (Pool.collect signal jobs) := by
  induction jobs with
  | nil => exact p.admits_pure _
  | cons job rest ih =>
    have hrest : p.Admits (Pool.collect signal rest) :=
      ih fun j hj => h j (List.mem_cons_of_mem job hj)
    refine p.admits_bind job _ (h job List.mem_cons_self) ?_
    intro result
    refine p.admits_isFired_bind signal _ (p.admits_pure _) ?_
    refine p.admits_bind _ _ hrest ?_
    intro outcome
    cases outcome with
    | ok results => exact p.admits_pure _
    | error halt => exact p.admits_pure _

theorem admits_pool (concurrency : UInt64) (jobs : List (StateM W (Completion α)))
    (h : ∀ job ∈ jobs, p.Admits job) : p.Admits (Pool.run signal concurrency jobs) := by
  refine p.admits_isFired_bind signal _ (p.admits_pure _) ?_
  by_cases hover : Pool.maxPermits < Pool.permits concurrency
  · simp only [if_pos hover]
    exact p.admits_pure _
  · simp only [if_neg hover]
    exact p.admits_collect signal jobs h

theorem collect_cons (job : StateM W (Completion α)) (rest : List (StateM W (Completion α)))
    (w : W) : (Pool.collect signal (job :: rest) w).1 =
      if signal.fired (job w).2 then .error .cancelled
      else (Pool.collect signal rest (job w).2).1.map ((job w).1 :: ·) := by
  rw [Pool.collect, bind_apply, signal.isFired_bind_apply]
  cases signal.fired (job w).2 with
  | true => rfl
  | false =>
    simp only [Bool.false_eq_true, if_false]
    rw [bind_apply]
    cases (Pool.collect signal rest (job w).2).1 with
    | error halt => rfl
    | ok others => rfl

/-- A run that ends has a result for each job, from a world that the jobs before it led
to. -/
theorem collect_ran (jobs : List (StateM W (Completion α)))
    (h : ∀ job ∈ jobs, p.Admits job) (w : W) (results : List (Completion α))
    (hrun : (Pool.collect signal jobs w).1 = .ok results) :
    List.Forall₂ (fun job result => ∃ w', p.leads w w' ∧ (job w').1 = result) jobs results := by
  induction jobs generalizing w results with
  | nil =>
    cases hrun
    exact List.Forall₂.nil
  | cons job rest ih =>
    have hjob := h job List.mem_cons_self w
    rw [collect_cons] at hrun
    by_cases hfired : signal.fired (job w).2 = true
    · rw [if_pos hfired] at hrun
      cases hrun
    · rw [if_neg hfired] at hrun
      cases hrest : (Pool.collect signal rest (job w).2).1 with
      | error halt =>
        rw [hrest] at hrun
        cases hrun
      | ok others =>
        rw [hrest] at hrun
        cases hrun
        have hothers := ih (fun j hj => h j (List.mem_cons_of_mem job hj)) (job w).2 others hrest
        refine List.Forall₂.cons ⟨w, p.refl w, rfl⟩ (hothers.imp ?_)
        intro j result hran
        obtain ⟨w', hw', hresult⟩ := hran
        exact ⟨w', p.trans hjob hw', hresult⟩

/-- Each result of a pool is that of its job in a world that the jobs before lead to. -/
theorem pool_ran (concurrency : UInt64) (jobs : List (StateM W (Completion α)))
    (h : ∀ job ∈ jobs, p.Admits job) (w : W) (results : List (Completion α))
    (hrun : (Pool.run signal concurrency jobs w).1 = .ok results) :
    List.Forall₂ (fun job result => ∃ w', p.leads w w' ∧ (job w').1 = result) jobs results := by
  rw [Pool.run_apply] at hrun
  by_cases hfired : signal.fired w = true
  · rw [if_pos hfired] at hrun
    cases hrun
  · rw [if_neg hfired] at hrun
    by_cases hover : Pool.maxPermits < Pool.permits concurrency
    · rw [if_pos hover] at hrun
      cases hrun
    · rw [if_neg hover] at hrun
      exact p.collect_ran signal jobs h w results hrun

end Signals

section Repeating

variable (p : Passage W)

def likeness : Likeness (StateM W) (StateM W) :=
  ⟨fun x _ => p.Admits x, p.admits_pure, p.admits_bind _ _⟩

def likenessExcept (ε : Type) : Likeness (ExceptT ε (StateM W)) (ExceptT ε (StateM W)) :=
  ⟨fun x _ => p.Admits x.run, fun a => p.admits_pure (Except.ok a), p.admits_run_bind _ _⟩

variable (policy : Retry.Policy) (signal : Signal W) (clock : Clock W)
  (hsleep : ∀ d, p.Admits (clock.sleep d)) (hspread : ∀ d, p.Admits (clock.spread d))

include hsleep hspread

theorem admits_runFrom (op : UInt32 → StateM W (Except ε α)) (retryable : ε → Bool)
    (hop : ∀ attempt, p.Admits (op attempt)) (left : Nat) (attempt : UInt32) :
    p.Admits (Retry.runFrom policy (.ofClock signal clock) op retryable left attempt) :=
  p.likeness.runFrom policy (.ofClock signal clock) (.ofClock signal clock)
    (p.admits_isFired signal) hsleep hspread op op hop retryable left attempt

/-- The same of repeating inside a step that is awaited under the signal. -/
theorem admits_interruptible (op : UInt32 → Interruptible W (Except ε α)) (retryable : ε → Bool)
    (hop : ∀ attempt, p.Admits (op attempt).run) (left : Nat) (attempt : UInt32) :
    p.Admits
      (Retry.runFrom policy (.interruptible signal clock) op retryable left attempt).run := by
  refine (p.likenessExcept Cancelled).runFrom policy (.interruptible signal clock)
    (.interruptible signal clock) ?_ ?_ ?_ op op hop retryable left attempt
  · exact p.admits_run_lift _ (p.admits_isFired signal)
  · intro d
    exact p.admits_await signal _ (hsleep d)
  · intro d
    exact p.admits_run_lift _ (hspread d)

end Repeating

end Passage

end Validium
