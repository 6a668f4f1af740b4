import Validium.Proofs.Pool.Quiet

/-!
The course that repeating takes. As long as attempts fail and are worth another, each is
followed by a wait and the next attempt, through worlds that can be told beforehand; the run
leaves this course at the first attempt that concludes it, or where it finds that the signal
has fired. A log kept beside the run shows which attempts were made and which waits.
-/
namespace Validium.Retry

variable {W ε α : Type}

inductive Event where
  | attempt (number : UInt32)
  | wait (d : Duration)
  deriving DecidableEq

def calls : List Event → List UInt32
  | [] => []
  | .attempt n :: rest => n :: calls rest
  | .wait _ :: rest => calls rest

def waits : List Event → List Duration
  | [] => []
  | .attempt _ :: rest => waits rest
  | .wait d :: rest => d :: waits rest

structure Repetition (W ε α : Type) where
  policy : Policy
  signal : Signal W
  clock : Clock W
  op : UInt32 → StateM W (Except ε α)
  retryable : ε → Bool

def number (i : Nat) : UInt32 := UInt32.ofNat (i + 1)

theorem number_succ (i : Nat) : number i + 1 = number (i + 1) :=
  (UInt32.ofNat_add (i + 1) 1).symm

namespace Repetition

variable (r : Repetition W ε α)

def pacing : Pacing (StateM W) := .ofClock r.signal r.clock

def run : StateM W (Except (Error ε) α) := runIf r.policy r.pacing r.op r.retryable

def logged : Repetition (W × List Event) ε α where
  policy := r.policy
  signal := ⟨fun s => r.signal.fired s.1⟩
  clock := {
    sleep := fun d s => ((), (r.clock.sleep d s.1).2, s.2 ++ [.wait d])
    spread := fun d s => ((r.clock.spread d s.1).1, (r.clock.spread d s.1).2, s.2) }
  op := fun n s => ((r.op n s.1).1, (r.op n s.1).2, s.2 ++ [.attempt n])
  retryable := r.retryable

def budget : Nat := r.policy.attempts.toNat

def pause (n : UInt32) : StateM W Duration := do
  let d ← delay r.policy r.pacing n
  r.clock.sleep d
  return d

variable (w : W)

def before : Nat → W
  | 0 => w
  | i + 1 => (r.pause (number i) (r.op (number i) (before i)).2).2

def outcome (i : Nat) : Except ε α := (r.op (number i) (r.before w i)).1

def after (i : Nat) : W := (r.op (number i) (r.before w i)).2

def waited (i : Nat) : Duration := (r.pause (number i) (r.after w i)).1

def Fails (i : Nat) : Prop := ∃ e, r.outcome w i = .error e ∧ r.retryable e = true

def conclusion (i : Nat) : Option (Except (Error ε) α) :=
  match r.outcome w i with
  | .ok value => some (.ok value)
  | .error e =>
    if r.retryable e = false then some (.error (.fatal (number i) e))
    else if i + 1 = r.budget then some (.error (.exhausted r.policy.attempts e))
    else none

def Silent (i : Nat) : Prop := ∀ j ≤ i, r.signal.fired (r.before w j) = false

def past (i : Nat) : List Event :=
  (List.range i).flatMap fun j => [.attempt (number j), .wait (r.waited w j)]

def history (i : Nat) : List Event := r.past w i ++ [.attempt (number i)]

section Rounds

variable {r w}

theorem runFrom_fired (left : Nat) (n : UInt32) (h : r.signal.fired w = true) :
    runFrom r.policy r.pacing r.op r.retryable left n w = (.error .cancelled, w) := by
  have hlook : ∀ f : Bool → StateM W (Except (Error ε) α),
      (r.pacing.fired >>= f) w = f (r.signal.fired w) w := fun f => rfl
  rw [runFrom, hlook, h]
  rfl

variable (left : Nat) (n : UInt32) (h : r.signal.fired w = false)

include h

/-- An attempt is made, and what follows is a matter of how it ended. -/
theorem runFrom_unfired :
    runFrom r.policy r.pacing r.op r.retryable left n w =
      (match (r.op n w).1 with
      | .ok value => pure (.ok value)
      | .error e =>
        if r.retryable e = false then pure (.error (.fatal n e))
        else match left with
          | 0 => pure (.error (.exhausted r.policy.attempts e))
          | left + 1 => do
            let _ ← r.pause n
            runFrom r.policy r.pacing r.op r.retryable left (n + 1) : StateM W _)
        (r.op n w).2 := by
  have hlook : ∀ (f : Bool → StateM W (Except (Error ε) α)) (w : W),
      (r.pacing.fired >>= f) w = f (r.signal.fired w) w := fun f w => rfl
  have hstep : ∀ (x : StateM W (Except ε α)) (f : Except ε α → StateM W (Except (Error ε) α)),
      (x >>= f) w = f (x w).1 (x w).2 := fun x f => rfl
  rw [runFrom, hlook, h]
  simp only [Bool.false_eq_true, if_false]
  rw [hstep]
  cases (r.op n w).1 with
  | ok value => rfl
  | error e =>
    cases hretry : r.retryable e with
    | false =>
      simp only [hretry]
      rfl
    | true =>
      cases left with
      | zero =>
        simp only [hretry]
        rfl
      | succ left =>
        simp only [hretry]
        show (r.pacing.fired >>= fun fired => if fired = true then pure (.error .cancelled)
            else runFrom r.policy r.pacing r.op r.retryable left (n + 1))
            (r.pause n (r.op n w).2).2 =
          runFrom r.policy r.pacing r.op r.retryable left (n + 1) (r.pause n (r.op n w).2).2
        -- The signal is looked at once after the wait and once before the attempt.
        rw [hlook]
        cases hfired : r.signal.fired (r.pause n (r.op n w).2).2 with
        | true =>
          rw [runFrom_fired left (n + 1) hfired]
          rfl
        | false => rfl

end Rounds

theorem budget_eq : r.budget = max 1 r.policy.maxAttempts.toNat := by
  have hmax : r.policy.attempts =
      if 1 ≤ r.policy.maxAttempts then r.policy.maxAttempts else 1 := rfl
  rw [budget, hmax]
  by_cases h : (1 : UInt32) ≤ r.policy.maxAttempts
  · have hle : 1 ≤ r.policy.maxAttempts.toNat := UInt32.le_iff_toNat_le.mp h
    rw [if_pos h]
    omega
  · have hle : ¬ 1 ≤ r.policy.maxAttempts.toNat := fun hle => h (UInt32.le_iff_toNat_le.mpr hle)
    have hone : (1 : UInt32).toNat = 1 := rfl
    rw [if_neg h]
    omega

theorem budget_pos : 0 < r.budget := by
  rw [budget_eq]
  omega

theorem toNat_number (i : Nat) (hi : i < r.budget) : (number i).toNat = i + 1 := by
  have hbudget : r.budget < UInt32.size := r.policy.attempts.toNat_lt
  exact UInt32.toNat_ofNat_of_lt' (by omega)

section Course

variable {r w} {i : Nat}

theorem conclusion_eq_none_iff (hi : i < r.budget) :
    r.conclusion w i = none ↔ r.Fails w i ∧ i + 1 < r.budget := by
  unfold conclusion Fails
  cases r.outcome w i with
  | ok value => simp
  | error e =>
    cases hretry : r.retryable e with
    | false => simp [hretry]
    | true =>
      simp [hretry]
      omega

/-- Where an attempt concludes the run, the run ends with it. -/
theorem runFrom_conclusion (left : Nat) (hleft : i + 1 + left = r.budget)
    (hsilent : r.signal.fired (r.before w i) = false) (result : Except (Error ε) α)
    (h : r.conclusion w i = some result) :
    runFrom r.policy r.pacing r.op r.retryable left (number i) (r.before w i) =
      (result, r.after w i) := by
  rw [runFrom_unfired left (number i) hsilent]
  unfold conclusion at h
  unfold after
  have houtcome : (r.op (number i) (r.before w i)).1 = r.outcome w i := rfl
  rw [houtcome]
  cases ho : r.outcome w i with
  | ok value =>
    rw [ho] at h
    cases h
    rfl
  | error e =>
    rw [ho] at h
    dsimp only at h ⊢
    by_cases hretry : r.retryable e = false
    · rw [if_pos hretry] at h ⊢
      cases h
      rfl
    · rw [if_neg hretry] at h ⊢
      by_cases hlast : i + 1 = r.budget
      · have hzero : left = 0 := by omega
        subst hzero
        rw [if_pos hlast] at h
        cases h
        rfl
      · rw [if_neg hlast] at h
        cases h

/-- A failure that is worth another attempt leads one round on. -/
theorem runFrom_fails (left : Nat) (hsilent : r.signal.fired (r.before w i) = false)
    (h : r.Fails w i) :
    runFrom r.policy r.pacing r.op r.retryable (left + 1) (number i) (r.before w i) =
      runFrom r.policy r.pacing r.op r.retryable left (number (i + 1)) (r.before w (i + 1)) := by
  obtain ⟨e, houtcome, hretry⟩ := h
  have herror : (r.op (number i) (r.before w i)).1 = .error e := houtcome
  rw [runFrom_unfired (left + 1) (number i) hsilent, herror, ← number_succ]
  simp only [hretry]
  rfl

/-- A run follows its course as long as attempts fail and the signal has not fired. -/
theorem run_eq_runFrom (hi : i < r.budget) (hfails : ∀ j < i, r.Fails w j)
    (hsilent : ∀ j < i, r.signal.fired (r.before w j) = false) :
    r.run w = runFrom r.policy r.pacing r.op r.retryable (r.budget - 1 - i) (number i)
      (r.before w i) := by
  induction i with
  | zero => rfl
  | succ i ih =>
    rw [ih (by omega) (fun j hj => hfails j (by omega)) (fun j hj => hsilent j (by omega))]
    have hleft : r.budget - 1 - i = r.budget - 1 - (i + 1) + 1 := by omega
    rw [hleft]
    exact runFrom_fails _ (hsilent i (by omega)) (hfails i (by omega))

/-- Failures up to an attempt that concludes the run lead to its conclusion. -/
theorem run_of_conclusion (hi : i < r.budget) (hfails : ∀ j < i, r.Fails w j)
    (hsilent : r.Silent w i) (result : Except (Error ε) α)
    (h : r.conclusion w i = some result) : r.run w = (result, r.after w i) := by
  rw [run_eq_runFrom hi hfails fun j hj => hsilent j (by omega)]
  exact runFrom_conclusion _ (by omega) (hsilent i (Nat.le_refl i)) result h

/-- The signal that fires before an attempt prevents it. -/
theorem run_of_fired (hi : i < r.budget) (hfails : ∀ j < i, r.Fails w j)
    (hsilent : ∀ j < i, r.signal.fired (r.before w j) = false)
    (hfired : r.signal.fired (r.before w i) = true) :
    r.run w = (.error .cancelled, r.before w i) := by
  rw [run_eq_runFrom hi hfails hsilent]
  exact runFrom_fired _ _ hfired

theorem silent_of_lt (hearlier : ∀ j < i, r.signal.fired (r.before w j) = false)
    (hsilent : r.signal.fired (r.before w i) = false) : r.Silent w i := by
  intro j hj
  rcases Nat.lt_or_eq_of_le hj with hlt | heq
  · exact hearlier j hlt
  · rw [heq]
    exact hsilent

/-- Every run ends in one of these two ways. -/
theorem exists_end (r : Repetition W ε α) (w : W) :
    ∃ i < r.budget, (∀ j < i, r.Fails w j) ∧
      (∀ j < i, r.signal.fired (r.before w j) = false) ∧
      (r.signal.fired (r.before w i) = true ∨
        r.signal.fired (r.before w i) = false ∧ ∃ result, r.conclusion w i = some result) := by
  have hlast : r.conclusion w (r.budget - 1) ≠ none := by
    have hpos := r.budget_pos
    intro hnone
    have hmore := ((conclusion_eq_none_iff (by omega)).mp hnone).2
    omega
  have hends : ∃ i, r.signal.fired (r.before w i) = true ∨ r.conclusion w i ≠ none :=
    ⟨r.budget - 1, .inr hlast⟩
  classical
  have hle : Nat.find hends ≤ r.budget - 1 := Nat.find_min' hends (.inr hlast)
  have hpos := r.budget_pos
  have hearlier : ∀ j < Nat.find hends,
      r.signal.fired (r.before w j) = false ∧ r.conclusion w j = none := by
    intro j hj
    have hgoes := Nat.find_min hends hj
    rw [not_or, Bool.not_eq_true, not_not] at hgoes
    exact hgoes
  refine ⟨Nat.find hends, by omega, ?_, fun j hj => (hearlier j hj).1, ?_⟩
  · intro j hj
    exact ((conclusion_eq_none_iff (by omega)).mp (hearlier j hj).2).1
  · rcases Nat.find_spec hends with hfired | hconcludes
    · exact .inl hfired
    · by_cases hfired : r.signal.fired (r.before w (Nat.find hends)) = true
      · exact .inl hfired
      · refine .inr ⟨Bool.eq_false_iff.mpr hfired, ?_⟩
        exact Option.ne_none_iff_exists'.mp hconcludes

end Course

section Log

theorem past_succ (i : Nat) :
    r.past w (i + 1) = r.past w i ++ [.attempt (number i), .wait (r.waited w i)] := by
  simp only [past, List.range_succ, List.flatMap_append, List.flatMap_cons, List.flatMap_nil,
    List.append_nil]

theorem logged_pause (n : UInt32) (log : List Event) :
    r.logged.pause n (w, log) =
      ((r.pause n w).1, (r.pause n w).2, log ++ [.wait (r.pause n w).1]) := by
  unfold pause delay
  have hpolicy : r.logged.policy = r.policy := rfl
  rw [hpolicy]
  cases r.policy.backoff with
  | fixed => rfl
  | exponential => rfl

theorem logged_before (i : Nat) :
    r.logged.before (w, []) i = (r.before w i, r.past w i) := by
  induction i with
  | zero => rfl
  | succ i ih =>
    have hattempt : r.logged.op (number i) (r.logged.before (w, []) i) =
        (r.outcome w i, r.after w i, r.past w i ++ [.attempt (number i)]) := by
      rw [ih]
      rfl
    rw [before, hattempt, logged_pause, past_succ, List.append_assoc]
    rfl

theorem logged_outcome (i : Nat) : r.logged.outcome (w, []) i = r.outcome w i := by
  rw [outcome, logged_before]
  rfl

theorem logged_after (i : Nat) :
    r.logged.after (w, []) i = (r.after w i, r.history w i) := by
  rw [after, logged_before]
  rfl

theorem logged_fails (i : Nat) : r.logged.Fails (w, []) i ↔ r.Fails w i := by
  rw [Fails, logged_outcome]
  rfl

theorem logged_conclusion (i : Nat) : r.logged.conclusion (w, []) i = r.conclusion w i := by
  rw [conclusion, logged_outcome]
  rfl

theorem logged_fired (i : Nat) :
    r.logged.signal.fired (r.logged.before (w, []) i) = r.signal.fired (r.before w i) := by
  rw [logged_before]
  rfl

theorem calls_append (log later : List Event) :
    calls (log ++ later) = calls log ++ calls later := by
  induction log with
  | nil => rfl
  | cons event rest ih => cases event <;> simp [calls, ih]

theorem waits_append (log later : List Event) :
    waits (log ++ later) = waits log ++ waits later := by
  induction log with
  | nil => rfl
  | cons event rest ih => cases event <;> simp [waits, ih]

theorem calls_past (i : Nat) : calls (r.past w i) = (List.range i).map number := by
  induction i with
  | zero => rfl
  | succ i ih =>
    rw [past_succ, calls_append, ih, List.range_succ, List.map_append]
    rfl

theorem waits_past (i : Nat) : waits (r.past w i) = (List.range i).map (r.waited w) := by
  induction i with
  | zero => rfl
  | succ i ih =>
    rw [past_succ, waits_append, ih, List.range_succ, List.map_append]
    rfl

theorem calls_history (i : Nat) : calls (r.history w i) = (List.range (i + 1)).map number := by
  rw [history, calls_append, calls_past, List.range_succ, List.map_append]
  rfl

theorem waits_history (i : Nat) : waits (r.history w i) = (List.range i).map (r.waited w) := by
  rw [history, waits_append, waits_past]
  exact List.append_nil _

end Log

variable {r w} {i : Nat}

theorem logged_run_of_conclusion (hi : i < r.budget) (hfails : ∀ j < i, r.Fails w j)
    (hsilent : r.Silent w i) (result : Except (Error ε) α)
    (h : r.conclusion w i = some result) :
    r.logged.run (w, []) = (result, r.after w i, r.history w i) := by
  rw [← logged_after]
  have hlogged : i < r.logged.budget := hi
  apply run_of_conclusion hlogged
  · intro j hj
    exact (r.logged_fails w j).mpr (hfails j hj)
  · intro j hj
    rw [logged_fired]
    exact hsilent j hj
  · rw [logged_conclusion]
    exact h

theorem logged_run_of_fired (hi : i < r.budget) (hfails : ∀ j < i, r.Fails w j)
    (hsilent : ∀ j < i, r.signal.fired (r.before w j) = false)
    (hfired : r.signal.fired (r.before w i) = true) :
    r.logged.run (w, []) = (.error .cancelled, r.before w i, r.past w i) := by
  rw [← logged_before]
  have hlogged : i < r.logged.budget := hi
  apply run_of_fired hlogged
  · intro j hj
    exact (r.logged_fails w j).mpr (hfails j hj)
  · intro j hj
    rw [logged_fired]
    exact hsilent j hj
  · rw [logged_fired]
    exact hfired

/-- The log is beside the run and changes nothing in it. -/
theorem run_eq_logged (r : Repetition W ε α) (w : W) :
    r.run w = ((r.logged.run (w, [])).1, (r.logged.run (w, [])).2.1) := by
  obtain ⟨i, hi, hfails, hsilent, hfired | ⟨hfired, result, hresult⟩⟩ := exists_end r w
  · rw [run_of_fired hi hfails hsilent hfired, logged_run_of_fired hi hfails hsilent hfired]
  · have hall := silent_of_lt hsilent hfired
    rw [run_of_conclusion hi hfails hall result hresult,
      logged_run_of_conclusion hi hfails hall result hresult]

structure Lasting (r : Repetition W ε α) : Prop where
  op : ∀ n w, r.signal.fired w = true → r.signal.fired (r.op n w).2 = true
  sleep : ∀ d w, r.signal.fired w = true → r.signal.fired (r.clock.sleep d w).2 = true
  spread : ∀ d w, r.signal.fired w = true → r.signal.fired (r.clock.spread d w).2 = true

theorem Lasting.pause (h : r.Lasting) (n : UInt32) (hfired : r.signal.fired w = true) :
    r.signal.fired (r.pause n w).2 = true := by
  unfold Repetition.pause delay
  cases r.policy.backoff with
  | fixed => exact h.sleep _ _ hfired
  | exponential => exact h.sleep _ _ (h.spread _ _ hfired)

theorem Lasting.silent (h : r.Lasting) (hbefore : r.signal.fired (r.before w i) = false) :
    r.Silent w i := by
  induction i with
  | zero => exact silent_of_lt nofun hbefore
  | succ i ih =>
    have hearlier : r.signal.fired (r.before w i) = false := by
      by_contra hfired
      have hfired : r.signal.fired (r.before w i) = true := Bool.eq_true_of_not_eq_false hfired
      have hnext : r.signal.fired (r.before w (i + 1)) = true := h.pause _ (h.op _ _ hfired)
      rw [hbefore] at hnext
      cases hnext
    exact silent_of_lt (fun j hj => ih hearlier j (by omega)) hbefore

theorem toNat_calls_history (hi : i < r.budget) :
    (calls (r.history w i)).map UInt32.toNat = List.range' 1 (i + 1) := by
  rw [calls_history, List.map_map, List.range'_eq_map_range]
  apply List.map_congr_left
  intro j hj
  have hlt : j < i + 1 := List.mem_range.mp hj
  show (number j).toNat = 1 + j
  rw [r.toNat_number j (by omega)]
  omega

theorem waited_fixed (hfixed : r.policy.backoff = .fixed) (i : Nat) :
    r.waited w i = r.policy.baseDelay := by
  have hdelay : delay r.policy r.pacing (number i) = pure r.policy.baseDelay := by
    unfold delay Policy.nominalDelay
    rw [hfixed]
  rw [waited, Repetition.pause, hdelay]
  rfl

/-- Where the signal fires before the next attempt, no other attempt is made. -/
theorem cancelled_of_fired (hi : i + 1 < r.budget) (hfails : ∀ j ≤ i, r.Fails w j)
    (hsilent : r.Silent w i) (hfired : r.signal.fired (r.before w (i + 1)) = true) :
    (r.logged.run (w, [])).1 = .error .cancelled ∧
      calls (r.logged.run (w, [])).2.2 = calls (r.history w i) := by
  rw [logged_run_of_fired hi (fun j hj => hfails j (by omega))
    (fun j hj => hsilent j (by omega)) hfired]
  refine ⟨rfl, ?_⟩
  rw [calls_past, calls_history]

/-- Where all attempts fail, the last error is the one that is told. -/
theorem exists_exhausted (hfails : ∀ j < r.budget, r.Fails w j)
    (hsilent : r.Silent w (r.budget - 1)) :
    ∃ e, r.outcome w (r.budget - 1) = .error e ∧
      r.logged.run (w, []) = (.error (.exhausted r.policy.attempts e),
        r.after w (r.budget - 1), r.history w (r.budget - 1)) := by
  have hpos := r.budget_pos
  obtain ⟨e, he, hretry⟩ := hfails (r.budget - 1) (by omega)
  refine ⟨e, he, ?_⟩
  apply logged_run_of_conclusion (by omega) (fun j hj => hfails j (by omega)) hsilent
  have hlast : r.budget - 1 + 1 = r.budget := by omega
  rw [conclusion, he]
  simp only [hretry, hlast, if_true]
  rfl

/-- An attempt during which the signal fires is made to its end, and is the last. -/
theorem run_of_fired_underway (hlasting : r.Lasting) (hi : i < r.budget)
    (hfails : ∀ j < i, r.Fails w j) (hbefore : r.signal.fired (r.before w i) = false)
    (hafter : r.signal.fired (r.after w i) = true) :
    (r.logged.run (w, [])).1 = (r.conclusion w i).getD (.error .cancelled) ∧
      calls (r.logged.run (w, [])).2.2 = calls (r.history w i) := by
  have hsilent := hlasting.silent hbefore
  cases hconclusion : r.conclusion w i with
  | some result =>
    rw [logged_run_of_conclusion hi hfails hsilent result hconclusion]
    exact ⟨rfl, rfl⟩
  | none =>
    obtain ⟨hfailed, hmore⟩ := (conclusion_eq_none_iff hi).mp hconclusion
    have hall : ∀ j ≤ i, r.Fails w j := by
      intro j hj
      rcases Nat.lt_or_eq_of_le hj with hlt | heq
      · exact hfails j hlt
      · rw [heq]
        exact hfailed
    exact cancelled_of_fired hmore hall hsilent (hlasting.pause _ hafter)

/-- What a run returns, which attempts it makes and which waits, by the outcomes on its
course and the moment at which the signal fires. -/
structure FollowsReference (r : Repetition W ε α) (w : W) : Prop where
  unlogged : r.run w = ((r.logged.run (w, [])).1, (r.logged.run (w, [])).2.1)
  budget_eq : r.budget = max 1 r.policy.maxAttempts.toNat
  /-- No number of an attempt overflows. -/
  number_eq : ∀ k < r.budget, (number k).toNat = k + 1
  calls_eq : ∀ k < r.budget,
    (calls (r.history w k)).map UInt32.toNat = List.range' 1 (k + 1)
  waits_eq : ∀ k, waits (r.history w k) = (List.range k).map (r.waited w)
  delay_eq : ∀ k, r.waited w k = (delay r.policy r.pacing (number k) (r.after w k)).1
  fixed : r.policy.backoff = .fixed → ∀ k, r.waited w k = r.policy.baseDelay
  quiet : r.signal.Quiet → ∀ k, r.Silent w k
  /-- The first attempt with a value ends the run, whatever the signal does meanwhile. So do
  a fatal failure and the failure of the last attempt. -/
  value : ∀ k < r.budget, (∀ j < k, r.Fails w j) → r.Silent w k →
    ∀ v, r.outcome w k = .ok v → r.logged.run (w, []) = (.ok v, r.after w k, r.history w k)
  fatal : ∀ k < r.budget, (∀ j < k, r.Fails w j) → r.Silent w k →
    ∀ e, r.outcome w k = .error e → r.retryable e = false →
      r.logged.run (w, []) = (.error (.fatal (number k) e), r.after w k, r.history w k)
  exhausted : (∀ j < r.budget, r.Fails w j) → r.Silent w (r.budget - 1) →
    ∃ e, r.outcome w (r.budget - 1) = .error e ∧
      r.logged.run (w, []) = (.error (.exhausted r.policy.attempts e),
        r.after w (r.budget - 1), r.history w (r.budget - 1))
  unstarted : r.signal.fired w = true → r.logged.run (w, []) = (.error .cancelled, w, [])
  /-- The signal fires during an attempt. -/
  underway : r.Lasting → ∀ k < r.budget, (∀ j < k, r.Fails w j) →
    r.signal.fired (r.before w k) = false → r.signal.fired (r.after w k) = true →
      (r.logged.run (w, [])).1 = (r.conclusion w k).getD (.error .cancelled) ∧
        calls (r.logged.run (w, [])).2.2 = calls (r.history w k)
  /-- The signal fires during a wait. -/
  waiting : r.Lasting → ∀ k, k + 1 < r.budget → (∀ j ≤ k, r.Fails w j) →
    r.signal.fired (r.after w k) = false → r.signal.fired (r.before w (k + 1)) = true →
      (r.logged.run (w, [])).1 = .error .cancelled ∧
        calls (r.logged.run (w, [])).2.2 = calls (r.history w k)

/-- Every run is the one that the reference tells of: its attempts and their numbers, the waits
between them, the result, and what the signal cuts off. -/
theorem run_follows_reference (r : Repetition W ε α) (w : W) : r.FollowsReference w where
  unlogged := run_eq_logged r w
  budget_eq := r.budget_eq
  number_eq := r.toNat_number
  calls_eq := by
    intro k hk
    exact toNat_calls_history hk
  waits_eq := r.waits_history w
  delay_eq := by
    intro k
    rfl
  fixed := by
    intro hfixed k
    exact waited_fixed hfixed k
  quiet := by
    intro hquiet k j hj
    exact hquiet _
  value := by
    intro k hk hfails hsilent v hv
    apply logged_run_of_conclusion hk hfails hsilent
    rw [conclusion, hv]
  fatal := by
    intro k hk hfails hsilent e he hretry
    apply logged_run_of_conclusion hk hfails hsilent
    rw [conclusion, he]
    exact if_pos hretry
  exhausted := exists_exhausted
  unstarted := by
    intro hfired
    exact logged_run_of_fired r.budget_pos nofun nofun hfired
  underway := by
    intro hlasting k hk hfails hbefore hafter
    exact run_of_fired_underway hlasting hk hfails hbefore hafter
  waiting := by
    intro hlasting k hk hfails hafter hnext
    have hbefore : r.signal.fired (r.before w k) = false := by
      by_contra hfired
      rw [after, hlasting.op _ _ (Bool.eq_true_of_not_eq_false hfired)] at hafter
      cases hafter
    exact cancelled_of_fired hk hfails (hlasting.silent hbefore) hnext

/-- Two failures and then a success, in a world that tells whether the signal has fired; it
fires during the attempt `stop`, if there is one. -/
def third (stop : UInt32) : Repetition Bool UInt32 UInt32 where
  policy := .fixed 5 (.ofSeconds 2)
  signal := ⟨id⟩
  clock := ⟨fun _ => pure (), pure⟩
  op := fun n fired => (if n < 3 then .error n else .ok n, fired || n == stop)
  retryable := fun _ => true

/-- The third attempt succeeds. If the signal fires during the second, it is the last. -/
theorem run_follows_reference_third :
    (third 0).logged.run (false, []) =
      (.ok 3, false, [.attempt 1, .wait (.ofSeconds 2), .attempt 2, .wait (.ofSeconds 2),
        .attempt 3]) ∧
    ((third 2).logged.run (false, [])).1 = .error .cancelled ∧
      calls ((third 2).logged.run (false, [])).2.2 = [1, 2] := by
  constructor
  · have hfails : ∀ j < 2, (third 0).Fails false j := by
      intro j hj
      interval_cases j
      · exact ⟨1, rfl, rfl⟩
      · exact ⟨2, rfl, rfl⟩
    have hsilent : (third 0).Silent false 2 := by
      intro j hj
      interval_cases j <;> rfl
    exact (run_follows_reference (third 0) false).value 2 (by decide) hfails hsilent 3 rfl
  · have hfails : ∀ j < 1, (third 2).Fails false j := by
      intro j hj
      interval_cases j
      exact ⟨1, rfl, rfl⟩
    have hlasting : (third 2).Lasting := by
      refine ⟨?_, fun _ w hw => hw, fun _ w hw => hw⟩
      intro n w hw
      exact Bool.or_eq_true_iff.mpr (.inl hw)
    exact (run_follows_reference (third 2) false).underway hlasting 1 (by decide) hfails rfl rfl

end Repetition

end Validium.Retry
