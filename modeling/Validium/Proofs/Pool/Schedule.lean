import Mathlib
import Validium.Pool.Schedule
import Validium.Proofs.Positions

/-!
What holds in every state that a run of the pool reaches. Permits are neither lost nor made,
each worker holds what is left of the job with its number, and the slots say which workers have
been joined and with what.
-/
namespace Validium.Pool

variable {W α : Type}

section Permits

/-- A turn moves a permit between the free ones and the worker. -/
theorem Turn.permits {act : Act} {w w' : W} {free free' : Nat} {worker worker' : Worker W α}
    (h : Turn act w free worker w' free' worker') :
    worker'.isRunning.toNat + free' = worker.isRunning.toNat + free := by
  cases h <;> simp [Worker.isRunning, Nat.add_comm]

theorem step_permits {limit : Nat} {s t : State W α} {e : Event} (h : Step limit s e t) :
    t.running + t.free = s.running + s.free := by
  cases h with
  | fire hfired => rfl
  | turn i act worker worker' w free hworker hturn hdrop =>
    have hcount := countP_set_add Worker.isRunning s.workers i worker worker' hworker
    have hpermits := hturn.permits
    simp only [State.running]
    omega
  | spawn work left hat =>
    simp [State.running, Worker.isRunning]
  | join i result hat hworker =>
    have hcount := countP_set_add Worker.isRunning s.workers i _ (.joined result) hworker
    simp only [State.running] at hcount ⊢
    simp only [Worker.isRunning] at hcount
    omega
  | move caller hmove => rfl

theorem run_permits {limit : Nat} {s t : State W α} {es : List Event} (h : Run limit s es t) :
    t.running + t.free = s.running + s.free := by
  induction h with
  | nil => rfl
  | snoc _ hstep ih => exact (step_permits hstep).trans ih

/-- No permit is lost and none is made. -/
theorem permits_conserved {limit : Nat} {t : State W α} {jobs : List (Work W α)} {w : W}
    {fired : Bool} {es : List Event}
    (h : Run limit (State.initial limit jobs w fired) es t) : t.running + t.free = limit :=
  (run_permits h).trans (Nat.zero_add limit)

theorem permits_pos (concurrency : UInt64) : 0 < permits concurrency :=
  Nat.lt_of_lt_of_le Nat.zero_lt_one (Nat.le_max_left 1 _)

end Permits

section Roster

def Fate (job : Work W α) : Worker W α → Prop
  | .waiting work => work = job
  | .running rest => ∀ result, rest.Ends result → job.Ends result
  | .finished result => job.Ends result
  | .joined result => job.Ends result
  | .withdrawn => True
  | .aborted => True

def slotOf : Option (Worker W α) → Option α
  | some (.joined result) => result.value?
  | _ => none

def isDropped : Worker W α → Bool
  | .withdrawn => true
  | .aborted => true
  | _ => false

def Placed (limit : Nat) (jobs : List (Work W α)) (s : State W α) : Prop :=
  match s.caller with
  | .entering left => s.workers = [] ∧ left = jobs
  | .spawning left => jobs.drop s.workers.length = left ∧ s.workers.length ≤ jobs.length
  | .looking => s.workers.length = jobs.length
  | .polling => s.workers.length = jobs.length
  | .parked => s.workers.length = jobs.length ∧ ∃ worker ∈ s.workers, worker.isJoined = false
  | .ended (.ok results) => s.workers.length = jobs.length ∧
      (∀ worker ∈ s.workers, worker.isJoined = true) ∧ results = s.slots.map Completion.ofSlot
  | .ended (.error .cancelled) => s.fired = true
  | .ended (.error .overcommitted) => maxPermits < limit

structure Roster (limit : Nat) (jobs : List (Work W α)) (s : State W α) : Prop where
  placed : Placed limit jobs s
  fate : ∀ (i : Nat) (worker : Worker W α), s.workers[i]? = some worker →
    ∃ job : Work W α, jobs[i]? = some job ∧ Fate job worker
  length_slots : s.slots.length = jobs.length
  slot : ∀ i : Nat, i < jobs.length → s.slots[i]? = some (slotOf s.workers[i]?)
  kept : s.caller ≠ .ended (.error .cancelled) → ∀ worker ∈ s.workers, isDropped worker = false

theorem Turn.fate {act : Act} {w w' : W} {free free' : Nat} {worker worker' : Worker W α}
    (h : Turn act w free worker w' free' worker') (job : Work W α) (hfate : Fate job worker) :
    Fate job worker' := by
  cases h with
  | start w free work =>
    intro result hresult
    exact hfate ▸ hresult
  | progress w free effect next =>
    intro result hresult
    exact hfate result (.step effect next w result hresult)
  | finish w free result => exact hfate result (.ended result)
  | withdraw w free work => trivial
  | abort w free rest => trivial

/-- Only the caller joins workers. -/
theorem Turn.unjoined {act : Act} {w w' : W} {free free' : Nat} {worker worker' : Worker W α}
    (h : Turn act w free worker w' free' worker') :
    worker.isJoined = false ∧ worker'.isJoined = false := by
  cases h <;> exact ⟨rfl, rfl⟩

theorem Turn.kept {act : Act} {w w' : W} {free free' : Nat} {worker worker' : Worker W α}
    (h : Turn act w free worker w' free' worker') (hact : act ≠ .drop) :
    isDropped worker' = false := by
  cases h with
  | start w free work => rfl
  | progress w free effect next => rfl
  | finish w free result => rfl
  | withdraw w free work => exact absurd rfl hact
  | abort w free rest => exact absurd rfl hact

theorem slotOf_unjoined {worker : Worker W α} (h : worker.isJoined = false) :
    slotOf (some worker) = none := by
  cases worker with
  | joined result => cases h
  | _ => rfl

theorem initial_roster (limit : Nat) (jobs : List (Work W α)) (w : W) (fired : Bool) :
    Roster limit jobs (State.initial limit jobs w fired) where
  placed := ⟨rfl, rfl⟩
  fate := by
    intro i worker h
    cases h
  length_slots := List.length_replicate
  slot := by
    intro i hi
    exact List.getElem?_replicate_of_lt hi
  kept := by
    intro _ worker hworker
    cases hworker

/-- A caller that has ended goes nowhere. -/
theorem Move.unended {limit : Nat} {s : State W α} {caller : Caller W α}
    (h : Move limit s caller) (result : Except Halt (List (Completion α))) :
    s.caller ≠ .ended result := by
  intro hat
  cases h <;> simp_all

section Steps

variable {limit : Nat} {jobs : List (Work W α)} {s : State W α}

theorem placed_fire (hs : Placed limit jobs s) :
    Placed limit jobs { s with fired := true } := by
  unfold Placed at hs ⊢
  split <;> simp_all

/-- A worker that is not joined yet keeps the caller from having ended well. -/
theorem placed_turn {i : Nat} {worker worker' : Worker W α} (w : W) (free : Nat)
    (hworker : s.workers[i]? = some worker) (hunjoined : worker.isJoined = false)
    (hunjoined' : worker'.isJoined = false) (hs : Placed limit jobs s) :
    Placed limit jobs
      { s with world := w, free := free, workers := s.workers.set i worker' } := by
  have hmem : worker ∈ s.workers := List.mem_of_getElem? hworker
  unfold Placed at hs ⊢
  simp only [List.length_set]
  split at hs
  · rw [hs.1] at hmem
    cases hmem
  · exact hs
  · exact hs
  · exact hs
  · exact ⟨hs.1, worker', mem_set hworker worker', hunjoined'⟩
  · exact absurd (hs.2.1 worker hmem) (by simp [hunjoined])
  · exact hs
  · exact hs

/-- The next job to hand out is the one whose number no worker has yet. -/
theorem next_job {work : Work W α} {left : List (Work W α)}
    (hat : s.caller = .spawning (work :: left)) (hs : Placed limit jobs s) :
    jobs[s.workers.length]? = some work := by
  simp only [Placed, hat] at hs
  have hhead := congrArg List.head? hs.1
  rwa [List.head?_drop, List.head?_cons] at hhead

theorem placed_spawn {work : Work W α} {left : List (Work W α)}
    (hat : s.caller = .spawning (work :: left)) (hs : Placed limit jobs s) :
    Placed limit jobs
      { s with workers := s.workers ++ [.waiting work], caller := .spawning left } := by
  simp only [Placed, hat] at hs ⊢
  obtain ⟨hleft, hle⟩ := hs
  have hlength := congrArg List.length hleft
  simp only [List.length_drop, List.length_cons] at hlength
  rw [List.length_append, List.length_singleton]
  refine ⟨?_, by omega⟩
  rw [← List.drop_drop, hleft]
  rfl

theorem placed_join {i : Nat} {result : Completion α} (hat : s.caller = .polling)
    (slots : List (Option α)) (hs : Placed limit jobs s) :
    Placed limit jobs
      { s with
        workers := s.workers.set i (.joined result)
        slots := slots
        caller := .looking } := by
  simp only [Placed, hat] at hs ⊢
  rw [List.length_set]
  exact hs

theorem placed_move {caller : Caller W α} (hmove : Move limit s caller)
    (hs : Placed limit jobs s) : Placed limit jobs { s with caller := caller } := by
  cases hmove with
  | refuse left hat hfired => exact hfired
  | overcommit left hat hfired hover => exact hover
  | enter left hat hfired hlimit =>
    simp only [Placed, hat] at hs ⊢
    obtain ⟨hnone, rfl⟩ := hs
    rw [hnone]
    exact ⟨rfl, Nat.zero_le _⟩
  | spawned hat =>
    simp only [Placed, hat] at hs ⊢
    exact Nat.le_antisymm hs.2 (List.drop_eq_nil_iff.mp hs.1)
  | giveUp hat hfired => exact hfired
  | look hat hfired =>
    simp only [Placed, hat] at hs ⊢
    exact hs
  | conclude hat hall =>
    simp only [Placed, hat] at hs ⊢
    exact ⟨hs, hall, trivial⟩
  | park hat hnone hsome =>
    simp only [Placed, hat] at hs ⊢
    exact ⟨hs, hsome⟩
  | wake hat hnews =>
    simp only [Placed, hat] at hs ⊢
    exact hs.1

theorem step_roster {t : State W α} {e : Event} (h : Step limit s e t)
    (hs : Roster limit jobs s) : Roster limit jobs t := by
  obtain ⟨hplaced, hfate, hlength, hslot, hkept⟩ := hs
  cases h with
  | fire hfired => exact ⟨placed_fire hplaced, hfate, hlength, hslot, hkept⟩
  | turn i act worker worker' w free hworker hturn hdrop =>
    obtain ⟨hunjoined, hunjoined'⟩ := hturn.unjoined
    refine ⟨placed_turn w free hworker hunjoined hunjoined' hplaced,
      ?_, hlength, ?_, ?_⟩
    · obtain ⟨job, hjob, hold⟩ := hfate i worker hworker
      exact forall_set hworker ⟨job, hjob, hturn.fate job hold⟩ fun j other _ => hfate j other
    · intro j hj
      by_cases hij : i = j
      · subst hij
        obtain ⟨hi, -⟩ := List.getElem?_eq_some_iff.mp hworker
        rw [List.getElem?_set_self hi, hslot i hj, hworker, slotOf_unjoined hunjoined,
          slotOf_unjoined hunjoined']
      · rw [List.getElem?_set_ne hij]
        exact hslot j hj
    · intro hcaller other hother
      rcases List.mem_or_eq_of_mem_set hother with hold | rfl
      · exact hkept hcaller other hold
      · exact hturn.kept fun hact => hcaller (hdrop hact)
  | spawn work left hat =>
    have hnew := next_job hat hplaced
    refine ⟨placed_spawn hat hplaced, forall_concat ⟨work, hnew, rfl⟩ hfate, hlength, ?_, ?_⟩
    · intro j hj
      rw [hslot j hj]
      rcases Nat.lt_trichotomy j s.workers.length with hlt | rfl | hlt
      · rw [List.getElem?_append_left hlt]
      · rw [List.getElem?_concat_length, List.getElem?_eq_none (Nat.le_refl _)]
        rfl
      · rw [List.getElem?_eq_none (Nat.le_of_lt hlt), List.getElem?_eq_none (by simp; omega)]
    · intro _ other hother
      rcases List.mem_append.mp hother with hold | hnew
      · exact hkept (by rw [hat]; simp) other hold
      · rw [List.mem_singleton.mp hnew]
        rfl
  | join i result hat hworker =>
    refine ⟨placed_join hat _ hplaced, forall_set hworker ?_ ?_,
      by rw [List.length_set]; exact hlength, ?_, ?_⟩
    · exact hfate i (.finished result) hworker
    · intro j other _
      exact hfate j other
    · intro j hj
      by_cases hij : i = j
      · subst hij
        obtain ⟨hi, -⟩ := List.getElem?_eq_some_iff.mp hworker
        rw [List.getElem?_set_self hi, List.getElem?_set_self (by omega)]
        rfl
      · rw [List.getElem?_set_ne hij, List.getElem?_set_ne hij]
        exact hslot j hj
    · intro _ other hother
      rcases List.mem_or_eq_of_mem_set hother with hold | rfl
      · exact hkept (by rw [hat]; simp) other hold
      · rfl
  | move caller hmove =>
    refine ⟨placed_move hmove hplaced, hfate, hlength, hslot, ?_⟩
    intro _
    exact hkept (hmove.unended _)

theorem run_roster {w : W} {fired : Bool} {es : List Event} {t : State W α}
    (h : Run limit (State.initial limit jobs w fired) es t) : Roster limit jobs t := by
  induction h with
  | nil => exact initial_roster limit jobs w fired
  | snoc _ hstep ih => exact step_roster hstep ih

/-- Without the signal a caller that has ended has results. -/
theorem exists_results_of_ended (hlimit : limit ≤ maxPermits) (hs : Roster limit jobs s)
    (hfired : s.fired = false) {result : Except Halt (List (Completion α))}
    (hat : s.caller = .ended result) : ∃ results, result = .ok results := by
  have hplaced := hs.placed
  simp only [Placed, hat] at hplaced
  cases result with
  | ok results => exact ⟨results, rfl⟩
  | error halt =>
    cases halt with
    | cancelled =>
      rw [hfired] at hplaced
      cases hplaced
    | overcommitted =>
      have hover : maxPermits < limit := hplaced
      omega

end Steps

end Roster

end Validium.Pool
