import Validium.Proofs.Pool.Surely

/-!
Jobs of one step each. Between its workers' steps a run only moves permits and results about, so
a run of such jobs is the jobs themselves, done one after another in some order: each of them
once, on the world that the one before it left, with the result that stands in its slot.
-/
namespace Validium.Pool

variable {W α I : Type}

abbrev Serial (action : I → StateM W (Completion α)) : W → List (I × Completion α) → W → Prop :=
  Steps fun v e v' => action e.1 v = (e.2, v')

def Worker.outcome? : Worker W α → Option (Completion α)
  | .running (.ended result) => some result
  | .finished result => some result
  | .joined result => some result
  | _ => none

inductive Stage (action : StateM W (Completion α)) : Worker W α → Prop
  | waiting : Stage action (.waiting (.ofAction action))
  | running : Stage action
      (.running (.step (fun w => (action w).2) fun w => .ended (action w).1))
  | ended (result : Completion α) : Stage action (.running (.ended result))
  | finished (result : Completion α) : Stage action (.finished result)
  | joined (result : Completion α) : Stage action (.joined result)

def taken (items : List I) (workers : List (Worker W α)) : List (I × Completion α) :=
  (items.zip workers).filterMap fun e => e.2.outcome?.map fun result => (e.1, result)

section Taken

variable {items : List I} {workers : List (Worker W α)} {i : Nat} {worker worker' : Worker W α}

theorem taken_cons (item : I) (items : List I) (worker : Worker W α)
    (workers : List (Worker W α)) : taken (item :: items) (worker :: workers) =
      (worker.outcome?.map fun result => (item, result)).toList ++ taken items workers := by
  rw [taken, List.zip_cons_cons, List.filterMap_cons]
  cases worker.outcome? <;> rfl

theorem taken_set_same (hworker : workers[i]? = some worker)
    (hsame : worker'.outcome? = worker.outcome?) :
    taken items (workers.set i worker') = taken items workers := by
  induction workers generalizing items i with
  | nil => rfl
  | cons first workers ih =>
    cases items with
    | nil => rfl
    | cons item items =>
      cases i with
      | zero =>
        obtain rfl := Option.some.inj hworker
        rw [List.set_cons_zero, taken_cons, taken_cons, hsame]
      | succ i => rw [List.set_cons_succ, taken_cons, taken_cons, ih hworker]

/-- A step that is taken is one more, wherever its worker stands. -/
theorem taken_set_perm {item : I} {result : Completion α} (hworker : workers[i]? = some worker)
    (hitem : items[i]? = some item) (hnone : worker.outcome? = none)
    (hsome : worker'.outcome? = some result) :
    (taken items (workers.set i worker')).Perm (taken items workers ++ [(item, result)]) := by
  induction workers generalizing items i with
  | nil => cases hworker
  | cons first workers ih =>
    cases items with
    | nil => cases hitem
    | cons other items =>
      cases i with
      | zero =>
        obtain rfl := Option.some.inj hworker
        obtain rfl := Option.some.inj hitem
        rw [List.set_cons_zero, taken_cons, taken_cons, hsome, hnone]
        exact (List.perm_append_singleton _ _).symm
      | succ i =>
        rw [List.set_cons_succ, taken_cons, taken_cons, List.append_assoc]
        exact (ih hworker hitem).append_left _

theorem taken_concat (worker : Worker W α) (hnone : worker.outcome? = none) :
    taken items (workers ++ [worker]) = taken items workers := by
  induction workers generalizing items with
  | nil =>
    cases items with
    | nil => rfl
    | cons item items =>
      rw [List.nil_append, taken_cons, hnone]
      cases items <;> rfl
  | cons first workers ih =>
    cases items with
    | nil => rfl
    | cons item items => rw [List.cons_append, taken_cons, taken_cons, ih]

theorem taken_joined (items : List I) (results : List (Completion α)) :
    taken items (results.map (Worker.joined (W := W))) = items.zip results := by
  induction items generalizing results with
  | nil => rfl
  | cons item items ih =>
    cases results with
    | nil => rfl
    | cons result results =>
      rw [List.map_cons, taken_cons, ih]
      rfl

end Taken

section Runs

variable {limit : Nat} {items : List I} {action : I → StateM W (Completion α)} {w : W}
  {s t : State W α}

/-- Every worker is before or after its step, and the steps taken were taken in some order. -/
structure Served (items : List I) (action : I → StateM W (Completion α)) (w : W)
    (s : State W α) : Prop where
  stage : ∀ (i : Nat) (worker : Worker W α), s.workers[i]? = some worker →
    ∃ item, items[i]? = some item ∧ Stage (action item) worker
  serial : ∃ done, done.Perm (taken items s.workers) ∧ Serial action w done s.world

theorem Served.replace {i : Nat} {worker worker' : Worker W α} {item : I}
    (hs : Served items action w s) (free : Nat) (hworker : s.workers[i]? = some worker)
    (hitem : items[i]? = some item) (hstage : Stage (action item) worker')
    (hsame : worker'.outcome? = worker.outcome?) :
    Served items action w { s with free := free, workers := s.workers.set i worker' } := by
  refine ⟨forall_set hworker ⟨item, hitem, hstage⟩ fun j other _ => hs.stage j other, ?_⟩
  rw [taken_set_same hworker hsame]
  exact hs.serial

/-- A turn keeps the order in which the steps were taken, and puts its own step, if it is one,
behind them. -/
theorem served_turn {i : Nat} {act : Act} {worker worker' : Worker W α} {v : W}
    {before free : Nat} (hs : Served items action w s)
    (hworker : s.workers[i]? = some worker)
    (hturn : Turn act s.world before worker v free worker') (hact : act ≠ .drop) :
    Served items action w
      { s with world := v, free := free, workers := s.workers.set i worker' } := by
  obtain ⟨item, hitem, hstage⟩ := hs.stage i worker hworker
  cases hturn with
  | start _ free work =>
    cases hstage with
    | waiting => exact hs.replace free hworker hitem .running rfl
  | progress _ _ effect next =>
    cases hstage with
    | running =>
      -- The job's one step: nothing else that a worker does touches the world.
      obtain ⟨done, hperm, hserial⟩ := hs.serial
      refine ⟨forall_set hworker ⟨item, hitem, .ended _⟩ fun j other _ => hs.stage j other,
        done ++ [(item, (action item s.world).1)], ?_, hserial.snoc rfl⟩
      exact (hperm.append_right _).trans (taken_set_perm hworker hitem rfl rfl).symm
  | finish _ _ result =>
    cases hstage with
    | ended => exact hs.replace _ hworker hitem (.finished result) rfl
  | withdraw _ _ work => exact absurd rfl hact
  | abort _ _ rest => exact absurd rfl hact

/-- A caller that has ended stays where it is. -/
theorem caller_of_step {e : Event} (h : Step limit s e t)
    {result : Except Halt (List (Completion α))} (hat : s.caller = .ended result) :
    t.caller = .ended result := by
  cases h with
  | fire hfired => exact hat
  | turn i act worker worker' v free hworker hturn hdrop => exact hat
  | spawn work left hspawning =>
    rw [hat] at hspawning
    cases hspawning
  | join i result hpolling hworker =>
    rw [hat] at hpolling
    cases hpolling
  | move caller hmove => exact absurd hat (hmove.unended result)

theorem step_served {e : Event} (h : Step limit s e t)
    (hroster : Roster limit (items.map fun item => .ofAction (action item)) s)
    (hs : Served items action w s) (hkept : s.caller ≠ .ended (.error .cancelled)) :
    Served items action w t := by
  cases h with
  | fire hfired => exact ⟨hs.stage, hs.serial⟩
  | turn i act worker worker' v free hworker hturn hdrop =>
    exact served_turn hs hworker hturn fun hact => hkept (hdrop hact)
  | spawn work left hat =>
    have hjob := next_job hat hroster.placed
    rw [List.getElem?_map] at hjob
    obtain ⟨item, hitem, rfl⟩ := Option.map_eq_some_iff.mp hjob
    refine ⟨forall_concat ⟨item, hitem, .waiting⟩ hs.stage, ?_⟩
    rw [taken_concat _ rfl]
    exact hs.serial
  | join i result hat hworker =>
    obtain ⟨item, hitem, -⟩ := hs.stage i _ hworker
    obtain ⟨hstage, hserial⟩ := hs.replace s.free hworker hitem (.joined result) rfl
    exact ⟨hstage, hserial⟩
  | move caller hmove => exact ⟨hs.stage, hs.serial⟩

/-- The world is what the steps taken so far make of it, one after the other. -/
theorem run_served {fired : Bool} {es : List Event}
    (h : Run limit (State.initial limit (items.map fun item => .ofAction (action item)) w fired)
      es t) (hkept : t.caller ≠ .ended (.error .cancelled)) : Served items action w t := by
  induction h with
  | nil =>
    refine ⟨nofun, [], ?_, .nil⟩
    cases items <;> exact .nil
  | snoc hrun hstep ih =>
    have hbefore := fun hat => hkept (caller_of_step hstep hat)
    exact step_served hstep (run_roster hrun) (ih hbefore) hbefore

/-- A run that ended well did the items' actions one after another. -/
theorem exists_serial {fired : Bool} {es : List Event} {results : List (Completion α)}
    (h : Run limit (State.initial limit (items.map fun item => .ofAction (action item)) w fired)
      es t) (hat : t.caller = .ended (.ok results)) :
    ∃ done, done.Perm (items.zip results) ∧ Serial action w done t.world := by
  have hserved := run_served h (by rw [hat]; simp)
  obtain ⟨done, hperm, hserial⟩ := hserved.serial
  rw [workers_eq (run_roster h) hat, taken_joined] at hperm
  exact ⟨done, hperm, hserial⟩

/-- What comes of the actions where it depends on no more than that the worlds they find are
good. -/
theorem serial_outcome {good : W → Prop} {outcome : I → Completion α}
    (hgood : ∀ item ∈ items, ∀ v, good v →
      (action item v).1 = outcome item ∧ good (action item v).2)
    {done : List (I × Completion α)} {w' : W} (h : Serial action w done w') (hw : good w)
    (hdone : ∀ e ∈ done, e.1 ∈ items) : (∀ e ∈ done, e.2 = outcome e.1) ∧ good w' := by
  induction h with
  | nil => exact ⟨nofun, hw⟩
  | @snoc done v w' e _ hstep ih =>
    obtain ⟨hbefore, hv⟩ := ih fun e he => hdone e (List.mem_append_left _ he)
    obtain ⟨hresult, hw'⟩ := hgood e.1 (hdone e (by simp)) v hv
    rw [hstep] at hresult hw'
    refine ⟨?_, hw'⟩
    intro other hother
    rcases List.mem_append.mp hother with hold | hnew
    · exact hbefore other hold
    · rw [List.mem_singleton.mp hnew]
      exact hresult

/-- It is enough to look at the actions done one after another, in every order. -/
theorem surely_of_serial {P : List (Completion α) → W → Prop} (hpos : 0 < limit)
    (hlimit : limit ≤ maxPermits) (good : W → Prop) (outcome : I → Completion α) (hw : good w)
    (hgood : ∀ item ∈ items, ∀ v, good v →
      (action item v).1 = outcome item ∧ good (action item v).2)
    (h : ∀ done w', (done.map Prod.fst).Perm items → Serial action w done w' → good w' →
      P (items.map outcome) w') :
    Surely limit (items.map fun item => .ofAction (action item)) w P := by
  refine surely_of_ended hpos hlimit ?_
  intro es t results hrun hat
  have hlength := (ends_of_ended (run_roster hrun) hat).length_eq
  rw [List.length_map] at hlength
  obtain ⟨done, hperm, hserial⟩ := exists_serial hrun hat
  have hitems := hperm.map Prod.fst
  rw [List.map_fst_zip hlength.le] at hitems
  obtain ⟨houtcome, ht⟩ := serial_outcome hgood hserial hw fun e he =>
    hitems.mem_iff.mp (List.mem_map_of_mem he)
  have hresults : results = items.map outcome := by
    refine List.ext_getElem (by rw [List.length_map, hlength]) ?_
    intro i hi hi'
    rw [List.length_map] at hi'
    have hmem : (items[i], results[i]) ∈ items.zip results :=
      List.mem_iff_getElem.mpr ⟨i, by simp [hi, hi'], List.getElem_zip⟩
    rw [List.getElem_map]
    exact houtcome _ (hperm.mem_iff.mpr hmem)
  exact hresults ▸ h done t.world hitems hserial ht

end Runs

end Validium.Pool
