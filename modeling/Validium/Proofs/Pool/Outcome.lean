import Mathlib
import Validium.Proofs.Pool.Listed
import Validium.Proofs.Pool.Progress
import Validium.Store.Object

/-!
What a run of the pool comes to. Each worker leaves its result in the slot of its own job, so
the results stand in the order of the jobs however the workers went on. The caller returns
them only if every worker had been joined when it last looked at the signal, and otherwise
returns nothing but the news that the run was given up.
-/
namespace Validium.Pool

open Store (Fault settle)

variable {W α : Type} {limit : Nat} {s t : State W α} {es : List Event}

section Results

/-- A caller that has ended well has the end of each worker in the place of its job. -/
theorem workers_eq {jobs : List (Work W α)} (hroster : Roster limit jobs t)
    {results : List (Completion α)} (hat : t.caller = .ended (.ok results)) :
    t.workers = results.map .joined := by
  have hplaced := hroster.placed
  have hslots := hroster.length_slots
  simp only [Placed, hat] at hplaced
  obtain ⟨hlength, hall, rfl⟩ := hplaced
  apply List.ext_getElem?
  intro i
  rw [List.map_map, List.getElem?_map]
  by_cases hi : i < jobs.length
  · have hworker := List.getElem?_eq_getElem (l := t.workers) (i := i) (by omega)
    have hjoined := hall _ (List.mem_of_getElem? hworker)
    rw [hroster.slot i hi, hworker]
    cases hcase : t.workers[i] with
    | joined result =>
      exact congrArg (fun ended => some (Worker.joined ended)) result.ofSlot_value?.symm
    | _ => rw [hcase] at hjoined; cases hjoined
  · rw [List.getElem?_eq_none (by omega), List.getElem?_eq_none (by omega)]
    rfl

/-- The end of each worker is one that its job can come to. -/
theorem ends_of_ended {jobs : List (Work W α)} (hroster : Roster limit jobs t)
    {results : List (Completion α)} (hat : t.caller = .ended (.ok results)) :
    List.Forall₂ Work.Ends jobs results := by
  have hworkers := workers_eq hroster hat
  have hplaced := hroster.placed
  simp only [Placed, hat] at hplaced
  have hlength := congrArg List.length hworkers
  rw [hplaced.1, List.length_map] at hlength
  rw [List.forall₂_iff_get]
  refine ⟨hlength, ?_⟩
  intro i hi hi'
  have hworker : t.workers[i]? = some (.joined (results.get ⟨i, hi'⟩)) := by
    rw [hworkers, List.getElem?_map, List.getElem?_eq_getElem hi']
    rfl
  obtain ⟨job, hjob, hfate⟩ := hroster.fate i _ hworker
  rw [List.getElem?_eq_getElem hi] at hjob
  obtain rfl := Option.some.inj hjob
  exact hfate

/-- Works that can end in one way only have these ends as their results. -/
theorem results_eq {I : Type} {items : List I} {work : I → Work W α}
    {outcome : I → Completion α} {results : List (Completion α)}
    (h : List.Forall₂ Work.Ends (items.map work) results)
    (hwork : ∀ item ∈ items, ∀ result, (work item).Ends result → result = outcome item) :
    results = items.map outcome := by
  rw [List.forall₂_map_left_iff] at h
  induction h with
  | nil => rfl
  | @cons item result items results hends _ ih =>
    rw [List.map_cons, hwork item List.mem_cons_self result hends,
      ih fun other hother => hwork other (List.mem_cons_of_mem item hother)]

end Results

section Looks

def hasLooked : Caller W α → Prop
  | .polling => True
  | .ended (.ok _) => True
  | _ => False

/-- The caller joins nobody between its last look at the signal and its end. -/
theorem exists_look {u : State W α} (hunlooked : ¬ hasLooked s.caller) (h : Run limit s es u)
    (hlooked : hasLooked u.caller) :
    ∃ es₁ es₂ t, es = es₁ ++ es₂ ∧ Run limit s es₁ t ∧ Run limit t es₂ u ∧
      t.caller = .looking ∧ t.fired = false ∧
      t.workers.map Worker.isJoined = u.workers.map Worker.isJoined := by
  induction h with
  | nil => exact absurd hlooked hunlooked
  | @snoc es u v e hrun hstep ih =>
    cases hstep with
    | fire hfired =>
      obtain ⟨es₁, es₂, t, rfl, hbefore, hafter, hrest⟩ := ih hlooked
      exact ⟨es₁, _, t, List.append_assoc es₁ es₂ _, hbefore, hafter.snoc (.fire u hfired), hrest⟩
    | turn i act worker worker' w free hworker hturn hdrop =>
      obtain ⟨es₁, es₂, t, rfl, hbefore, hafter, hat, hfired, hjoined⟩ := ih hlooked
      obtain ⟨hunjoined, hunjoined'⟩ := hturn.unjoined
      refine ⟨es₁, _, t, List.append_assoc es₁ es₂ _, hbefore,
        hafter.snoc (.turn u i act worker worker' w free hworker hturn hdrop), hat, hfired, ?_⟩
      rw [map_set_same Worker.isJoined hworker (by rw [hunjoined, hunjoined'])]
      exact hjoined
    | spawn work left hat => cases hlooked
    | join i result hat hworker => cases hlooked
    | move caller hmove =>
      cases hmove with
      | look hat hfired =>
        exact ⟨es, [.move], u, rfl, hrun, Steps.nil.snoc (Step.move u _ (.look hat hfired)), hat,
          hfired, rfl⟩
      | conclude hat hall =>
        obtain ⟨es₁, es₂, t, rfl, hbefore, hafter, hrest⟩ := ih (by rw [hat]; trivial)
        exact ⟨es₁, _, t, List.append_assoc es₁ es₂ _, hbefore,
          hafter.snoc (.move u _ (.conclude hat hall)), hrest⟩
      | _ => cases hlooked

end Looks

/-- A caller that comes with a fired signal is turned back before anything happens. -/
theorem refused_of_fired {jobs : List (Work W α)} {w : W}
    (h : Run limit (State.initial limit jobs w true) es t) :
    t.workers = [] ∧ t.fired = true ∧ (∀ e ∈ es, e = .move) ∧
      (t.caller = .entering jobs ∨ t.caller = .ended (.error .cancelled)) := by
  induction h with
  | nil => exact ⟨rfl, rfl, by simp, .inl rfl⟩
  | @snoc es t u e hrun hstep ih =>
    obtain ⟨hnone, hfired, hes, hcaller⟩ := ih
    cases hstep with
    | fire hunfired => rw [hfired] at hunfired; cases hunfired
    | turn i act worker worker' w free hworker hturn hdrop => rw [hnone] at hworker; cases hworker
    | spawn work left hat => rcases hcaller with h | h <;> (rw [h] at hat; cases hat)
    | join i result hat hworker => rw [hnone] at hworker; cases hworker
    | move caller hmove =>
      refine ⟨hnone, hfired, ?_, .inr ?_⟩
      · intro e he
        rcases List.mem_append.mp he with hold | hnew
        · exact hes e hold
        · exact List.mem_singleton.mp hnew
      · cases hmove with
        | refuse => rfl
        | overcommit jobs hat hunfired => rw [hfired] at hunfired; cases hunfired
        | enter jobs hat hunfired => rw [hfired] at hunfired; cases hunfired
        | _ => simp_all

section Order

variable {I T : Type}

/-- What the caller is told. A worker that broke down counts as a fault of its own item. -/
def reported (result : Except Halt (List (Completion (Except Fault T)))) :
    Except Halt (List (Except Fault T)) :=
  result.map (List.map settle)

structure Aligned (limit : Nat) (items : List I) (outcome : I → Completion (Except Fault T))
    (s : State W (Except Fault T)) (es : List Event) (t : State W (Except Fault T)) : Prop where
  /-- All outcomes in the order of the items, or nothing. -/
  whole : ∀ result, t.caller = .ended result →
    reported result = .ok (items.map fun item => settle (outcome item)) ∨
      t.fired = true ∧ reported result = .error .cancelled
  /-- A run that stops before the signal has fired has come to its end. -/
  unfired : t.fired = false → (∀ e u, Step limit t e u → e = .fire) →
    ∃ result, t.caller = .ended result ∧
      reported result = .ok (items.map fun item => settle (outcome item))
  /-- The result in the place of an item is what the worker of this item ended with. -/
  own : ∀ results, t.caller = .ended (.ok results) → t.workers = results.map .joined
  /-- When the caller last looked at the signal, there was nobody left to join. -/
  joined : ∀ results, t.caller = .ended (.ok results) →
    ∃ es₁ es₂ u, es = es₁ ++ es₂ ∧ Run limit s es₁ u ∧ Run limit u es₂ t ∧
      u.caller = .looking ∧ u.fired = false ∧ u.workers.length = items.length ∧
      ∀ worker ∈ u.workers, worker.isJoined = true
  refused : s.fired = true → t.workers = [] ∧ (∀ e ∈ es, e = .move) ∧
    ∀ result, t.caller = .ended result → reported result = .error .cancelled
  goes_on : (∀ result, t.caller ≠ .ended result) → ∃ e u, e ≠ .fire ∧ Step limit t e u
  finite : Acc (fun v u => ∃ e, Step limit u e v) t

variable {items : List I} {work : I → Work W (Except Fault T)}
  {outcome : I → Completion (Except Fault T)} {t : State W (Except Fault T)}

/-- Every schedule ends with the outcomes of the items in their order, unless the signal has fired.
-/
theorem reported_of_ended (hroster : Roster limit (items.map work) t)
    (hwork : ∀ item ∈ items, ∀ result, (work item).Ends result → result = outcome item)
    (hlimit : limit ≤ maxPermits) {result : Except Halt (List (Completion (Except Fault T)))}
    (hat : t.caller = .ended result) :
    reported result = .ok (items.map fun item => settle (outcome item)) ∨
      t.fired = true ∧ reported result = .error .cancelled := by
  cases result with
  | ok results =>
    have hresults := results_eq (ends_of_ended hroster hat) hwork
    left
    rw [hresults, reported, Except.map, List.map_map]
    rfl
  | error halt =>
    have hplaced := hroster.placed
    simp only [Placed, hat] at hplaced
    cases halt with
    | cancelled => exact .inr ⟨hplaced, rfl⟩
    | overcommitted =>
      have hover : maxPermits < limit := hplaced
      omega

/-- Where there are results, there was a moment at which all workers had been joined and the signal
had not fired. -/
theorem joined_of_ended {w : W} {fired : Bool} {results : List (Completion (Except Fault T))}
    (h : Run limit (State.initial limit (items.map work) w fired) es t)
    (hat : t.caller = .ended (.ok results)) :
    ∃ es₁ es₂ u, es = es₁ ++ es₂ ∧
      Run limit (State.initial limit (items.map work) w fired) es₁ u ∧ Run limit u es₂ t ∧
      u.caller = .looking ∧ u.fired = false ∧ u.workers.length = items.length ∧
      ∀ worker ∈ u.workers, worker.isJoined = true := by
  obtain ⟨es₁, es₂, u, hes, hbefore, hafter, hlooking, hfired, hjoined⟩ :=
    exists_look (by simp [hasLooked, State.initial]) h (by rw [hat]; trivial)
  have hplaced := (run_roster h).placed
  simp only [Placed, hat] at hplaced
  obtain ⟨hlength, hall, -⟩ := hplaced
  have hlength' := congrArg List.length hjoined
  rw [List.length_map, List.length_map, hlength, List.length_map] at hlength'
  refine ⟨es₁, es₂, u, hes, hbefore, hafter, hlooking, hfired, hlength', ?_⟩
  intro worker hworker
  have hmem : worker.isJoined ∈ t.workers.map Worker.isJoined :=
    hjoined ▸ List.mem_map_of_mem hworker
  obtain ⟨other, hother, heq⟩ := List.mem_map.mp hmem
  rw [← heq]
  exact hall other hother

/-- The result of a run does not depend on the order in which its workers get their permits,
go on and end. -/
theorem run_order_independent (items : List I) (work : I → Work W (Except Fault T))
    (outcome : I → Completion (Except Fault T))
    (hwork : ∀ item ∈ items, ∀ result, (work item).Ends result → result = outcome item)
    (concurrency : UInt64) (hlimit : permits concurrency ≤ maxPermits) (w : W) (fired : Bool)
    (es : List Event) (t : State W (Except Fault T))
    (h : Run (permits concurrency)
      (State.initial (permits concurrency) (items.map work) w fired) es t) :
    Aligned (permits concurrency) items outcome
      (State.initial (permits concurrency) (items.map work) w fired) es t := by
  have hroster := run_roster h
  have hwhole : ∀ result, t.caller = .ended result →
      reported result = .ok (items.map fun item => settle (outcome item)) ∨
        t.fired = true ∧ reported result = .error .cancelled :=
    fun _ => reported_of_ended hroster hwork hlimit
  have hgoes : (∀ result, t.caller ≠ .ended result) →
      ∃ e u, e ≠ .fire ∧ Step (permits concurrency) t e u :=
    exists_step hroster (permits_conserved h) (permits_pos concurrency)
  refine ⟨hwhole, ?_, fun _ => workers_eq hroster, fun _ => joined_of_ended h, ?_, hgoes,
    wellFounded_step.apply t⟩
  · intro hfired hstuck
    by_contra hnone
    obtain ⟨e, u, he, hstep⟩ := hgoes fun result hat => hnone ⟨result, hat, by
      rcases hwhole result hat with hok | hcancelled
      · exact hok
      · rw [hfired] at hcancelled
        cases hcancelled.1⟩
    exact he (hstuck e u hstep)
  · intro hfired
    change fired = true at hfired
    subst hfired
    obtain ⟨hnone, -, hes, hcaller⟩ := refused_of_fired h
    refine ⟨hnone, hes, ?_⟩
    intro result hat
    rcases hcaller with hentering | hended
    · rw [hentering] at hat
      cases hat
    · rw [hended] at hat
      cases hat
      rfl

/-- One permit for two items. The worker of the second gets it first and breaks down. -/
theorem run_order_independent_reversed :
    let items : List (Completion (Except Fault Nat)) := [.returned (.ok 7), .brokeDown]
    let work (item : Completion (Except Fault Nat)) : Work Unit (Except Fault Nat) :=
      .step id fun _ => .ended item
    (∀ item ∈ items, ∀ result, (work item).Ends result → result = id item) ∧
      permits 1 ≤ maxPermits ∧
      ∃ es t, Run (permits 1) (State.initial (permits 1) (items.map work) () false) es t ∧
        t.caller = .ended (.ok items) ∧
        Aligned (permits 1) items id
          (State.initial (permits 1) (items.map work) () false) es t := by
  intro items work
  have hwork : ∀ item ∈ items, ∀ result, (work item).Ends result → result = id item := by
    intro item _ result hends
    cases hends with
    | step _ _ _ _ hrest =>
      cases hrest
      rfl
  have hlimit : permits 1 ≤ maxPermits := by decide
  have henter := Steps.nil.snoc (Step.move (State.initial (permits 1) (items.map work) () false) _
    (.enter _ rfl rfl hlimit))
  have hspawned := ((henter.snoc (.spawn _ _ _ rfl)).snoc (.spawn _ _ _ rfl)).snoc
    (.move _ _ (.spawned rfl))
  have hsecond := ((hspawned.snoc (.turn _ 1 .start _ _ _ _ rfl (.start () 0 _) (by simp))).snoc
    (.turn _ 1 .progress _ _ _ _ rfl (.progress () 0 _ _) (by simp))).snoc
    (.turn _ 1 .finish _ _ _ _ rfl (.finish () 0 .brokeDown) (by simp))
  have hjoined := (hsecond.snoc (.move _ _ (.look rfl rfl))).snoc (.join _ 1 _ rfl rfl)
  have hfirst := ((hjoined.snoc (.turn _ 0 .start _ _ _ _ rfl (.start () 0 _) (by simp))).snoc
    (.turn _ 0 .progress _ _ _ _ rfl (.progress () 0 _ _) (by simp))).snoc
    (.turn _ 0 .finish _ _ _ _ rfl (.finish () 0 _) (by simp))
  have hboth := (hfirst.snoc (.move _ _ (.look rfl rfl))).snoc (.join _ 0 _ rfl rfl)
  have hend := (hboth.snoc (.move _ _ (.look rfl rfl))).snoc
    (.move _ _ (.conclude rfl (by simp [State.initial, Worker.isJoined, items])))
  exact ⟨hwork, hlimit, _, _, hend, rfl,
    run_order_independent items work id hwork 1 hlimit () false _ _ hend⟩

end Order

end Validium.Pool
