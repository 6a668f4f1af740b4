import Validium.Proofs.Pool.Quiet
import Validium.Store.Archive

/-!
Operations of an archive on several bodies. Under a signal that never fires they are the
single operations, one after another, with a slot for each; and all slots are filled
exactly when every single operation had a value.
-/
namespace Validium.Store

variable {W α : Type}

def Objects.reading (o : Objects W) : Passage W :=
  ⟨Relation.ReflTransGen fun w w' => ∃ key, w' = (o.get key w).2, fun _ => .refl, .trans⟩

theorem Objects.reading_admits_get (o : Objects W) (key : String) :
    o.reading.Admits (o.get key) := by
  intro w
  exact Relation.ReflTransGen.single ⟨key, rfl⟩

namespace Slots

theorem allFrom_map_some (index : Nat) (values : List α) :
    allFrom index (values.map some) = .ok values := by
  induction values generalizing index with
  | nil => rfl
  | cons a rest ih =>
    rw [List.map_cons, allFrom, ih (index + 1)]
    rfl

theorem failuresFrom_eq_nil (index : Nat) (keys : List String)
    (results : List (Except Fault α)) (hlen : keys.length = results.length)
    (h : failuresFrom index keys results = []) :
    ∃ values : List α, results = values.map Except.ok := by
  induction results generalizing index keys with
  | nil => exact ⟨[], rfl⟩
  | cons result rest ih =>
    cases keys with
    | nil => cases hlen
    | cons key keys =>
      cases result with
      | error fault => cases h
      | ok a =>
        obtain ⟨values, rfl⟩ := ih (index + 1) keys (Nat.succ.inj hlen) h
        exact ⟨a :: values, rfl⟩

theorem failuresFrom_map_ok (index : Nat) (keys : List String) (values : List α) :
    failuresFrom index keys (values.map Except.ok) = [] := by
  induction values generalizing index keys with
  | nil => cases keys <;> rfl
  | cons a rest ih =>
    cases keys with
    | nil => rfl
    | cons key keys => exact ih (index + 1) keys

/-- The failures that are filed are the faults, each with its place and its key. -/
theorem mem_failuresFrom (index : Nat) (keys : List String) (results : List (Except Fault α))
    (f : Failure) : f ∈ failuresFrom index keys results ↔
      ∃ i, f.index = index + i ∧ keys[i]? = some f.key ∧ results[i]? = some (.error f.fault) := by
  induction results generalizing index keys with
  | nil => cases keys <;> simp [failuresFrom]
  | cons result rest ih =>
    cases keys with
    | nil => simp [failuresFrom]
    | cons key keys =>
      have hlater : f ∈ failuresFrom (index + 1) keys rest ↔
          ∃ i, f.index = index + (i + 1) ∧ (key :: keys)[i + 1]? = some f.key ∧
            (result :: rest)[i + 1]? = some (.error f.fault) := by
        rw [ih]
        simp only [List.getElem?_cons_succ, Nat.add_assoc, Nat.add_comm 1]
      rw [← Nat.or_exists_add_one, ← hlater]
      cases result with
      | ok a => simp [failuresFrom]
      | error fault =>
        cases f
        simp [failuresFrom, eq_comm]

def full (values : List α) : Slots α := ⟨values.map some, ⟨values.length, []⟩⟩

@[simp] theorem toResult_full (values : List α) : (full values).toResult = .ok values :=
  allFrom_map_some 0 values

theorem ofResults_map_ok (keys : List String) (values : List α) :
    ofResults keys (values.map Except.ok) = full values := by
  simp only [ofResults, failuresFrom_map_ok, List.map_map, List.length_map]
  rfl

theorem isComplete_ofResults_iff (keys : List String) (results : List (Except Fault α))
    (hlen : keys.length = results.length) :
    (ofResults keys results).isComplete = true ↔
      ∃ values : List α, results = values.map Except.ok := by
  constructor
  · intro h
    exact failuresFrom_eq_nil 0 keys results hlen (List.isEmpty_iff.mp h)
  · rintro ⟨values, rfl⟩
    rw [ofResults_map_ok]
    rfl

/-- All values are there exactly when no result is a fault. -/
theorem toResult_ofResults (keys : List String) (results : List (Except Fault α))
    (hlen : keys.length = results.length) (values : List α) :
    (ofResults keys results).toResult = .ok values ↔ results = values.map Except.ok := by
  constructor
  · intro h
    by_cases hcomplete : (ofResults keys results).isComplete = true
    · obtain ⟨found, rfl⟩ := (isComplete_ofResults_iff keys results hlen).mp hcomplete
      rw [ofResults_map_ok, toResult_full] at h
      rw [Except.ok.inj h]
    · rw [toResult, if_neg hcomplete] at h
      cases h
  · rintro rfl
    rw [ofResults_map_ok, toResult_full]

end Slots

theorem settle_eq_ok_iff (completion : Completion (Except Fault α)) (a : α) :
    settle completion = .ok a ↔ completion = .returned (.ok a) := by
  cases completion with
  | returned result => simp [settle]
  | brokeDown => simp [settle]

/-- A worker that breaks down is not mistaken for a corrupt object. -/
theorem eq_of_settle_eq_corrupt {completion : Completion (Except Fault α)} {key : String}
    (h : settle completion = .error (.corrupt key)) :
    completion = .returned (.error (.corrupt key)) := by
  cases completion with
  | returned result => exact congrArg Completion.returned h
  | brokeDown => cases h

theorem map_settle_eq_ok_iff (completions : List (Completion (Except Fault α)))
    (values : List α) : completions.map settle = values.map Except.ok ↔
      completions = values.map fun a => .returned (.ok a) := by
  induction completions generalizing values with
  | nil => cases values <;> simp
  | cons completion rest ih =>
    cases values with
    | nil => simp
    | cons a others =>
      rw [List.map_cons, List.map_cons, List.map_cons, List.cons.injEq, List.cons.injEq,
        settle_eq_ok_iff, ih]

namespace Archive

variable (m : Archive W)

theorem permits_effectiveConcurrency (p : Policy)
    (h : p.concurrency.toNat ≤ Pool.maxPermits) :
    Pool.permits p.effectiveConcurrency ≤ Pool.maxPermits := by
  have hone : 1 ≤ Pool.maxPermits := by decide
  unfold Policy.effectiveConcurrency
  by_cases hzero : p.concurrency = 0
  · rw [if_pos hzero]
    decide
  · rw [if_neg hzero]
    exact Nat.max_le.mpr ⟨hone, h⟩

/-- A body that may be found under the key of a hash, after any other reads. -/
def Stored (w : W) (hash : Hash) (body : Bytes) : Prop :=
  ∃ w', m.objects.reading.leads w w' ∧
    (m.objects.get (m.objectKey hash) w').1 = .returned (.ok body)

/-- No stored body has the digest of one of the batches without being that batch. -/
def NoCollision (w : W) (batches : List Bytes) : Prop :=
  ∀ batch ∈ batches, ∀ body, m.Stored w (keccak batch) body →
    keccak body = keccak batch → body = batch

/-- A body read back was in the store and has the digest that was asked for. -/
theorem eq_of_getByHash (hash : Hash) (body : Bytes) (w : W)
    (h : (m.getByHash hash w).1 = .returned (.ok body)) :
    (m.objects.get (m.objectKey hash) w).1 = .returned (.ok body) ∧ keccak body = hash := by
  have hread : (m.getByHash hash w).1 = (m.objects.get (m.objectKey hash) w).1.map
      (· >>= verify (m.objectKey hash) hash) := rfl
  rw [hread] at h
  generalize (m.objects.get (m.objectKey hash) w).1 = completion at h ⊢
  cases completion with
  | brokeDown => cases h
  | returned result =>
    cases result with
    | error fault => cases h
    | ok stored =>
      have hverify : verify (m.objectKey hash) hash stored = .ok body := Completion.returned.inj h
      by_cases hdigest : keccak stored = hash
      · rw [verify, if_pos hdigest] at hverify
        cases hverify
        exact ⟨rfl, hdigest⟩
      · rw [verify, if_neg hdigest] at hverify
        cases hverify

theorem reading_admits_getByHash (hash : Hash) :
    m.objects.reading.Admits (m.getByHash hash) := by
  refine m.objects.reading.admits_bind _ _ (m.objects.reading_admits_get _) ?_
  intro completion
  exact m.objects.reading.admits_pure _

def readEach (hashes : List Hash) : StateM W (List (Completion (Except Fault Bytes))) :=
  hashes.mapM fun hash => m.objects.get (m.objectKey hash)

structure Serves (w : W) (hashes : List Hash) (bodies : List Bytes) : Prop where
  returned : (m.readEach hashes w).1 = bodies.map fun body => .returned (.ok body)
  digests : bodies.map keccak = hashes

/-- Comparing digests changes nothing in the world. -/
theorem mapM_getByHash_world (hashes : List Hash) (w : W) :
    (hashes.mapM m.getByHash w).2 = (m.readEach hashes w).2 := by
  induction hashes generalizing w with
  | nil => rfl
  | cons hash rest ih =>
    rw [readEach, List.mapM_cons, List.mapM_cons]
    exact ih (m.objects.get (m.objectKey hash) w).2

theorem getByHash_of_returned {hash : Hash} {w w₁ : W} {found : Except Fault Bytes}
    (hget : m.objects.get (m.objectKey hash) w = (.returned found, w₁)) :
    m.getByHash hash w = (.returned (found >>= verify (m.objectKey hash) hash), w₁) := by
  rw [getByHash, bind_apply, hget]
  rfl

/-- A body is handed out only under its own digest. -/
theorem getByHash_eq_ok_iff (hash : Hash) (body : Bytes) (w : W) :
    (m.getByHash hash w).1 = .returned (.ok body) ↔
      (m.objects.get (m.objectKey hash) w).1 = .returned (.ok body) ∧ keccak body = hash := by
  constructor
  · exact m.eq_of_getByHash hash body w
  · rintro ⟨hget, hdigest⟩
    have hread : (m.getByHash hash w).1 = (m.objects.get (m.objectKey hash) w).1.map
        (· >>= verify (m.objectKey hash) hash) := rfl
    rw [hread, hget]
    exact congrArg Completion.returned (if_pos hdigest)

theorem mapM_getByHash_eq_ok_iff (hashes : List Hash) (bodies : List Bytes) (w : W) :
    (hashes.mapM m.getByHash w).1 = bodies.map (fun body => .returned (.ok body)) ↔
      m.Serves w hashes bodies := by
  induction hashes generalizing bodies w with
  | nil =>
    cases bodies with
    | nil => exact iff_of_true rfl ⟨rfl, rfl⟩
    | cons body others => exact iff_of_false nofun fun h => nomatch h.digests
  | cons hash rest ih =>
    have hmapped : (List.mapM m.getByHash (hash :: rest) w).1 =
        (m.getByHash hash w).1 :: (rest.mapM m.getByHash (m.getByHash hash w).2).1 := by
      rw [List.mapM_cons]
      rfl
    have hread : (m.readEach (hash :: rest) w).1 =
        (m.objects.get (m.objectKey hash) w).1 :: (m.readEach rest (m.getByHash hash w).2).1 := by
      rw [readEach, List.mapM_cons]
      rfl
    rw [hmapped]
    cases bodies with
    | nil => exact iff_of_false nofun fun h => nomatch h.digests
    | cons body others =>
      rw [List.map_cons, List.cons.injEq, getByHash_eq_ok_iff, ih]
      constructor
      · rintro ⟨⟨hget, hdigest⟩, hreturned, hdigests⟩
        refine ⟨?_, ?_⟩
        · rw [hread, hget, hreturned]
          rfl
        · rw [List.map_cons, hdigest, hdigests]
      · rintro ⟨hreturned, hdigests⟩
        rw [hread, List.map_cons, List.cons.injEq] at hreturned
        rw [List.map_cons, List.cons.injEq] at hdigests
        exact ⟨⟨hreturned.1, hdigests.1⟩, hreturned.2, hdigests.2⟩

/-- Filing the results changes nothing in the world. -/
theorem each_eq (signal : Signal W) (keys : List String)
    (jobs : List (StateM W (Completion (Except Fault α)))) :
    m.each signal keys jobs =
      (Except.map fun results => Slots.ofResults keys (results.map settle)) <$>
        Pool.run signal m.policy.effectiveConcurrency jobs := by
  funext w
  rw [each, bind_apply, map_apply]
  cases (Pool.run signal m.policy.effectiveConcurrency jobs w).1 <;> rfl

def readOne (hash : Hash) : StateM W (Completion (Except Fault Bytes)) := do
  match ← m.objects.get (m.objectKey hash) with
  | .brokeDown => return .brokeDown
  | .returned result => return .returned (result >>= verify (m.objectKey hash) hash)

theorem getMultiple_eq (signal : Signal W) (hashes : List Hash) :
    m.getMultiple signal hashes =
      m.each signal (hashes.map m.objectKey) (hashes.map m.readOne) := rfl

def keepOne (body : Bytes) : StateM W (Completion (Except Fault Hash)) := do
  match ← m.objects.put (m.objectKey (keccak body)) body none with
  | .brokeDown => return .brokeDown
  | .returned result => return .returned (result.map fun _ => keccak body)

theorem putMultiple_eq (signal : Signal W) (bodies : List Bytes) :
    m.putMultiple signal bodies =
      m.each signal (bodies.map fun body => m.objectKey (keccak body)) (bodies.map m.keepOne) := rfl

theorem readOne_eq (hash : Hash) : m.readOne hash = m.getByHash hash := by
  unfold readOne getByHash
  congr 1
  funext completion
  cases completion <;> rfl

section Quiet

variable {signal : Signal W} (hquiet : signal.Quiet)
  (hpermits : m.policy.concurrency.toNat ≤ Pool.maxPermits)

include hquiet hpermits

/-- Where the signal never fires, the slots are those of the jobs done one by one. -/
theorem each_quiet {β : Type} (keys : List String) (items : List β)
    (job : β → StateM W (Completion (Except Fault α))) :
    m.each signal keys (items.map job) =
      (fun results => .ok (Slots.ofResults keys results)) <$>
        items.mapM fun item => settle <$> job item := by
  have hrun := Pool.run_quiet hquiet m.policy.effectiveConcurrency
    (permits_effectiveConcurrency m.policy hpermits) items job
  rw [← Pool.map_mapM job settle items, each_eq, hrun]
  rfl

/-- Every body is kept as if it were kept alone. -/
theorem putMultiple_quiet (bodies : List Bytes) :
    m.putMultiple signal bodies =
      (fun results => .ok (Slots.ofResults (bodies.map fun b => m.objectKey (keccak b)) results))
        <$> bodies.mapM fun b =>
          (fun completion => (settle completion).map fun _ => keccak b) <$>
            m.put b (keccak b) none := by
  rw [putMultiple_eq, each_quiet m hquiet hpermits]
  congr 2
  funext b w
  simp only [keepOne, put, ite_self]
  rw [map_apply, bind_apply, map_apply]
  cases (m.objects.put (m.objectKey (keccak b)) b none w).1 <;> rfl

/-- Every body is read as if it were read alone. -/
theorem getMultiple_quiet (hashes : List Hash) :
    m.getMultiple signal hashes =
      (fun results => .ok (Slots.ofResults (hashes.map m.objectKey) (results.map settle)))
        <$> hashes.mapM m.getByHash := by
  rw [getMultiple_eq, each_quiet m hquiet hpermits]
  simp only [readOne_eq]
  rw [← Pool.map_mapM]
  rfl

/-- What is read for all hashes was in the store under their keys, and has their digests. -/
theorem bodies_of_getMultiple (hashes : List Hash) (w : W) (slots : Slots Bytes)
    (bodies : List Bytes) (hslots : (m.getMultiple signal hashes w).1 = .ok slots)
    (hbodies : slots.toResult = .ok bodies) :
    List.Forall₂ (fun hash body => m.Stored w hash body ∧ keccak body = hash) hashes bodies := by
  have hran := Pool.mapM_ran m.objects.reading m.getByHash m.reading_admits_getByHash hashes w
  rw [getMultiple_quiet m hquiet hpermits] at hslots
  have hfiled : Slots.ofResults (hashes.map m.objectKey)
      ((hashes.mapM m.getByHash w).1.map settle) = slots := Except.ok.inj hslots
  have hlen : (hashes.map m.objectKey).length =
      ((hashes.mapM m.getByHash w).1.map settle).length := by
    rw [List.length_map, List.length_map, hran.length_eq]
  rw [← hfiled, Slots.toResult_ofResults _ _ hlen, map_settle_eq_ok_iff] at hbodies
  rw [hbodies, List.forall₂_map_right_iff] at hran
  refine hran.imp ?_
  rintro hash body ⟨w', hw', hget⟩
  obtain ⟨hstored, hdigest⟩ := m.eq_of_getByHash hash body w' hget
  exact ⟨⟨w', hw', hstored⟩, hdigest⟩

end Quiet

section Passages

variable (p : Passage W) (signal : Signal W)

theorem admits_each (keys : List String) (jobs : List (StateM W (Completion (Except Fault α))))
    (h : ∀ job ∈ jobs, p.Admits job) : p.Admits (m.each signal keys jobs) := by
  rw [each_eq]
  exact p.admits_map _ _ (p.admits_pool signal _ jobs h)

/-- A failure of one of several jobs is the fault with which the job ended, in a world that
the jobs before it led to. -/
theorem exists_job_of_failure (keys : List String)
    (jobs : List (StateM W (Completion (Except Fault α)))) (h : ∀ job ∈ jobs, p.Admits job)
    (w : W) (slots : Slots α) (hslots : (m.each signal keys jobs w).1 = .ok slots)
    (f : Failure) (hf : f ∈ slots.errors.failures) :
    ∃ job ∈ jobs, ∃ w', p.leads w w' ∧ settle (job w').1 = .error f.fault := by
  have hrun : (m.each signal keys jobs w).1 =
      (Pool.run signal m.policy.effectiveConcurrency jobs w).1.map fun results =>
        Slots.ofResults keys (results.map settle) := by
    rw [each_eq]
    rfl
  rw [hrun] at hslots
  cases hresults : (Pool.run signal m.policy.effectiveConcurrency jobs w).1 with
  | error halt =>
    rw [hresults] at hslots
    cases hslots
  | ok results =>
    rw [hresults] at hslots
    cases hslots
    obtain ⟨_, -, -, hfault⟩ := (Slots.mem_failuresFrom 0 keys _ f).mp hf
    obtain ⟨result, hresult, hsettled⟩ := List.mem_map.mp (List.mem_of_getElem? hfault)
    obtain ⟨i, hi, rfl⟩ := List.getElem_of_mem hresult
    have hran := p.pool_ran signal _ jobs h w results hresults
    have hjob : i < jobs.length := hran.length_eq ▸ hi
    obtain ⟨w', hw', hend⟩ := hran.get hjob hi
    refine ⟨_, List.get_mem jobs ⟨i, hjob⟩, w', hw', ?_⟩
    rw [hend]
    exact hsettled

theorem admits_put (body : Bytes) (hash : Hash) (expires : Option Nat)
    (hput : ∀ until?, p.Admits (m.objects.put (m.objectKey hash) body until?)) :
    p.Admits (m.put body hash expires) := by
  exact hput _

/-- Only puts of bodies under their own digests have to be looked at. -/
theorem admits_putMultiple (bodies : List Bytes)
    (hput : ∀ body, p.Admits (m.objects.put (m.objectKey (keccak body)) body none)) :
    p.Admits (m.putMultiple signal bodies) := by
  refine m.admits_each p signal _ _ ?_
  intro job hjob
  obtain ⟨body, -, rfl⟩ := List.mem_map.mp hjob
  refine p.admits_bind _ _ (hput body) ?_
  intro completion
  cases completion with
  | returned result => exact p.admits_pure _
  | brokeDown => exact p.admits_pure _

theorem admits_readOne (hash : Hash) (hget : p.Admits (m.objects.get (m.objectKey hash))) :
    p.Admits (m.readOne hash) := by
  refine p.admits_bind _ _ hget ?_
  intro completion
  cases completion with
  | returned result => exact p.admits_pure _
  | brokeDown => exact p.admits_pure _

theorem admits_getMultiple (hashes : List Hash)
    (hget : ∀ key, p.Admits (m.objects.get key)) :
    p.Admits (m.getMultiple signal hashes) := by
  refine m.admits_each p signal _ _ ?_
  intro job hjob
  obtain ⟨hash, -, rfl⟩ := List.mem_map.mp hjob
  exact m.admits_readOne p hash (hget _)

end Passages

end Archive

end Validium.Store
