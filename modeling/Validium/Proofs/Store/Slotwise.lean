import Validium.Proofs.Pool.Surely
import Validium.Proofs.Store.Archive

/-!
Operations on several items, slot by slot. Each slot has what the operation on its item alone
gives, a value or a failure that names the item, its key and its fault, and nothing else is
reported. Several reads agree with single reads in this way however their workers go on.
-/
namespace Validium.Store

variable {W α : Type}

namespace Slots

/-- The slots and failures say of each item what became of it, and nothing else. -/
structure Reports (s : Slots α) (keys : List String) (results : List (Except Fault α)) : Prop where
  length_values : s.values.length = results.length
  filled : ∀ (i : Nat) (a : α), s.values[i]? = some (some a) ↔ results[i]? = some (.ok a)
  failed : ∀ (i : Nat) (fault : Fault), results[i]? = some (.error fault) →
    s.values[i]? = some none ∧
    ∃ key, keys[i]? = some key ∧ s.errors.failures.filter (·.index == i) = [⟨i, key, fault⟩]
  only : ∀ f ∈ s.errors.failures, results[f.index]? = some (.error f.fault)
  increasing : s.errors.failures.Pairwise (·.index < ·.index)
  total : s.errors.total = results.length
  complete_iff : s.isComplete = true ↔ none ∉ s.values
  whole : s.isComplete = true →
    ∃ values : List α, s.values = values.map some ∧ s.toResult = .ok values
  partly : s.isComplete = false → s.toResult = .error (.incomplete s.errors)
  /-- No slot is empty without a failure. -/
  explained : ∀ fault, s.toResult ≠ .error (.fault fault)

theorem le_index_of_mem {index : Nat} {keys : List String} {results : List (Except Fault α)}
    {f : Failure} (h : f ∈ failuresFrom index keys results) : index ≤ f.index := by
  obtain ⟨i, hi, -⟩ := (mem_failuresFrom index keys results f).mp h
  omega

/-- Failures are told in the order of the items, each once. -/
theorem pairwise_failuresFrom (index : Nat) (keys : List String)
    (results : List (Except Fault α)) :
    (failuresFrom index keys results).Pairwise (·.index < ·.index) := by
  induction results generalizing index keys with
  | nil => cases keys <;> exact .nil
  | cons result rest ih =>
    cases keys with
    | nil => exact .nil
    | cons key keys =>
      cases result with
      | ok a => exact ih (index + 1) keys
      | error fault => exact .cons (fun f hf => le_index_of_mem hf) (ih (index + 1) keys)

/-- Failures in order of their items have one for each item that failed. -/
theorem filter_index_of_mem {failures : List Failure} {f : Failure}
    (h : failures.Pairwise (·.index < ·.index)) (hf : f ∈ failures) :
    failures.filter (·.index == f.index) = [f] := by
  induction h with
  | nil => cases hf
  | @cons g failures hlater hrest ih =>
    rcases List.mem_cons.mp hf with rfl | hmem
    · have hnone : failures.filter (·.index == f.index) = [] := by
        rw [List.filter_eq_nil_iff]
        intro g hg
        have hless := hlater g hg
        simp only [beq_iff_eq]
        omega
      rw [List.filter_cons_of_pos (by simp), hnone]
    · have hless := hlater f hmem
      rw [List.filter_cons_of_neg (by simp only [beq_iff_eq]; omega), ih hmem]

theorem getElem?_values_ofResults (keys : List String) (results : List (Except Fault α))
    (i : Nat) : (ofResults keys results).values[i]? = results[i]?.map Except.toOption :=
  List.getElem?_map

/-- No slot is empty exactly if every item succeeded. -/
theorem none_notMem_values_iff (keys : List String) (results : List (Except Fault α)) :
    none ∉ (ofResults keys results).values ↔
      ∃ values : List α, results = values.map Except.ok := by
  simp only [ofResults]
  induction results with
  | nil => exact iff_of_true List.not_mem_nil ⟨[], rfl⟩
  | cons result rest ih =>
    cases result with
    | error fault =>
      refine iff_of_false (fun h => h List.mem_cons_self) ?_
      rintro ⟨values, hvalues⟩
      cases values <;> cases hvalues
    | ok a =>
      rw [List.map_cons, List.mem_cons, not_or, ih]
      constructor
      · rintro ⟨-, values, rfl⟩
        exact ⟨a :: values, rfl⟩
      · rintro ⟨values, hvalues⟩
        cases values with
        | nil => cases hvalues
        | cons b values => exact ⟨(Option.some_ne_none a).symm, values, (List.cons.inj hvalues).2⟩

theorem reports_ofResults (keys : List String) (results : List (Except Fault α))
    (hlen : keys.length = results.length) : (ofResults keys results).Reports keys results := by
  have hcomplete := isComplete_ofResults_iff keys results hlen
  have hwhole : (ofResults keys results).isComplete = true →
      ∃ values : List α, (ofResults keys results).values = values.map some ∧
        (ofResults keys results).toResult = .ok values := by
    intro h
    obtain ⟨values, rfl⟩ := hcomplete.mp h
    rw [ofResults_map_ok]
    exact ⟨values, rfl, toResult_full values⟩
  have hpartly : (ofResults keys results).isComplete = false →
      (ofResults keys results).toResult = .error (.incomplete (ofResults keys results).errors) := by
    intro h
    rw [toResult, h]
    rfl
  refine ⟨List.length_map _, ?_, ?_, ?_, pairwise_failuresFrom 0 keys results, rfl, ?_, hwhole,
    hpartly, ?_⟩
  · intro i a
    rw [getElem?_values_ofResults]
    cases results[i]? with
    | none => simp
    | some result => cases result <;> simp [Except.toOption]
  · intro i fault hfault
    obtain ⟨hi, -⟩ := List.getElem?_eq_some_iff.mp hfault
    have hkey := List.getElem?_eq_getElem (hlen ▸ hi)
    refine ⟨by rw [getElem?_values_ofResults, hfault]; rfl, _, hkey, ?_⟩
    have hmem : ⟨i, keys[i], fault⟩ ∈ failuresFrom 0 keys results :=
      (mem_failuresFrom 0 keys results _).mpr ⟨i, (Nat.zero_add i).symm, hkey, hfault⟩
    exact filter_index_of_mem (pairwise_failuresFrom 0 keys results) hmem
  · intro f hf
    obtain ⟨i, hi, -, hresult⟩ := (mem_failuresFrom 0 keys results f).mp hf
    rwa [hi, Nat.zero_add]
  · rw [hcomplete, none_notMem_values_iff]
  · intro fault hfault
    cases h : (ofResults keys results).isComplete with
    | true =>
      obtain ⟨values, -, hvalues⟩ := hwhole h
      rw [hvalues] at hfault
      cases hfault
    | false =>
      rw [hpartly h] at hfault
      cases hfault

end Slots

namespace Archive

variable (m : Archive W)

/-- However the workers of an operation on several items go on, it comes to its end, with slots
that have the property together with the world. -/
def EachSurely (keys : List String) (works : List (Pool.Work W (Except Fault α))) (w : W)
    (P : Slots α → W → Prop) : Prop :=
  Pool.Surely (Pool.permits m.policy.effectiveConcurrency) works w fun results w' =>
    P (Slots.ofResults keys (results.map settle)) w'

/-- What is sure of every schedule holds of the run in the order of the list. -/
theorem EachSurely.each {m : Archive W} {keys : List String}
    {works : List (Pool.Work W (Except Fault α))} {w : W} {P : Slots α → W → Prop}
    (h : m.EachSurely keys works w P) {signal : Signal W} (hquiet : signal.Quiet)
    (hpermits : m.policy.concurrency.toNat ≤ Pool.maxPermits) :
    ∃ slots, (m.each signal keys (works.map Pool.Work.run) w).1 = .ok slots ∧
      P slots (m.each signal keys (works.map Pool.Work.run) w).2 := by
  obtain ⟨results, hresults, hproperty⟩ :=
    Pool.Surely.run h hquiet (permits_effectiveConcurrency m.policy hpermits)
  rw [each_eq, map_apply, hresults]
  exact ⟨_, rfl, hproperty⟩

/-- A read depends on no more than the answer of the store. -/
theorem readOne_congr {hash : Hash} {v w : W}
    (h : (m.objects.get (m.objectKey hash) v).1 = (m.objects.get (m.objectKey hash) w).1) :
    (m.readOne hash v).1 = (m.readOne hash w).1 := by
  rw [readOne, bind_apply, bind_apply, h]
  cases (m.objects.get (m.objectKey hash) w).1 <;> rfl

theorem getByHash_eq_corrupt (hash : Hash) (body : Bytes) (w : W)
    (hget : (m.objects.get (m.objectKey hash) w).1 = .returned (.ok body))
    (hdigest : keccak body ≠ hash) :
    (m.getByHash hash w).1 = .returned (.error (.corrupt (m.objectKey hash))) := by
  have hread : (m.getByHash hash w).1 = (m.objects.get (m.objectKey hash) w).1.map
      (· >>= verify (m.objectKey hash) hash) := rfl
  rw [hread, hget]
  exact congrArg Completion.returned (if_neg hdigest)

theorem map_settle_readOne (hashes : List Hash) (w : W) :
    (hashes.map fun hash => (m.readOne hash w).1).map settle =
      hashes.map fun hash => settle (m.getByHash hash w).1 := by
  rw [List.map_map]
  refine List.map_congr_left ?_
  intro hash _
  rw [← m.readOne_eq hash]
  rfl

/-- Several reads from a store whose answers depend on the keys alone report of each hash what
a read of this hash alone returns, in whatever steps the workers read and in whatever order
they take them. Where the read alone breaks down, that is the worker's fault. -/
theorem getMultiple_slotwise (answer : String → Completion (Except Fault Bytes))
    (hanswer : ∀ key w, (m.objects.get key w).1 = answer key)
    (hpermits : m.policy.concurrency.toNat ≤ Pool.maxPermits) (hashes : List Hash) (w : W) :
    ∃ slots : Slots Bytes,
      slots.Reports (hashes.map m.objectKey)
        (hashes.map fun hash => settle (m.getByHash hash w).1) ∧
      (∀ signal : Signal W, signal.Quiet → (m.getMultiple signal hashes w).1 = .ok slots) ∧
      ∀ work : Hash → Pool.Work W (Except Fault Bytes),
        (∀ hash ∈ hashes, ∀ result, (work hash).Ends result →
          ∃ v, result = (m.readOne hash v).1) →
        m.EachSurely (hashes.map m.objectKey) (hashes.map work) w fun found _ => found = slots := by
  have hsurely : ∀ work : Hash → Pool.Work W (Except Fault Bytes),
      (∀ hash ∈ hashes, ∀ result, (work hash).Ends result → ∃ v, result = (m.readOne hash v).1) →
      m.EachSurely (hashes.map m.objectKey) (hashes.map work) w fun found _ =>
        found = Slots.ofResults (hashes.map m.objectKey)
          (hashes.map fun hash => settle (m.getByHash hash w).1) := by
    intro work hwork
    refine Pool.surely_of_ends (Pool.permits_pos _)
      (permits_effectiveConcurrency m.policy hpermits) ?_
    intro results w' hends
    have hresults : results = hashes.map fun hash => (m.readOne hash w).1 := by
      refine Pool.results_eq hends ?_
      intro hash hhash result hresult
      obtain ⟨v, rfl⟩ := hwork hash hhash result hresult
      exact m.readOne_congr ((hanswer _ v).trans (hanswer _ w).symm)
    rw [hresults, map_settle_readOne]
  refine ⟨_, Slots.reports_ofResults _ _ (by simp), ?_, hsurely⟩
  intro signal hquiet
  have hread := hsurely (fun hash => .ofAction (m.readOne hash)) fun hash _ result hresult =>
    Pool.Work.ends_ofAction _ result hresult
  obtain ⟨slots, hslots, rfl⟩ := hread.each hquiet hpermits
  rwa [List.map_map] at hslots

def monotonous : Archive Unit where
  objects :=
    { name := "monotonous"
      put := fun _ _ _ => return .returned (.ok ())
      get := fun _ => return .returned (.ok [1])
      health := return .ok () }
  policy := .standard

def unkept : Hash := if keccak [1] = Word.zero then Word.ofNat 1 else Word.zero

theorem keccak_ne_unkept : keccak [1] ≠ unkept := by
  unfold unkept
  split
  next hzero =>
    rw [hzero]
    decide
  next hzero => exact hzero

/-- One hash asked for twice, and between them one whose object is corrupt. -/
theorem getMultiple_slotwise_monotonous :
    let hashes := [keccak [1], unkept, keccak [1]]
    monotonous.policy.concurrency.toNat ≤ Pool.maxPermits ∧
      ∃ slots, (monotonous.getMultiple .never hashes ()).1 = .ok slots ∧
        slots.values[0]? = some (some [1]) ∧ slots.values[1]? = some none ∧
        slots.values[2]? = some (some [1]) ∧
        slots.errors.failures.filter (·.index == 1) =
          [⟨1, monotonous.objectKey unkept, .corrupt (monotonous.objectKey unkept)⟩] := by
  intro hashes
  have hpermits : monotonous.policy.concurrency.toNat ≤ Pool.maxPermits := by decide
  obtain ⟨slots, hreports, hquiet, -⟩ := monotonous.getMultiple_slotwise
    (fun _ => .returned (.ok [1])) (fun _ _ => rfl) hpermits hashes ()
  have hown : (monotonous.getByHash (keccak [1]) ()).1 = .returned (.ok [1]) :=
    (monotonous.getByHash_eq_ok_iff _ _ _).mpr ⟨rfl, rfl⟩
  have hother : (monotonous.getByHash unkept ()).1 =
      .returned (.error (.corrupt (monotonous.objectKey unkept))) :=
    monotonous.getByHash_eq_corrupt unkept [1] () rfl keccak_ne_unkept
  simp only [hashes, List.map_cons, List.map_nil, hown, hother, settle] at hreports
  obtain ⟨hempty, key, hkey, hfailed⟩ := hreports.failed 1 _ rfl
  obtain rfl : monotonous.objectKey unkept = key := Option.some.inj hkey
  exact ⟨hpermits, slots, hquiet .never Signal.quiet_never, (hreports.filled 0 _).mpr rfl, hempty,
    (hreports.filled 2 _).mpr rfl, hfailed⟩

end Archive

end Validium.Store
