import Validium.Proofs.Settings.Variables

/-!
What a lookup of variables amounts to. Settings depend on what the variables say and on the head of
object keys, so a blank variable is as good as an unset one. Of the variables that do not have their
form the first is reported as it stands, whichever settings are missing besides.
-/
namespace Validium.Settings

/-- The first refusal is the one that is told. -/
theorem forM_eq_error_iff {α ε : Type} (f : α → Except ε Unit) (xs : List α) (e : ε) :
    xs.forM f = .error e ↔ ∃ before x after, xs = before ++ x :: after ∧
      (∀ y ∈ before, f y = .ok ()) ∧ f x = .error e := by
  induction xs with
  | nil =>
    refine iff_of_false nofun ?_
    rintro ⟨before, x, after, hsplit, -⟩
    exact List.append_ne_nil_of_right_ne_nil before (List.cons_ne_nil x after) hsplit.symm
  | cons x xs ih =>
    have hstep : (x :: xs).forM f = f x >>= fun _ => xs.forM f := rfl
    rw [hstep]
    cases hx : f x with
    | error e' =>
      constructor
      · intro h
        exact ⟨[], x, xs, rfl, nofun, hx.trans h⟩
      · rintro ⟨before, y, after, hsplit, hbefore, hy⟩
        rcases List.cons_eq_append_iff.mp hsplit with ⟨rfl, heq⟩ | ⟨before, rfl, -⟩
        · cases heq
          exact hx.symm.trans hy
        · have hok := hbefore x List.mem_cons_self
          rw [hx] at hok
          cases hok
    | ok =>
      have hrest : (Except.ok () >>= fun _ => xs.forM f) = xs.forM f := rfl
      rw [hrest, ih]
      constructor
      · rintro ⟨before, y, after, rfl, hbefore, hy⟩
        exact ⟨x :: before, y, after, rfl, List.forall_mem_cons.mpr ⟨hx, hbefore⟩, hy⟩
      · rintro ⟨before, y, after, hsplit, hbefore, hy⟩
        rcases List.cons_eq_append_iff.mp hsplit with ⟨rfl, heq⟩ | ⟨before, rfl, rfl⟩
        · cases heq
          rw [hx] at hy
          cases hy
        · exact ⟨before, y, after, rfl, (List.forall_mem_cons.mp hbefore).2, hy⟩

theorem forM_eq_ok_iff {α ε : Type} (f : α → Except ε Unit) (xs : List α) :
    xs.forM f = .ok () ↔ ∀ x ∈ xs, f x = .ok () := by
  induction xs with
  | nil => exact iff_of_true rfl nofun
  | cons x xs ih =>
    have hstep : (x :: xs).forM f = f x >>= fun _ => xs.forM f := rfl
    rw [hstep, List.forall_mem_cons, ← ih]
    cases f x with
    | error e => exact iff_of_false nofun nofun
    | ok => exact (and_iff_right rfl).symm

section Blanks

variable {lookup lookup' : String → Option String}

/-- A blank value and none at all are not told apart. -/
theorem present_congr {name : String}
    (h : lookup name = lookup' name ∨ Unset lookup name ∧ Unset lookup' name) :
    present lookup name = present lookup' name := by
  rcases h with h | ⟨h, h'⟩
  · rw [present, present, h]
  · rw [present_eq_none_iff.mpr h, present_eq_none_iff.mpr h']

/-- Settings depend on what the variables say and on the head of object keys. -/
theorem ofLookup_congr (h : ∀ name, present lookup name = present lookup' name)
    (hhead : lookup "DA_S3_OBJECT_PREFIX" = lookup' "DA_S3_OBJECT_PREFIX") :
    ofLookup lookup = ofLookup lookup' := by
  simp only [ofLookup, readVariable, h, hhead]

end Blanks

section Faults

variable (lookup : String → Option String)

def Faulty (v : String × Form) : Prop :=
  ∃ raw, SetTo lookup v.1 raw ∧ ¬ v.2.Fits raw

variable {lookup}

/-- A refusal shows the value as it was set, blanks and all. -/
theorem check_eq_error_iff (v : String × Form) (e : Error) : check lookup v = .error e ↔
    ∃ raw reason, SetTo lookup v.1 raw ∧ v.2.read (Text.trim raw) = .error reason ∧
      e = .invalidValue v.1 raw reason := by
  simp only [check, readVariable, ← present_eq_some_iff]
  cases present lookup v.1 with
  | none =>
    constructor
    · intro h
      cases h
    · rintro ⟨raw, reason, hset, -⟩
      cases hset
  | some raw =>
    simp only [Option.some.injEq]
    constructor
    · intro h
      cases hread : v.2.read (Text.trim raw) with
      | ok =>
        rw [hread] at h
        cases h
      | error reason =>
        rw [hread] at h
        cases h
        exact ⟨raw, reason, rfl, hread, rfl⟩
    · rintro ⟨_, reason, rfl, hread, rfl⟩
      rw [hread]
      rfl

theorem Form.exists_read_eq_error_iff (form : Form) (raw : String) :
    (∃ reason, form.read (Text.trim raw) = .error reason) ↔ ¬ form.Fits raw := by
  rw [← form.read_trim_eq_ok_iff]
  cases form.read (Text.trim raw) <;> simp

theorem check_eq_ok_iff (v : String × Form) : check lookup v = .ok () ↔ ¬ Faulty lookup v := by
  have hfault : (∃ e, check lookup v = .error e) ↔ Faulty lookup v := by
    simp only [check_eq_error_iff, Faulty, ← Form.exists_read_eq_error_iff]
    constructor
    · rintro ⟨-, raw, reason, hset, hread, -⟩
      exact ⟨raw, hset, reason, hread⟩
    · rintro ⟨raw, hset, reason, hread⟩
      exact ⟨_, raw, reason, hset, hread, rfl⟩
  rw [← hfault]
  cases check lookup v <;> simp

/-- An invalid value is reported when the checks come to it, and never by the validation. -/
theorem ofLookup_eq_invalidValue_iff (name raw reason : String) :
    ofLookup lookup = .error (.invalidValue name raw reason) ↔
      order.forM (check lookup) = .error (.invalidValue name raw reason) := by
  obtain ⟨s, hs⟩ := exists_ofLookup_eq lookup
  have hvalid : s.validated ≠ .error (.invalidValue name raw reason) := by
    rw [validated, validate]
    split_ifs <;> exact nofun
  rw [hs]
  cases order.forM (check lookup) with
  | error e =>
    change Except.error e = _ ↔ _
    rw [Except.error.injEq, Except.error.injEq]
  | ok => exact iff_of_false hvalid nofun

/-- Lookups that differ in blank variables alone give the same, except for the head of object keys.
The first variable that says something without its form is reported with its value as it stands,
and as long as there is one nothing else is reported. -/
theorem blank_unset_fault_first (lookup : String → Option String) :
    (∀ lookup' : String → Option String,
      (∀ name, lookup name = lookup' name ∨
        name ≠ "DA_S3_OBJECT_PREFIX" ∧ Unset lookup name ∧ Unset lookup' name) →
      ofLookup lookup = ofLookup lookup') ∧
    (∀ name raw, (∃ reason, ofLookup lookup = .error (.invalidValue name raw reason)) ↔
      ∃ before form after, order = before ++ (name, form) :: after ∧
        (∀ v ∈ before, ¬ Faulty lookup v) ∧ SetTo lookup name raw ∧
        ¬ form.Fits raw) ∧
    ((∃ v ∈ order, Faulty lookup v) →
      ∃ name raw reason, ofLookup lookup = .error (.invalidValue name raw reason)) := by
  refine ⟨?_, ?_, ?_⟩
  · intro lookup' h
    refine ofLookup_congr (fun name => present_congr ((h name).imp_right And.right)) ?_
    exact (h "DA_S3_OBJECT_PREFIX").resolve_right fun hother => hother.1 rfl
  · intro name raw
    simp only [ofLookup_eq_invalidValue_iff, forM_eq_error_iff, check_eq_ok_iff,
      check_eq_error_iff, ← Form.exists_read_eq_error_iff]
    constructor
    · rintro ⟨reason, before, ⟨_, form⟩, after, hsplit, hbefore, _, _, hset, hread, ⟨⟩⟩
      exact ⟨before, form, after, hsplit, hbefore, hset, reason, hread⟩
    · rintro ⟨before, form, after, hsplit, hbefore, hset, reason, hread⟩
      exact ⟨reason, before, (name, form), after, hsplit, hbefore, raw, reason, hset, hread, rfl⟩
  · rintro ⟨v, hv, hfaulty⟩
    cases hchecks : order.forM (check lookup) with
    | ok =>
      have hv := (forM_eq_ok_iff (check lookup) order).mp hchecks v hv
      exact absurd hfaulty ((check_eq_ok_iff v).mp hv)
    | error e =>
      obtain ⟨_, first, _, -, -, hfirst⟩ := (forM_eq_error_iff (check lookup) order e).mp hchecks
      obtain ⟨raw, reason, -, -, rfl⟩ := (check_eq_error_iff first e).mp hfirst
      exact ⟨first.1, raw, reason, (ofLookup_eq_invalidValue_iff _ _ _).mpr hchecks⟩

/-- A lookup where the proof service is on without an address, one variable is blank, and two do
not have their form. -/
def crowded (name : String) : Option String :=
  [("DA_BRIDGE_ENABLED", "yes"), ("DA_L1_RPC_URL", " \t"), ("DA_S3_OBJECT_PREFIX", " "),
    ("DA_BRIDGE_WAIT_SECS", " +15 "), ("DA_S3_CONCURRENCY", "many "),
    ("DA_S3_DISCARD_AFTER_TIMEOUT", "maybe")].lookup name

def sparse (name : String) : Option String :=
  if name = "DA_L1_RPC_URL" then none else crowded name

/-- A blank variable may be left out, and of two wrong values the first is told as it was set. -/
theorem blank_unset_fault_first_crowded :
    ofLookup crowded = ofLookup sparse ∧
    (∃ reason, ofLookup crowded = .error (.invalidValue "DA_S3_CONCURRENCY" "many " reason)) ∧
    ∃ name raw reason, ofLookup sparse = .error (.invalidValue name raw reason) := by
  obtain ⟨hblank, hfirst, -⟩ := blank_unset_fault_first crowded
  obtain ⟨-, -, hfault⟩ := blank_unset_fault_first sparse
  refine ⟨hblank sparse fun name => ?_, (hfirst _ _).mpr ?_, hfault ?_⟩
  · by_cases hname : name = "DA_L1_RPC_URL"
    · refine .inr ⟨hname ▸ by decide, ?_, ?_⟩
      · rintro raw hraw
        rw [hname] at hraw
        cases hraw
        decide
      · rintro raw hraw
        rw [sparse, if_pos hname] at hraw
        cases hraw
    · exact .inl (if_neg hname).symm
  · have hbefore : ∀ v ∈ order.take 4, ¬ Faulty crowded v := by
      simp only [← check_eq_ok_iff]
      decide
    refine ⟨order.take 4, .number 64, order.drop 5, rfl, hbefore, ⟨rfl, by decide⟩, ?_⟩
    rw [← Form.read_trim_eq_ok_iff]
    decide
  · refine ⟨("DA_S3_DISCARD_AFTER_TIMEOUT", .flag), by decide, "maybe", ⟨rfl, by decide⟩, ?_⟩
    rw [← Form.read_trim_eq_ok_iff]
    decide

end Faults

end Validium.Settings
