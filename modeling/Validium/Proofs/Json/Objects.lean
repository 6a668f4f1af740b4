import Mathlib
import Validium.Json.Record

/-!
Objects as records. What stands under a name is the same in whichever order the fields come, and
fields of other names do not count. A record is read from what stands under its names.
-/
namespace Validium.Json.Record

variable {fields : List (Option String × Tree)} {name : String} {x : Option Tree}

/-- What stands in an object under a name: the tree of the one field of this name, or nothing. -/
inductive Stands (fields : List (Option String × Tree)) (name : String) : Option Tree → Prop
  | once (before after : List (Option String × Tree)) (t : Tree)
      (hfields : fields = before ++ (some name, t) :: after)
      (hothers : ∀ f ∈ before ++ after, f.1 ≠ some name) : Stands fields name (some t)
  | never (h : ∀ f ∈ fields, f.1 ≠ some name) : Stands fields name none

theorem filter_name_eq_nil_iff :
    fields.filter (fun f => f.1 == some name) = [] ↔ ∀ f ∈ fields, f.1 ≠ some name := by
  simp only [List.filter_eq_nil_iff, beq_iff_eq, ne_eq]

theorem only?_eq_some_iff : only? name fields = some x ↔ Stands fields name x := by
  constructor
  · intro h
    rw [only?] at h
    split at h
    · rename_i hnone
      cases h
      exact .never (filter_name_eq_nil_iff.mp hnone)
    · rename_i f hone
      cases h
      obtain ⟨before, after, rfl, hbefore, hname, hafter⟩ := List.filter_eq_cons_iff.mp hone
      obtain ⟨first, t⟩ := f
      obtain rfl : first = some name := beq_iff_eq.mp hname
      refine .once before after t rfl fun f hf => ?_
      rcases List.mem_append.mp hf with hf | hf
      · exact fun heq => hbefore f hf (beq_iff_eq.mpr heq)
      · exact filter_name_eq_nil_iff.mp hafter f hf
    · cases h
  · intro h
    cases h with
    | once before after t hfields hothers =>
      have hbefore := filter_name_eq_nil_iff.mpr fun f hf =>
        hothers f (List.mem_append_left after hf)
      have hafter := filter_name_eq_nil_iff.mpr fun f hf =>
        hothers f (List.mem_append_right before hf)
      rw [only?, hfields, List.filter_append, List.filter_cons_of_pos (by simp), hbefore, hafter]
      rfl
    | never h => rw [only?, filter_name_eq_nil_iff.mpr h]

theorem Stands.eq_some_iff (h : Stands fields name x) (t : Tree) :
    x = some t ↔ (some name, t) ∈ fields := by
  cases h with
  | once before after u hfields hothers =>
    rw [hfields, Option.some_inj]
    constructor
    · rintro rfl
      exact List.mem_append_right before List.mem_cons_self
    · intro hmem
      by_contra hne
      refine hothers (some name, t) ?_ rfl
      simp only [List.mem_append, List.mem_cons, Prod.mk.injEq, true_and] at hmem ⊢
      tauto
  | never h => exact iff_of_false nofun fun hmem => h _ hmem rfl

theorem mapM_eq_some_iff {α β : Type} (f : α → Option β) (xs : List α) (ys : List β) :
    xs.mapM f = some ys ↔ List.Forall₂ (fun x y => f x = some y) xs ys := by
  induction xs generalizing ys with
  | nil =>
    rw [List.mapM_nil, List.forall₂_nil_left_iff]
    exact ⟨fun h => (Option.some.inj h).symm, fun h => congrArg some h.symm⟩
  | cons x xs ih =>
    rw [List.mapM_cons, List.forall₂_cons_left_iff]
    constructor
    · intro h
      obtain ⟨y, hy, h⟩ := Option.bind_eq_some_iff.mp h
      obtain ⟨ys', hys, h⟩ := Option.bind_eq_some_iff.mp h
      cases h
      exact ⟨y, ys', hy, (ih ys').mp hys, rfl⟩
    · rintro ⟨y, ys', hy, hys, rfl⟩
      rw [hy, (ih ys').mpr hys]
      rfl

/-- An object is read as a record when its fields all have names and no declared one is repeated. -/
theorem fields?_object_iff (names : List String) (xs : List (Option Tree)) :
    fields? names (.object fields) = some xs ↔
      (∀ f ∈ fields, f.1.isSome) ∧ List.Forall₂ (Stands fields) names xs := by
  have hread : Stands fields = fun n x => only? n fields = some x := by
    funext n x
    exact propext only?_eq_some_iff.symm
  rw [fields?, hread, ← mapM_eq_some_iff]
  by_cases hnamed : fields.all fun f => f.1.isSome
  · rw [if_pos hnamed, and_iff_right (List.all_eq_true.mp hnamed)]
  · rw [if_neg hnamed]
    exact iff_of_false nofun fun h => hnamed (List.all_eq_true.mpr h.1)

theorem named_ofFields (fields : List (String × Value)) :
    ∀ f ∈ Tree.ofFields fields, f.1.isSome := by
  induction fields with
  | nil => exact nofun
  | cons f fields ih => exact List.forall_mem_cons.mpr ⟨rfl, ih⟩

/-- An integer is read from a number without a sign, a fraction or an exponent. -/
theorem unsigned_eq_some_iff (width : Nat) (t : Tree) (n : Nat) :
    unsigned width t = some n ↔ t = .number (some (.int n)) ∧ n < 2 ^ width := by
  match t with
  | .number (some (.int (.ofNat m))) =>
    have hread : unsigned width (.number (some (.int (.ofNat m)))) =
        if m < 1 <<< width then some m else none := rfl
    have hsame : Tree.number (some (.int (.ofNat m))) = .number (some (.int n)) ↔ m = n := by simp
    rw [hread, Nat.one_shiftLeft, hsame, Option.ite_none_right_eq_some, Option.some_inj, and_comm]
    exact and_congr_right fun h => h ▸ Iff.rfl
  | .number (some (.int (.negSucc m))) => exact iff_of_false nofun nofun
  | .number (some (.float _)) | .number none => exact iff_of_false nofun nofun
  | .null | .bool _ | .string _ | .array _ | .object _ => exact iff_of_false nofun nofun

/-- The tree stands in a record under a name, or at the place that the name has among all names. -/
inductive Under (names : List String) (name : String) (t : Tree) : Tree → Prop
  | field (fields : List (Option String × Tree)) (h : (some name, t) ∈ fields) :
      Under names name t (.object fields)
  | item (items : List Tree) (i : Nat) (hname : names[i]? = some name) (ht : items[i]? = some t) :
      Under names name t (.array items)

/-- What is read for a name is the tree that stands under it. -/
theorem getElem?_fields? {names : List String} (hnodup : names.Nodup) {record t : Tree}
    {xs : List (Option Tree)} (h : fields? names record = some xs) {i : Nat}
    (hname : names[i]? = some name) : xs[i]? = some (some t) ↔ Under names name t record := by
  match record with
  | .object fields =>
    obtain ⟨hlength, hall⟩ := List.forall₂_iff_get.mp ((fields?_object_iff names xs).mp h).2
    obtain ⟨hi, hname⟩ := List.getElem?_eq_some_iff.mp hname
    have hi' : i < xs.length := hlength ▸ hi
    have hstands : Stands fields name xs[i] := hname ▸ hall i hi hi'
    rw [List.getElem?_eq_getElem hi', Option.some_inj, hstands.eq_some_iff]
    exact ⟨.field fields, fun h => by cases h; assumption⟩
  | .array items =>
    rw [fields?] at h
    split_ifs at h
    cases h
    have hplace : (items.map some ++
        List.replicate (names.length - items.length) none)[i]? = some (some t) ↔
          items[i]? = some t := by
      rw [List.getElem?_append]
      split_ifs with hi
      · simp
      · have hnone : items[i]? = none := by simpa using hi
        simp [hnone, List.getElem?_replicate]
    rw [hplace]
    refine ⟨.item items i hname, fun h => ?_⟩
    cases h with
    | item _ j hname' ht =>
      have hi : i < names.length := (List.getElem?_eq_some_iff.mp hname).1
      obtain rfl : i = j := (List.getElem?_inj hi hnodup).mp (hname.trans hname'.symm)
      exact ht
  | .null | .bool _ | .number _ | .string _ => cases h

end Validium.Json.Record
