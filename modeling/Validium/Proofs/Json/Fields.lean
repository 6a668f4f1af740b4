import Mathlib
import Validium.Json.Value

/-!
The fields of an object made from fields in any order. Of several fields with one name the
last counts, and fields that are in order already stay as they are.
-/
namespace Validium.Json.Value

theorem find?_insertField (name key : String) (v : Value) (fields : List (String × Value)) :
    (insertField key v fields).find? (·.1 == name) =
      if key = name then some (key, v) else fields.find? (·.1 == name) := by
  induction fields with
  | nil => by_cases hkey : key = name <;> simp [insertField, hkey]
  | cons f rest ih =>
    obtain ⟨first, w⟩ := f
    rw [insertField]
    by_cases hfirst : key = first
    · rw [if_pos hfirst, ← hfirst]
      by_cases hkey : key = name <;> simp [hkey]
    rw [if_neg hfirst]
    by_cases hbefore : key < first
    · rw [if_pos hbefore]
      by_cases hkey : key = name <;> simp [hkey]
    rw [if_neg hbefore, List.find?_cons, List.find?_cons, ih]
    by_cases hkey : key = name
    · have hother : (first == name) = false := by
        rw [beq_eq_false_iff_ne]
        exact fun h => hfirst (hkey.trans h.symm)
      rw [if_pos hkey, if_pos hkey, hother, hkey]
    · simp [hkey]

/-- Of fields with one name the last one stays. -/
theorem find?_foldl_insertField (name : String) (fields acc : List (String × Value)) :
    (fields.foldl (fun acc f => insertField f.1 f.2 acc) acc).find? (·.1 == name) =
      (fields.reverse.find? (·.1 == name)).or (acc.find? (·.1 == name)) := by
  induction fields generalizing acc with
  | nil => rfl
  | cons f rest ih =>
    obtain ⟨key, v⟩ := f
    rw [List.foldl_cons, ih, find?_insertField, List.reverse_cons, List.find?_append,
      Option.or_assoc]
    by_cases hkey : key = name <;> simp [hkey]

/-- The last of the fields with a name is the one that counts. -/
theorem field?_ofFields (fields : List (String × Value)) (name : String) :
    (ofFields fields).field? name = (fields.reverse.find? (·.1 == name)).map (·.2) := by
  rw [ofFields, field?, find?_foldl_insertField, List.find?_nil, Option.or_none]

theorem insertField_last {fields : List (String × Value)} {name : String} (v : Value)
    (h : ∀ f ∈ fields, f.1 < name) : insertField name v fields = fields ++ [(name, v)] := by
  induction fields with
  | nil => rfl
  | cons f rest ih =>
    obtain ⟨first, w⟩ := f
    have hfirst : first < name := h (first, w) List.mem_cons_self
    have hne : name ≠ first := fun heq => absurd (heq ▸ hfirst) (lt_irrefl _)
    have hnot : ¬ name < first := not_lt_of_gt hfirst
    rw [insertField, if_neg hne, if_neg hnot, ih fun f hf => h f (List.mem_cons_of_mem _ hf)]
    rfl

/-- Fields in order are inserted at the end. -/
theorem foldl_insertField (fields acc : List (String × Value))
    (h : (acc ++ fields).Pairwise fun f g => f.1 < g.1) :
    fields.foldl (fun acc f => insertField f.1 f.2 acc) acc = acc ++ fields := by
  induction fields generalizing acc with
  | nil => rw [List.foldl_nil, List.append_nil]
  | cons f rest ih =>
    have hlast : ∀ g ∈ acc, g.1 < f.1 := by
      intro g hg
      exact (List.pairwise_append.mp h).2.2 g hg f List.mem_cons_self
    have hsplit : acc ++ f :: rest = acc ++ [f] ++ rest := by simp
    rw [List.foldl_cons, insertField_last f.2 hlast, ih (acc ++ [f]) (hsplit ▸ h), hsplit]

/-- Fields in increasing order of their names stay as they are. -/
theorem ofFields_of_pairwise {fields : List (String × Value)}
    (h : fields.Pairwise fun f g => f.1 < g.1) : ofFields fields = .object fields := by
  rw [ofFields, foldl_insertField fields [] h, List.nil_append]

theorem ofFields_of_names {fields : List (String × Value)}
    (h : (fields.map Prod.fst).Pairwise (· < ·)) : ofFields fields = .object fields :=
  ofFields_of_pairwise (List.pairwise_map.mp h)

end Validium.Json.Value
