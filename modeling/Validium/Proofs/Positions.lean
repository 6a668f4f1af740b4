import Mathlib

/-!
Lists whose items are changed one at a time and to which items are added at the end.
-/
namespace Validium

variable {β γ : Type} {l : List β} {i : Nat} {a b : β}

theorem mem_set (h : l[i]? = some a) (b : β) : b ∈ l.set i b := by
  obtain ⟨hi, -⟩ := List.getElem?_eq_some_iff.mp h
  exact List.mem_iff_getElem.mpr ⟨i, by rwa [List.length_set], List.getElem_set_self _⟩

/-- What holds of the new item and of all others holds of every item. -/
theorem forall_set {P : Nat → β → Prop} (h : l[i]? = some a) (hnew : P i b)
    (hothers : ∀ (j : Nat) (c : β), j ≠ i → l[j]? = some c → P j c) (j : Nat) (c : β)
    (hj : (l.set i b)[j]? = some c) : P j c := by
  by_cases hij : i = j
  · subst hij
    rw [List.getElem?_set_self (List.getElem?_eq_some_iff.mp h).1] at hj
    exact Option.some.inj hj ▸ hnew
  · rw [List.getElem?_set_ne hij] at hj
    exact hothers j c (Ne.symm hij) hj

theorem forall_concat {P : Nat → β → Prop} (hnew : P l.length a)
    (hothers : ∀ (j : Nat) (c : β), l[j]? = some c → P j c) (j : Nat) (c : β)
    (hj : (l ++ [a])[j]? = some c) : P j c := by
  rcases Nat.lt_trichotomy j l.length with hlt | rfl | hlt
  · rw [List.getElem?_append_left hlt] at hj
    exact hothers j c hj
  · rw [List.getElem?_concat_length] at hj
    exact Option.some.inj hj ▸ hnew
  · rw [List.getElem?_eq_none (by simp; omega)] at hj
    cases hj

theorem getElem?_set_any (h : l[i]? = some a) (p : β → Bool) (j : Nat) :
    (l.set i b)[j]?.any p = if i = j then p b else l[j]?.any p := by
  by_cases hij : i = j
  · subst hij
    rw [List.getElem?_set_self (List.getElem?_eq_some_iff.mp h).1, if_pos rfl]
    rfl
  · rw [List.getElem?_set_ne hij, if_neg hij]

theorem countP_set_add (p : β → Bool) (l : List β) (i : Nat) (a b : β) (h : l[i]? = some a) :
    (l.set i b).countP p + (p a).toNat = l.countP p + (p b).toNat := by
  induction l generalizing i with
  | nil => simp at h
  | cons c l ih =>
    cases i with
    | zero =>
      obtain rfl : c = a := by simpa using h
      simp only [List.set_cons_zero, List.countP_cons]
      cases p c <;> cases p b <;> simp
    | succ i =>
      have hrest := ih i (by simpa using h)
      simp only [List.set_cons_succ, List.countP_cons]
      omega

theorem map_set_same (f : β → γ) (h : l[i]? = some a) (hf : f b = f a) :
    (l.set i b).map f = l.map f := by
  apply List.ext_getElem?
  intro j
  rw [List.getElem?_map, List.getElem?_map]
  by_cases hij : i = j
  · subst hij
    rw [List.getElem?_set_self (List.getElem?_eq_some_iff.mp h).1, h]
    exact congrArg some hf
  · rw [List.getElem?_set_ne hij]

theorem set_length_append (front : List β) (a b : β) (back : List β) :
    (front ++ a :: back).set front.length b = front ++ b :: back := by
  simp

/-- Changing one item of a list cuts it from the items and puts the new one in. -/
theorem cutExpand_set {r : β → β → Prop} (h : l[i]? = some a) (hr : r b a) :
    Relation.CutExpand r (l.set i b : Multiset β) (l : Multiset β) := by
  induction l generalizing i with
  | nil => cases h
  | cons c l ih =>
    cases i with
    | zero =>
      obtain rfl := Option.some.inj h
      rw [List.set_cons_zero, ← Multiset.cons_coe, ← Multiset.cons_coe,
        ← Multiset.singleton_add, ← Multiset.singleton_add, Relation.cutExpand_add_right]
      exact Relation.cutExpand_singleton_singleton hr
    | succ i =>
      rw [List.set_cons_succ, ← Multiset.cons_coe, ← Multiset.cons_coe,
        ← Multiset.singleton_add, ← Multiset.singleton_add, Relation.cutExpand_add_left]
      exact ih h

end Validium
