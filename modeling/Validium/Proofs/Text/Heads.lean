import Mathlib
import Validium.Text.Blank

/-!
Texts without their leading repetitions of a head, and texts that are the same but for the case
of ASCII letters.
-/
namespace Validium.Text

/-- What is left of a text when the head is taken off as often as the text starts with it. -/
def Bared (head cs rest : List Char) : Prop :=
  ∃ k, cs = (List.replicate k head).flatten ++ rest ∧ ¬ head <+: rest

section Bared

variable {head : List Char}

theorem bared_go (hne : head ≠ []) (fuel : Nat) (cs : List Char) (h : cs.length ≤ fuel) :
    Bared head cs (dropAll.go head fuel cs) := by
  induction fuel generalizing cs with
  | zero =>
    have hnil : cs = [] := List.length_eq_zero_iff.mp (by omega)
    subst hnil
    exact ⟨0, rfl, by simpa [dropAll.go] using hne⟩
  | succ fuel ih =>
    rw [dropAll.go]
    by_cases hhead : head <+: cs
    · obtain ⟨tail, rfl⟩ := hhead
      have hlength : 0 < head.length := List.length_pos_iff.mpr hne
      rw [List.length_append] at h
      obtain ⟨k, htail, hrest⟩ := ih tail (by omega)
      have hstarts : (head.isPrefixOf (head ++ tail) && !head.isEmpty) = true := by
        simpa using hne
      rw [if_pos hstarts, List.drop_left]
      refine ⟨k + 1, ?_, hrest⟩
      rw [List.replicate_succ, List.flatten_cons, List.append_assoc, ← htail]
    · have hstops : ¬ (head.isPrefixOf cs && !head.isEmpty) = true := by
        simp [hhead]
      rw [if_neg hstops]
      exact ⟨0, rfl, hhead⟩

theorem bared_dropAll (hne : head ≠ []) (cs : List Char) : Bared head cs (dropAll head cs) :=
  bared_go hne cs.length cs (Nat.le_refl _)

theorem Bared.unique {cs rest rest' : List Char} (h : Bared head cs rest)
    (h' : Bared head cs rest') : rest = rest' := by
  obtain ⟨k, hcs, hrest⟩ := h
  obtain ⟨k', hcs', hrest'⟩ := h'
  subst hcs
  induction k generalizing k' with
  | zero =>
    cases k' with
    | zero => exact hcs'
    | succ k' =>
      rw [List.replicate_succ, List.flatten_cons, List.append_assoc] at hcs'
      exact absurd ⟨_, hcs'.symm⟩ hrest
  | succ k ih =>
    rw [List.replicate_succ, List.flatten_cons, List.append_assoc] at hcs'
    cases k' with
    | zero => exact absurd ⟨_, hcs'⟩ hrest'
    | succ k' =>
      rw [List.replicate_succ, List.flatten_cons, List.append_assoc] at hcs'
      exact ih k' (List.append_cancel_left hcs')

theorem bared_iff (hne : head ≠ []) (cs rest : List Char) :
    Bared head cs rest ↔ rest = dropAll head cs := by
  constructor
  · intro h
    exact h.unique (bared_dropAll hne cs)
  · rintro rfl
    exact bared_dropAll hne cs

end Bared

theorem toLower_toLower (c : Char) : c.toLower.toLower = c.toLower := by
  unfold Char.toLower
  grind

/-- In lower case already, a text does not change. -/
theorem foldCase_foldCase (text : String) :
    foldCase (String.ofList (foldCase text)) = foldCase text := by
  rw [foldCase, String.toList_ofList, foldCase, List.map_map]
  apply List.map_congr_left
  intro c _
  exact toLower_toLower c

end Validium.Text
