import Mathlib
import Validium.Url.Basic

/-!
Addresses that are made by appending to one. What is appended changes neither the scheme nor
the server that the text starts with, so some such texts can be read whatever follows.
-/
namespace Validium

theorem Text.cutFirst_append (mark : Char) (head tail : List Char)
    (h : head.all (· != mark) = true) :
    ∃ rest cut, Text.cutFirst mark (head ++ tail) = (head ++ rest, cut) := by
  have hall := List.all_eq_true.mp h
  rw [Text.cutFirst, List.dropWhile_append_of_pos hall, List.takeWhile_append_of_pos hall]
  cases tail.dropWhile (· != mark) with
  | nil => exact ⟨_, _, rfl⟩
  | cons c rest => exact ⟨_, _, rfl⟩

namespace Url

/-- A start without blanks stays, whatever follows. -/
theorem dropWhile_isEdge_append (head tail : List Char)
    (h : head.all (fun c => !isEdge c) = true) :
    head.dropWhile isEdge = head ∧
      ∃ rest, (head ++ tail).dropWhile isEdge = head ++ rest := by
  cases head with
  | nil => exact ⟨rfl, _, rfl⟩
  | cons c rest =>
    have hc : isEdge c = false := by
      have hkept := List.all_eq_true.mp h c List.mem_cons_self
      exact (Bool.not_eq_true' _).mp hkept
    have hstays : ∀ cs, (c :: cs).dropWhile isEdge = c :: cs := by
      intro cs
      rw [List.dropWhile_cons, hc]
      rfl
    exact ⟨hstays rest, tail, hstays (rest ++ tail)⟩

/-- A text is only cleaned behind a start without blanks. -/
theorem cleaned_append (head tail : String) (h : head.toList.all (fun c => !isEdge c) = true) :
    ∃ rest, cleaned (head ++ tail) = head.toList ++ rest := by
  obtain ⟨-, text, hfront⟩ := dropWhile_isEdge_append head.toList tail.toList h
  obtain ⟨hback, -⟩ := dropWhile_isEdge_append head.toList.reverse [] (by rw [List.all_reverse, h])
  have hkept : (head.toList.filter fun c => c != '\t' && c != '\n' && c != '\r') =
      head.toList := by
    rw [List.filter_eq_self]
    intro c hc
    have hedge := List.all_eq_true.mp h c hc
    by_contra hblank
    rw [Bool.and_eq_true, Bool.and_eq_true, bne_iff_ne, bne_iff_ne, bne_iff_ne] at hblank
    have heither : c = '\t' ∨ c = '\n' ∨ c = '\r' := by tauto
    rcases heither with rfl | rfl | rfl <;> cases hedge
  rw [cleaned, String.toList_append, hfront, List.reverse_append, List.dropWhile_append, hback]
  split
  · rw [List.reverse_reverse, hkept]
    exact ⟨[], (List.append_nil _).symm⟩
  · rw [List.reverse_append, List.reverse_reverse, List.filter_append, hkept]
    exact ⟨_, rfl⟩

/-- An address on the machine itself is read whatever its path and its query. -/
theorem exists_parse_append (tail : String) :
    ∃ url, parse ("http://[::1]/" ++ tail) = some url := by
  obtain ⟨text, htext⟩ := cleaned_append "http://[::1]/" tail rfl
  have hscheme : scheme? ("http://[::1]/".toList ++ text) =
    some ("http".toList, "//[::1]/".toList ++ text) := rfl
  obtain ⟨before, fragment, hfragment⟩ := Text.cutFirst_append '#' "//[::1]/".toList text rfl
  obtain ⟨path, query, hquery⟩ := Text.cutFirst_append '?' "//[::1]/".toList before rfl
  rw [parse, htext, hscheme]
  simp only [bind, Option.bind, hfragment, hquery]
  exact ⟨_, rfl⟩

end Url

end Validium
