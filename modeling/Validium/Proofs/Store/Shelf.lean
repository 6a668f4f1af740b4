import Mathlib
import Validium.Proofs.Disk
import Validium.Proofs.Hex
import Validium.Store.Puts

/-!
Where a file store keeps things. All objects lie in one directory under names that end in 64
hexadecimal digits, and every body is staged in the same directory under a name that ends in a
point and the number of its put. So objects with different digests lie at different places, and
so do bodies staged under different numbers; and as a number of a put is shorter than a digest,
nothing is ever staged where an object lies.
-/
namespace Validium

theorem Text.cut_of_not_mem (mark : Char) (cs : List Char) (h : mark ∉ cs) :
    Text.cut mark cs = [cs] := by
  induction cs with
  | nil => rfl
  | cons c rest ih =>
    rw [List.mem_cons, not_or] at h
    rw [cut, ih h.2]
    exact if_neg (Ne.symm h.1)

/-- What holds no mark goes to the last part. -/
theorem Text.exists_cut_append (mark : Char) (head : List Char) :
    ∃ front last, ∀ tail, mark ∉ tail → Text.cut mark (head ++ tail) = front ++ [last ++ tail] := by
  induction head with
  | nil => exact ⟨[], [], fun tail htail => cut_of_not_mem mark tail htail⟩
  | cons c head ih =>
    obtain ⟨front, last, hcut⟩ := ih
    by_cases hc : c = mark
    · refine ⟨[] :: front, last, ?_⟩
      intro tail htail
      rw [List.cons_append, cut, hcut tail htail]
      cases front <;> exact if_pos hc
    · cases front with
      | nil =>
        refine ⟨[], c :: last, ?_⟩
        intro tail htail
        rw [List.cons_append, cut, hcut tail htail]
        exact if_neg hc
      | cons part front =>
        refine ⟨(c :: part) :: front, last, ?_⟩
        intro tail htail
        rw [List.cons_append, cut, hcut tail htail]
        exact if_neg hc

theorem Hex.digit_ne (n : Nat) (hn : n < 16) : digit n ≠ '/' ∧ digit n ≠ '.' := by
  interval_cases n <;> decide

theorem Hex.mem_encodeChars (b : Bytes) (c : Char) (h : c ∈ encodeChars b) :
    c ≠ '/' ∧ c ≠ '.' := by
  induction b with
  | nil => cases h
  | cons byte rest ih =>
    have hlt := byte.toNat_lt
    rw [encodeChars, List.mem_cons, List.mem_cons] at h
    rcases h with rfl | rfl | h
    · exact digit_ne _ (by omega)
    · exact digit_ne _ (by omega)
    · exact ih h

theorem Word.mem_digits (w : Word) (c : Char) (h : c ∈ w.digits.toList) : c ≠ '/' ∧ c ≠ '.' := by
  rw [digits, Hex.encode, String.toList_ofList] at h
  exact Hex.mem_encodeChars w.bytes c h

namespace Disk.Route

def IsName (step : String) : Prop := isIdle step = false ∧ step ≠ ".."

theorem isName_of_length {step : String} (h : 2 < step.toList.length) : IsName step := by
  have hne : ∀ other : String, other.toList.length ≤ 2 → step ≠ other := by
    rintro other hother rfl
    omega
  refine ⟨?_, hne ".." (by decide)⟩
  rw [isIdle, Bool.or_eq_false_iff, beq_eq_false_iff_ne, beq_eq_false_iff_ne]
  exact ⟨hne "" (by decide), hne "." (by decide)⟩

theorem place_append_name (front : Route) {step : String} (h : IsName step) :
    place (front ++ [step]) = place front ++ [step] := by
  rw [place, List.foldl_append, List.foldl_cons, List.foldl_nil, go, if_neg (by simp [h.1]),
    if_neg h.2]
  rfl

theorem foldl_go_idle (steps : List String) (h : ∀ step ∈ steps, isIdle step = true)
    (p : Path) : steps.foldl go p = p := by
  induction steps with
  | nil => rfl
  | cons step steps ih =>
    rw [List.foldl_cons, go, if_pos (h step List.mem_cons_self)]
    exact ih fun other hother => h other (List.mem_cons_of_mem step hother)

/-- A route is cut off where only steps that stay are left. -/
theorem exists_idle_tail (r : Route) :
    ∃ tail, (∀ step ∈ tail, isIdle step = true) ∧ r = trimmed r ++ tail := by
  refine ⟨(r.reverse.takeWhile isIdle).reverse, ?_, ?_⟩
  · intro step hstep
    exact List.mem_takeWhile_imp (List.mem_reverse.mp hstep)
  · rw [trimmed, ← List.reverse_append, List.takeWhile_append_dropWhile, List.reverse_reverse]

theorem place_trimmed (r : Route) : place (trimmed r) = place r := by
  obtain ⟨tail, hidle, hsplit⟩ := exists_idle_tail r
  calc place (trimmed r) = tail.foldl go (place (trimmed r)) := (foldl_go_idle _ hidle _).symm
    _ = place (trimmed r ++ tail) := (List.foldl_append ..).symm
    _ = place r := by rw [← hsplit]

theorem trimmed_append_name (front : Route) {step : String} (h : IsName step) :
    trimmed (front ++ [step]) = front ++ [step] := by
  rw [trimmed, List.reverse_append, List.reverse_singleton, List.singleton_append,
    List.dropWhile_cons_of_neg (by simp [h.1]), List.reverse_cons, List.reverse_reverse]

end Disk.Route

namespace Store.Shelf

open Disk (Route)

variable (σ : Shelf)

theorem exists_join (root key : String) :
    ∃ base : String, ∀ tail, Location.join root (key ++ tail) = base ++ tail := by
  by_cases h : (root.isEmpty || Location.endsWithSlash root) = true
  · refine ⟨root ++ key, ?_⟩
    intro tail
    rw [Location.join, if_pos h, String.append_assoc]
  · refine ⟨root ++ "/" ++ key, ?_⟩
    intro tail
    rw [Location.join, if_neg h]
    simp only [String.append_assoc]

/-- The routes to all objects differ in the digits of their digests only. -/
theorem exists_route : ∃ (front : Route) (last : String), ∀ hash,
    σ.route hash = front ++ [last ++ hash.digits] := by
  obtain ⟨base, hbase⟩ := exists_join σ.root σ.policy.keyHead
  obtain ⟨front, last, hcut⟩ := Text.exists_cut_append '/' base.toList
  refine ⟨front.map String.ofList, String.ofList last, ?_⟩
  intro hash
  have hslash : '/' ∉ hash.digits.toList := fun hmem => (hash.mem_digits _ hmem).1 rfl
  rw [route, key, Archive.keyOf, hbase, Route.ofText, String.toList_append, hcut _ hslash,
    List.map_append, List.map_singleton, String.ofList_append, String.ofList_toList]

def stagedName (name : String) (process n : Nat) : String := s!"{name}.tmp.{process}.{n}"

def ending (text : String) : List Char := text.toList.reverse.takeWhile (· != '.')

theorem ending_stagedName (name : String) (process n : Nat) :
    ending (stagedName name process n) = (Nat.toDigits 10 n).reverse := by
  have htext : (stagedName name process n).toList =
      (name ++ ".tmp." ++ process.repr).toList ++ '.' :: Nat.toDigits 10 n := by
    rw [← Nat.toList_repr]
    simp [stagedName, toString]
  have hdigits : ∀ c ∈ (Nat.toDigits 10 n).reverse, (c != '.') = true := by
    intro c hc
    have hdigit := Nat.isDigit_of_mem_toDigits (by decide) (by decide) (List.mem_reverse.mp hc)
    rw [bne_iff_ne]
    rintro rfl
    revert hdigit
    decide
  rw [ending, htext, List.reverse_append, List.reverse_cons, List.append_assoc,
    List.takeWhile_append_of_pos hdigits]
  simp

theorem ending_append_digits (last : String) (hash : Hash) :
    64 ≤ (ending (last ++ hash.digits)).length := by
  have hdigits : ∀ c ∈ hash.digits.toList.reverse, (c != '.') = true := by
    intro c hc
    rw [bne_iff_ne]
    exact (hash.mem_digits c (List.mem_reverse.mp hc)).2
  rw [ending, String.toList_append, List.reverse_append, List.takeWhile_append_of_pos hdigits,
    List.length_append, List.length_reverse, hash.length_digits]
  omega

theorem isName_append_digits (last : String) (hash : Hash) :
    Route.IsName (last ++ hash.digits) := by
  apply Route.isName_of_length
  rw [String.toList_append, List.length_append, hash.length_digits]
  omega

theorem isName_stagedName (name : String) (process n : Nat) :
    Route.IsName (stagedName name process n) := by
  apply Route.isName_of_length
  simp [stagedName, toString]
  omega

/-- Everything lies in one directory. -/
theorem exists_places : ∃ (base : Disk.Path) (last : String), ∀ hash,
    (σ.route hash).place = base ++ [last ++ hash.digits] ∧ ∀ process n,
      (σ.staged hash process n).place =
        base ++ [stagedName (last ++ hash.digits) process n] := by
  obtain ⟨front, last, hroute⟩ := σ.exists_route
  refine ⟨Route.place front, last, ?_⟩
  intro hash
  have hname := isName_append_digits last hash
  refine ⟨?_, ?_⟩
  · rw [hroute, Route.place_append_name front hname]
  · intro process n
    have hparent : (σ.route hash).parent = Route.trimmed front := by
      rw [hroute, Route.parent, Route.trimmed_append_name front hname, List.dropLast_concat]
    have hlast : (σ.route hash).name = last ++ hash.digits := by
      rw [hroute, Route.name, Route.trimmed_append_name front hname, List.getLast?_concat]
      rfl
    rw [staged, hparent, hlast]
    exact (Route.place_append_name _ (isName_stagedName _ process n)).trans
      (by rw [Route.place_trimmed])

theorem place_injective {hash hash' : Hash}
    (h : (σ.route hash).place = (σ.route hash').place) : hash = hash' := by
  obtain ⟨base, last, hplaces⟩ := σ.exists_places
  rw [(hplaces hash).1, (hplaces hash').1] at h
  have hnames := List.append_cancel_left h
  exact Word.eq_of_append_digits last last hash hash' (List.head_eq_of_cons_eq hnames)

theorem staged_injective {hash hash' : Hash} {process n n' : Nat}
    (h : (σ.staged hash process n).place = (σ.staged hash' process n').place) : n = n' := by
  obtain ⟨base, last, hplaces⟩ := σ.exists_places
  rw [(hplaces hash).2, (hplaces hash').2] at h
  have hnames := congrArg ending (List.head_eq_of_cons_eq (List.append_cancel_left h))
  rw [ending_stagedName, ending_stagedName, List.reverse_inj, ← Nat.toList_repr,
    ← Nat.toList_repr] at hnames
  exact Nat.repr_inj.mp (String.toList_injective hnames)

/-- Nothing is staged where an object lies. -/
theorem staged_ne_place {n : Nat} (hn : n < 2 ^ 64) (hash hash' : Hash) (process : Nat) :
    (σ.staged hash process n).place ≠ (σ.route hash').place := by
  intro h
  obtain ⟨base, last, hplaces⟩ := σ.exists_places
  rw [(hplaces hash).2, (hplaces hash').1] at h
  have hnames := congrArg ending (List.head_eq_of_cons_eq (List.append_cancel_left h))
  have hlength : (Nat.toDigits 10 n).length ≤ 63 :=
    (Nat.length_toDigits_le_iff (by decide) (by decide)).mpr (Nat.lt_trans hn (by decide))
  have hdigits := ending_append_digits last hash'
  rw [← hnames, ending_stagedName, List.length_reverse] at hdigits
  omega

end Store.Shelf

end Validium
