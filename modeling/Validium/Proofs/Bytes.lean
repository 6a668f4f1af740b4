import Mathlib
import Validium.Bytes

/-!
Big-endian numerals. Reading a written number drops what the places cannot hold, and
writing back a read one gives the same bytes. The minimal numeral is the only one of its
value that does not start with a zero.
-/
namespace Validium.Bytes

theorem toNat_append_singleton (b : Bytes) (x : UInt8) :
    toNat (b ++ [x]) = toNat b * 256 + x.toNat := by
  simp only [toNat, List.foldl_append, List.foldl_cons, List.foldl_nil]

/-- Reading goes on from the value of what was read before. -/
theorem foldl_eq (b : Bytes) (n : Nat) :
    b.foldl (fun n x => n * 256 + x.toNat) n = n * 256 ^ b.length + toNat b := by
  induction b generalizing n with
  | nil => simp [toNat]
  | cons x r ih =>
    simp only [toNat, List.foldl_cons]
    rw [ih, ih (0 * 256 + x.toNat)]
    simp only [List.length_cons, Nat.pow_succ, Nat.add_mul, Nat.zero_mul, Nat.zero_add]
    rw [Nat.mul_assoc, Nat.mul_comm 256, Nat.add_assoc]

theorem toNat_append (a b : Bytes) : toNat (a ++ b) = toNat a * 256 ^ b.length + toNat b := by
  simp only [toNat, List.foldl_append]
  exact foldl_eq b _

theorem toNat_cons (x : UInt8) (b : Bytes) :
    toNat (x :: b) = x.toNat * 256 ^ b.length + toNat b := by
  have h := toNat_append [x] b
  simpa [toNat] using h

theorem toNat_lt (b : Bytes) : toNat b < 256 ^ b.length := by
  induction b with
  | nil => simp [toNat]
  | cons x r ih =>
    have hx : x.toNat ≤ 255 := Nat.le_of_lt_succ x.toNat_lt
    have hmul : x.toNat * 256 ^ r.length ≤ 255 * 256 ^ r.length := Nat.mul_le_mul_right _ hx
    rw [toNat_cons, List.length_cons, Nat.pow_succ]
    omega

theorem toNat_ofNat (width n : Nat) : toNat (ofNat width n) = n % 256 ^ width := by
  induction width generalizing n with
  | zero => simp [ofNat, toNat, Nat.mod_one]
  | succ width ih =>
    have hx : (UInt8.ofNat (n % 256)).toNat = n % 256 :=
      UInt8.toNat_ofNat_of_lt' (Nat.mod_lt _ (by decide))
    rw [ofNat, toNat_append_singleton, ih, hx, Nat.pow_succ, Nat.mul_comm (256 ^ width) 256,
      Nat.mod_mul]
    omega

theorem toNat_ofNat_of_lt (width n : Nat) (h : n < 256 ^ width) :
    toNat (ofNat width n) = n := by
  rw [toNat_ofNat, Nat.mod_eq_of_lt h]

theorem ofNat_append_singleton (width n : Nat) (x : UInt8) :
    ofNat (width + 1) (n * 256 + x.toNat) = ofNat width n ++ [x] := by
  have hx : x.toNat < 256 := x.toNat_lt
  have hquot : (n * 256 + x.toNat) / 256 = n := by omega
  have hrem : (n * 256 + x.toNat) % 256 = x.toNat := by omega
  rw [ofNat, hquot, hrem, UInt8.ofNat_toNat]

theorem ofNat_toNat (b : Bytes) : ofNat b.length (toNat b) = b := by
  induction b using List.reverseRecOn with
  | nil => rfl
  | append_singleton r x ih =>
    rw [List.length_append, List.length_singleton, toNat_append_singleton,
      ofNat_append_singleton, ih]

/-- The low places of a numeral are the numeral of fewer places. -/
theorem ofNat_add (high low n : Nat) :
    ofNat (high + low) n = ofNat high (n / 256 ^ low) ++ ofNat low n := by
  induction low generalizing n with
  | zero => simp [ofNat]
  | succ low ih =>
    rw [← Nat.add_assoc, ofNat, ih, Nat.div_div_eq_div_mul, Nat.pow_succ, Nat.mul_comm 256,
      ofNat, List.append_assoc]

theorem ofNat_zero (width : Nat) : ofNat width 0 = List.replicate width 0 := by
  induction width with
  | zero => rfl
  | succ width ih =>
    rw [ofNat, Nat.zero_div, ih, List.replicate_succ']
    rfl

/-- A small number fills the places in front of it with zeros. -/
theorem ofNat_add_of_lt (high low n : Nat) (h : n < 256 ^ low) :
    ofNat (high + low) n = List.replicate high 0 ++ ofNat low n := by
  rw [ofNat_add, Nat.div_eq_of_lt h, ofNat_zero]

theorem toNat_eq_zero_iff (b : Bytes) : toNat b = 0 ↔ ∀ x ∈ b, x = 0 := by
  induction b with
  | nil => simp [toNat]
  | cons x r ih =>
    have hpow : 0 < 256 ^ r.length := Nat.pow_pos (by decide)
    rw [toNat_cons, Nat.add_eq_zero_iff, Nat.mul_eq_zero, ih, List.forall_mem_cons]
    constructor
    · rintro ⟨hx | hzero, hr⟩
      · exact ⟨UInt8.toNat_inj.mp hx, hr⟩
      · omega
    · rintro ⟨rfl, hr⟩
      exact ⟨Or.inl rfl, hr⟩

/-- A number is small when all places in front of the low ones are zero. -/
theorem toNat_append_lt_iff (high low : Bytes) :
    toNat (high ++ low) < 256 ^ low.length ↔ ∀ x ∈ high, x = 0 := by
  have hlow := toNat_lt low
  rw [← toNat_eq_zero_iff, toNat_append]
  constructor
  · intro h
    by_contra hne
    have hpos : 1 ≤ toNat high := Nat.one_le_iff_ne_zero.mpr hne
    have hmul : 1 * 256 ^ low.length ≤ toNat high * 256 ^ low.length :=
      Nat.mul_le_mul_right _ hpos
    omega
  · intro h
    rw [h, Nat.zero_mul, Nat.zero_add]
    exact hlow

theorem toNat_dropWhile_zero (b : Bytes) : toNat (b.dropWhile (· == 0)) = toNat b := by
  induction b with
  | nil => rfl
  | cons x r ih =>
    by_cases hx : x = 0
    · subst x
      simp [toNat_cons, ih]
    · simp [hx]

theorem head?_dropWhile_zero (b : Bytes) : (b.dropWhile (· == 0)).head? ≠ some 0 := by
  induction b with
  | nil => simp
  | cons x r ih =>
    by_cases hx : x = 0
    · simpa [hx] using ih
    · simp [hx]

theorem dropWhile_zero_eq_self (b : Bytes) (h : b.head? ≠ some 0) :
    b.dropWhile (· == 0) = b := by
  cases b with
  | nil => rfl
  | cons x r =>
    have hx : x ≠ 0 := by simpa using h
    simp [hx]

theorem dropWhile_zero_replicate (count : Nat) (b : Bytes) :
    (List.replicate count 0 ++ b).dropWhile (· == 0) = b.dropWhile (· == 0) := by
  induction count with
  | zero => rfl
  | succ count ih => simp [List.replicate_succ, ih]

theorem toNat_minimal (n : Nat) (h : n < 2 ^ 64) : toNat (minimal n) = n := by
  rw [minimal, toNat_dropWhile_zero, toNat_ofNat_of_lt 8 n h]

theorem head?_minimal (n : Nat) : (minimal n).head? ≠ some 0 := head?_dropWhile_zero _

theorem length_minimal_le (n : Nat) : (minimal n).length ≤ 8 := by
  have h := (List.dropWhile_suffix (· == 0) (l := ofNat 8 n)).length_le
  rwa [length_ofNat] at h

theorem length_minimal_pos (n : Nat) (hn : 0 < n) (h : n < 2 ^ 64) :
    0 < (minimal n).length := by
  apply List.length_pos_iff.mpr
  intro hnil
  have hval := toNat_minimal n h
  rw [hnil] at hval
  simp [toNat] at hval
  omega

/-- A numeral of at most eight places without a leading zero is the minimal one. -/
theorem minimal_toNat (b : Bytes) (hlen : b.length ≤ 8) (hhead : b.head? ≠ some 0) :
    minimal (toNat b) = b := by
  have hpad : ofNat 8 (toNat b) = List.replicate (8 - b.length) 0 ++ b := by
    have h := ofNat_add_of_lt (8 - b.length) b.length (toNat b) (toNat_lt b)
    rwa [Nat.sub_add_cancel hlen, ofNat_toNat] at h
  rw [minimal, hpad, dropWhile_zero_replicate, dropWhile_zero_eq_self b hhead]

end Validium.Bytes
