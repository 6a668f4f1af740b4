import Mathlib
import Validium.Retry

/-!
The waits of a policy, as numbers of nanoseconds. A fixed policy always waits the same. The wait
of an exponential one is its first wait times a factor that doubles from attempt to attempt for
as long as it fits 32 bits; from then on the factor is the largest of 32 bits, and a wait beyond
the longest duration is that duration. So waits never shrink, and only a first wait of nothing
stays nothing. The words on the way hold whatever is put into them.
-/
namespace Validium

namespace Duration

theorem toNanos_longest : longest.toNanos = (2 ^ 64 - 1) * 1000000000 + 999999999 := by decide

theorem toNanos_injective : Function.Injective toNanos := by
  intro d e h
  have hd := d.nanos_lt
  have he := e.nanos_lt
  rw [toNanos, toNanos, nanosPerSecond] at h
  have hseconds : d.seconds = e.seconds := UInt64.toNat_inj.mp (by omega)
  have hnanos : d.nanos = e.nanos := UInt32.toNat_inj.mp (by omega)
  cases d
  cases e
  simp_all

theorem toNanos_new (seconds : UInt64) (nanos : Nat) : (new seconds nanos).toNanos =
    min (seconds.toNat * nanosPerSecond + nanos) longest.toNanos := by
  have hsecond : nanosPerSecond = 1000000000 := rfl
  rw [new]
  split_ifs with hfits
  · have hword := UInt64.toNat_ofNat_of_lt' hfits
    have hrest : (UInt32.ofNat (nanos % nanosPerSecond)).toNat = nanos % nanosPerSecond :=
      UInt32.toNat_ofNat_of_lt' (by rw [UInt32.size, hsecond]; omega)
    rw [UInt64.size] at hfits
    rw [toNanos, hword, hrest, toNanos_longest, hsecond]
    rw [hsecond] at hfits
    omega
  · rw [UInt64.size, hsecond] at hfits
    rw [toNanos_longest, hsecond]
    omega

/-- Less than a second of nanoseconds stays what it is. -/
theorem new_of_lt (seconds : UInt64) {nanos : Nat} (h : nanos < nanosPerSecond) :
    (new seconds nanos).seconds = seconds ∧ (new seconds nanos).nanos.toNat = nanos := by
  have hnone : nanos / nanosPerSecond = 0 := Nat.div_eq_of_lt h
  have hfits : seconds.toNat + nanos / nanosPerSecond < UInt64.size := by
    rw [hnone]
    exact seconds.toNat_lt
  have hword : nanos % nanosPerSecond < UInt32.size := by
    rw [Nat.mod_eq_of_lt h]
    exact Nat.lt_trans h (by decide)
  rw [new]
  simp only [if_pos hfits]
  refine ⟨?_, ?_⟩
  · rw [hnone, Nat.add_zero, UInt64.ofNat_toNat]
  · rw [UInt32.toNat_ofNat_of_lt' hword, Nat.mod_eq_of_lt h]

section Words

variable (d : Duration) (factor : UInt32)

/-- Fewer than a second of nanoseconds fit 64 bits however often they are taken. -/
theorem nanos_mul_lt : d.nanos.toNat * factor.toNat < 2 ^ 64 := by
  have hproduct := Nat.mul_le_mul (Nat.le_of_lt d.nanos_lt) (Nat.le_of_lt factor.toNat_lt)
  omega

theorem toNat_nanos_mul :
    (d.nanos.toUInt64 * factor.toUInt64).toNat = d.nanos.toNat * factor.toNat := by
  rw [UInt64.toNat_mul, UInt32.toNat_toUInt64, UInt32.toNat_toUInt64,
    Nat.mod_eq_of_lt (d.nanos_mul_lt factor)]

theorem toNanos_mul : d.toNanos * factor.toNat =
    (d.seconds.toNat * factor.toNat + d.nanos.toNat * factor.toNat / nanosPerSecond) *
        nanosPerSecond + d.nanos.toNat * factor.toNat % nanosPerSecond := by
  have hsplit := Nat.div_add_mod' (d.nanos.toNat * factor.toNat) nanosPerSecond
  rw [toNanos, Nat.add_mul, Nat.mul_right_comm, Nat.add_mul, Nat.add_assoc, hsplit]

/-- Seconds and nanoseconds are scaled apart, with a carry, and saturate together. -/
theorem scale_eq : d.scale factor =
    if d.seconds.toNat * factor.toNat + d.nanos.toNat * factor.toNat / nanosPerSecond < 2 ^ 64 then
      new (UInt64.ofNat
        (d.seconds.toNat * factor.toNat + d.nanos.toNat * factor.toNat / nanosPerSecond))
        (d.nanos.toNat * factor.toNat % nanosPerSecond)
    else longest := by
  have htotal := d.toNat_nanos_mul factor
  have hcarried : (d.nanos.toUInt64 * factor.toUInt64 / 1000000000).toNat =
      d.nanos.toNat * factor.toNat / nanosPerSecond := by
    rw [UInt64.toNat_div, htotal]
    rfl
  have hrest : (d.nanos.toUInt64 * factor.toUInt64 % 1000000000).toNat =
      d.nanos.toNat * factor.toNat % nanosPerSecond := by
    rw [UInt64.toNat_mod, htotal]
    rfl
  rw [scale]
  simp only [hcarried, hrest]
  rfl

theorem toNanos_scale :
    (d.scale factor).toNanos = min (d.toNanos * factor.toNat) longest.toNanos := by
  rw [scale_eq, toNanos_mul]
  split_ifs with hfits
  · rw [toNanos_new, UInt64.toNat_ofNat_of_lt' hfits]
  · rw [nanosPerSecond] at hfits
    rw [toNanos_longest, nanosPerSecond]
    omega

end Words

end Duration

/-! ### Arithmetic with checks -/

def fitting (width n : Nat) : Option Nat := if n < 2 ^ width then some n else none

theorem fitting_of_lt {width n : Nat} (h : n < 2 ^ width) : fitting width n = some n := if_pos h

theorem fitting_of_not_lt {width n : Nat} (h : ¬ n < 2 ^ width) : fitting width n = none :=
  if_neg h

theorem fitting_bind_add (width m n : Nat) :
    (fitting width m >>= fun k => fitting width (k + n)) = fitting width (m + n) := by
  by_cases hm : m < 2 ^ width
  · rw [fitting_of_lt hm]
    rfl
  · rw [fitting_of_not_lt hm, fitting_of_not_lt (by omega)]
    rfl

/-- The seconds and nanoseconds of a duration taken `factor` times, or nothing if a number on the
way leaves its word. Seconds that do not fit theirs are expected, and make the longest duration. -/
def Duration.checkedScale (d : Duration) (factor : Nat) : Option (Nat × Nat) := do
  let total ← fitting 64 (d.nanos.toNat * factor)
  let carried ← fitting 64 (total / nanosPerSecond)
  let nanos ← fitting 32 (total % nanosPerSecond)
  match fitting 64 (d.seconds.toNat * factor) >>= fun seconds => fitting 64 (seconds + carried) with
  | none => return (longest.seconds.toNat, longest.nanos.toNat)
  | some seconds =>
    let seconds ← fitting 64 (seconds + nanos / nanosPerSecond)
    return (seconds, nanos % nanosPerSecond)

namespace Retry.Policy

/-- How many times its first wait an exponential policy waits, or nothing if the power of two is
too large for its word. -/
def checkedGrowth (attempt : Nat) : Option Nat :=
  if attempt - 1 < 32 then fitting 32 (2 ^ (attempt - 1)) else some (2 ^ 32 - 1)

def checkedDelay (p : Policy) (attempt : Nat) : Option (Nat × Nat) :=
  match p.backoff with
  | .fixed => some (p.baseDelay.seconds.toNat, p.baseDelay.nanos.toNat)
  | .exponential => checkedGrowth attempt >>= p.baseDelay.checkedScale

end Retry.Policy

theorem Duration.checkedScale_eq (d : Duration) (factor : UInt32) :
    d.checkedScale factor.toNat =
      some ((d.scale factor).seconds.toNat, (d.scale factor).nanos.toNat) := by
  have htotal := d.nanos_mul_lt factor
  have hcarried : d.nanos.toNat * factor.toNat / nanosPerSecond < 2 ^ 64 :=
    Nat.lt_of_le_of_lt (Nat.div_le_self _ _) htotal
  have hrest : d.nanos.toNat * factor.toNat % nanosPerSecond < nanosPerSecond :=
    Nat.mod_lt _ (by decide)
  have hnanos : d.nanos.toNat * factor.toNat % nanosPerSecond < 2 ^ 32 :=
    Nat.lt_trans hrest (by decide)
  rw [checkedScale, fitting_of_lt htotal, Option.bind_eq_bind, Option.bind_some,
    fitting_of_lt hcarried, Option.bind_some, fitting_of_lt hnanos, Option.bind_some,
    fitting_bind_add, scale_eq]
  split_ifs with hfits
  · obtain ⟨hseconds, hkept⟩ := new_of_lt (UInt64.ofNat (d.seconds.toNat * factor.toNat +
      d.nanos.toNat * factor.toNat / nanosPerSecond)) hrest
    rw [fitting_of_lt hfits, hseconds, hkept, UInt64.toNat_ofNat_of_lt' hfits]
    simp only [Nat.div_eq_of_lt hrest, Nat.mod_eq_of_lt hrest, Nat.add_zero, fitting_of_lt hfits]
    rfl
  · rw [fitting_of_not_lt hfits]
    rfl

namespace Retry.Policy

def growth (attempt : UInt32) : UInt32 :=
  let shift : UInt32 := if attempt = 0 then 0 else attempt - 1
  if shift < 32 then (1 : UInt32) <<< shift else 0xffffffff

theorem nominalDelay_exponential (attempts : UInt32) (b : Duration) (k : UInt32) :
    (exponential attempts b).nominalDelay k = b.scale (growth k) := rfl

/-- The steps of doubling that lie before an attempt. -/
theorem toNat_shift (k : UInt32) : (if k = 0 then 0 else k - 1 : UInt32).toNat = k.toNat - 1 := by
  split_ifs with hk
  · rw [hk]
    rfl
  · have hpos : (1 : UInt32) ≤ k := by
      rw [UInt32.le_iff_toNat_le]
      have hne : k.toNat ≠ 0 := fun h => hk (UInt32.toNat_inj.mp h)
      exact Nat.one_le_iff_ne_zero.mpr hne
    rw [UInt32.toNat_sub_of_le _ _ hpos]
    rfl

/-- No bit is lost as long as the power of two is below 32 bits. -/
theorem toNat_one_shiftLeft {shift : UInt32} (h : shift.toNat < 32) :
    ((1 : UInt32) <<< shift).toNat = 2 ^ shift.toNat := by
  have hfits : 2 ^ shift.toNat < 2 ^ 32 := Nat.pow_lt_pow_right (by decide) h
  rw [UInt32.toNat_shiftLeft, Nat.mod_eq_of_lt h]
  change 1 <<< shift.toNat % 2 ^ 32 = 2 ^ shift.toNat
  rw [Nat.one_shiftLeft, Nat.mod_eq_of_lt hfits]

theorem toNat_growth_of_lt {k : UInt32} (h : k.toNat - 1 < 32) :
    (growth k).toNat = 2 ^ (k.toNat - 1) := by
  have hshift := toNat_shift k
  rw [← hshift] at h ⊢
  have hsmall : (if k = 0 then 0 else k - 1 : UInt32) < 32 := UInt32.lt_iff_toNat_lt.mpr h
  rw [growth]
  simp only [if_pos hsmall]
  exact toNat_one_shiftLeft h

theorem toNat_growth_of_le {k : UInt32} (h : 32 ≤ k.toNat - 1) :
    (growth k).toNat = 2 ^ 32 - 1 := by
  have hlarge : ¬ (if k = 0 then 0 else k - 1 : UInt32) < 32 := by
    rw [UInt32.lt_iff_toNat_lt, toNat_shift]
    exact Nat.not_lt.mpr h
  rw [growth]
  simp only [if_neg hlarge]
  rfl

theorem checkedGrowth_eq (k : UInt32) : checkedGrowth k.toNat = some (growth k).toNat := by
  rw [checkedGrowth]
  split_ifs with hsmall
  · rw [toNat_growth_of_lt hsmall, fitting_of_lt (Nat.pow_lt_pow_right (by decide) hsmall)]
  · rw [toNat_growth_of_le (Nat.not_lt.mp hsmall)]

theorem toNat_growth (k : UInt32) : (growth k).toNat = min (2 ^ (k.toNat - 1)) (2 ^ 32 - 1) := by
  by_cases hsmall : k.toNat - 1 < 32
  · have hpower : 2 ^ (k.toNat - 1) < 2 ^ 32 := Nat.pow_lt_pow_right (by decide) hsmall
    rw [toNat_growth_of_lt hsmall]
    omega
  · have hlarge := Nat.not_lt.mp hsmall
    have hpower : 2 ^ 32 ≤ 2 ^ (k.toNat - 1) := Nat.pow_le_pow_right (by decide) hlarge
    rw [toNat_growth_of_le hlarge]
    omega

/-- The wait doubles with each attempt until the factor or the duration saturates. -/
theorem toNanos_nominalDelay (attempts : UInt32) (b : Duration) (k : UInt32) :
    ((exponential attempts b).nominalDelay k).toNanos =
      min (b.toNanos * min (2 ^ (k.toNat - 1)) (2 ^ 32 - 1)) Duration.longest.toNanos := by
  rw [nominalDelay_exponential, Duration.toNanos_scale, toNat_growth]

/-- No wait is shorter than one before it. -/
theorem toNanos_nominalDelay_mono (attempts : UInt32) (b : Duration) {j k : UInt32} (h : j ≤ k) :
    ((exponential attempts b).nominalDelay j).toNanos ≤
      ((exponential attempts b).nominalDelay k).toNanos := by
  have hpower : 2 ^ (j.toNat - 1) ≤ 2 ^ (k.toNat - 1) :=
    Nat.pow_le_pow_right (by decide) (Nat.sub_le_sub_right (UInt32.le_iff_toNat_le.mp h) 1)
  rw [toNanos_nominalDelay, toNanos_nominalDelay]
  exact min_le_min_right _ (Nat.mul_le_mul_left _ (min_le_min_right _ hpower))

theorem nominalDelay_eq_zero_iff (attempts : UInt32) (b : Duration) (k : UInt32) :
    (exponential attempts b).nominalDelay k = .ofSeconds 0 ↔ b = .ofSeconds 0 := by
  have hzero : (Duration.ofSeconds 0).toNanos = 0 := by decide
  have hpower : 0 < 2 ^ (k.toNat - 1) := Nat.two_pow_pos _
  rw [← Duration.toNanos_injective.eq_iff, ← Duration.toNanos_injective.eq_iff, hzero,
    toNanos_nominalDelay, Duration.toNanos_longest]
  constructor
  · intro h
    have hproduct : b.toNanos * min (2 ^ (k.toNat - 1)) (2 ^ 32 - 1) = 0 := by omega
    rcases Nat.mul_eq_zero.mp hproduct with hb | hfactor
    · exact hb
    · omega
  · intro h
    rw [h, Nat.zero_mul]
    rfl

theorem checkedDelay_eq (p : Policy) (k : UInt32) : p.checkedDelay k.toNat =
    some ((p.nominalDelay k).seconds.toNat, (p.nominalDelay k).nanos.toNat) := by
  obtain ⟨attempts, b, backoff⟩ := p
  cases backoff with
  | fixed => rfl
  | exponential =>
    have hdelay := nominalDelay_exponential attempts b k
    rw [exponential] at hdelay
    rw [hdelay, checkedDelay, checkedGrowth_eq]
    exact b.checkedScale_eq (growth k)

/-- The waits of an exponential policy are exact: doubled as often as 32 bits allow, and no longer
than the longest duration. No number on the way to them leaves its word; they never shrink, and
they are nothing only where the first is. Those of a fixed policy are all the same. -/
theorem nominalDelay_exact (attempts : UInt32) (b : Duration) :
    (∀ k : UInt32, 1 ≤ k → ((exponential attempts b).nominalDelay k).toNanos =
      min (b.toNanos * min (2 ^ (k.toNat - 1)) (2 ^ 32 - 1))
        ((2 ^ 64 - 1) * 1000000000 + 999999999)) ∧
    (∀ (p : Policy) (k : UInt32), p.checkedDelay k.toNat =
      some ((p.nominalDelay k).seconds.toNat, (p.nominalDelay k).nanos.toNat)) ∧
    (∀ j k : UInt32, j ≤ k → ((exponential attempts b).nominalDelay j).toNanos ≤
      ((exponential attempts b).nominalDelay k).toNanos) ∧
    (∀ k, (exponential attempts b).nominalDelay k = .ofSeconds 0 ↔ b = .ofSeconds 0) ∧
    ∀ k, (fixed attempts b).nominalDelay k = b := by
  refine ⟨?_, checkedDelay_eq, ?_, nominalDelay_eq_zero_iff attempts b, fun _ => rfl⟩
  · intro k _
    rw [toNanos_nominalDelay, Duration.toNanos_longest]
  · intro j k h
    exact toNanos_nominalDelay_mono attempts b h

/-- From a little more than 2 ^ 33 seconds, the wait after attempt 31 is still exact; the one after
attempt 32 is the longest duration. -/
theorem nominalDelay_exact_longest :
    ((exponential 40 ⟨8589934592, 500000001, by decide⟩).nominalDelay 31).toNanos =
      9223372037391646721 * 1000000000 + 73741824 ∧
    (exponential 40 ⟨8589934592, 500000001, by decide⟩).nominalDelay 32 = Duration.longest ∧
    ((exponential 40 ⟨8589934592, 500000001, by decide⟩).nominalDelay 31).toNanos ≤
      ((exponential 40 ⟨8589934592, 500000001, by decide⟩).nominalDelay 32).toNanos := by
  obtain ⟨hexact, -, hmono, -, -⟩ :=
    nominalDelay_exact 40 ⟨8589934592, 500000001, by decide⟩
  refine ⟨?_, ?_, hmono 31 32 (by decide)⟩
  · rw [hexact 31 (by decide)]
    decide
  · apply Duration.toNanos_injective
    rw [hexact 32 (by decide)]
    decide

end Retry.Policy

end Validium
