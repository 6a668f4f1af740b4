/-!
Lengths of time in whole seconds of 64 bits and nanoseconds below a second. Arithmetic
that would leave this range ends at its largest value.
-/
namespace Validium

structure Duration where
  seconds : UInt64
  nanos : UInt32
  nanos_lt : nanos.toNat < 1000000000
  deriving DecidableEq

namespace Duration

def nanosPerSecond : Nat := 1000000000

def toNanos (d : Duration) : Nat :=
  d.seconds.toNat * nanosPerSecond + d.nanos.toNat

def longest : Duration :=
  ⟨0xffffffffffffffff, 999999999, by decide⟩

/-- Nanoseconds of a second and more go over into seconds. -/
def new (seconds : UInt64) (nanos : Nat) : Duration :=
  let total := seconds.toNat + nanos / nanosPerSecond
  if total < UInt64.size then
    ⟨UInt64.ofNat total, UInt32.ofNat (nanos % nanosPerSecond), by
      have h : nanos % 1000000000 < 1000000000 := Nat.mod_lt _ (by decide)
      show (UInt32.ofNat (nanos % 1000000000)).toNat < 1000000000
      rw [UInt32.toNat_ofNat']
      exact Nat.lt_of_le_of_lt (Nat.mod_le _ _) h⟩
  else longest

def ofSeconds (n : UInt64) : Duration := ⟨n, 0, by decide⟩

def ofMillis (n : Nat) : Duration :=
  new (UInt64.ofNat (n / 1000)) (n % 1000 * 1000000)

/-- The duration taken `factor` times, in 64-bit arithmetic with checks. -/
def scale (d : Duration) (factor : UInt32) : Duration :=
  let total : UInt64 := d.nanos.toUInt64 * factor.toUInt64
  let carried : UInt64 := total / 1000000000
  let seconds := d.seconds.toNat * factor.toNat + carried.toNat
  if seconds < UInt64.size then new (UInt64.ofNat seconds) (total % 1000000000).toNat
  else longest

end Duration

end Validium
