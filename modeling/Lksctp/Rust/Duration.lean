-- SUMMARY: `std::time::Duration`: seconds and nanoseconds with their bounds, and the operations read as arithmetic on nanoseconds.
import Lksctp.Rust.Result

/-!
# Durations

A duration is a number of seconds in a `u64` and a number of nanoseconds below
one second. `asNanos` is its value, and the operations are specified through it.
-/

namespace Rust

/-- `std::time::Duration`. -/
@[ext] structure Duration where
  secs : Nat
  nanos : Nat
  secs_lt : secs < 2 ^ 64
  nanos_lt : nanos < 1000000000
  deriving DecidableEq, Repr

namespace Duration

def zero : Duration := ⟨0, 0, by decide, by decide⟩

def isZero (d : Duration) : Bool := d.secs = 0 ∧ d.nanos = 0

def subsecMicros (d : Duration) : Nat := d.nanos / 1000

def fromSecs (secs : UInt64) : Duration := ⟨secs.toNat, 0, secs.toNat_lt, by decide⟩

def fromMicros (micros : UInt64) : Duration where
  secs := micros.toNat / 1000000
  nanos := micros.toNat % 1000000 * 1000
  secs_lt := lt_of_le_of_lt (Nat.div_le_self _ _) micros.toNat_lt
  nanos_lt := by omega

/-- `a + b`, which panics when the seconds leave their type. -/
def add (a b : Duration) : Res Duration :=
  let nanos := a.nanos + b.nanos
  let secs := a.secs + b.secs + nanos / 1000000000
  if h : secs < 2 ^ 64 then
    .ok ⟨secs, nanos % 1000000000, h, Nat.mod_lt _ (by decide)⟩
  else Res.panic .overflow

/-! ## As numbers -/

def asNanos (d : Duration) : Nat := d.secs * 1000000000 + d.nanos

/-- The duration of so many nanoseconds; its seconds wrap around. -/
def ofNanos (nanos : Nat) : Duration where
  secs := nanos / 1000000000 % 2 ^ 64
  nanos := nanos % 1000000000
  secs_lt := Nat.mod_lt _ (by decide)
  nanos_lt := Nat.mod_lt _ (by decide)

@[simp] theorem ofNanos_asNanos (d : Duration) : ofNanos d.asNanos = d := by
  have hsecs := d.secs_lt
  have hnanos := d.nanos_lt
  apply Duration.ext
  · simp only [ofNanos, asNanos]
    omega
  · simp only [ofNanos, asNanos]
    omega

@[simp] theorem asNanos_fromSecs (secs : UInt64) :
    (fromSecs secs).asNanos = secs.toNat * 1000000000 := by
  simp [asNanos, fromSecs]

@[simp] theorem asNanos_fromMicros (micros : UInt64) :
    (fromMicros micros).asNanos = micros.toNat * 1000 := by
  simp only [asNanos, fromMicros]
  omega

theorem isZero_iff {d : Duration} : d.isZero = true ↔ d = zero := by
  simp [isZero, zero, Duration.ext_iff]

/-- Without an overflow the sum of the durations is the sum of their values. -/
theorem add_eq_ok {a b : Duration} (h : a.asNanos + b.asNanos < 2 ^ 64 * 1000000000) :
    ∃ c, add a b = .ok c ∧ c.asNanos = a.asNanos + b.asNanos := by
  unfold asNanos at h
  have hsecs : a.secs + b.secs + (a.nanos + b.nanos) / 1000000000 < 2 ^ 64 := by omega
  refine ⟨_, dif_pos hsecs, ?_⟩
  simp only [asNanos]
  omega

end Duration

end Rust
