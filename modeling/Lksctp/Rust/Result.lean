-- SUMMARY: Outcomes of Rust code: panics, `io::Error` values, and overflow-checked `usize` arithmetic.
import Mathlib.Data.Nat.Bitwise
import Mathlib.Tactic.Common

/-!
# Outcomes of Rust code

A Rust function that returns `io::Result<T>` can end in three ways: with a
value, with an `io::Error`, or with a panic. The last two are the two cases of
`Fault`, so that the `?` operator is the bind of `Except Fault`, and the absence
of a panic is something a theorem can say.
-/

namespace Rust

/-! ## Panics and errors -/

/-- What the code can panic with. -/
inductive Panic where
  /-- Arithmetic left the range of its integer type. -/
  | overflow
  /-- A slice index or a `copy_from_slice` length was wrong. -/
  | slice
  /-- A failed `assert!`. -/
  | assertion (msg : String)
  /-- An allocation larger than `isize::MAX` bytes. -/
  | capacity
  /-- There is no Tokio runtime, or it has no I/O. -/
  | noRuntime
  deriving DecidableEq, Repr

/-- The values of `io::ErrorKind` that the code distinguishes. -/
inductive ErrorKind where
  | wouldBlock
  | invalidInput
  | invalidData
  | timedOut
  | connectionRefused
  | connectionReset
  | unsupported
  | outOfMemory
  | other
  deriving DecidableEq, Repr

abbrev Errno := Int32

namespace Errno

def eagain : Errno := 11
def enomem : Errno := 12
def einval : Errno := 22
def econnreset : Errno := 104
def etimedout : Errno := 110
def econnrefused : Errno := 111
def einprogress : Errno := 115

end Errno

/-- An `io::Error`: an OS error number, or a kind with a message. -/
inductive IoError where
  | os (errno : Errno)
  | custom (kind : ErrorKind) (msg : String)
  deriving DecidableEq, Repr

namespace IoError

/-- `io::Error::kind`, for the OS errors whose kind the code can look at. -/
def kind : IoError → ErrorKind
  | .custom k _ => k
  | .os e =>
    if e = Errno.eagain then .wouldBlock
    else if e = Errno.einval then .invalidInput
    else if e = Errno.etimedout then .timedOut
    else if e = Errno.econnrefused then .connectionRefused
    else if e = Errno.econnreset then .connectionReset
    else if e = Errno.enomem then .outOfMemory
    else .other

/-- `io::Error::raw_os_error`. -/
def rawOsError : IoError → Option Errno
  | .os e => some e
  | .custom _ _ => none

end IoError

/-- Everything but a value that a call can end with. -/
inductive Fault where
  | panic (p : Panic)
  | err (e : IoError)
  deriving DecidableEq, Repr

abbrev Res (α : Type) := Except Fault α

namespace Res

/-- `Err(e)`. -/
def err {α : Type} (e : IoError) : Res α := .error (.err e)

def panic {α : Type} (p : Panic) : Res α := .error (.panic p)

/-- Whether `try_io` would take this result for "not ready". -/
def isWouldBlock {α : Type} : Res α → Bool
  | .error (.err e) => e.kind = .wouldBlock
  | _ => false

/-- `result.ok_or(e)` on an option. -/
def okOr {α : Type} (o : Option α) (e : IoError) : Res α :=
  match o with
  | some a => .ok a
  | none => err e

@[simp] theorem ok_bind {α β : Type} (a : α) (f : α → Res β) :
    (Except.ok a >>= f) = f a := rfl

@[simp] theorem error_bind {α β : Type} (e : Fault) (f : α → Res β) :
    ((Except.error e : Res α) >>= f) = .error e := rfl

@[simp] theorem pure_eq {α : Type} (a : α) : (pure a : Res α) = .ok a := rfl

@[simp] theorem map_ok {α β : Type} (f : α → β) (a : α) :
    Except.map f (.ok a : Res α) = .ok (f a) := rfl

@[simp] theorem okOr_some {α : Type} (a : α) (e : IoError) : okOr (some a) e = .ok a := rfl

@[simp] theorem okOr_none {α : Type} (e : IoError) : okOr (none : Option α) e = err e := rfl

/-- A computation that succeeds has succeeded in its first part. -/
theorem bind_eq_ok {α β : Type} {x : Res α} {f : α → Res β} {b : β} :
    (x >>= f) = .ok b ↔ ∃ a, x = .ok a ∧ f a = .ok b := by
  cases x with
  | error e => simp
  | ok a => simp

end Res

/-! ## The width of a pointer -/

/-- The pointer widths the code is built for. -/
inductive PtrWidth where
  | w32
  | w64
  deriving DecidableEq, Repr

namespace PtrWidth

/-- `size_of::<usize>()`. -/
def bytes : PtrWidth → Nat
  | .w32 => 4
  | .w64 => 8

/-- One more than `usize::MAX`. -/
def usizeRange (w : PtrWidth) : Nat := 2 ^ (8 * w.bytes)

/-- `isize::MAX`, the largest size of any allocation or slice. -/
def isizeMax (w : PtrWidth) : Nat := 2 ^ (8 * w.bytes - 1) - 1

def add (w : PtrWidth) (a b : Nat) : Res Nat :=
  if a + b < w.usizeRange then .ok (a + b) else Res.panic .overflow

def sub (a b : Nat) : Res Nat :=
  if b ≤ a then .ok (a - b) else Res.panic .overflow

def mul (w : PtrWidth) (a b : Nat) : Res Nat :=
  if a * b < w.usizeRange then .ok (a * b) else Res.panic .overflow

@[simp] theorem usizeRange_w32 : usizeRange .w32 = 4294967296 := rfl
@[simp] theorem usizeRange_w64 : usizeRange .w64 = 18446744073709551616 := rfl
@[simp] theorem isizeMax_w32 : isizeMax .w32 = 2147483647 := rfl
@[simp] theorem isizeMax_w64 : isizeMax .w64 = 9223372036854775807 := rfl

theorem bytes_pos (w : PtrWidth) : 0 < w.bytes := by cases w <;> decide

theorem add_ok {w : PtrWidth} {a b : Nat} (h : a + b < w.usizeRange) :
    w.add a b = .ok (a + b) := if_pos h

theorem sub_ok {a b : Nat} (h : b ≤ a) : sub a b = .ok (a - b) := if_pos h

theorem mul_ok {w : PtrWidth} {a b : Nat} (h : a * b < w.usizeRange) :
    w.mul a b = .ok (a * b) := if_pos h

/-- Clearing the low bits of a `usize` rounds it down to a multiple of the
    pointer size: what `& !(size_of::<usize>() - 1)` computes. -/
def mask (w : PtrWidth) (n : Nat) : Nat := n &&& (w.usizeRange - 1 - (w.bytes - 1))

private theorem land_high_mask (n k j : Nat) (hn : n < 2 ^ j) (hkj : k ≤ j) :
    n &&& (2 ^ j - 2 ^ k) = n / 2 ^ k * 2 ^ k := by
  have hmask : 2 ^ j - 2 ^ k = (2 ^ (j - k) - 1) * 2 ^ k := by
    rw [Nat.sub_mul, one_mul, ← pow_add, Nat.sub_add_cancel hkj]
  rw [hmask]
  apply Nat.eq_of_testBit_eq
  intro i
  rw [Nat.testBit_land, Nat.testBit_mul_two_pow, Nat.testBit_mul_two_pow, Nat.testBit_two_pow_sub_one,
    Nat.testBit_div_two_pow]
  by_cases hik : k ≤ i
  · simp only [hik, decide_true, Bool.true_and, Nat.sub_add_cancel hik]
    by_cases hij : i - k < j - k
    · simp [hij]
    · have hbit : n.testBit i = false :=
        Nat.testBit_eq_false_of_lt (lt_of_lt_of_le hn (Nat.pow_le_pow_right (by decide) (by omega)))
      simp [hbit]
  · simp [hik]

theorem mask_eq {w : PtrWidth} {n : Nat} (h : n < w.usizeRange) :
    w.mask n = n / w.bytes * w.bytes := by
  cases w with
  | w32 => exact land_high_mask n 2 32 h (by decide)
  | w64 => exact land_high_mask n 3 64 h (by decide)

end PtrWidth

end Rust
