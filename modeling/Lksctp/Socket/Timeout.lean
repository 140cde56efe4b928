-- SUMMARY: Socket timeouts: `set_timeout` and `timeout` between a `Duration` and the `timeval` of the C library, for both widths of its integers.
import Lksctp.Rust.Codec
import Lksctp.Rust.Duration
import Lksctp.Machine.Program

/-!
# Socket timeouts

The kernel takes a timeout as a `timeval`, in which zero means no timeout at all.
The two directions are not inverse: a `timeval` counts microseconds, its seconds
may be narrower than those of a `Duration`, and one that comes from another
program's socket may hold anything.

`Duration::asNanos` is what both are compared by.
-/

namespace Lksctp

open Rust Machine

namespace Socket

/-! ## The C library -/

/-- The widths of signed integers that C libraries use for times. -/
inductive CWidth where
  | w32
  | w64
  deriving DecidableEq, Repr

def CWidth.bits : CWidth → Nat
  | .w32 => 32
  | .w64 => 64

/-- The largest value of the type. -/
def CWidth.max (w : CWidth) : Nat := 2 ^ (w.bits - 1) - 1

/-- An integer of this width. -/
def CWidth.codec : (w : CWidth) → Codec (BitVec w.bits)
  | .w32 => Codec.u32.imap UInt32.toBitVec UInt32.ofBitVec fun _ => rfl
  | .w64 => Codec.u64.imap UInt64.toBitVec UInt64.ofBitVec fun _ => rfl

/-- What the code takes from the `libc` crate. -/
structure Libc where
  timeT : CWidth
  susecondsT : CWidth
  solSocket : Int32
  soRcvtimeo : Int32
  soSndtimeo : Int32

structure Timeval (c : Libc) where
  tvSec : BitVec c.timeT.bits
  tvUsec : BitVec c.susecondsT.bits
  deriving DecidableEq

/-! ## The code -/

def zeroDuration : IoError := .custom .invalidInput "cannot set a zero duration timeout"

/-- The `timeval` that `set_timeout` passes. -/
def timevalFor (c : Libc) (dur : Option Duration) : Res (Timeval c) :=
  match dur with
  | some d =>
    if d.isZero then Res.err zeroDuration
    else
      .ok
        { tvSec := BitVec.ofNat _ (min d.secs c.timeT.max)
          -- A nonzero duration below one microsecond must not become a zero `timeval`.
          tvUsec := BitVec.ofNat _ (max d.subsecMicros (if d.secs = 0 then 1 else 0)) }
  | none => .ok { tvSec := 0, tvUsec := 0 }

/-- The arguments of a `setsockopt(2)` with a `timeval`. -/
structure SetReq (c : Libc) where
  level : Int32
  opt : Int32
  val : Timeval c

structure GetReq where
  level : Int32
  opt : Int32

def setTimeout {K : Type} (c : Libc) (setsockopt : Server K (SetReq c) (Except Errno Unit))
    (opt : Int32) (dur : Option Duration) (k : K) : Res Unit × K :=
  match timevalFor c dur with
  | .error fault => (.error fault, k)
  | .ok tv =>
    match setsockopt k { level := c.solSocket, opt, val := tv } with
    | (.ok (), k) => (.ok (), k)
    | (.error e, k) => (Res.err (.os e), k)

/-- `v.max(0) as u64`. -/
def clampAsU64 (v : Int) : UInt64 := UInt64.ofNat (max v 0).toNat

/-- What `timeout` makes of the `timeval` it got. -/
def durationOf {c : Libc} (tv : Timeval c) : Res (Option Duration) :=
  if tv.tvSec = 0 ∧ tv.tvUsec = 0 then .ok none
  else do
    let d ← (Duration.fromSecs (clampAsU64 tv.tvSec.toInt)).add
      (Duration.fromMicros (clampAsU64 tv.tvUsec.toInt))
    pure (some d)

def timeout {K : Type} (c : Libc) (getsockopt : Server K GetReq (Except Errno (Timeval c)))
    (opt : Int32) (k : K) : Res (Option Duration) × K :=
  match getsockopt k { level := c.solSocket, opt } with
  | (.ok tv, k) => (durationOf tv, k)
  | (.error e, k) => (Res.err (.os e), k)

section

variable {K : Type} (c : Libc) (setsockopt : Server K (SetReq c) (Except Errno Unit))
  (getsockopt : Server K GetReq (Except Errno (Timeval c)))

def setRecvTimeout (dur : Option Duration) (k : K) : Res Unit × K :=
  setTimeout c setsockopt c.soRcvtimeo dur k

def recvTimeout (k : K) : Res (Option Duration) × K := timeout c getsockopt c.soRcvtimeo k

def setSendTimeout (dur : Option Duration) (k : K) : Res Unit × K :=
  setTimeout c setsockopt c.soSndtimeo dur k

def sendTimeout (k : K) : Res (Option Duration) × K := timeout c getsockopt c.soSndtimeo k

end

/-! ## A kernel that stores what it is given -/

/-- The current value of every option. -/
abbrev OptionStore (c : Libc) := Int32 → Int32 → Timeval c

def storeSet (c : Libc) : Server (OptionStore c) (SetReq c) (Except Errno Unit) :=
  fun store req =>
    (.ok (), fun level opt =>
      if level = req.level ∧ opt = req.opt then req.val else store level opt)

def storeGet (c : Libc) : Server (OptionStore c) GetReq (Except Errno (Timeval c)) :=
  fun store req => (.ok (store req.level req.opt), store)

/-! ## Setting -/

theorem CWidth.toInt_ofNat {w : CWidth} {v : Nat} (h : v ≤ w.max) :
    (BitVec.ofNat w.bits v).toInt = v := by
  rw [BitVec.toInt_ofNat']
  cases w with
  | w32 =>
    simp only [CWidth.max, CWidth.bits] at h ⊢
    exact Int.bmod_eq_of_le_mul_two (by omega) (by omega)
  | w64 =>
    simp only [CWidth.max, CWidth.bits] at h ⊢
    exact Int.bmod_eq_of_le_mul_two (by omega) (by omega)

theorem CWidth.million_le_max (w : CWidth) : 1000000 ≤ w.max := by
  cases w <;> decide

theorem CWidth.toInt_lt {w : CWidth} (x : BitVec w.bits) : x.toInt < 2 ^ 63 := by
  have hlt := x.toInt_lt
  cases w with
  | w32 => exact hlt.trans (by decide)
  | w64 => exact hlt

/-- The `timeval` of a duration that is not zero, as numbers. -/
theorem timevalFor_some (c : Libc) {d : Duration} (h : d ≠ .zero) :
    ∃ tv, timevalFor c (some d) = .ok tv ∧ tv.tvSec.toInt = (min d.secs c.timeT.max : Nat) ∧
      tv.tvUsec.toInt = (max (d.nanos / 1000) (if d.secs = 0 then 1 else 0) : Nat) := by
  have hmicros : max (d.nanos / 1000) (if d.secs = 0 then 1 else 0) ≤ c.susecondsT.max := by
    have hmax := c.susecondsT.million_le_max
    have hnanos := d.nanos_lt
    split <;> omega
  refine ⟨_, if_neg (mt Duration.isZero_iff.mp h), ?_, ?_⟩
  · exact CWidth.toInt_ofNat (min_le_right _ _)
  · exact CWidth.toInt_ofNat hmicros

theorem timevalFor_zero (c : Libc) : timevalFor c (some .zero) = Res.err zeroDuration := by
  have hzero : Duration.zero.isZero = true := Duration.isZero_iff.mpr rfl
  rw [timevalFor, if_pos hzero]

/-- Only the zero duration has no `timeval`. -/
theorem timevalFor_ok (c : Libc) {dur : Option Duration} (h : dur ≠ some .zero) :
    ∃ tv, timevalFor c dur = .ok tv := by
  cases dur with
  | none => exact ⟨_, rfl⟩
  | some d =>
    obtain ⟨tv, htv, -⟩ := timevalFor_some c fun hd => h (congrArg some hd)
    exact ⟨tv, htv⟩

/-- A `timeval` that asks for a timeout: in range, normalised, and not the zero that
    would switch the timeout off. -/
def Timeval.IsTimeout {c : Libc} (tv : Timeval c) : Prop :=
  0 ≤ tv.tvSec.toInt ∧ tv.tvSec.toInt ≤ c.timeT.max ∧
  0 ≤ tv.tvUsec.toInt ∧ tv.tvUsec.toInt < 1000000 ∧ ¬ (tv.tvSec = 0 ∧ tv.tvUsec = 0)

/-- The seconds are capped and the microseconds are not all that counts: only when the
    seconds are zero must the microseconds not be. -/
theorem isTimeout_of_toInt {c : Libc} {tv : Timeval c} {d : Duration}
    (hsec : tv.tvSec.toInt = (min d.secs c.timeT.max : Nat))
    (husec : tv.tvUsec.toInt = (max (d.nanos / 1000) (if d.secs = 0 then 1 else 0) : Nat)) :
    tv.IsTimeout := by
  have hmax := c.timeT.million_le_max
  have hnanos := d.nanos_lt
  refine ⟨by omega, by omega, by omega, ?_, ?_⟩
  · rw [husec]
    split <;> omega
  · rintro ⟨hsec0, husec0⟩
    have hzero : tv.tvSec.toInt = 0 := hsec0 ▸ BitVec.toInt_zero
    have huzero : tv.tvUsec.toInt = 0 := husec0 ▸ BitVec.toInt_zero
    have hsecs : d.secs = 0 := by omega
    rw [if_pos hsecs] at husec
    omega

/-! ## Getting -/

theorem toNat_clampAsU64 {v : Int} (h : v < 2 ^ 63) : (clampAsU64 v).toNat = v.toNat := by
  have hlt : (max v 0).toNat < 2 ^ 64 := by omega
  rw [clampAsU64, UInt64.toNat_ofNat_of_lt' hlt]
  omega

/-- Every `timeval` that is not zero has a duration: negative parts count as zero, and
    neither part is large enough for the sum to overflow. -/
theorem durationOf_some {c : Libc} {tv : Timeval c} (h : ¬ (tv.tvSec = 0 ∧ tv.tvUsec = 0)) :
    ∃ d, durationOf tv = .ok (some d) ∧
      d.asNanos = tv.tvSec.toInt.toNat * 1000000000 + tv.tvUsec.toInt.toNat * 1000 := by
  have hsec := CWidth.toInt_lt tv.tvSec
  have husec := CWidth.toInt_lt tv.tvUsec
  have hsum : (Duration.fromSecs (clampAsU64 tv.tvSec.toInt)).asNanos +
      (Duration.fromMicros (clampAsU64 tv.tvUsec.toInt)).asNanos < 2 ^ 64 * 1000000000 := by
    rw [Duration.asNanos_fromSecs, Duration.asNanos_fromMicros, toNat_clampAsU64 hsec,
      toNat_clampAsU64 husec]
    omega
  obtain ⟨d, hadd, hd⟩ := Duration.add_eq_ok hsum
  refine ⟨d, by rw [durationOf, if_neg h, hadd]; rfl, ?_⟩
  rw [hd, Duration.asNanos_fromSecs, Duration.asNanos_fromMicros, toNat_clampAsU64 hsec,
    toNat_clampAsU64 husec]

theorem durationOf_total {c : Libc} (tv : Timeval c) : ∃ r, durationOf tv = .ok r := by
  by_cases h : tv.tvSec = 0 ∧ tv.tvUsec = 0
  · exact ⟨none, if_pos h⟩
  · obtain ⟨d, hd, -⟩ := durationOf_some h
    exact ⟨some d, hd⟩

/-! ## Setting and getting -/

theorem timeout_storeSet_of_ne (c : Libc) {opt opt' : Int32} (h : opt' ≠ opt)
    (dur : Option Duration) (store : OptionStore c) :
    (timeout c (storeGet c) opt' (setTimeout c (storeSet c) opt dur store).2).1 =
      (timeout c (storeGet c) opt' store).1 := by
  unfold setTimeout
  split
  · rfl
  · simp [timeout, storeGet, storeSet, h]

/-- The two timeouts of a socket are separate options: setting one leaves the other. -/
theorem timeouts_independent (c : Libc) (h : c.soSndtimeo ≠ c.soRcvtimeo)
    (dur : Option Duration) (store : OptionStore c) :
    (sendTimeout c (storeGet c) (setRecvTimeout c (storeSet c) dur store).2).1 =
      (sendTimeout c (storeGet c) store).1 ∧
    (recvTimeout c (storeGet c) (setSendTimeout c (storeSet c) dur store).2).1 =
      (recvTimeout c (storeGet c) store).1 :=
  ⟨timeout_storeSet_of_ne c h dur store, timeout_storeSet_of_ne c h.symm dur store⟩

end Socket

end Lksctp
