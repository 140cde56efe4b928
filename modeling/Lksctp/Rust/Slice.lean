-- SUMMARY: Slices: checked and panicking ranges, `copy_from_slice` and `fill`, with the laws that read and write a buffer piece by piece.
import Lksctp.Rust.Bytes

/-!
# Slices

A slice is the list of its elements, and a write through `&mut [T]` returns the
new list. The laws below are about buffers given as concatenations, the form in
which both the writers and the readers of a binary layout meet them: a read at an
offset skips the pieces before it, a write replaces one piece.
-/

namespace Rust

variable {α : Type}

/-! ## Reading -/

/-- `buf.get(a..b)`. -/
def getRange (buf : List α) (a b : Nat) : Option (List α) :=
  if a ≤ b ∧ b ≤ buf.length then some ((buf.drop a).take (b - a)) else none

/-- `&buf[a..b]`. -/
def slice (buf : List α) (a b : Nat) : Res (List α) :=
  match getRange buf a b with
  | some s => .ok s
  | none => Res.panic .slice

/-- `&buf[a..]`. -/
def sliceFrom (buf : List α) (a : Nat) : Res (List α) := slice buf a buf.length

/-- `&buf[..b]`. -/
def sliceTo (buf : List α) (b : Nat) : Res (List α) := slice buf 0 b

/-- Skip a part of the buffer that lies before the range. -/
theorem getRange_skip {pre rest : List α} {a b : Nat} (hab : a ≤ b) (h : pre.length ≤ a) :
    getRange (pre ++ rest) a b = getRange rest (a - pre.length) (b - pre.length) := by
  have hdrop : (pre ++ rest).drop a = rest.drop (a - pre.length) := by
    rw [List.drop_append, List.drop_of_length_le h, List.nil_append]
  have hlen : b ≤ (pre ++ rest).length ↔ b - pre.length ≤ rest.length := by
    rw [List.length_append]
    omega
  have hab' : a - pre.length ≤ b - pre.length := by omega
  have hsub : b - pre.length - (a - pre.length) = b - a := by omega
  simp only [getRange, hlen, hdrop, hab, hab', hsub]

/-- Read the piece at the head of the buffer. -/
theorem getRange_head {mid post : List α} {n : Nat} (h : mid.length = n) :
    getRange (mid ++ post) 0 n = some mid := by
  simp [getRange, ← h]

theorem getRange_all {mid : List α} {n : Nat} (h : mid.length = n) :
    getRange mid 0 n = some mid := by
  simp [getRange, ← h]

theorem getRange_eq_some {buf : List α} {a b : Nat} (hab : a ≤ b) (hb : b ≤ buf.length) :
    getRange buf a b = some ((buf.drop a).take (b - a)) := if_pos ⟨hab, hb⟩

theorem getRange_eq_none {buf : List α} {a b : Nat} (hb : buf.length < b) :
    getRange buf a b = none := if_neg fun h => absurd h.2 (not_le.mpr hb)

/-- A range that lies in the buffer is the same in every extension of it. -/
theorem getRange_append {buf : List α} {a b : Nat} (hab : a ≤ b) (hb : b ≤ buf.length)
    (s : List α) : getRange (buf ++ s) a b = getRange buf a b := by
  have hb' : b ≤ (buf ++ s).length := by
    rw [List.length_append]
    omega
  have hcut : b - a ≤ (buf.drop a).length := by
    rw [List.length_drop]
    omega
  rw [getRange_eq_some hab hb, getRange_eq_some hab hb',
    List.drop_append_of_le_length (hab.trans hb), List.take_append_of_le_length hcut]

theorem slice_ok {buf : List α} {a b : Nat} (hab : a ≤ b) (hb : b ≤ buf.length) :
    slice buf a b = .ok ((buf.drop a).take (b - a)) := by
  simp [slice, getRange_eq_some hab hb]

theorem slice_skip {pre rest : List α} {a b : Nat} (hab : a ≤ b) (h : pre.length ≤ a) :
    slice (pre ++ rest) a b = slice rest (a - pre.length) (b - pre.length) := by
  simp only [slice, getRange_skip hab h]

theorem slice_head {mid post : List α} {n : Nat} (h : mid.length = n) :
    slice (mid ++ post) 0 n = .ok mid := by
  simp [slice, getRange_head h]

theorem sliceFrom_ok {buf : List α} {a : Nat} (h : a ≤ buf.length) :
    sliceFrom buf a = .ok (buf.drop a) := by
  rw [sliceFrom, slice_ok h le_rfl, List.take_of_length_le (by simp)]

theorem sliceFrom_append {pre post : List α} {n : Nat} (h : pre.length = n) :
    sliceFrom (pre ++ post) n = .ok post := by
  subst h
  rw [sliceFrom_ok (by simp), List.drop_left]

/-! ## Writing -/

/-- `buf[a..b].copy_from_slice(src)`. -/
def copyFromSlice (buf : List α) (a b : Nat) (src : List α) : Res (List α) :=
  if a ≤ b ∧ b ≤ buf.length ∧ src.length = b - a then .ok (buf.take a ++ src ++ buf.drop b)
  else Res.panic .slice

/-- `buf[a..b].fill(v)`. -/
def fill (buf : List α) (a b : Nat) (v : α) : Res (List α) :=
  copyFromSlice buf a b (List.replicate (b - a) v)

/-- `[0u8; n]`. -/
def zeros (n : Nat) : Bytes := List.replicate n 0

@[simp] theorem length_zeros (n : Nat) : (zeros n).length = n := List.length_replicate

@[simp] theorem zeros_zero : zeros 0 = [] := rfl

theorem fill_zeros {buf : Bytes} {n : Nat} (h : n ≤ buf.length) :
    fill buf 0 n 0 = .ok (zeros n ++ buf.drop n) := by
  simp [fill, copyFromSlice, zeros, h]

/-- A write leaves alone the part of the buffer before its range. -/
theorem copyFromSlice_skip {pre rest src : List α} {a b : Nat} (hab : a ≤ b)
    (h : pre.length ≤ a) :
    copyFromSlice (pre ++ rest) a b src =
      (copyFromSlice rest (a - pre.length) (b - pre.length) src).map (pre ++ ·) := by
  have htake : (pre ++ rest).take a = pre ++ rest.take (a - pre.length) := by
    rw [List.take_append, List.take_of_length_le h]
  have hdrop : (pre ++ rest).drop b = rest.drop (b - pre.length) := by
    rw [List.drop_append, List.drop_of_length_le (h.trans hab), List.nil_append]
  have hcond : (a ≤ b ∧ b ≤ (pre ++ rest).length ∧ src.length = b - a) ↔
      (a - pre.length ≤ b - pre.length ∧ b - pre.length ≤ rest.length ∧
        src.length = b - pre.length - (a - pre.length)) := by
    rw [List.length_append]
    omega
  simp only [copyFromSlice, hcond, htake, hdrop]
  split
  · simp [Except.map]
  · rfl

/-- The first write into a zeroed part of a buffer. -/
theorem copyFromSlice_head {src post : Bytes} {n k : Nat} (hn : src.length = n) (hk : n ≤ k) :
    copyFromSlice (zeros k ++ post) 0 n src = .ok (src ++ (zeros (k - n) ++ post)) := by
  have hcond : 0 ≤ n ∧ n ≤ (zeros k ++ post).length ∧ src.length = n - 0 := by
    simp only [List.length_append, length_zeros]
    omega
  have hdrop : (zeros k ++ post).drop n = zeros (k - n) ++ post := by
    rw [List.drop_append_of_le_length (by simpa using hk), zeros, List.drop_replicate, zeros]
  rw [copyFromSlice, if_pos hcond, hdrop]
  simp

/-! ## Arrays -/

/-- `[u8; n]`. -/
abbrev Octets (n : Nat) := { bs : Bytes // bs.length = n }

/-- `[0u8; n]`. -/
def Octets.zeros (n : Nat) : Octets n := ⟨Rust.zeros n, length_zeros n⟩

/-- A slice copied into (or converted to) an array of `n` bytes. -/
def toOctets (n : Nat) (bs : Bytes) : Res (Octets n) :=
  if h : bs.length = n then .ok ⟨bs, h⟩ else Res.panic .slice

theorem toOctets_ok {n : Nat} {bs : Bytes} (h : bs.length = n) :
    toOctets n bs = .ok ⟨bs, h⟩ := dif_pos h

@[simp] theorem toOctets_val {n : Nat} (o : Octets n) : toOctets n o.val = .ok o :=
  toOctets_ok o.property

end Rust
