-- SUMMARY: Fixed-width integers as bytes in either byte order, with the host order a parameter.
import Lksctp.Rust.Result
import Mathlib.Tactic.Ring

/-!
# Integers as bytes

`to_ne_bytes` and its relatives depend on the byte order of the host. Here the
order is an argument, so that one theorem speaks about both kinds of host. The
typed codecs (`putU16`, `getU16`, ...) are all the one codec of natural numbers
below, at the width of the type.
-/

namespace Rust

abbrev Bytes := List UInt8

inductive Endian where
  | little
  | big
  deriving DecidableEq, Repr

/-! ## Natural numbers -/

/-- The `w` low bytes of `v`, least significant first. -/
def leBytes : Nat → Nat → Bytes
  | 0, _ => []
  | w + 1, v => UInt8.ofNat v :: leBytes w (v / 256)

def ofLeBytes : Bytes → Nat
  | [] => 0
  | b :: bs => b.toNat + 256 * ofLeBytes bs

@[simp] theorem length_leBytes (w v : Nat) : (leBytes w v).length = w := by
  induction w generalizing v with
  | zero => rfl
  | succ w ih => simp [leBytes, ih]

theorem ofLeBytes_lt (bs : Bytes) : ofLeBytes bs < 256 ^ bs.length := by
  induction bs with
  | nil => simp [ofLeBytes]
  | cons b bs ih =>
    have hb : b.toNat < 256 := b.toNat_lt
    simp only [ofLeBytes, List.length_cons, pow_succ]
    omega

theorem ofLeBytes_leBytes {w v : Nat} (h : v < 256 ^ w) : ofLeBytes (leBytes w v) = v := by
  induction w generalizing v with
  | zero =>
    have hv : v = 0 := by simpa using h
    simp [leBytes, ofLeBytes, hv]
  | succ w ih =>
    have hdiv : v / 256 < 256 ^ w := by
      rw [pow_succ] at h
      exact Nat.div_lt_of_lt_mul (by rwa [mul_comm])
    have hlow : (UInt8.ofNat v).toNat = v % 256 := by simp
    simp only [leBytes, ofLeBytes, ih hdiv, hlow]
    omega

theorem leBytes_ofLeBytes (bs : Bytes) : leBytes bs.length (ofLeBytes bs) = bs := by
  induction bs with
  | nil => rfl
  | cons b bs ih =>
    have hb : b.toNat < 256 := b.toNat_lt
    have hdiv : (b.toNat + 256 * ofLeBytes bs) / 256 = ofLeBytes bs := by omega
    have hlow : UInt8.ofNat (b.toNat + 256 * ofLeBytes bs) = b := by
      apply UInt8.toNat_inj.mp
      simp only [UInt8.toNat_ofNat']
      omega
    simp only [List.length_cons, leBytes, ofLeBytes, hdiv, hlow, ih]

@[simp] theorem ofLeBytes_replicate_zero (n : Nat) : ofLeBytes (List.replicate n 0) = 0 := by
  induction n with
  | zero => rfl
  | succ n ih => simp [List.replicate_succ, ofLeBytes, ih]

namespace Endian

/-- The `w` bytes of `v` as a host of this byte order stores them. -/
def encode (e : Endian) (w v : Nat) : Bytes :=
  match e with
  | .little => leBytes w v
  | .big => (leBytes w v).reverse

def decode (e : Endian) (bs : Bytes) : Nat :=
  match e with
  | .little => ofLeBytes bs
  | .big => ofLeBytes bs.reverse

@[simp] theorem length_encode (e : Endian) (w v : Nat) : (e.encode w v).length = w := by
  cases e <;> simp [encode]

theorem decode_lt (e : Endian) (bs : Bytes) : e.decode bs < 256 ^ bs.length := by
  cases e with
  | little => exact ofLeBytes_lt bs
  | big => simpa [decode] using ofLeBytes_lt bs.reverse

theorem decode_encode {e : Endian} {w v : Nat} (h : v < 256 ^ w) :
    e.decode (e.encode w v) = v := by
  cases e with
  | little => exact ofLeBytes_leBytes h
  | big => simpa [encode, decode] using ofLeBytes_leBytes h

@[simp] theorem decode_replicate_zero (e : Endian) (n : Nat) :
    e.decode (List.replicate n 0) = 0 := by
  cases e <;> simp [decode]

theorem encode_decode (e : Endian) (bs : Bytes) : e.encode bs.length (e.decode bs) = bs := by
  cases e with
  | little => exact leBytes_ofLeBytes bs
  | big =>
    have h := leBytes_ofLeBytes bs.reverse
    rw [List.length_reverse] at h
    simp [encode, decode, h]

/-! ## Machine integers -/

/-- `u16::to_ne_bytes` on a host of this order; `Endian.big.putU16` is
    `u16::to_be_bytes`. -/
def putU16 (e : Endian) (v : UInt16) : Bytes := e.encode 2 v.toNat
def putU32 (e : Endian) (v : UInt32) : Bytes := e.encode 4 v.toNat
def putI32 (e : Endian) (v : Int32) : Bytes := e.putU32 v.toUInt32

/-- `u16::from_ne_bytes`. -/
def getU16 (e : Endian) (bs : Bytes) : UInt16 := UInt16.ofNat (e.decode bs)
def getU32 (e : Endian) (bs : Bytes) : UInt32 := UInt32.ofNat (e.decode bs)
def getI32 (e : Endian) (bs : Bytes) : Int32 := (e.getU32 bs).toInt32

@[simp] theorem length_putU16 (e : Endian) (v : UInt16) : (e.putU16 v).length = 2 := by
  simp [putU16]

@[simp] theorem length_putU32 (e : Endian) (v : UInt32) : (e.putU32 v).length = 4 := by
  simp [putU32]

@[simp] theorem length_putI32 (e : Endian) (v : Int32) : (e.putI32 v).length = 4 := by
  simp [putI32]

@[simp] theorem getU16_putU16 (e : Endian) (v : UInt16) : e.getU16 (e.putU16 v) = v := by
  have hlt : v.toNat < 256 ^ 2 := v.toNat_lt
  simp [getU16, putU16, decode_encode hlt]

@[simp] theorem getU32_putU32 (e : Endian) (v : UInt32) : e.getU32 (e.putU32 v) = v := by
  have hlt : v.toNat < 256 ^ 4 := v.toNat_lt
  simp [getU32, putU32, decode_encode hlt]

@[simp] theorem getI32_putI32 (e : Endian) (v : Int32) : e.getI32 (e.putI32 v) = v := by
  simp [getI32, putI32]

theorem putU16_getU16 {e : Endian} {bs : Bytes} (h : bs.length = 2) :
    e.putU16 (e.getU16 bs) = bs := by
  have hlt := e.decode_lt bs
  rw [h] at hlt
  have hnat : (UInt16.ofNat (e.decode bs)).toNat = e.decode bs :=
    UInt16.toNat_ofNat_of_lt hlt
  rw [putU16, getU16, hnat, ← h, encode_decode]

theorem putU32_getU32 {e : Endian} {bs : Bytes} (h : bs.length = 4) :
    e.putU32 (e.getU32 bs) = bs := by
  have hlt := e.decode_lt bs
  rw [h] at hlt
  have hnat : (UInt32.ofNat (e.decode bs)).toNat = e.decode bs :=
    UInt32.toNat_ofNat_of_lt hlt
  rw [putU32, getU32, hnat, ← h, encode_decode]

/-! ## Conversion to and from network order -/

/-- `u16::swap_bytes`. -/
def swap16 (v : UInt16) : UInt16 := big.getU16 (little.putU16 v)
def swap32 (v : UInt32) : UInt32 := big.getU32 (little.putU32 v)

/-- `u16::from_be` on a host of this order: the identity on a big-endian host,
    a byte swap on a little-endian one. -/
def fromBe16 (e : Endian) (v : UInt16) : UInt16 :=
  match e with
  | .big => v
  | .little => swap16 v

def fromBe32 (e : Endian) (v : UInt32) : UInt32 :=
  match e with
  | .big => v
  | .little => swap32 v

/-- `u32::to_be`. -/
def toBe32 (e : Endian) (v : UInt32) : UInt32 :=
  match e with
  | .big => v
  | .little => swap32 v

private theorem encode_little_eq (w v : Nat) : little.encode w v = (big.encode w v).reverse := by
  simp [encode]

private theorem decode_little_eq (bs : Bytes) : little.decode bs = big.decode bs.reverse := by
  simp [decode]

private theorem little_putU32_swap32 (v : UInt32) : little.putU32 (swap32 v) = big.putU32 v := by
  have hlen : (little.putU32 v).reverse.length = 4 := by simp
  have hswap : swap32 v = little.getU32 (little.putU32 v).reverse := by
    simp [swap32, getU32, decode_little_eq]
  rw [hswap, putU32_getU32 hlen]
  simp [putU32, encode_little_eq]

/-- A value put into network order is stored as its big-endian bytes, whatever
    the host. -/
@[simp] theorem putU32_toBe32 (e : Endian) (v : UInt32) : e.putU32 (e.toBe32 v) = big.putU32 v := by
  cases e with
  | big => rfl
  | little => exact little_putU32_swap32 v

/-- Reading network-order bytes as a host integer and converting them gives the
    big-endian value, whatever the host. -/
theorem fromBe16_getU16 {e : Endian} {bs : Bytes} (h : bs.length = 2) :
    e.fromBe16 (e.getU16 bs) = big.getU16 bs := by
  cases e with
  | big => rfl
  | little => simp [fromBe16, swap16, putU16_getU16 h]

theorem fromBe32_getU32 {e : Endian} {bs : Bytes} (h : bs.length = 4) :
    e.fromBe32 (e.getU32 bs) = big.getU32 bs := by
  cases e with
  | big => rfl
  | little => simp [fromBe32, swap32, putU32_getU32 h]

@[simp] theorem fromBe16_getU16_big (e : Endian) (v : UInt16) :
    e.fromBe16 (e.getU16 (big.putU16 v)) = v := by
  rw [fromBe16_getU16 (length_putU16 _ _), getU16_putU16]

@[simp] theorem fromBe32_getU32_big (e : Endian) (v : UInt32) :
    e.fromBe32 (e.getU32 (big.putU32 v)) = v := by
  rw [fromBe32_getU32 (length_putU32 _ _), getU32_putU32]

end Endian

end Rust
