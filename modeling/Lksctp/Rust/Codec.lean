-- SUMMARY: Codecs of fixed size: values as the bytes of a `repr(C)` field or structure, closed under sequence and renaming.
import Lksctp.Rust.Slice

/-!
# Codecs of fixed size

A plain-old-data type crosses the system-call boundary as a fixed number of bytes.
A codec is such a type's layout, and carries the laws that make it one, so that a
structure put together from its fields has them too. Reading is total: every string
of bytes is some value, as it is for the types that the code reads.
-/

namespace Rust

structure Codec (α : Type) where
  size : Nat
  put : Endian → α → Bytes
  get : Endian → Bytes → α
  length_put : ∀ e a, (put e a).length = size
  /-- Only the first `size` bytes are read. -/
  get_append : ∀ e a post, get e (put e a ++ post) = a

namespace Codec

variable {α β : Type}

theorem get_put (c : Codec α) (e : Endian) (a : α) : c.get e (c.put e a) = a := by
  simpa using c.get_append e a []

/-- A codec for the bytes at the head of a buffer. -/
def ofHead (n : Nat) (put : Endian → α → Bytes) (get : Endian → Bytes → α)
    (length_put : ∀ e a, (put e a).length = n) (get_put : ∀ e a, get e (put e a) = a) :
    Codec α where
  size := n
  put := put
  get e bs := get e (bs.take n)
  length_put := length_put
  get_append e a post := by
    rw [← length_put e a, List.take_left, get_put]

/-! ## Fields -/

def u16 : Codec UInt16 := ofHead 2 Endian.putU16 Endian.getU16 Endian.length_putU16 Endian.getU16_putU16

def u32 : Codec UInt32 := ofHead 4 Endian.putU32 Endian.getU32 Endian.length_putU32 Endian.getU32_putU32

def i32 : Codec Int32 := ofHead 4 Endian.putI32 Endian.getI32 Endian.length_putI32 Endian.getI32_putI32

def u8 : Codec UInt8 :=
  ofHead 1 (fun _ v => [v]) (fun _ bs => bs.headD 0) (fun _ _ => rfl) fun _ _ => rfl

def u64 : Codec UInt64 :=
  ofHead 8 (fun e v => e.encode 8 v.toNat) (fun e bs => UInt64.ofNat (e.decode bs))
    (fun e _ => e.length_encode 8 _) fun e v => by
      have hlt : v.toNat < 256 ^ 8 := v.toNat_lt
      rw [Endian.decode_encode hlt, UInt64.ofNat_toNat]

/-- `[u8; n]`; what is missing of it at the end of the buffer reads as zero. -/
def octets (n : Nat) : Codec (Octets n) where
  size := n
  put _ o := o.val
  get _ bs := ⟨(bs ++ zeros n).take n, by simp⟩
  length_put _ o := o.property
  get_append _ o post := by
    have hlen : n ≤ o.val.length := by rw [o.property]
    simp [List.take_append_of_le_length hlen, List.take_of_length_le (le_of_eq o.property)]

/-- Bytes of padding, written as zeros and not looked at. -/
def skip (n : Nat) : Codec Unit where
  size := n
  put _ _ := zeros n
  get _ _ := ()
  length_put _ _ := length_zeros n
  get_append _ _ _ := rfl

/-! ## Structures -/

/-- One field after another. -/
def seq (c : Codec α) (d : Codec β) : Codec (α × β) where
  size := c.size + d.size
  put e p := c.put e p.1 ++ d.put e p.2
  get e bs := (c.get e bs, d.get e (bs.drop c.size))
  length_put e p := by rw [List.length_append, c.length_put, d.length_put]
  get_append e p post := by
    rw [List.append_assoc, c.get_append, ← c.length_put e p.1, List.drop_left, d.get_append]

/-- The same bytes for another type: a structure with named fields. -/
def imap (c : Codec α) (f : α → β) (g : β → α) (h : ∀ b, f (g b) = b) : Codec β where
  size := c.size
  put e b := c.put e (g b)
  get e bs := f (c.get e bs)
  length_put e b := c.length_put e (g b)
  get_append e b post := by rw [c.get_append, h]

end Codec

/-! ## Fields by their place -/

namespace Codec

variable {α β : Type}

/-- The field at this offset of a structure. -/
def field (c : Codec α) (e : Endian) (bs : Bytes) (offset : Nat) : α := c.get e (bs.drop offset)

@[simp] theorem field_put (c : Codec α) (e : Endian) (a : α) : c.field e (c.put e a) 0 = a :=
  c.get_put e a

@[simp] theorem field_put_append (c : Codec α) (e : Endian) (a : α) (post : Bytes) :
    c.field e (c.put e a ++ post) 0 = a :=
  c.get_append e a post

theorem drop_put_append (d : Codec β) {offset : Nat} (h : d.size ≤ offset) (e : Endian) (b : β)
    (post : Bytes) : (d.put e b ++ post).drop offset = post.drop (offset - d.size) := by
  have hlen := d.length_put e b
  rw [List.drop_append, List.drop_of_length_le (hlen.trans_le h), hlen, List.nil_append]

/-- A field behind the first one. -/
theorem field_skip (c : Codec α) (d : Codec β) {offset : Nat} (h : d.size ≤ offset) (e e' : Endian)
    (b : β) (post : Bytes) :
    c.field e (d.put e' b ++ post) offset = c.field e post (offset - d.size) := by
  rw [field, d.drop_put_append h, field]

@[simp] theorem put_seq (c : Codec α) (d : Codec β) (e : Endian) (p : α × β) :
    (c.seq d).put e p = c.put e p.1 ++ d.put e p.2 := rfl

@[simp] theorem put_imap (c : Codec α) (f : α → β) (g : β → α) (h : ∀ b, f (g b) = b) (e : Endian)
    (b : β) : (c.imap f g h).put e b = c.put e (g b) := rfl

@[simp] theorem size_u8 : u8.size = 1 := by rfl

@[simp] theorem size_u16 : u16.size = 2 := by rfl

@[simp] theorem size_u32 : u32.size = 4 := by rfl

@[simp] theorem size_i32 : i32.size = 4 := by rfl

@[simp] theorem size_u64 : u64.size = 8 := by rfl

@[simp] theorem size_octets (n : Nat) : (octets n).size = n := by rfl

end Codec

/-! ## Buffers that the other side writes into -/

/-- `buf` after `out` has been written over its head. -/
def overlay (buf out : Bytes) : Bytes := out.take buf.length ++ buf.drop out.length

theorem length_overlay (buf out : Bytes) : (overlay buf out).length = buf.length := by
  rw [overlay, List.length_append, List.length_take, List.length_drop]
  omega

theorem overlay_of_length_eq {buf out : Bytes} (h : out.length = buf.length) :
    overlay buf out = out := by
  rw [overlay, List.take_of_length_le (le_of_eq h), List.drop_of_length_le (le_of_eq h.symm),
    List.append_nil]

end Rust
