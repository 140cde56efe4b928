-- SUMMARY: Control messages: building them in a buffer, iterating over a received buffer, and the proof that the two are inverse.
import Lksctp.Sys

/-!
# Control messages

The code of `cmsg.rs`. A control message is a `cmsghdr` (a `usize` length, the
level, the type) and its payload, everything aligned to the size of a pointer.
The stored length is the unpadded one, and the step from one message to the next
is the padded one; both the writer and the iterator depend on the pointer width.

What `Iter::next` does is said once, in terms of offsets into the buffer
(`next_drop_none`, `next_drop_some`); everything else about the iterator goes
through these two lemmas.

`iter` walks to the end of the buffer. It terminates because every message it
yields takes at least a header off the buffer, which is what `next_length_lt`
says.
-/

namespace Lksctp

open Rust

namespace Cmsg

/-- What the iterator yields: `(cmsg_level, cmsg_type, payload)`. -/
structure Message where
  level : Int32
  ty : Int32
  data : Bytes
  deriving DecidableEq, Repr

/-! ## The code -/

/-- Aligns `n` up to the cmsg alignment boundary. -/
def align (w : PtrWidth) (n : Nat) : Res Nat := do
  let n ← w.add n w.bytes
  let n ← PtrWidth.sub n 1
  pure (w.mask n)

/-- Byte length of an aligned `cmsghdr`, the constant `align(size_of::<usize>() + 4 + 4)`. -/
def hdrLen (w : PtrWidth) : Nat := w.mask (w.bytes + 4 + 4 + w.bytes - 1)

/-- Buffer space of one message with a `dataLen`-byte payload (`CMSG_SPACE`). -/
def space (w : PtrWidth) (dataLen : Nat) : Res Nat := do
  let padded ← align w dataLen
  w.add (hdrLen w) padded

/-- Value stored in `cmsg_len` (`CMSG_LEN`). -/
def cmsgLen (w : PtrWidth) (dataLen : Nat) : Res Nat := w.add (hdrLen w) dataLen

/-- Writes one control message into the head of `buf`. Returns the new buffer
    with the number of bytes used. -/
def write (t : Target) (buf : Bytes) (m : Message) : Res (Bytes × Nat) := do
  let total ← space t.ptr m.data.length
  if buf.length < total then
    Res.panic (.assertion "cmsg buffer too small")
  else
    let p := t.ptr.bytes
    let buf ← fill buf 0 total 0
    let len ← cmsgLen t.ptr m.data.length
    let buf ← copyFromSlice buf 0 p (t.endian.encode p len)
    let buf ← copyFromSlice buf p (p + 4) (t.endian.putI32 m.level)
    let buf ← copyFromSlice buf (p + 4) (p + 8) (t.endian.putI32 m.ty)
    let buf ← copyFromSlice buf (hdrLen t.ptr) (hdrLen t.ptr + m.data.length) m.data
    pure (buf, total)

/-- `Iter::next`: the first message of the buffer and the buffer that is left,
    or `none` at the end. -/
def next (t : Target) (buf : Bytes) : Res (Option (Message × Bytes)) :=
  if buf.length < hdrLen t.ptr then pure none
  else do
    let p := t.ptr.bytes
    let lenBytes ← slice buf 0 p
    let len := t.endian.decode lenBytes
    if len < hdrLen t.ptr ∨ buf.length < len then pure none
    else
      let level := t.endian.getI32 (← slice buf p (p + 4))
      let ty := t.endian.getI32 (← slice buf (p + 4) (p + 8))
      let data ← slice buf (hdrLen t.ptr) len
      let advance := min (← align t.ptr len) buf.length
      let buf ← sliceFrom buf advance
      pure (some (⟨level, ty, data⟩, buf))

/-! ## Alignment -/

/-- The least multiple of the pointer size from `n` on. -/
def alignUp (w : PtrWidth) (n : Nat) : Nat := (n + w.bytes - 1) / w.bytes * w.bytes

theorem align_eq {w : PtrWidth} {n : Nat} (h : n + w.bytes < w.usizeRange) :
    align w n = .ok (alignUp w n) := by
  have hpos := w.bytes_pos
  have hsub : 1 ≤ n + w.bytes := by omega
  have hlt : n + w.bytes - 1 < w.usizeRange := by omega
  simp [align, PtrWidth.add_ok h, PtrWidth.sub_ok hsub, PtrWidth.mask_eq hlt, alignUp]

/-- Without an overflow the result is `alignUp`. -/
theorem align_eq_ok {w : PtrWidth} {n k : Nat} (h : align w n = .ok k) : k = alignUp w n := by
  by_cases hlt : n + w.bytes < w.usizeRange
  · rw [align_eq hlt] at h
    exact (Except.ok.inj h).symm
  · simp [align, PtrWidth.add, hlt, Res.panic] at h

theorem le_alignUp (w : PtrWidth) (n : Nat) : n ≤ alignUp w n := by
  cases w with
  | w32 => simp only [alignUp, PtrWidth.bytes]; omega
  | w64 => simp only [alignUp, PtrWidth.bytes]; omega

theorem alignUp_lt (w : PtrWidth) (n : Nat) : alignUp w n < n + w.bytes := by
  cases w with
  | w32 => simp only [alignUp, PtrWidth.bytes]; omega
  | w64 => simp only [alignUp, PtrWidth.bytes]; omega

/-- The header is a whole number of alignment units, so it can be split off. -/
theorem alignUp_hdrLen_add (w : PtrWidth) (n : Nat) :
    alignUp w (hdrLen w + n) = hdrLen w + alignUp w n := by
  cases w with
  | w32 =>
    have hdr : hdrLen .w32 = 12 := by decide
    simp only [alignUp, hdr, PtrWidth.bytes]
    omega
  | w64 =>
    have hdr : hdrLen .w64 = 16 := by decide
    simp only [alignUp, hdr, PtrWidth.bytes]
    omega

theorem hdrLen_eq (w : PtrWidth) : hdrLen w = w.bytes + 8 := by cases w <;> decide

/-- The space of one message, as a number. -/
def spaceOf (w : PtrWidth) (dataLen : Nat) : Nat := hdrLen w + alignUp w dataLen

/-- Sizes up to `isize::MAX` leave room for the padding and the header. -/
theorem add_slack_lt {w : PtrWidth} {n : Nat} (h : n ≤ w.isizeMax) :
    n + (hdrLen w + w.bytes) < w.usizeRange := by
  cases w with
  | w32 =>
    have hdr : hdrLen .w32 = 12 := by decide
    simp only [PtrWidth.isizeMax_w32, PtrWidth.usizeRange_w32, hdr, PtrWidth.bytes] at *
    omega
  | w64 =>
    have hdr : hdrLen .w64 = 16 := by decide
    simp only [PtrWidth.isizeMax_w64, PtrWidth.usizeRange_w64, hdr, PtrWidth.bytes] at *
    omega

theorem space_eq {w : PtrWidth} {n : Nat} (h : n ≤ w.isizeMax) :
    space w n = .ok (spaceOf w n) := by
  have hslack := add_slack_lt h
  have halign : align w n = .ok (alignUp w n) := align_eq (by omega)
  have hup := alignUp_lt w n
  have hadd : hdrLen w + alignUp w n < w.usizeRange := by omega
  simp [space, halign, PtrWidth.add_ok hadd, spaceOf]

theorem cmsgLen_eq {w : PtrWidth} {n : Nat} (h : n ≤ w.isizeMax) :
    cmsgLen w n = .ok (hdrLen w + n) := by
  have hslack := add_slack_lt h
  exact PtrWidth.add_ok (by omega)

/-! ## One step of the iterator -/

/-- The length word of the header at offset `o`. -/
def lengthWord (t : Target) (b : Bytes) (o : Nat) : Nat :=
  t.endian.decode ((b.drop o).take t.ptr.bytes)

/-- A header stands at `o`, and the message it announces lies in the buffer. -/
def ItemAt (t : Target) (b : Bytes) (o : Nat) : Prop :=
  o + hdrLen t.ptr ≤ b.length ∧
  hdrLen t.ptr ≤ lengthWord t b o ∧ lengthWord t b o ≤ b.length - o

instance (t : Target) (b : Bytes) (o : Nat) : Decidable (ItemAt t b o) :=
  inferInstanceAs (Decidable (_ ∧ _ ∧ _))

/-- The level, the type and the payload of the message at `o`. -/
def itemAt (t : Target) (b : Bytes) (o : Nat) : Message where
  level := t.endian.getI32 ((b.drop (o + t.ptr.bytes)).take 4)
  ty := t.endian.getI32 ((b.drop (o + t.ptr.bytes + 4)).take 4)
  data := (b.drop (o + hdrLen t.ptr)).take (lengthWord t b o - hdrLen t.ptr)

/-- The offset of the next header. -/
def advance (t : Target) (b : Bytes) (o : Nat) : Nat := o + alignUp t.ptr (lengthWord t b o)

section

variable {t : Target} {b : Bytes} {o : Nat}

theorem le_advance (t : Target) (b : Bytes) (o : Nat) :
    o + lengthWord t b o ≤ advance t b o := Nat.add_le_add_left (le_alignUp _ _) o

theorem hdrLen_pos (w : PtrWidth) : 0 < hdrLen w := by
  rw [hdrLen_eq]
  exact Nat.succ_pos _

theorem ItemAt.end_le (h : ItemAt t b o) : o + lengthWord t b o ≤ b.length := by
  obtain ⟨hroom, -, hle⟩ := h
  omega

theorem slice_lengthWord (h : o + hdrLen t.ptr ≤ b.length) :
    slice (b.drop o) 0 t.ptr.bytes = .ok ((b.drop o).take t.ptr.bytes) := by
  have hdr := hdrLen_eq t.ptr
  have hlen : (b.drop o).length = b.length - o := List.length_drop
  rw [slice_ok (Nat.zero_le _) (by omega)]
  rfl

theorem next_drop_none (h : ¬ ItemAt t b o) : next t (b.drop o) = .ok none := by
  have hdr := hdrLen_pos t.ptr
  have hlen : (b.drop o).length = b.length - o := List.length_drop
  unfold next
  split
  · rfl
  · next hroom =>
    have hfits : o + hdrLen t.ptr ≤ b.length := by omega
    have hbounds : t.endian.decode ((b.drop o).take t.ptr.bytes) < hdrLen t.ptr ∨
        (b.drop o).length < t.endian.decode ((b.drop o).take t.ptr.bytes) := by
      by_contra hin
      obtain ⟨hge, hle⟩ := not_or.mp hin
      exact h ⟨hfits, not_lt.mp hge, hlen ▸ not_lt.mp hle⟩
    simp only [slice_lengthWord hfits, Res.ok_bind, if_pos hbounds]
    rfl

/-- A message that the walk finds is yielded, and what is left begins at the next
    offset of the walk. -/
theorem next_drop_some (hmax : lengthWord t b o ≤ t.ptr.isizeMax) (h : ItemAt t b o) :
    next t (b.drop o) = .ok (some (itemAt t b o, b.drop (advance t b o))) := by
  obtain ⟨hroom, hge, hle⟩ := h
  have hdr := hdrLen_eq t.ptr
  have hslack := add_slack_lt hmax
  have hlen : (b.drop o).length = b.length - o := List.length_drop
  have hshort : ¬ (b.drop o).length < hdrLen t.ptr := by omega
  have hbounds : ¬ (lengthWord t b o < hdrLen t.ptr ∨ (b.drop o).length < lengthWord t b o) := by
    omega
  have hlevel : slice (b.drop o) t.ptr.bytes (t.ptr.bytes + 4) =
      .ok ((b.drop (o + t.ptr.bytes)).take 4) := by
    rw [slice_ok (by omega) (by omega), List.drop_drop, Nat.add_sub_cancel_left]
  have hty : slice (b.drop o) (t.ptr.bytes + 4) (t.ptr.bytes + 8) =
      .ok ((b.drop (o + t.ptr.bytes + 4)).take 4) := by
    rw [slice_ok (by omega) (by omega), List.drop_drop, ← Nat.add_assoc]
    congr 3
    omega
  have hdata : slice (b.drop o) (hdrLen t.ptr) (lengthWord t b o) =
      .ok ((b.drop (o + hdrLen t.ptr)).take (lengthWord t b o - hdrLen t.ptr)) := by
    rw [slice_ok hge (by omega), List.drop_drop]
  have halign : align t.ptr (lengthWord t b o) = .ok (alignUp t.ptr (lengthWord t b o)) :=
    align_eq (by omega)
  -- Past the end of the buffer the clamp makes no difference: nothing is left either way.
  have hrest : sliceFrom (b.drop o) (min (alignUp t.ptr (lengthWord t b o)) (b.drop o).length) =
      .ok (b.drop (advance t b o)) := by
    rw [sliceFrom_ok (min_le_right _ _), ← List.drop_eq_drop_min, List.drop_drop, advance]
  rw [lengthWord] at hbounds hdata halign hrest
  rw [next, if_neg hshort]
  simp only [slice_lengthWord hroom, Res.ok_bind, if_neg hbounds, hlevel, hty, hdata, halign,
    hrest, Res.pure_eq, itemAt, lengthWord]

end

/-! ## Iterating to the end -/

/-- A message that is yielded takes bytes off the buffer. -/
theorem next_length_lt {t : Target} {buf rest : Bytes} {m : Message}
    (h : next t buf = .ok (some (m, rest))) : rest.length < buf.length := by
  have hdr := hdrLen_eq t.ptr
  unfold next at h
  split at h
  · simp at h
  · next hlen =>
    obtain ⟨lenBytes, -, h⟩ := Res.bind_eq_ok.mp h
    dsimp only at h
    split at h
    · simp at h
    · next hbounds =>
      obtain ⟨level, -, h⟩ := Res.bind_eq_ok.mp h
      obtain ⟨ty, -, h⟩ := Res.bind_eq_ok.mp h
      obtain ⟨data, -, h⟩ := Res.bind_eq_ok.mp h
      obtain ⟨padded, halign, h⟩ := Res.bind_eq_ok.mp h
      obtain ⟨rest', hrest, h⟩ := Res.bind_eq_ok.mp h
      have hpadded := le_alignUp t.ptr (t.endian.decode lenBytes)
      rw [← align_eq_ok halign] at hpadded
      rw [sliceFrom_ok (min_le_right _ _)] at hrest
      obtain rfl : rest' = rest := by
        simp only [Res.pure_eq, Except.ok.injEq, Option.some.injEq, Prod.mk.injEq] at h
        exact h.2
      rw [← Except.ok.inj hrest, List.length_drop]
      omega

/-- `for item in iter(buf)`, as the list of everything it yields. -/
def iter (t : Target) (buf : Bytes) : Res (List Message) :=
  match _h : next t buf with
  | .error e => .error e
  | .ok none => .ok []
  | .ok (some (m, rest)) => (iter t rest).map (m :: ·)
termination_by buf.length
decreasing_by exact next_length_lt _h

theorem iter_of_none {t : Target} {buf : Bytes} (h : next t buf = .ok none) :
    iter t buf = .ok [] := by
  rw [iter]
  split
  · simp_all
  · rfl
  · simp_all

theorem iter_of_some {t : Target} {buf rest : Bytes} {m : Message}
    (h : next t buf = .ok (some (m, rest))) : iter t buf = (iter t rest).map (m :: ·) := by
  rw [iter]
  split
  · simp_all
  · simp_all
  · next m' rest' h' =>
    obtain ⟨rfl, rfl⟩ : m' = m ∧ rest' = rest := by simpa [h] using h'.symm
    rfl

/-! ## The layout -/

/-- A control message as it stands in a buffer, with these bytes behind its payload. -/
def Message.layoutWith (t : Target) (m : Message) (pad : Bytes) : Bytes :=
  t.endian.encode t.ptr.bytes (hdrLen t.ptr + m.data.length) ++
    (t.endian.putI32 m.level ++ (t.endian.putI32 m.ty ++ (m.data ++ pad)))

/-- A control message as it stands in a buffer: header, payload, zero padding. -/
def Message.layout (t : Target) (m : Message) : Bytes :=
  t.endian.encode t.ptr.bytes (hdrLen t.ptr + m.data.length) ++
    (t.endian.putI32 m.level ++ (t.endian.putI32 m.ty ++
      (m.data ++ zeros (alignUp t.ptr m.data.length - m.data.length))))

def Message.space (t : Target) (m : Message) : Nat := spaceOf t.ptr m.data.length

/-- The number of bytes that pad the payload to the next alignment boundary. -/
def Message.padLen (t : Target) (m : Message) : Nat := alignUp t.ptr m.data.length - m.data.length

theorem Message.length_layoutWith {t : Target} {m : Message} {pad : Bytes}
    (h : pad.length = m.padLen t) : (m.layoutWith t pad).length = m.space t := by
  have hdr := hdrLen_eq t.ptr
  have hle := le_alignUp t.ptr m.data.length
  simp only [layoutWith, space, spaceOf, List.length_append, Endian.length_encode,
    Endian.length_putI32, h, padLen]
  omega

@[simp] theorem Message.length_layout (t : Target) (m : Message) :
    (m.layout t).length = m.space t := length_layoutWith (length_zeros _)

theorem Message.length_data_le (t : Target) (m : Message) : m.data.length ≤ m.space t :=
  (le_alignUp t.ptr _).trans (Nat.le_add_left _ _)

/-- The writer puts the layout at the head of the buffer and keeps the rest. -/
theorem write_eq {t : Target} {m : Message} (hmax : m.data.length ≤ t.ptr.isizeMax)
    {buf : Bytes} (hbuf : m.space t ≤ buf.length) :
    write t buf m = .ok (m.layout t ++ buf.drop (m.space t), m.space t) := by
  have hle := le_alignUp t.ptr m.data.length
  -- The zeroed area, cut into the fields that are written one after another.
  obtain ⟨pad, hpad⟩ : ∃ pad, alignUp t.ptr m.data.length = m.data.length + pad :=
    ⟨_, (Nat.add_sub_cancel' hle).symm⟩
  have hsize : m.space t = t.ptr.bytes + (4 + (4 + (m.data.length + pad))) := by
    simp only [Message.space, spaceOf, hdrLen_eq, hpad]
    omega
  have hshort : ¬ buf.length < m.space t := not_lt.mpr hbuf
  have hspace : space t.ptr m.data.length = .ok (m.space t) := space_eq hmax
  have hfill : fill buf 0 (m.space t) 0 = .ok (zeros (m.space t) ++ buf.drop (m.space t)) :=
    fill_zeros hbuf
  have hcut : 8 + m.data.length - 4 = 4 + m.data.length := by omega
  simp only [write, hspace, Res.ok_bind, hshort, if_false, hfill, cmsgLen_eq hmax]
  rw [hsize]
  simp [Message.layout, copyFromSlice_skip, copyFromSlice_head, hpad, hdrLen_eq, hcut, add_assoc]

/-- The message at the head of a layout is read back from it. -/
theorem itemAt_layoutWith (t : Target) (m : Message) (pad post : Bytes)
    (hword : lengthWord t (m.layoutWith t pad ++ post) 0 = hdrLen t.ptr + m.data.length) :
    itemAt t (m.layoutWith t pad ++ post) 0 = m := by
  have hlevel : (m.layoutWith t pad ++ post).drop t.ptr.bytes =
      t.endian.putI32 m.level ++ (t.endian.putI32 m.ty ++ (m.data ++ (pad ++ post))) := by
    simp [Message.layoutWith]
  have hty : (m.layoutWith t pad ++ post).drop (t.ptr.bytes + 4) =
      t.endian.putI32 m.ty ++ (m.data ++ (pad ++ post)) := by
    rw [← List.drop_drop, hlevel]
    exact List.drop_left' (Endian.length_putI32 _ _)
  have hdata : (m.layoutWith t pad ++ post).drop (hdrLen t.ptr) = m.data ++ (pad ++ post) := by
    rw [hdrLen_eq, show t.ptr.bytes + 8 = t.ptr.bytes + 4 + 4 from rfl, ← List.drop_drop, hty]
    exact List.drop_left' (Endian.length_putI32 _ _)
  rw [itemAt, hword, Nat.zero_add, Nat.zero_add, hlevel, hty, hdata, Nat.add_sub_cancel_left,
    List.take_left' (Endian.length_putI32 _ _), List.take_left' (Endian.length_putI32 _ _),
    List.take_left, Endian.getI32_putI32, Endian.getI32_putI32]

/-- The iterator undoes the layout, whatever the padding and whatever follows it. -/
theorem next_layoutWith {t : Target} {m : Message} {pad : Bytes} (hpad : pad.length = m.padLen t)
    (post : Bytes) (hmax : m.space t ≤ t.ptr.isizeMax) :
    next t (m.layoutWith t pad ++ post) = .ok (some (m, post)) := by
  have hslack := add_slack_lt hmax
  have hspace : m.space t = alignUp t.ptr (hdrLen t.ptr + m.data.length) := by
    rw [alignUp_hdrLen_add, Message.space, spaceOf]
  have hlen : hdrLen t.ptr + m.data.length ≤ m.space t := hspace ▸ le_alignUp _ _
  have hlayout : (m.layoutWith t pad).length = m.space t := Message.length_layoutWith hpad
  have hfits : hdrLen t.ptr + m.data.length < 256 ^ t.ptr.bytes := by
    have hrange : t.ptr.usizeRange = 256 ^ t.ptr.bytes := by rw [PtrWidth.usizeRange, pow_mul]; rfl
    omega
  have hword : lengthWord t (m.layoutWith t pad ++ post) 0 = hdrLen t.ptr + m.data.length := by
    rw [lengthWord, List.drop_zero, Message.layoutWith, List.append_assoc,
      List.take_left' (Endian.length_encode _ _ _), Endian.decode_encode hfits]
  have hitem : ItemAt t (m.layoutWith t pad ++ post) 0 := by
    rw [ItemAt, hword, List.length_append, hlayout]
    omega
  have hrest : (m.layoutWith t pad ++ post).drop (advance t (m.layoutWith t pad ++ post) 0) =
      post := by
    rw [advance, hword, ← hspace, Nat.zero_add]
    exact List.drop_left' hlayout
  have hnext := next_drop_some (by omega) hitem
  rwa [List.drop_zero, hrest, itemAt_layoutWith t m pad post hword] at hnext

theorem iter_layoutWith {t : Target} {m : Message} {pad : Bytes} (hpad : pad.length = m.padLen t)
    (post : Bytes) (hmax : m.space t ≤ t.ptr.isizeMax) :
    iter t (m.layoutWith t pad ++ post) = (iter t post).map (m :: ·) :=
  iter_of_some (next_layoutWith hpad post hmax)

/-- Zero bytes hold no message: the length word is below the header size. -/
theorem next_zeros (t : Target) (n : Nat) : next t (zeros n) = .ok none := by
  have hword : lengthWord t (zeros n) 0 = 0 := by
    rw [lengthWord, List.drop_zero, zeros, List.take_replicate]
    exact Endian.decode_replicate_zero _ _
  have hno : ¬ ItemAt t (zeros n) 0 := by
    rintro ⟨-, hge, -⟩
    rw [hword] at hge
    exact absurd hge (not_le.mpr (hdrLen_pos t.ptr))
  exact next_drop_none hno

/-! ## Several messages -/

/-- A caller that writes messages one after another, each at the running offset. -/
def writeAll (t : Target) (buf : Bytes) (off : Nat) : List Message → Res (Bytes × Nat)
  | [] => pure (buf, off)
  | m :: ms => do
    let tail ← sliceFrom buf off
    let (tail, used) ← write t tail m
    writeAll t (buf.take off ++ tail) (off + used) ms

def layoutList (t : Target) (ms : List Message) : Bytes := ms.flatMap (·.layout t)

/-- The sum of `space(data.len())`. -/
def totalSpace (t : Target) (ms : List Message) : Nat := (ms.map (·.space t)).sum

@[simp] theorem layoutList_nil (t : Target) : layoutList t [] = [] := rfl

@[simp] theorem layoutList_cons (t : Target) (m : Message) (ms : List Message) :
    layoutList t (m :: ms) = m.layout t ++ layoutList t ms := rfl

@[simp] theorem layoutList_append (t : Target) (ms ms' : List Message) :
    layoutList t (ms ++ ms') = layoutList t ms ++ layoutList t ms' := List.flatMap_append

@[simp] theorem totalSpace_nil (t : Target) : totalSpace t [] = 0 := rfl

@[simp] theorem totalSpace_cons (t : Target) (m : Message) (ms : List Message) :
    totalSpace t (m :: ms) = m.space t + totalSpace t ms := by simp [totalSpace]

@[simp] theorem totalSpace_append (t : Target) (ms ms' : List Message) :
    totalSpace t (ms ++ ms') = totalSpace t ms + totalSpace t ms' := by simp [totalSpace]

@[simp] theorem length_layoutList (t : Target) (ms : List Message) :
    (layoutList t ms).length = totalSpace t ms := by
  induction ms with
  | nil => rfl
  | cons m ms ih => simp [ih]

theorem space_le_totalSpace {t : Target} {ms : List Message} {m : Message} (h : m ∈ ms) :
    m.space t ≤ totalSpace t ms := by
  obtain ⟨pre, post, rfl⟩ := List.append_of_mem h
  simp only [totalSpace_append, totalSpace_cons]
  omega

/-- Writing behind `pre` appends the layouts and keeps what lies past them. -/
theorem writeAll_eq {t : Target} (ms : List Message) (pre : Bytes) {post : Bytes}
    (hmax : totalSpace t ms ≤ t.ptr.isizeMax) (hbuf : totalSpace t ms ≤ post.length) :
    writeAll t (pre ++ post) pre.length ms =
      .ok (pre ++ (layoutList t ms ++ post.drop (totalSpace t ms)),
        pre.length + totalSpace t ms) := by
  induction ms generalizing pre post with
  | nil => simp [writeAll]
  | cons m ms ih =>
    rw [totalSpace_cons] at hmax hbuf
    have hdata : m.data.length ≤ t.ptr.isizeMax := (m.length_data_le t).trans (by omega)
    have hwrite : write t post m = .ok (m.layout t ++ post.drop (m.space t), m.space t) :=
      write_eq hdata (by omega)
    have hroom : totalSpace t ms ≤ (post.drop (m.space t)).length := by
      rw [List.length_drop]
      omega
    have hrest := ih (pre ++ m.layout t) (by omega) hroom
    rw [List.length_append, Message.length_layout] at hrest
    simp only [writeAll, sliceFrom_append rfl, Res.ok_bind, hwrite, List.take_left]
    rw [← List.append_assoc, hrest]
    simp [List.append_assoc, List.drop_drop, add_assoc]

/-- Iterating over a written prefix, padded with zeros, yields what was written. -/
theorem iter_layoutList {t : Target} (ms : List Message) (n : Nat)
    (hmax : totalSpace t ms ≤ t.ptr.isizeMax) :
    iter t (layoutList t ms ++ zeros n) = .ok ms := by
  induction ms with
  | nil => exact iter_of_none (next_zeros t n)
  | cons m ms ih =>
    rw [totalSpace_cons] at hmax
    have hfirst : iter t (m.layout t ++ (layoutList t ms ++ zeros n)) =
        (iter t (layoutList t ms ++ zeros n)).map (m :: ·) :=
      iter_layoutWith (length_zeros _) _ (by omega)
    rw [layoutList_cons, List.append_assoc, hfirst, ih (by omega)]
    rfl

/-- The bytes of a message behind its payload are zero. -/
theorem layout_padding (t : Target) (m : Message) :
    (m.layout t).drop (hdrLen t.ptr + m.data.length) =
      zeros (alignUp t.ptr m.data.length - m.data.length) := by
  simp only [Message.layout, ← List.append_assoc]
  refine List.drop_left' ?_
  simp only [List.length_append, Endian.length_encode, Endian.length_putI32, hdrLen_eq]

/-- Writing and iterating are inverse. The writes use exactly the sum of the
    `space`s, each of them leaves the earlier messages and everything past its own
    end alone and zeroes its padding, and the iterator over the used prefix, alone
    or followed by zeros, yields the messages and stops. -/
theorem written_messages_iterate_back (t : Target) (ms : List Message) (buf : Bytes)
    (hmax : totalSpace t ms ≤ t.ptr.isizeMax) (hbuf : totalSpace t ms ≤ buf.length) :
    (∀ m ∈ ms, space t.ptr m.data.length = .ok (m.space t)) ∧
    (∃ out, writeAll t buf 0 ms = .ok (out, totalSpace t ms) ∧
      out.length = buf.length ∧
      out.drop (totalSpace t ms) = buf.drop (totalSpace t ms) ∧
      ∀ n, iter t (out.take (totalSpace t ms) ++ zeros n) = .ok ms) ∧
    (∀ pre m post, ms = pre ++ m :: post → ∃ before after,
      writeAll t buf 0 pre = .ok (before, totalSpace t pre) ∧
      writeAll t buf 0 (pre ++ [m]) = .ok (after, totalSpace t pre + m.space t) ∧
      after.take (totalSpace t pre) = before.take (totalSpace t pre) ∧
      after.drop (totalSpace t pre + m.space t) = before.drop (totalSpace t pre + m.space t) ∧
      (after.take (totalSpace t pre + m.space t)).drop
          (totalSpace t pre + (hdrLen t.ptr + m.data.length)) =
        zeros (alignUp t.ptr m.data.length - m.data.length)) := by
  -- Every list of messages that fits is written as its layout.
  have hwritten : ∀ ms', totalSpace t ms' ≤ totalSpace t ms →
      writeAll t buf 0 ms' =
        .ok (layoutList t ms' ++ buf.drop (totalSpace t ms'), totalSpace t ms') := by
    intro ms' hle
    simpa using writeAll_eq ms' [] (hle.trans hmax) (hle.trans hbuf)
  refine ⟨?_, ?_, ?_⟩
  · intro m hm
    exact space_eq ((m.length_data_le t).trans ((space_le_totalSpace hm).trans hmax))
  · refine ⟨_, hwritten ms le_rfl, ?_, ?_, ?_⟩
    · simp [hbuf]
    · simp
    · intro n
      rw [List.take_append_of_le_length (by simp), List.take_of_length_le (by simp)]
      exact iter_layoutList ms n hmax
  · rintro pre m post rfl
    simp only [totalSpace_append, totalSpace_cons] at hbuf hmax hwritten
    refine ⟨_, _, hwritten pre (by omega), by simpa using hwritten (pre ++ [m]) (by simp), ?_, ?_, ?_⟩
    · simp
    · simp [List.drop_append, List.drop_drop]
    · have hcut : (layoutList t pre ++ (m.layout t ++ buf.drop (totalSpace t pre + m.space t))).take
          (totalSpace t pre + m.space t) = layoutList t pre ++ m.layout t := by
        rw [← List.append_assoc]
        exact List.take_left' (by simp)
      rw [hcut, List.drop_append, length_layoutList, Nat.add_sub_cancel_left, layout_padding,
        List.drop_of_length_le (by simp), List.nil_append]

/-- A three-byte payload followed by an empty one, in a buffer with room to spare. -/
theorem written_messages_iterate_back_pair :
    ∃ out,
      writeAll ⟨.little, .w64⟩ (zeros 64) 0 [⟨1, 10, [1, 2, 3]⟩, ⟨2, 20, []⟩] = .ok (out, 40) ∧
      iter ⟨.little, .w64⟩ (out.take 40 ++ zeros 24) = .ok [⟨1, 10, [1, 2, 3]⟩, ⟨2, 20, []⟩] := by
  obtain ⟨-, ⟨out, hwrite, -, -, hiter⟩, -⟩ := written_messages_iterate_back ⟨.little, .w64⟩
    [⟨1, 10, [1, 2, 3]⟩, ⟨2, 20, []⟩] (zeros 64) (by decide) (by decide)
  exact ⟨out, hwrite, hiter 24⟩

end Cmsg

end Lksctp
