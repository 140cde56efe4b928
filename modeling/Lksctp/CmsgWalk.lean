-- SUMMARY: The control-message iterator on arbitrary bytes: it is the kernel's walk by offsets, and never leaves the buffer.
import Lksctp.Cmsg

/-!
# Walking untrusted control data

The kernel walks a control buffer by offsets: the next header stands at the
current one plus its length, rounded up. The iterator keeps no offset. It cuts
the buffer down as it goes and clamps the cut to what is left.

One step of the iterator is one step of the walk at every offset of every buffer,
also where the rounded length points past the end (`next_drop_some`). The items of
the whole walk follow by induction on what is left of the buffer.
-/

namespace Lksctp

open Rust

namespace Cmsg

/-! ## The walk by offsets -/

/-- The offset of the `i`-th header, from the start of the buffer. -/
def offset (t : Target) (b : Bytes) (i : Nat) : Nat := (advance t b)^[i] 0

theorem offset_succ (t : Target) (b : Bytes) (i : Nat) :
    offset t b (i + 1) = advance t b (offset t b i) := Function.iterate_succ_apply' _ _ _

variable {t : Target} {b : Bytes} {o : Nat}

/-! ## The whole walk -/

/-- The walk from `o` on finds `m` messages and then stops. -/
def WalksFrom (t : Target) (b : Bytes) (o m : Nat) : Prop :=
  (∀ i < m, ItemAt t b ((advance t b)^[i] o)) ∧ ¬ ItemAt t b ((advance t b)^[m] o)

/-- The messages at the first `m` offsets from `o` on. -/
def itemsFrom (t : Target) (b : Bytes) (o m : Nat) : List Message :=
  (List.range m).map fun i => itemAt t b ((advance t b)^[i] o)

theorem WalksFrom.zero (h : ¬ ItemAt t b o) : WalksFrom t b o 0 :=
  ⟨fun _ hi => absurd hi (Nat.not_lt_zero _), h⟩

theorem WalksFrom.succ {m : Nat} (h : ItemAt t b o) (hm : WalksFrom t b (advance t b o) m) :
    WalksFrom t b o (m + 1) := by
  refine ⟨?_, hm.2⟩
  intro i hi
  cases i with
  | zero => exact h
  | succ i => exact hm.1 i (Nat.lt_of_succ_lt_succ hi)

theorem itemsFrom_succ (t : Target) (b : Bytes) (o m : Nat) :
    itemsFrom t b o (m + 1) = itemAt t b o :: itemsFrom t b (advance t b o) m := by
  simp [itemsFrom, List.range_succ_eq_map, Function.comp_def]

/-- By induction on what is left of the buffer, which every message shortens. -/
theorem iter_drop (hmax : b.length ≤ t.ptr.isizeMax) (o : Nat) :
    ∃ m, WalksFrom t b o m ∧ iter t (b.drop o) = .ok (itemsFrom t b o m) := by
  induction hn : b.length - o using Nat.strongRecOn generalizing o with
  | _ n ih =>
    by_cases h : ItemAt t b o
    · have hpos := hdrLen_pos t.ptr
      have hstep := le_advance t b o
      have hend := h.end_le
      have hge := h.2.1
      obtain ⟨m, hwalk, hiter⟩ := ih _ (by omega) (advance t b o) rfl
      refine ⟨m + 1, hwalk.succ h, ?_⟩
      rw [iter_of_some (next_drop_some (by omega) h), hiter, itemsFrom_succ]
      rfl
    · exact ⟨0, .zero h, iter_of_none (next_drop_none h)⟩

/-! ## Where the messages lie -/

theorem offset_mono (t : Target) (b : Bytes) : Monotone (offset t b) := by
  apply monotone_nat_of_le_succ
  intro i
  rw [offset_succ]
  exact (Nat.le_add_right _ _).trans (le_advance t b _)

/-- A message ends before the header of every later one. -/
theorem offset_disjoint (t : Target) (b : Bytes) {i j : Nat} (h : i < j) :
    offset t b i + lengthWord t b (offset t b i) ≤ offset t b j := by
  have hnext := le_advance t b (offset t b i)
  rw [← offset_succ] at hnext
  exact hnext.trans (offset_mono t b h)

/-- Every message takes at least a header. -/
theorem mul_hdrLen_le_offset {m : Nat} (h : ∀ i < m, ItemAt t b (offset t b i)) :
    m * hdrLen t.ptr ≤ offset t b m := by
  induction m with
  | zero => simp
  | succ m ih =>
    have hm := ih fun i hi => h i (hi.trans (Nat.lt_succ_self m))
    have hge := (h m (Nat.lt_succ_self m)).2.1
    have hstep := le_advance t b (offset t b m)
    rw [offset_succ, Nat.succ_mul]
    omega

theorem count_le {m : Nat} (h : ∀ i < m, ItemAt t b (offset t b i)) :
    m ≤ b.length / hdrLen t.ptr := by
  rw [Nat.le_div_iff_mul_le (hdrLen_pos t.ptr)]
  cases m with
  | zero => simp
  | succ m =>
    have hm := mul_hdrLen_le_offset fun i hi => h i (hi.trans (Nat.lt_succ_self m))
    have hroom := (h m (Nat.lt_succ_self m)).1
    rw [Nat.succ_mul]
    omega

/-! ## A shorter buffer -/

theorem lengthWord_take {k : Nat} (h : o + hdrLen t.ptr ≤ k) :
    lengthWord t (b.take k) o = lengthWord t b o := by
  have hdr := hdrLen_eq t.ptr
  rw [lengthWord, lengthWord, List.drop_take, List.take_take, min_eq_left (by omega)]

/-- A message of a shorter buffer is a message of the whole one. -/
theorem ItemAt.of_take {k : Nat} (h : ItemAt t (b.take k) o) :
    ItemAt t b o ∧ itemAt t (b.take k) o = itemAt t b o ∧
      advance t (b.take k) o = advance t b o := by
  obtain ⟨hroom, hge, hle⟩ := h
  have hdr := hdrLen_eq t.ptr
  rw [List.length_take] at hroom hle
  have hword : lengthWord t (b.take k) o = lengthWord t b o := lengthWord_take (by omega)
  rw [hword] at hge hle
  refine ⟨⟨by omega, hge, by omega⟩, ?_, ?_⟩
  · have hcut : ∀ i n, i + n ≤ k → ((b.take k).drop i).take n = (b.drop i).take n := by
      intro i n hin
      rw [List.drop_take, List.take_take, min_eq_left (by omega)]
    simp only [itemAt, hword]
    rw [hcut _ 4 (by omega), hcut _ 4 (by omega), hcut _ _ (by omega)]
  · rw [advance, advance, hword]

theorem offset_take {k i : Nat} (h : ∀ j < i, ItemAt t (b.take k) (offset t (b.take k) j)) :
    offset t (b.take k) i = offset t b i := by
  induction i with
  | zero => rfl
  | succ i ih =>
    have hi := ih fun j hj => h j (hj.trans (Nat.lt_succ_self i))
    have hlast := h i (Nat.lt_succ_self i)
    rw [hi] at hlast
    rw [offset_succ, offset_succ, hi, hlast.of_take.2.2]

/-- The messages of a shorter buffer are the first ones of the whole buffer. -/
theorem itemsFrom_take {k m n : Nat} (hm : WalksFrom t (b.take k) 0 m) (hn : WalksFrom t b 0 n) :
    itemsFrom t (b.take k) 0 m <+: itemsFrom t b 0 n := by
  have hoff : ∀ i ≤ m, offset t (b.take k) i = offset t b i := by
    intro i hi
    exact offset_take fun j hj => hm.1 j (hj.trans_le hi)
  have hitem : ∀ i < m, ItemAt t (b.take k) (offset t b i) := by
    intro i hi
    rw [← hoff i hi.le]
    exact hm.1 i hi
  have hle : m ≤ n := by
    by_contra hlt
    exact hn.2 (hitem n (not_le.mp hlt)).of_take.1
  have hsame : itemsFrom t (b.take k) 0 m = itemsFrom t b 0 m := by
    apply List.map_congr_left
    intro i hi
    have him := List.mem_range.mp hi
    exact (congrArg _ (hoff i him.le)).trans (hitem i him).of_take.2.1
  have hrange : List.range m <+: List.range n := by
    have hprefix := List.take_prefix m (List.range n)
    rwa [List.take_range, min_eq_left hle] at hprefix
  rw [hsame]
  exact hrange.map _

/-- The iterator is the walk. On every buffer it ends without a panic, it yields the
    message at each offset of the walk up to the first one without a message, these
    messages lie in the buffer one after another, there are at most as many as headers
    would fit, and a shorter buffer yields the first of them. -/
theorem iter_eq_walk (t : Target) (b : Bytes) (hmax : b.length ≤ t.ptr.isizeMax) :
    ∃ m, (∀ i < m, ItemAt t b (offset t b i)) ∧ ¬ ItemAt t b (offset t b m) ∧
      (∀ i < m, ∃ n, align t.ptr (lengthWord t b (offset t b i)) = .ok n ∧
        offset t b (i + 1) = offset t b i + n) ∧
      iter t b = .ok ((List.range m).map fun i => itemAt t b (offset t b i)) ∧
      (∀ i < m, offset t b i + lengthWord t b (offset t b i) ≤ b.length) ∧
      (∀ i j, i < j → j < m → offset t b i + lengthWord t b (offset t b i) ≤ offset t b j) ∧
      m ≤ b.length / hdrLen t.ptr ∧
      ∀ k ≤ b.length, ∃ items, iter t (b.take k) = .ok items ∧
        items <+: (List.range m).map fun i => itemAt t b (offset t b i) := by
  obtain ⟨m, hwalk, hiter⟩ := iter_drop hmax 0
  obtain ⟨hitems, hstop⟩ := id hwalk
  refine ⟨m, hitems, hstop, ?_, hiter, ?_, ?_, count_le hitems, ?_⟩
  · intro i hi
    have hslack := add_slack_lt hmax
    have hend := (hitems i hi).end_le
    exact ⟨_, align_eq (by simp only [offset]; omega), offset_succ t b i⟩
  · intro i hi
    exact (hitems i hi).end_le
  · intro i j hij _
    exact offset_disjoint t b hij
  · intro k hk
    have htake : (b.take k).length ≤ t.ptr.isizeMax := (List.length_take_le' k b).trans hmax
    obtain ⟨n, hn, hk⟩ := iter_drop htake 0
    exact ⟨_, hk, itemsFrom_take hn hwalk⟩

/-- A message of three bytes, and behind its padding a header that is cut off. -/
def cutOff : Bytes :=
  [19, 0, 0, 0, 0, 0, 0, 0, 1, 0, 0, 0, 10, 0, 0, 0, 1, 2, 3, 255, 255, 255, 255, 255, 16, 0, 0]

theorem iter_eq_walk_cutOff : iter ⟨.little, .w64⟩ cutOff = .ok [⟨1, 10, [1, 2, 3]⟩] := by
  obtain ⟨m, hitems, hstop, -, hiter, -⟩ := iter_eq_walk ⟨.little, .w64⟩ cutOff (by decide)
  have hfirst : ItemAt ⟨.little, .w64⟩ cutOff (offset ⟨.little, .w64⟩ cutOff 0) := by decide
  have hsecond : ¬ ItemAt ⟨.little, .w64⟩ cutOff (offset ⟨.little, .w64⟩ cutOff 1) := by decide
  obtain rfl : m = 1 := by
    rcases Nat.lt_trichotomy m 1 with hlt | heq | hgt
    · obtain rfl : m = 0 := Nat.lt_one_iff.mp hlt
      exact absurd hfirst hstop
    · exact heq
    · exact absurd (hitems 1 hgt) hsecond
  rw [hiter]
  decide

end Cmsg

end Lksctp
