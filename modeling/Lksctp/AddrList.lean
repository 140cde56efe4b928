-- SUMMARY: Address lists in untrusted bytes: `read_addr_list` takes the longest run of complete entries, and packing undoes it.
import Lksctp.Addr

/-!
# Address lists in untrusted bytes

Both arguments of `read_addr_list` come from a buffer that the kernel has filled,
so nothing is known about them. What one call of `read_sockaddr` does to an
arbitrary buffer is stated once, in `readSockaddr_cases`: it finds no complete
entry, or it takes the entry at the head and keeps everything of it but
`sin_zero`. The list follows by induction on the count. Before it reads anything,
`read_addr_list` allocates its result, which is the one thing that can fail.
-/

namespace Lksctp

open Rust

namespace Addr

/-- The buffer begins with a whole `sockaddr_in` or `sockaddr_in6`. -/
def Complete (e : Endian) (buf : Bytes) : Prop :=
  (buf.take 2 = e.putU16 Sys.afInet ∧ sockaddrInLen ≤ buf.length) ∨
  (buf.take 2 = e.putU16 Sys.afInet6 ∧ sockaddrIn6Len ≤ buf.length)

/-- The bytes that the entries of a list take. -/
def consumed (addrs : List SocketAddr) : Nat := (addrs.map (·.wireLen)).sum

@[simp] theorem consumed_cons (a : SocketAddr) (addrs : List SocketAddr) :
    consumed (a :: addrs) = a.wireLen + consumed addrs := by
  simp [consumed]

/-- The bytes of one entry with the eight bytes of `sin_zero` cleared. -/
def clearSinZero : SocketAddr → Bytes → Bytes
  | .v4 _ _, entry => entry.take 8 ++ zeros 8
  | .v6 _ _ _ _, entry => entry

/-- `clearSinZero` on each entry of a packed list. -/
def clearEntries : List SocketAddr → Bytes → Bytes
  | [], _ => []
  | a :: addrs, buf => clearSinZero a (buf.take a.wireLen) ++ clearEntries addrs (buf.drop a.wireLen)

/-! ## One entry -/

/-- The family word, read as an integer, against the bytes it is stored as. -/
theorem getU16_eq_iff {e : Endian} {bs : Bytes} (h : bs.length = 2) (v : UInt16) :
    e.getU16 bs = v ↔ bs = e.putU16 v := by
  constructor
  · rintro rfl
    exact (Endian.putU16_getU16 h).symm
  · rintro rfl
    exact Endian.getU16_putU16 e v

/-- A `sockaddr_in` in a buffer, put together from the fields read out of it. -/
theorem layout_v4_of_fields {e : Endian} {buf : Bytes} {ip : Octets 4} {port : UInt16}
    (hfamily : buf.take 2 = e.putU16 Sys.afInet)
    (hport : Endian.big.putU16 port = (buf.drop 2).take 2) (hip : ip.val = (buf.drop 4).take 4) :
    (SocketAddr.v4 ip port).layout e = clearSinZero (.v4 ip port) (buf.take sockaddrInLen) := by
  have hcut : buf.take 8 = buf.take 2 ++ ((buf.drop 2).take 2 ++ (buf.drop 4).take 4) := by
    rw [show 8 = 2 + (2 + 4) from rfl, List.take_add, List.take_add, List.drop_drop]
  simp [SocketAddr.layout, clearSinZero, sockaddrInLen, List.take_take, hcut, hfamily, hport, hip]

/-- A `sockaddr_in6` in a buffer: every byte of it is in a field. -/
theorem layout_v6_of_fields {e : Endian} {buf : Bytes} {ip : Octets 16} {port : UInt16}
    {flowinfo scopeId : UInt32} (hfamily : buf.take 2 = e.putU16 Sys.afInet6)
    (hport : Endian.big.putU16 port = (buf.drop 2).take 2)
    (hflow : e.putU32 flowinfo = (buf.drop 4).take 4) (hip : ip.val = (buf.drop 8).take 16)
    (hscope : e.putU32 scopeId = (buf.drop 24).take 4) :
    (SocketAddr.v6 ip port flowinfo scopeId).layout e = buf.take sockaddrIn6Len := by
  have hcut : buf.take 28 = buf.take 2 ++ ((buf.drop 2).take 2 ++ ((buf.drop 4).take 4 ++
      ((buf.drop 8).take 16 ++ (buf.drop 24).take 4))) := by
    rw [show 28 = 2 + (2 + (4 + (16 + 4))) from rfl, List.take_add, List.take_add, List.take_add,
      List.take_add]
    simp only [List.drop_drop]
  rw [sockaddrIn6Len, hcut, hfamily, ← hport, ← hflow, ← hip, ← hscope]
  rfl

/-- The entry at the head of a buffer, and the bytes it was read from. -/
def ReadsEntry (e : Endian) (buf : Bytes) (a : SocketAddr) : Prop :=
  readSockaddr e buf = .ok (some (a, a.wireLen)) ∧ a.wireLen ≤ buf.length ∧
    a.layout e = clearSinZero a (buf.take a.wireLen)

theorem readSockaddr_v4 {e : Endian} {buf : Bytes} (hfamily : buf.take 2 = e.putU16 Sys.afInet)
    (hlen : sockaddrInLen ≤ buf.length) : ∃ a, ReadsEntry e buf a := by
  have hsize : 16 ≤ buf.length := hlen
  have hport : ((buf.drop 2).take 2).length = 2 := by simp; omega
  have hip : ((buf.drop 4).take 4).length = 4 := by simp; omega
  refine ⟨.v4 ⟨_, hip⟩ (Endian.big.getU16 ((buf.drop 2).take 2)), ?_, hlen, ?_⟩
  · rw [readSockaddr, if_neg (by omega), slice_ok (by decide) (by omega),
      slice_ok (by decide) (by omega), slice_ok (by decide) (by omega)]
    simp [hfamily, hlen, toOctets_ok hip, SocketAddr.wireLen]
  · exact layout_v4_of_fields hfamily (Endian.putU16_getU16 hport) rfl

theorem readSockaddr_v6 {e : Endian} {buf : Bytes} (hfamily : buf.take 2 = e.putU16 Sys.afInet6)
    (hlen : sockaddrIn6Len ≤ buf.length) : ∃ a, ReadsEntry e buf a := by
  have hsize : 28 ≤ buf.length := hlen
  have hne : Sys.afInet6 ≠ Sys.afInet := by decide
  have hport : ((buf.drop 2).take 2).length = 2 := by simp; omega
  have hflow : ((buf.drop 4).take 4).length = 4 := by simp; omega
  have hip : ((buf.drop 8).take 16).length = 16 := by simp; omega
  have hscope : ((buf.drop 24).take 4).length = 4 := by simp; omega
  refine ⟨.v6 ⟨_, hip⟩ (Endian.big.getU16 ((buf.drop 2).take 2)) (e.getU32 ((buf.drop 4).take 4))
    (e.getU32 ((buf.drop 24).take 4)), ?_, hlen, ?_⟩
  · rw [readSockaddr, if_neg (by omega), slice_ok (by decide) (by omega),
      slice_ok (by decide) (by omega), slice_ok (by decide) (by omega),
      slice_ok (by decide) (by omega), slice_ok (by decide) (by omega)]
    simp [hfamily, hne, hlen, toOctets_ok hip, SocketAddr.wireLen]
  · exact layout_v6_of_fields hfamily (Endian.putU16_getU16 hport) (Endian.putU32_getU32 hflow) rfl
      (Endian.putU32_getU32 hscope)

theorem readSockaddr_incomplete {e : Endian} {buf : Bytes} (h : ¬ Complete e buf) :
    readSockaddr e buf = .ok none := by
  unfold readSockaddr
  split
  · rfl
  · next hlen =>
    have htake : (buf.take 2).length = 2 := by simp; omega
    obtain ⟨h4, h6⟩ := not_or.mp h
    rw [slice_ok (by decide) (by omega), Res.ok_bind]
    simp only [List.drop_zero, Nat.sub_zero, getU16_eq_iff htake, if_neg h4, if_neg h6]
    rfl

/-- What `read_sockaddr` does with an arbitrary buffer. -/
theorem readSockaddr_cases (e : Endian) (buf : Bytes) :
    (¬ Complete e buf ∧ readSockaddr e buf = .ok none) ∨ ∃ a, ReadsEntry e buf a := by
  by_cases h : Complete e buf
  · right
    rcases h with ⟨hfamily, hlen⟩ | ⟨hfamily, hlen⟩
    · exact readSockaddr_v4 hfamily hlen
    · exact readSockaddr_v6 hfamily hlen
  · left
    exact ⟨h, readSockaddr_incomplete h⟩

/-- The reader looks only at bytes that are there. -/
theorem readSockaddr_total (e : Endian) (buf : Bytes) : ∃ o, readSockaddr e buf = .ok o := by
  rcases readSockaddr_cases e buf with ⟨-, hnone⟩ | ⟨a, hread, -⟩
  · exact ⟨none, hnone⟩
  · exact ⟨some (a, a.wireLen), hread⟩

/-! ## Lists -/

theorem readAddrs_none {e : Endian} {buf : Bytes} (h : readSockaddr e buf = .ok none)
    (count : Nat) : readAddrs e buf count = .ok [] := by
  cases count with
  | zero => rfl
  | succ count => simp [readAddrs, h]

theorem readAddrs_entry {e : Endian} {buf : Bytes} {a : SocketAddr} (h : ReadsEntry e buf a)
    (count : Nat) :
    readAddrs e buf (count + 1) =
      (readAddrs e (buf.drop a.wireLen) count).map (a :: ·) := by
  obtain ⟨hread, hlen, -⟩ := h
  simp only [readAddrs, hread, Res.ok_bind, sliceFrom_ok hlen]
  cases readAddrs e (buf.drop a.wireLen) count with
  | ok rest => rfl
  | error fault => rfl

/-- What a list that was read says about the buffer. -/
structure ReadsList (e : Endian) (buf : Bytes) (count : Nat) (r : List SocketAddr) : Prop where
  read : ∀ k ≤ count, readAddrs e buf k = .ok (r.take k)
  length_le : r.length ≤ count
  consumed_le : consumed r ≤ buf.length
  layout : layoutList e r = clearEntries r (buf.take (consumed r))
  stopped : r.length = count ∨ ¬ Complete e (buf.drop (consumed r))

theorem ReadsList.zero (e : Endian) (buf : Bytes) : ReadsList e buf 0 [] where
  read k hk := by
    obtain rfl : k = 0 := Nat.le_zero.mp hk
    rfl
  length_le := le_rfl
  consumed_le := Nat.zero_le _
  layout := rfl
  stopped := .inl rfl

theorem ReadsList.incomplete {e : Endian} {buf : Bytes} (h : ¬ Complete e buf) (count : Nat) :
    ReadsList e buf count [] where
  read k _ := by
    rw [List.take_nil]
    exact readAddrs_none (readSockaddr_incomplete h) k
  length_le := Nat.zero_le _
  consumed_le := Nat.zero_le _
  layout := rfl
  stopped := .inr h

theorem ReadsList.cons {e : Endian} {buf : Bytes} {a : SocketAddr} (h : ReadsEntry e buf a)
    {count : Nat} {r : List SocketAddr} (hr : ReadsList e (buf.drop a.wireLen) count r) :
    ReadsList e buf (count + 1) (a :: r) where
  read k hk := by
    cases k with
    | zero => rfl
    | succ k =>
      rw [readAddrs_entry h, hr.read k (Nat.le_of_succ_le_succ hk)]
      rfl
  length_le := Nat.succ_le_succ hr.length_le
  consumed_le := by
    have hle := hr.consumed_le
    have hlen := h.2.1
    rw [List.length_drop] at hle
    rw [consumed_cons]
    omega
  layout := by
    obtain ⟨-, hlen, hlayout⟩ := h
    have hhead : (buf.take (a.wireLen + consumed r)).take a.wireLen = buf.take a.wireLen := by
      rw [List.take_take, min_eq_left (Nat.le_add_right _ _)]
    have htail : (buf.take (a.wireLen + consumed r)).drop a.wireLen =
        (buf.drop a.wireLen).take (consumed r) := by
      rw [List.drop_take, Nat.add_sub_cancel_left]
    rw [layoutList_cons, consumed_cons, clearEntries, hhead, htail, ← hlayout, ← hr.layout]
  stopped := by
    rw [consumed_cons, ← List.drop_drop, List.length_cons, Nat.succ_inj]
    exact hr.stopped

/-- Every buffer and every count: by induction on the count, one entry at a time. -/
theorem exists_readsList (e : Endian) (buf : Bytes) (count : Nat) :
    ∃ r, ReadsList e buf count r := by
  induction count generalizing buf with
  | zero => exact ⟨[], .zero e buf⟩
  | succ count ih =>
    rcases readSockaddr_cases e buf with ⟨hstop, -⟩ | ⟨a, ha⟩
    · exact ⟨[], .incomplete hstop _⟩
    · obtain ⟨r, hr⟩ := ih (buf.drop a.wireLen)
      exact ⟨a :: r, .cons ha hr⟩

theorem length_mul_le_consumed (r : List SocketAddr) : r.length * sockaddrInLen ≤ consumed r := by
  induction r with
  | nil => exact Nat.zero_le _
  | cons a r ih =>
    have ha : sockaddrInLen ≤ a.wireLen := by
      cases a with
      | v4 ip port => exact le_rfl
      | v6 ip port flowinfo scopeId => exact show 16 ≤ 28 by decide
    rw [List.length_cons, consumed_cons, Nat.add_mul, one_mul, Nat.add_comm]
    exact Nat.add_le_add ha ih

/-! ## The longest prefix of entries -/

/-- What reading at most `count` entries of untrusted bytes gives. The list has no
    more entries than asked for and than the buffer can hold, packing it gives the
    bytes it was read from with `sin_zero` cleared, reading stopped at the count or
    where no complete entry begins, and a smaller count reads a prefix of the list. -/
structure MaximalPrefix (w : PtrWidth) (e : Endian) (buf : Bytes) (count : Nat)
    (r : List SocketAddr) : Prop where
  read : readAddrList w e buf count = .ok r
  length_le : r.length ≤ min count (buf.length / sockaddrInLen)
  consumed_le : consumed r ≤ buf.length
  packed : packAddrList e r = .ok (clearEntries r (buf.take (consumed r)))
  stopped : r.length = count ∨ ¬ Complete e (buf.drop (consumed r))
  smaller : ∀ k ≤ count, readAddrList w e buf k = .ok (r.take k)

theorem ReadsList.maximalPrefix {w : PtrWidth} {e : Endian} {buf : Bytes} {count : Nat}
    {r : List SocketAddr} (hr : ReadsList e buf count r)
    (h : min count (buf.length / sockaddrInLen) * sizeOfSocketAddr ≤ w.isizeMax) :
    MaximalPrefix w e buf count r := by
  have hread : ∀ k ≤ count, readAddrList w e buf k = .ok (r.take k) := by
    intro k hk
    have hsmaller : min k (buf.length / sockaddrInLen) ≤ min count (buf.length / sockaddrInLen) :=
      min_le_min_right _ hk
    rw [readAddrList_eq e buf ((Nat.mul_le_mul_right _ hsmaller).trans h), hr.read k hk]
  refine ⟨?_, le_min hr.length_le ?_, hr.consumed_le, ?_, hr.stopped, hread⟩
  · rw [hread count le_rfl, List.take_of_length_le hr.length_le]
  · rw [Nat.le_div_iff_mul_le (by decide)]
    exact (length_mul_le_consumed r).trans hr.consumed_le
  · rw [packAddrList_eq, hr.layout]

/-- Reading untrusted bytes takes the longest prefix of entries, whatever the bytes are,
    when a vector for as many entries can be allocated, and panics otherwise. With 64 bits
    it can for every count of a `u32`. -/
theorem readAddrList_maximal (w : PtrWidth) (e : Endian) (buf : Bytes) (count : Nat) :
    (min count (buf.length / sockaddrInLen) * sizeOfSocketAddr ≤ w.isizeMax →
      ∃ r, MaximalPrefix w e buf count r) ∧
    (w.isizeMax < min count (buf.length / sockaddrInLen) * sizeOfSocketAddr →
      readAddrList w e buf count = Res.panic .capacity) ∧
    (w = .w64 → count < 2 ^ 32 →
      min count (buf.length / sockaddrInLen) * sizeOfSocketAddr ≤ w.isizeMax) := by
  refine ⟨fun h => ?_, fun h => if_neg (not_le.mpr h), ?_⟩
  · obtain ⟨r, hr⟩ := exists_readsList e buf count
    exact ⟨r, hr.maximalPrefix h⟩
  · rintro rfl hcount
    have hle := min_le_left count (buf.length / sockaddrInLen)
    simp only [sizeOfSocketAddr, PtrWidth.isizeMax_w64]
    omega

/-- A truncated second entry, on the smaller of the targets. -/
theorem readAddrList_maximal_truncated :
    ∃ r, MaximalPrefix .w32 .little (SocketAddr.layout .little (.loopback 80) ++ [2, 0, 0, 80]) 2 r :=
  (readAddrList_maximal .w32 .little _ 2).1 (by decide)

/-- With 32 bits there are slices that have room for more addresses than a vector can be
    allocated for: the entries take 16 bytes there, and 32 bytes each in the vector. -/
theorem readAddrList_capacity_overflow :
    (zeros (2 ^ 30)).length ≤ PtrWidth.isizeMax .w32 ∧
      readAddrList .w32 .little (zeros (2 ^ 30)) (2 ^ 26) = Res.panic .capacity ∧
      ¬ ∃ r, readAddrList .w32 .little (zeros (2 ^ 30)) (2 ^ 26) = .ok r := by
  have hpanic : readAddrList .w32 .little (zeros (2 ^ 30)) (2 ^ 26) = Res.panic .capacity := by
    rw [readAddrList, length_zeros, if_neg (by decide)]
  refine ⟨by rw [length_zeros]; decide, hpanic, ?_⟩
  rintro ⟨r, hr⟩
  rw [hpanic] at hr
  cases hr

end Addr

end Lksctp
