-- SUMMARY: Socket addresses in the Linux `sockaddr` layout: single addresses, packed lists, and optional addresses in a storage.
import Lksctp.Sys

/-!
# Socket addresses

The codec of `addr.rs`. `SocketAddr.layout` states the wire format once; the
writer is shown to produce it and the reader to undo it, and the list functions
are proved from these two facts.
-/

namespace Lksctp

open Rust

/-- `std::net::SocketAddr`. -/
inductive SocketAddr where
  | v4 (ip : Octets 4) (port : UInt16)
  | v6 (ip : Octets 16) (port : UInt16) (flowinfo scopeId : UInt32)
  deriving DecidableEq

/-- `127.0.0.1`. -/
def SocketAddr.loopback (port : UInt16) : SocketAddr := .v4 ⟨[127, 0, 0, 1], rfl⟩ port

namespace Addr

def sockaddrInLen : Nat := 16
def sockaddrIn6Len : Nat := 28

/-- `size_of::<SocketAddr>()`. -/
def sizeOfSocketAddr : Nat := 32

/-! ## The code -/

/-- Writes `addr` into `out` and returns the new buffer with the number of
    bytes written. -/
def writeSockaddr (e : Endian) (addr : SocketAddr) (out : Bytes) : Res (Bytes × Nat) :=
  match addr with
  | .v4 ip port => do
    let out ← fill out 0 sockaddrInLen 0
    let out ← copyFromSlice out 0 2 (e.putU16 Sys.afInet)
    let out ← copyFromSlice out 2 4 (Endian.big.putU16 port)
    let out ← copyFromSlice out 4 8 ip.val
    pure (out, sockaddrInLen)
  | .v6 ip port flowinfo scopeId => do
    let out ← fill out 0 sockaddrIn6Len 0
    let out ← copyFromSlice out 0 2 (e.putU16 Sys.afInet6)
    let out ← copyFromSlice out 2 4 (Endian.big.putU16 port)
    let out ← copyFromSlice out 4 8 (e.putU32 flowinfo)
    let out ← copyFromSlice out 8 24 ip.val
    let out ← copyFromSlice out 24 28 (e.putU32 scopeId)
    pure (out, sockaddrIn6Len)

/-- Reads one address from the head of `buf`. Returns it with the number of
    bytes consumed. -/
def readSockaddr (e : Endian) (buf : Bytes) : Res (Option (SocketAddr × Nat)) :=
  if buf.length < 2 then pure none
  else do
    let family := e.getU16 (← slice buf 0 2)
    if family = Sys.afInet ∧ sockaddrInLen ≤ buf.length then
      let port := Endian.big.getU16 (← slice buf 2 4)
      let ip ← toOctets 4 (← slice buf 4 8)
      pure (some (.v4 ip port, sockaddrInLen))
    else if family = Sys.afInet6 ∧ sockaddrIn6Len ≤ buf.length then
      let port := Endian.big.getU16 (← slice buf 2 4)
      let flowinfo := e.getU32 (← slice buf 4 8)
      let octets ← toOctets 16 (← slice buf 8 24)
      let scopeId := e.getU32 (← slice buf 24 28)
      pure (some (.v6 octets port flowinfo scopeId, sockaddrIn6Len))
    else pure none

/-- One round of the loop in `pack_addr_list`: the scratch buffer `tmp` is
    reused, so bytes of an earlier address may still be in it. -/
def packStep (e : Endian) (st : Bytes × Bytes) (addr : SocketAddr) : Res (Bytes × Bytes) := do
  let (out, tmp) := st
  let (tmp, n) ← writeSockaddr e addr tmp
  let entry ← sliceTo tmp n
  pure (out ++ entry, tmp)

def packAddrList (e : Endian) (addrs : List SocketAddr) : Res Bytes := do
  let (out, _) ← addrs.foldlM (packStep e) ([], zeros sockaddrIn6Len)
  pure out

/-- The loop of `read_addr_list`, which stops at the first address that is not
    well formed. -/
def readAddrs (e : Endian) (buf : Bytes) : Nat → Res (List SocketAddr)
  | 0 => pure []
  | count + 1 => do
    match ← readSockaddr e buf with
    | some (addr, consumed) =>
      let buf ← sliceFrom buf consumed
      let rest ← readAddrs e buf count
      pure (addr :: rest)
    | none => pure []

/-- Reads up to `count` addresses packed back to back. -/
def readAddrList (w : PtrWidth) (e : Endian) (buf : Bytes) (count : Nat) : Res (List SocketAddr) :=
  -- `Vec::with_capacity` comes first: `count` entries, or as many as the buffer has room for.
  if min count (buf.length / sockaddrInLen) * sizeOfSocketAddr ≤ w.isizeMax then
    readAddrs e buf count
  else Res.panic .capacity

/-- `pack_optional_addr` of `kernel.rs`: an address in a zeroed
    `sockaddr_storage`, or just the zeros. -/
def packOptionalAddr (e : Endian) (addr : Option SocketAddr) : Res Bytes :=
  match addr with
  | some a => do
    let (storage, _) ← writeSockaddr e a (zeros 128)
    pure storage
  | none => pure (zeros 128)

end Addr

/-! ## The layout -/

namespace SocketAddr

/-- The bytes of `sockaddr_in` and `sockaddr_in6`: the family, flow info and
    scope in host order, the port in network order, `sin_zero` zero. -/
def layout (e : Endian) : SocketAddr → Bytes
  | .v4 ip port => e.putU16 Sys.afInet ++ (Endian.big.putU16 port ++ (ip.val ++ zeros 8))
  | .v6 ip port flowinfo scopeId =>
    e.putU16 Sys.afInet6 ++ (Endian.big.putU16 port ++ (e.putU32 flowinfo ++
      (ip.val ++ e.putU32 scopeId)))

/-- The size of the structure. -/
def wireLen : SocketAddr → Nat
  | .v4 _ _ => Addr.sockaddrInLen
  | .v6 _ _ _ _ => Addr.sockaddrIn6Len

def isV4 : SocketAddr → Bool
  | .v4 _ _ => true
  | .v6 _ _ _ _ => false

@[simp] theorem length_layout (e : Endian) (a : SocketAddr) : (a.layout e).length = a.wireLen := by
  cases a with
  | v4 ip port => simp [layout, wireLen, Addr.sockaddrInLen, ip.property]
  | v6 ip port flowinfo scopeId => simp [layout, wireLen, Addr.sockaddrIn6Len, ip.property]

theorem wireLen_pos (a : SocketAddr) : 0 < a.wireLen := by
  cases a with
  | v4 => exact Nat.succ_pos _
  | v6 => exact Nat.succ_pos _

theorem wireLen_le (a : SocketAddr) : a.wireLen ≤ Addr.sockaddrIn6Len := by
  cases a with
  | v4 ip port => exact show 16 ≤ 28 by decide
  | v6 ip port flowinfo scopeId => exact le_rfl

end SocketAddr

namespace Addr

/-- The writer puts the layout at the head of the buffer and keeps the rest. -/
theorem writeSockaddr_eq {e : Endian} {a : SocketAddr} {out : Bytes}
    (h : a.wireLen ≤ out.length) :
    writeSockaddr e a out = .ok (a.layout e ++ out.drop a.wireLen, a.wireLen) := by
  cases a with
  | v4 ip port =>
    have hfill : fill out 0 16 0 = .ok (zeros 16 ++ out.drop 16) := fill_zeros h
    simp [writeSockaddr, SocketAddr.layout, SocketAddr.wireLen, sockaddrInLen, hfill,
      copyFromSlice_skip, copyFromSlice_head, ip.property]
  | v6 ip port flowinfo scopeId =>
    have hfill : fill out 0 28 0 = .ok (zeros 28 ++ out.drop 28) := fill_zeros h
    simp [writeSockaddr, SocketAddr.layout, SocketAddr.wireLen, sockaddrIn6Len, hfill,
      copyFromSlice_skip, copyFromSlice_head, ip.property]

/-- The reader undoes the layout, whatever follows it. -/
theorem readSockaddr_layout (e : Endian) (a : SocketAddr) (post : Bytes) :
    readSockaddr e (a.layout e ++ post) = .ok (some (a, a.wireLen)) := by
  have hlen : a.wireLen ≤ (a.layout e ++ post).length := by simp
  cases a with
  | v4 ip port =>
    have hshort : ¬ ((SocketAddr.v4 ip port).layout e ++ post).length < 2 :=
      not_lt.mpr (le_trans (show 2 ≤ 16 by decide) hlen)
    simp only [SocketAddr.wireLen] at hlen
    rw [readSockaddr, if_neg hshort]
    simp only [hlen, and_true]
    simp [SocketAddr.layout, SocketAddr.wireLen, slice_skip, slice_head, ip.property]
  | v6 ip port flowinfo scopeId =>
    have hshort : ¬ ((SocketAddr.v6 ip port flowinfo scopeId).layout e ++ post).length < 2 :=
      not_lt.mpr (le_trans (show 2 ≤ 28 by decide) hlen)
    have hne : Sys.afInet6 ≠ Sys.afInet := by decide
    simp only [SocketAddr.wireLen] at hlen
    rw [readSockaddr, if_neg hshort]
    simp only [hlen, and_true]
    simp [SocketAddr.layout, SocketAddr.wireLen, slice_skip, slice_head, ip.property, hne]

/-! ## Lists -/

/-- A list of addresses back to back. -/
def layoutList (e : Endian) (addrs : List SocketAddr) : Bytes := addrs.flatMap (·.layout e)

@[simp] theorem layoutList_nil (e : Endian) : layoutList e [] = [] := rfl

@[simp] theorem layoutList_cons (e : Endian) (a : SocketAddr) (addrs : List SocketAddr) :
    layoutList e (a :: addrs) = a.layout e ++ layoutList e addrs := rfl

theorem length_layoutList (e : Endian) (addrs : List SocketAddr) :
    (layoutList e addrs).length =
      16 * addrs.countP (·.isV4) + 28 * addrs.countP (fun a => !a.isV4) := by
  induction addrs with
  | nil => rfl
  | cons a addrs ih =>
    rw [layoutList_cons, List.length_append, ih, SocketAddr.length_layout]
    cases a with
    | v4 ip port => simp [SocketAddr.isV4, SocketAddr.wireLen, sockaddrInLen]; omega
    | v6 ip port flowinfo scopeId =>
      simp [SocketAddr.isV4, SocketAddr.wireLen, sockaddrIn6Len]; omega

/-- No entry takes less than 16 bytes. -/
theorem length_mul_le_length_layoutList (e : Endian) (addrs : List SocketAddr) :
    addrs.length * sockaddrInLen ≤ (layoutList e addrs).length := by
  have hcount := List.length_eq_countP_add_countP (·.isV4) (l := addrs)
  rw [length_layoutList, sockaddrInLen]
  simp only [Bool.not_eq_true, Bool.decide_eq_false] at hcount
  omega

theorem length_le_length_layoutList (e : Endian) (addrs : List SocketAddr) :
    addrs.length ≤ (layoutList e addrs).length := by
  have hmul := length_mul_le_length_layoutList e addrs
  rw [sockaddrInLen] at hmul
  omega

/-- Whatever the scratch buffer still holds, one round appends the layout. -/
theorem packStep_eq (e : Endian) (out : Bytes) {tmp : Bytes} (a : SocketAddr)
    (h : tmp.length = sockaddrIn6Len) :
    ∃ tmp', tmp'.length = sockaddrIn6Len ∧
      packStep e (out, tmp) a = .ok (out ++ a.layout e, tmp') := by
  have hlen : a.wireLen ≤ tmp.length := h ▸ a.wireLen_le
  refine ⟨a.layout e ++ tmp.drop a.wireLen, ?_, ?_⟩
  · simp only [List.length_append, SocketAddr.length_layout, List.length_drop]
    omega
  · have hentry : sliceTo (a.layout e ++ tmp.drop a.wireLen) a.wireLen = .ok (a.layout e) :=
      slice_head (SocketAddr.length_layout e a)
    simp [packStep, writeSockaddr_eq hlen, hentry]

theorem foldlM_packStep (e : Endian) (addrs : List SocketAddr) (out : Bytes) {tmp : Bytes}
    (h : tmp.length = sockaddrIn6Len) :
    ∃ tmp', addrs.foldlM (packStep e) (out, tmp) = .ok (out ++ layoutList e addrs, tmp') := by
  induction addrs generalizing out tmp with
  | nil => exact ⟨tmp, by simp⟩
  | cons a addrs ih =>
    obtain ⟨tmp₁, hlen₁, hstep⟩ := packStep_eq e out a h
    obtain ⟨tmp₂, hrest⟩ := ih (out ++ a.layout e) hlen₁
    exact ⟨tmp₂, by simp [List.foldlM_cons, hstep, hrest]⟩

theorem packAddrList_eq (e : Endian) (addrs : List SocketAddr) :
    packAddrList e addrs = .ok (layoutList e addrs) := by
  obtain ⟨tmp, hfold⟩ := foldlM_packStep e addrs [] (length_zeros sockaddrIn6Len)
  simp [packAddrList, hfold]

/-- Reading past a packed list goes on behind it. -/
theorem readAddrs_append (e : Endian) (addrs : List SocketAddr) (t : Bytes) (k : Nat) :
    readAddrs e (layoutList e addrs ++ t) (addrs.length + k) =
      (readAddrs e t k).map (addrs ++ ·) := by
  induction addrs with
  | nil =>
    rw [List.length_nil, Nat.zero_add, layoutList_nil, List.nil_append]
    cases readAddrs e t k with
    | ok rest => rfl
    | error fault => rfl
  | cons a addrs ih =>
    have hrest : sliceFrom (a.layout e ++ (layoutList e addrs ++ t)) a.wireLen =
        .ok (layoutList e addrs ++ t) := sliceFrom_append (SocketAddr.length_layout e a)
    rw [layoutList_cons, List.append_assoc, List.length_cons, Nat.add_right_comm, readAddrs,
      readSockaddr_layout]
    simp only [Res.ok_bind, hrest, ih]
    cases readAddrs e t k with
    | ok rest => rfl
    | error fault => rfl

/-- Reading `k` entries of a packed list gives its first `k` addresses, whatever
    follows the list. -/
theorem readAddrs_layoutList (e : Endian) {k : Nat} (addrs : List SocketAddr) (t : Bytes)
    (h : k ≤ addrs.length) :
    readAddrs e (layoutList e addrs ++ t) k = .ok (addrs.take k) := by
  have hsplit : layoutList e addrs ++ t =
      layoutList e (addrs.take k) ++ (layoutList e (addrs.drop k) ++ t) := by
    rw [← List.append_assoc, layoutList, layoutList, layoutList, ← List.flatMap_append,
      List.take_append_drop]
  have hread := readAddrs_append e (addrs.take k) (layoutList e (addrs.drop k) ++ t) 0
  rw [List.length_take, min_eq_left h, Nat.add_zero] at hread
  rw [hsplit, hread]
  simp [readAddrs]

/-- A vector for fewer addresses than fit into memory can be allocated. -/
theorem readAddrList_eq {w : PtrWidth} {count : Nat} (e : Endian) (buf : Bytes)
    (h : min count (buf.length / sockaddrInLen) * sizeOfSocketAddr ≤ w.isizeMax) :
    readAddrList w e buf count = readAddrs e buf count := if_pos h

/-- Reading no more entries than the list has and than a vector can hold. -/
theorem readAddrList_layoutList {w : PtrWidth} (e : Endian) {k : Nat} (addrs : List SocketAddr)
    (t : Bytes) (h : k ≤ addrs.length) (hmem : k * sizeOfSocketAddr ≤ w.isizeMax) :
    readAddrList w e (layoutList e addrs ++ t) k = .ok (addrs.take k) := by
  rw [readAddrList_eq, readAddrs_layoutList e addrs t h]
  exact (Nat.mul_le_mul_right _ (min_le_left _ _)).trans hmem

/-! ## Optional addresses -/

/-- The 128 bytes of an optional address: its layout, then zeros. -/
def storage (e : Endian) : Option SocketAddr → Bytes
  | some a => a.layout e ++ zeros (128 - a.wireLen)
  | none => zeros 128

theorem packOptionalAddr_eq (e : Endian) (a : Option SocketAddr) :
    packOptionalAddr e a = .ok (storage e a) := by
  cases a with
  | none => rfl
  | some a =>
    have hlen : a.wireLen ≤ (zeros 128).length := by
      rw [length_zeros]
      exact a.wireLen_le.trans (by decide)
    have hdrop : (zeros 128).drop a.wireLen = zeros (128 - a.wireLen) := List.drop_replicate
    simp [packOptionalAddr, writeSockaddr_eq hlen, hdrop, storage]

/-- No address family is zero, so the storage of `none` is not an address. -/
theorem readSockaddr_zeros (e : Endian) {n : Nat} (h : 2 ≤ n) :
    readSockaddr e (zeros n) = .ok none := by
  have hfamily : e.getU16 ((zeros n).take 2) = 0 := by
    have htake : (zeros n).take 2 = [0, 0] := by
      rw [zeros, List.take_replicate, min_eq_left h]
      rfl
    rw [htake]
    cases e <;> decide
  have hne : (0 : UInt16) ≠ Sys.afInet ∧ (0 : UInt16) ≠ Sys.afInet6 := by decide
  have hlen : 2 ≤ (zeros n).length := by rwa [length_zeros]
  have hslice : slice (zeros n) 0 2 = .ok ((zeros n).take 2) := by
    rw [slice_ok (by decide) hlen]
    rfl
  rw [readSockaddr, if_neg (not_lt.mpr hlen)]
  simp [hslice, hfamily, hne]

theorem readSockaddr_storage (e : Endian) (a : Option SocketAddr) :
    (readSockaddr e (storage e a)).map (·.map Prod.fst) = .ok a := by
  cases a with
  | none => simp [storage, readSockaddr_zeros]
  | some a => simp [storage, readSockaddr_layout]

/-! ## Round trip -/

/-- Packing loses nothing. A packed list has the size of its entries, reading any
    number of its entries back gives that many of its addresses whatever follows
    the list, and an optional address survives its storage. Addresses that are read are
    addresses in memory, which take no more than `isize::MAX` bytes. -/
theorem packed_addresses_read_back (w : PtrWidth) (e : Endian) :
    (∀ (addrs : List SocketAddr) (t : Bytes), ∃ packed,
      packAddrList e addrs = .ok packed ∧
      packed.length = 16 * addrs.countP (·.isV4) + 28 * addrs.countP (fun a => !a.isV4) ∧
      (addrs.length * sizeOfSocketAddr ≤ w.isizeMax →
        readAddrList w e (packed ++ t) addrs.length = .ok addrs) ∧
      ∀ k ≤ addrs.length, k * sizeOfSocketAddr ≤ w.isizeMax →
        readAddrList w e (packed ++ t) k = .ok (addrs.take k)) ∧
    (∀ a : Option SocketAddr, ∃ bytes,
      packOptionalAddr e a = .ok bytes ∧ bytes.length = 128 ∧
      (readSockaddr e bytes).map (·.map Prod.fst) = .ok a) := by
  constructor
  · intro addrs t
    refine ⟨layoutList e addrs, packAddrList_eq e addrs, length_layoutList e addrs, ?_, ?_⟩
    · intro hmem
      rw [readAddrList_layoutList e addrs t le_rfl hmem, List.take_length]
    · intro k hk hmem
      exact readAddrList_layoutList e addrs t hk hmem
  · intro a
    refine ⟨storage e a, packOptionalAddr_eq e a, ?_, readSockaddr_storage e a⟩
    cases a with
    | none => exact length_zeros 128
    | some a =>
      have hle : a.wireLen ≤ 28 := a.wireLen_le
      simp only [storage, List.length_append, SocketAddr.length_layout, length_zeros]
      omega

/-- One address of each family, on the smaller of the targets. -/
theorem packed_addresses_read_back_mixed :
    ∃ packed,
      packAddrList .little [.loopback 5000, .v6 ⟨zeros 16, rfl⟩ 80 1 2] = .ok packed ∧
      packed.length = 44 ∧
      readAddrList .w32 .little (packed ++ [1, 2, 3]) 1 = .ok [.loopback 5000] := by
  obtain ⟨packed, hpacked, hlen, -, hread⟩ := (packed_addresses_read_back .w32 .little).1
    [.loopback 5000, .v6 ⟨zeros 16, rfl⟩ 80 1 2] [1, 2, 3]
  exact ⟨packed, hpacked, hlen, hread 1 (by decide) (by decide)⟩

end Addr

end Lksctp
