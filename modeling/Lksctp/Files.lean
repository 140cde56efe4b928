-- SUMMARY: A kernel with a descriptor table that can be run, and the proof that it does what the code relies on.
import Lksctp.Addr
import Lksctp.Descriptors

/-!
# A kernel to run the code on

The simplest kernel that keeps a descriptor table: a list of descriptors and a list of
the descriptions they refer to, in which every call on an open one succeeds. That it
is an `FdKernel` shows that what is asked of kernels can be had.
-/

namespace Lksctp

open Rust Machine

namespace Kernel

/-- The descriptors of a process under their numbers, with `none` for a closed one, and
    the descriptions. -/
structure Files where
  entries : List (Option Entry)
  descs : List Desc
  valid : ∀ entry ∈ entries.filterMap id, entry.file < descs.length
  deriving DecidableEq

namespace Files

def ebadf : Errno := 9

def emfile : Errno := 24

def created (soType flags : Int32) : Desc where
  soType := soType
  flags := if flags &&& Sys.sockNonblock ≠ 0 then Sys.oNonblock else 0
  listening := false
  rcvinfo := false
  abortOnClose := false

def table (k : Files) : Table where
  entries fd := if 0 ≤ fd then k.entries[fd.toNatClampNeg]?.join else none
  files i := k.descs[i]?.getD (created 0 0)

def fail (k : Files) (errno : Errno) : Reply × Files := ({ ret := .error errno }, k)

def setDesc (k : Files) (i : Nat) (d : Desc) : Files where
  entries := k.entries
  descs := k.descs.set i d
  valid := by
    rw [List.length_set]
    exact k.valid

theorem valid_closed {entries : List (Option Entry)} {n : Nat} (j : Nat)
    (h : ∀ entry ∈ entries.filterMap id, entry.file < n) :
    ∀ entry ∈ (entries.set j none).filterMap id, entry.file < n := by
  intro entry hentry
  obtain ⟨o, ho, rfl⟩ := List.mem_filterMap.mp hentry
  obtain ho | ho := List.mem_or_eq_of_mem_set ho
  · exact h entry (List.mem_filterMap.mpr ⟨some entry, ho, rfl⟩)
  · cases ho

def closed (k : Files) (fd : Int32) : Files :=
  if 0 ≤ fd then
    { entries := k.entries.set fd.toNatClampNeg none
      descs := k.descs
      valid := valid_closed fd.toNatClampNeg k.valid }
  else k

theorem valid_added (k : Files) (flags : Int32) (d : Desc) :
    ∀ entry ∈ (k.entries ++ [some (Entry.created k.descs.length flags)]).filterMap id,
      entry.file < (k.descs ++ [d]).length := by
  intro entry hentry
  rw [List.filterMap_append, List.mem_append] at hentry
  rw [List.length_append, List.length_singleton]
  obtain hentry | hentry := hentry
  · exact Nat.lt_succ_of_lt (k.valid entry hentry)
  · obtain rfl : entry = .created k.descs.length flags := by simpa using hentry
    exact Nat.lt_succ_self _

/-- A new descriptor, as long as the limit of the process is not reached. -/
def add (k : Files) (flags : Int32) (d : Desc) (reply : Int32 → Reply) : Reply × Files :=
  if k.entries.length < 1024 then
    (reply (Int32.ofNat k.entries.length),
      { entries := k.entries ++ [some (.created k.descs.length flags)]
        descs := k.descs ++ [d]
        valid := k.valid_added flags d })
  else k.fail emfile

/-- The peer of every association. -/
def peer : SocketAddr := .loopback 5000

/-- A call on a descriptor that is open and refers to `d`. -/
def serveOpen (e : Endian) (k : Files) (i : Nat) (d : Desc) : Syscall → Reply × Files
  | .setsockopt _ level opt optval _ =>
    ({ ret := .ok 0 }, k.setDesc i (d.setsockopt e level opt optval))
  | .getsockopt _ level opt optval optlen =>
    if level = Sys.solSctp ∧ opt = Sys.sctpSockoptPeeloffFlags then
      if optval.length = Sys.SctpPeeloffFlagsArg.codec.size then
        let arg := Sys.SctpPeeloffFlagsArg.codec.get e optval
        k.add arg.flags.toInt32 (created Sys.sockSeqpacket arg.flags.toInt32) fun sd =>
          { ret := .ok 0, out := Sys.SctpPeeloffFlagsArg.codec.put e { arg with sd }, len := optlen }
      else k.fail Errno.einval
    else if level = Sys.solSocket ∧ opt = Sys.soType then
      ({ ret := .ok 0, out := e.putI32 d.soType, len := optlen }, k)
    else if level = Sys.solSocket ∧ opt = Sys.soAcceptconn then
      ({ ret := .ok 0, out := e.putI32 (if d.listening then 1 else 0), len := optlen }, k)
    else ({ ret := .ok 0, len := optlen }, k)
  | .accept4 _ addrlen flags =>
    if 16 ≤ addrlen then
      k.add flags (created d.soType flags) fun sd =>
        { ret := .ok sd, out := peer.layout e, len := 16 }
    else k.fail Errno.einval
  | .listen _ _ => ({ ret := .ok 0 }, k.setDesc i { d with listening := true })
  | .fcntlGetfl _ => ({ ret := .ok d.flags }, k)
  | .fcntlSetfl _ flags => ({ ret := .ok 0 }, k.setDesc i { d with flags })
  | .getsockname _ addrlen | .getpeername _ addrlen =>
    if 16 ≤ addrlen then ({ ret := .ok 0, out := peer.layout e, len := 16 }, k)
    else k.fail Errno.einval
  | _ => ({ ret := .ok 0 }, k)

def serve (e : Endian) (runtime : Bool) (k : Files) (c : Syscall) : Reply × Files :=
  match c with
  | .socket _ ty _ => k.add ty (created (ty &&& Sys.sockTypeMask) ty) fun fd => { ret := .ok fd }
  | .close fd => ({ ret := .ok 0 }, k.closed fd)
  | .currentRuntime => if runtime then ({ ret := .ok 0 }, k) else k.fail Errno.einval
  | c =>
    match c.fd? with
    | none => k.fail Errno.einval
    | some fd =>
      match k.table.entries fd with
      | none => k.fail ebadf
      | some entry => k.serveOpen e entry.file (k.table.files entry.file) c

variable {k : Files} {fd : Int32} {i : Nat} {d : Desc}

theorem index_inj {fd fd' : Int32} (h : 0 ≤ fd) (h' : 0 ≤ fd')
    (heq : fd.toNatClampNeg = fd'.toNatClampNeg) : fd = fd' := by
  have hpos : 0 ≤ fd.toInt := Int32.le_iff_toInt_le.mp h
  have hpos' : 0 ≤ fd'.toInt := Int32.le_iff_toInt_le.mp h'
  rw [Int32.toNatClampNeg, Int32.toNatClampNeg] at heq
  rw [← Int32.toInt_inj]
  omega

theorem nonneg (k : Files) (fd : Int32) (h : k.table.entries fd ≠ none) : 0 ≤ fd := by
  by_contra hneg
  exact h (if_neg hneg)

/-- A descriptor that is open refers to one of the descriptions. -/
theorem lt_of_entry (h : (k.table.entries fd).map Entry.file = some i) : i < k.descs.length := by
  obtain ⟨entry, hentry, rfl⟩ := Option.map_eq_some_iff.mp h
  have hpos : 0 ≤ fd := k.nonneg fd (by rw [hentry]; exact nofun)
  have hjoin : k.entries[fd.toNatClampNeg]?.join = some entry := (if_pos hpos).symm.trans hentry
  have hmem : some entry ∈ k.entries := List.mem_of_getElem? (Option.join_eq_some_iff.mp hjoin)
  exact k.valid entry (List.mem_filterMap.mpr ⟨some entry, hmem, rfl⟩)

theorem table_setDesc (h : i < k.descs.length) : (k.setDesc i d).table = k.table.setFile i d := by
  have hfiles : (k.setDesc i d).table.files = Function.update k.table.files i d := by
    funext j
    by_cases hj : j = i
    · rw [hj, Function.update_self, table, setDesc]
      simp [h]
    · rw [Function.update_of_ne hj, table, table, setDesc]
      simp [List.getElem?_set_ne (Ne.symm hj)]
  rw [Table.setFile, ← hfiles]
  rfl

theorem table_closed : (k.closed fd).table = k.table.closed fd := by
  have hentries : (k.closed fd).table.entries = Function.update k.table.entries fd none := by
    funext fd'
    by_cases hpos : 0 ≤ fd
    · by_cases hfd : fd' = fd
      · rw [hfd, Function.update_self, table, closed, if_pos hpos]
        simp only [if_pos hpos, List.getElem?_set_self']
        cases k.entries[fd.toNatClampNeg]? <;> rfl
      · rw [Function.update_of_ne hfd, table, table, closed, if_pos hpos]
        by_cases hpos' : 0 ≤ fd'
        · have hne : fd.toNatClampNeg ≠ fd'.toNatClampNeg :=
            fun heq => hfd (index_inj hpos hpos' heq).symm
          simp only [if_pos hpos', List.getElem?_set_ne hne]
        · simp only [if_neg hpos']
    · have hnone : k.table.entries fd = none := if_neg hpos
      rw [closed, if_neg hpos, ← hnone, Function.update_eq_self]
  have hfiles : (k.closed fd).table.files = k.table.files := by
    rw [closed]
    split <;> rfl
  rw [Table.closed, ← hentries, ← hfiles]

theorem fresh (h : k.entries.length < 1024) :
    k.table.Fresh (Int32.ofNat k.entries.length) k.descs.length where
  nonneg := by
    rw [Int32.le_iff_toInt_le, Int32.toInt_ofNat_of_lt (by omega)]
    exact Int.natCast_nonneg _
  free := by
    have hlt : k.entries.length < 2 ^ 31 := by omega
    simp [table, Int32.toNatClampNeg_ofNat_of_lt hlt]
  unused fd' hfd' := lt_irrefl _ (lt_of_entry hfd')

theorem descs_append (k : Files) (d : Desc) :
    (fun i => (k.descs ++ [d])[i]?.getD (created 0 0)) =
      Function.update k.table.files k.descs.length d := by
  funext i
  by_cases hi : i = k.descs.length
  · rw [hi, Function.update_self, List.getElem?_concat_length]
    rfl
  · rw [Function.update_of_ne hi]
    change _ = k.descs[i]?.getD (created 0 0)
    obtain hlt | hlt := lt_or_gt_of_ne hi
    · rw [List.getElem?_append_left hlt]
    · rw [List.getElem?_eq_none (by simp; omega), List.getElem?_eq_none (le_of_lt hlt)]

theorem entries_append (h : k.entries.length < 1024) (entry : Entry) :
    (fun fd : Int32 =>
      if 0 ≤ fd then (k.entries ++ [some entry])[fd.toNatClampNeg]?.join else none) =
      Function.update k.table.entries (Int32.ofNat k.entries.length) (some entry) := by
  have hindex : (Int32.ofNat k.entries.length).toNatClampNeg = k.entries.length :=
    Int32.toNatClampNeg_ofNat_of_lt (by omega)
  have hnonneg := (fresh h).nonneg
  funext fd
  by_cases hfd : fd = Int32.ofNat k.entries.length
  · rw [hfd, Function.update_self, if_pos hnonneg, hindex, List.getElem?_concat_length]
    rfl
  · rw [Function.update_of_ne hfd]
    change _ = if 0 ≤ fd then k.entries[fd.toNatClampNeg]?.join else none
    by_cases hpos : 0 ≤ fd
    · have hne : fd.toNatClampNeg ≠ k.entries.length :=
        fun heq => hfd (index_inj hpos hnonneg (heq.trans hindex.symm))
      rw [if_pos hpos, if_pos hpos]
      obtain hlt | hlt := lt_or_gt_of_ne hne
      · rw [List.getElem?_append_left hlt]
      · rw [List.getElem?_eq_none (by simp; omega), List.getElem?_eq_none (le_of_lt hlt)]
    · rw [if_neg hpos, if_neg hpos]

theorem table_append (h : k.entries.length < 1024) (flags : Int32) (d : Desc) :
    table ⟨k.entries ++ [some (.created k.descs.length flags)], k.descs ++ [d], k.valid_added flags d⟩ =
      k.table.opened (Int32.ofNat k.entries.length) (.created k.descs.length flags) d := by
  rw [table, Table.opened]
  congr 1
  · exact entries_append h _
  · exact descs_append k d

theorem created_created (soType flags : Int32) : (created soType flags).Created flags := by
  refine ⟨?_, rfl⟩
  simp only [Desc.isNonblocking, created]
  split
  · next h => simp [h]; decide
  · next h => simp [h]

theorem does_fail {e : Endian} {c : Syscall} (errno : Errno) (hclose : ∀ fd, c ≠ .close fd) :
    Does e k.table c (k.fail errno).1 (k.fail errno).2.table := .failed rfl hclose

/-- What a call that makes a descriptor needs to show. -/
theorem does_add {e : Endian} {c : Syscall} {flags : Int32} {d : Desc} {reply : Int32 → Reply}
    (hclose : ∀ fd, c ≠ .close fd)
    (h : ∀ sd i, k.table.Fresh sd i →
      Does e k.table c (reply sd) (k.table.opened sd (.created i flags) d)) :
    Does e k.table c (k.add flags d reply).1 (k.add flags d reply).2.table := by
  unfold add
  split
  · next hlt =>
    rw [table_append hlt]
    exact h _ _ (fresh hlt)
  · exact does_fail _ hclose

theorem does_getsockopt {e : Endian} (hopen : k.table.Has fd i d) (level opt : Int32)
    (optval : Bytes) (optlen : UInt32) :
    Does e k.table (.getsockopt fd level opt optval optlen)
      (k.serveOpen e i d (.getsockopt fd level opt optval optlen)).1
      (k.serveOpen e i d (.getsockopt fd level opt optval optlen)).2.table := by
  simp only [serveOpen]
  by_cases hpeel : level = Sys.solSctp ∧ opt = Sys.sctpSockoptPeeloffFlags
  · obtain ⟨rfl, rfl⟩ := hpeel
    rw [if_pos ⟨rfl, rfl⟩]
    split
    · next hlen =>
      apply does_add
      · exact fun _ => nofun
      · intro sd i' hfresh
        refine .peeloff rfl hopen hfresh ?_ (created_created ..)
        rw [overlay_of_length_eq (by rw [Codec.length_put, hlen]), Codec.get_put]
    · exact does_fail _ fun _ => nofun
  · rw [if_neg hpeel]
    split
    · next htype =>
      refine .getsockopt rfl hopen ⟨fun _ _ => rfl, fun _ hopt => ?_⟩ hpeel
      exact absurd (htype.2.symm.trans hopt) (by decide)
    · next htype =>
      split
      · next hlisten =>
        exact .getsockopt rfl hopen ⟨fun hlevel hopt => absurd ⟨hlevel, hopt⟩ htype, fun _ _ => rfl⟩
          hpeel
      · next hlisten =>
        exact .getsockopt rfl hopen ⟨fun hlevel hopt => absurd ⟨hlevel, hopt⟩ htype,
          fun hlevel hopt => absurd ⟨hlevel, hopt⟩ hlisten⟩ hpeel

theorem within_nothing (req : RecvReq) : RecvOut.nothing.Within req :=
  ⟨Nat.zero_le _, Nat.zero_le _, Nat.zero_le _⟩

theorem does_open {e : Endian} {c : Syscall} (hfd : c.fd? = some fd) (hopen : k.table.Has fd i d)
    (hclose : ∀ fd, c ≠ .close fd) :
    Does e k.table c (k.serveOpen e i d c).1 (k.serveOpen e i d c).2.table := by
  have hset : ∀ d', (k.setDesc i d').table = k.table.setFile i d' :=
    fun d' => table_setDesc (lt_of_entry hopen.entry)
  cases c with
  | socket | currentRuntime => cases hfd
  | close fd => exact absurd rfl (hclose fd)
  | setsockopt fd level opt optval optlen =>
    obtain rfl := Option.some.inj hfd
    simp only [serveOpen, hset]
    exact .setsockopt rfl hopen
  | getsockopt fd level opt optval optlen =>
    obtain rfl := Option.some.inj hfd
    exact does_getsockopt hopen level opt optval optlen
  | accept4 fd addrlen flags =>
    obtain rfl := Option.some.inj hfd
    simp only [serveOpen]
    split
    · next hlen =>
      apply does_add hclose
      intro sd i' hfresh
      exact .accept4 rfl hopen hfresh (created_created ..) rfl hlen
    · exact does_fail _ hclose
  | listen fd backlog =>
    obtain rfl := Option.some.inj hfd
    simp only [serveOpen, hset]
    exact .listen rfl hopen
  | fcntlGetfl fd =>
    obtain rfl := Option.some.inj hfd
    exact .getfl rfl hopen
  | fcntlSetfl fd flags =>
    obtain rfl := Option.some.inj hfd
    simp only [serveOpen, hset]
    exact .setfl rfl hopen rfl
  | getsockname fd addrlen =>
    obtain rfl := Option.some.inj hfd
    simp only [serveOpen]
    split
    · next hlen => exact .getsockname rfl hopen hlen
    · exact does_fail _ hclose
  | getpeername fd addrlen =>
    obtain rfl := Option.some.inj hfd
    simp only [serveOpen]
    split
    · next hlen => exact .getpeername rfl hopen hlen
    · exact does_fail _ hclose
  | _ => exact .inert rfl rfl hfd hopen fun req _ => within_nothing req

/-- A call on a descriptor, which may be open or not. -/
theorem does_request {e : Endian} {c : Syscall} (hfd : c.fd? = some fd)
    (hclose : ∀ fd, c ≠ .close fd) :
    let out := match k.table.entries fd with
      | none => k.fail ebadf
      | some entry => k.serveOpen e entry.file (k.table.files entry.file) c
    Does e k.table c out.1 out.2.table := by
  cases hentry : k.table.entries fd with
  | none => exact does_fail _ hclose
  | some entry => exact does_open hfd ⟨by rw [hentry]; rfl, rfl⟩ hclose

theorem does_serve (e : Endian) (runtime : Bool) (k : Files) (c : Syscall) :
    Does e k.table c (k.serve e runtime c).1 (k.serve e runtime c).2.table := by
  cases c with
  | socket domain ty protocol =>
    apply does_add
    · exact fun _ => nofun
    · intro fd i hfresh
      exact .socket rfl hfresh (created_created ..) rfl
  | close fd =>
    change Does e k.table (.close fd) _ (k.closed fd).table
    rw [table_closed]
    exact .close
  | currentRuntime => cases runtime <;> exact .currentRuntime
  | _ => exact does_request rfl fun _ => nofun

end Files

/-- A kernel in which every call on an open descriptor succeeds, for a program in a Tokio
    runtime or outside of one. -/
def files (e : Endian) (runtime : Bool) : FdKernel e Files where
  serve := Files.serve e runtime
  table := Files.table
  nonneg := Files.nonneg
  does := Files.does_serve e runtime

end Kernel

end Lksctp
