-- SUMMARY: Address lists on their way to the kernel: `bindx` and `connectx`, and exactly when the length they pass is the true one.
import Lksctp.Types
import Lksctp.Addr
import Lksctp.Machine.Program

/-!
# Passing address lists to the kernel

`bindx_add`, `bindx_remove` and `connectx` pack their addresses and tell the
kernel how many bytes that are, the first two in the `socklen_t` of a
`setsockopt(2)` and the last in a field of type `i32`. The kernel has nothing but
this number to find the end of the list. Both conversions are `as` casts, which
keep the low 32 bits.
-/

namespace Lksctp

open Rust Machine

namespace Socket

/-! ## The code -/

/-- The system calls that are made with a list, and the one behind a failed `connectx`. -/
inductive AddrCall where
  | setsockopt (level opt : Int32) (optval : Bytes) (optlen : UInt32)
  /-- `getsockopt(2)` with a `sctp_getaddrs_old`, whose pointer is to `addrs`. -/
  | getsockopt (level opt : Int32) (assocId addrNum : Int32) (addrs : Bytes) (optlen : UInt32)
  | fcntlGetfl
  deriving DecidableEq

/-- What a call returns, and `param.assoc_id` as the kernel has left it. -/
structure CallReply where
  ret : Except Errno Int32
  assocId : Int32

abbrev Calls (K : Type) := Server K AddrCall CallReply

def noAddresses : IoError := .custom .invalidInput "no addresses"

def setupTimedOut : IoError :=
  .custom .timedOut "SCTP association setup timed out (SO_SNDTIMEO)"

def bindx {K : Type} (e : Endian) (calls : Calls K) (addrs : List SocketAddr) (opt : Int32) (k : K) :
    Res Unit × K :=
  match Addr.packAddrList e addrs with
  | .error fault => (.error fault, k)
  | .ok packed =>
    let (reply, k) := calls k (.setsockopt Sys.solSctp opt packed (UInt32.ofNat packed.length))
    match reply.ret with
    | .ok _ => (.ok (), k)
    | .error errno => (Res.err (.os errno), k)

def bindxAdd {K : Type} (e : Endian) (calls : Calls K) (addrs : List SocketAddr) (k : K) :
    Res Unit × K :=
  bindx e calls addrs Sys.sctpSockoptBindxAdd k

def bindxRemove {K : Type} (e : Endian) (calls : Calls K) (addrs : List SocketAddr) (k : K) :
    Res Unit × K :=
  bindx e calls addrs Sys.sctpSockoptBindxRem k

/-- Interprets a failed `SCTP_SOCKOPT_CONNECTX3`. -/
def classifyConnectxError (error : IoError) (flFlags : Int32) : Res Unit :=
  if error.rawOsError ≠ some Errno.einprogress then Res.err error
  else if flFlags &&& Sys.oNonblock ≠ 0 then .ok ()
  else Res.err setupTimedOut

/-- The end of `connectx`, with `error` from the `getsockopt(2)` and the association id
    that came with it. -/
def connectxFailed {K : Type} (calls : Calls K) (error : IoError) (assocId : Int32) (k : K) :
    Res AssocId × K :=
  if error.rawOsError = some Errno.einprogress then
    let (reply, k) := calls k .fcntlGetfl
    match reply.ret with
    | .error errno => (Res.err (.os errno), k)
    | .ok flFlags => ((classifyConnectxError error flFlags).map fun _ => ⟨assocId⟩, k)
  else ((classifyConnectxError error 0).map fun _ => ⟨assocId⟩, k)

/-- `size_of::<sctp_getaddrs_old>()`. -/
def getaddrsOldSize (w : PtrWidth) : Nat := 8 + w.bytes

def connectx {K : Type} (t : Target) (calls : Calls K) (addrs : List SocketAddr) (k : K) :
    Res AssocId × K :=
  if addrs.isEmpty then (Res.err noAddresses, k)
  else
    match Addr.packAddrList t.endian addrs with
    | .error fault => (.error fault, k)
    | .ok packed =>
      let (reply, k) := calls k (.getsockopt Sys.solSctp Sys.sctpSockoptConnectx3 0
        (Int32.ofNat packed.length) packed (UInt32.ofNat (getaddrsOldSize t.ptr)))
      match reply.ret with
      | .ok _ => (.ok ⟨reply.assocId⟩, k)
      | .error errno => connectxFailed calls (.os errno) reply.assocId k

/-! ## What the kernel is told -/

/-- The length of a list as a call passes it, with the bytes behind its pointer. -/
def AddrCall.told : AddrCall → Option (Int × Bytes)
  | .setsockopt _ _ optval optlen => some (optlen.toNat, optval)
  | .getsockopt _ _ _ addrNum addrs _ => some (addrNum.toInt, addrs)
  | .fcntlGetfl => none

/-- The kernel's walk over a list of `len` bytes, which ends where they do. -/
def kernelWalk (e : Endian) (bytes : Bytes) (len : Int) : Res (List SocketAddr) :=
  Addr.readAddrs e (bytes.take len.toNat) len.toNat

/-- The outcome of a call that was made with `addrs`, together with the log of its
    system calls: it has failed before the first one with `InvalidInput`, or the kernel
    was told the length of the packed list, and decodes it to the list. -/
def TellsTrueSize {α K : Type} (e : Endian) (addrs : List SocketAddr)
    (out : Res α × K × List AddrCall) : Prop :=
  (out.2.2 = [] ∧ ∃ msg, out.1 = Res.err (.custom .invalidInput msg)) ∨
  (∃ packed, Addr.packAddrList e addrs = .ok packed ∧
    out.2.2.filterMap AddrCall.told = [((packed.length : Int), packed)] ∧
    kernelWalk e packed packed.length = .ok addrs)

/-- The bytes that a list takes: `sockaddr_in` and `sockaddr_in6` back to back. -/
def packedLen (addrs : List SocketAddr) : Nat :=
  16 * addrs.countP (·.isV4) + 28 * addrs.countP (fun a => !a.isV4)

theorem length_layoutList_eq (e : Endian) (addrs : List SocketAddr) :
    (Addr.layoutList e addrs).length = packedLen addrs := Addr.length_layoutList e addrs

/-- Walking the whole of a packed list gives the list. -/
theorem kernelWalk_layoutList (e : Endian) (addrs : List SocketAddr) :
    kernelWalk e (Addr.layoutList e addrs) (Addr.layoutList e addrs).length = .ok addrs := by
  obtain ⟨k, hk⟩ := Nat.exists_eq_add_of_le (Addr.length_le_length_layoutList e addrs)
  have hnil : Addr.readAddrs e [] k = .ok [] := by
    cases k with
    | zero => rfl
    | succ k => rfl
  have hread := Addr.readAddrs_append e addrs [] k
  rw [List.append_nil, hnil, ← hk] at hread
  rw [kernelWalk, Int.toNat_natCast, List.take_length, hread]
  simp

/-- The kernel was told one length for the packed list. -/
theorem tellsTrueSize_iff {α K : Type} {e : Endian} {addrs : List SocketAddr} {len : Int}
    {out : Res α × K × List AddrCall}
    (h : out.2.2.filterMap AddrCall.told = [(len, Addr.layoutList e addrs)]) :
    TellsTrueSize e addrs out ↔ len = packedLen addrs := by
  have hcall : out.2.2 ≠ [] := by
    intro hnil
    rw [hnil] at h
    cases h
  rw [← length_layoutList_eq e addrs]
  constructor
  · rintro (⟨hnil, -⟩ | ⟨packed, hpacked, htold, -⟩)
    · exact absurd hnil hcall
    · obtain rfl := Except.ok.inj ((Addr.packAddrList_eq e addrs).symm.trans hpacked)
      rw [h] at htold
      simpa using htold
  · rintro rfl
    exact .inr ⟨_, Addr.packAddrList_eq e addrs, h, kernelWalk_layoutList e addrs⟩

/-! ## The conversions -/

theorem toNat_ofNat_eq_iff (n : Nat) : (((UInt32.ofNat n).toNat : Nat) : Int) = n ↔ n < 2 ^ 32 := by
  rw [UInt32.toNat_ofNat']
  omega

theorem toInt_ofNat_eq_iff (n : Nat) : (Int32.ofNat n).toInt = n ↔ n < 2 ^ 31 := by
  constructor
  · intro h
    have hlt := (Int32.ofNat n).toInt_lt
    omega
  · exact Int32.toInt_ofNat_of_lt

/-! ## The calls -/

theorem bindx_told {K : Type} (e : Endian) (calls : Calls K) (addrs : List SocketAddr) (opt : Int32)
    (k : K) :
    (bindx e calls.logged addrs opt (k, [])).2.2.filterMap AddrCall.told =
      [(((UInt32.ofNat (packedLen addrs)).toNat : Int), Addr.layoutList e addrs)] := by
  rw [bindx, Addr.packAddrList_eq, ← length_layoutList_eq e addrs]
  simp only [Server.logged]
  split <;> rfl

/-- What is done about a failure tells the kernel nothing of the list. -/
theorem connectxFailed_told {K : Type} (calls : Calls K) (error : IoError) (assocId : Int32)
    (k : K) (log : List AddrCall) :
    (connectxFailed calls.logged error assocId (k, log)).2.2.filterMap AddrCall.told =
      log.filterMap AddrCall.told := by
  unfold connectxFailed
  split
  · simp only [Server.logged]
    split <;> simp [AddrCall.told]
  · rfl

theorem connectx_told {K : Type} (t : Target) (calls : Calls K) {addrs : List SocketAddr}
    (h : addrs ≠ []) (k : K) :
    (connectx t calls.logged addrs (k, [])).2.2.filterMap AddrCall.told =
      [((Int32.ofNat (packedLen addrs)).toInt, Addr.layoutList t.endian addrs)] := by
  have hne : ¬ addrs.isEmpty = true := by simpa using h
  rw [connectx, if_neg hne, Addr.packAddrList_eq, ← length_layoutList_eq t.endian addrs]
  simp only [Server.logged]
  split
  · rfl
  · exact connectxFailed_told calls _ _ _ _

theorem bindx_tellsTrueSize_iff {K : Type} (e : Endian) (calls : Calls K) (addrs : List SocketAddr)
    (opt : Int32) (k : K) :
    TellsTrueSize e addrs (bindx e calls.logged addrs opt (k, [])) ↔ packedLen addrs < 2 ^ 32 := by
  rw [tellsTrueSize_iff (bindx_told e calls addrs opt k), toNat_ofNat_eq_iff]

/-- An empty list is refused before any call, so it does not count as too long. -/
theorem connectx_tellsTrueSize_iff {K : Type} (t : Target) (calls : Calls K)
    (addrs : List SocketAddr) (k : K) :
    TellsTrueSize t.endian addrs (connectx t calls.logged addrs (k, [])) ↔
      packedLen addrs < 2 ^ 31 := by
  by_cases hempty : addrs = []
  · subst hempty
    exact iff_of_true (.inl ⟨rfl, _, rfl⟩) (by decide)
  · rw [tellsTrueSize_iff (connectx_told t calls hempty k), toInt_ofNat_eq_iff]

/-- Exactly the lists whose packed length fits are passed with their true size: below
    2³¹ bytes for `connectx`, below 2³² for `bindx_add` and `bindx_remove`. -/
theorem tellsTrueSize_iff_packedLen_lt (t : Target) {K : Type} (calls : Calls K)
    (addrs : List SocketAddr) (k : K) :
    (TellsTrueSize t.endian addrs (connectx t calls.logged addrs (k, [])) ↔
      packedLen addrs < 2 ^ 31) ∧
    (TellsTrueSize t.endian addrs (bindxAdd t.endian calls.logged addrs (k, [])) ↔
      packedLen addrs < 2 ^ 32) ∧
    (TellsTrueSize t.endian addrs (bindxRemove t.endian calls.logged addrs (k, [])) ↔
      packedLen addrs < 2 ^ 32) := by
  refine ⟨connectx_tellsTrueSize_iff t calls addrs k, ?_, ?_⟩
  · exact bindx_tellsTrueSize_iff t.endian calls addrs _ k
  · exact bindx_tellsTrueSize_iff t.endian calls addrs _ k

theorem packedLen_replicate_loopback (n : Nat) (port : UInt16) :
    packedLen (List.replicate n (.loopback port)) = 16 * n := by
  simp [packedLen, List.countP_replicate, SocketAddr.loopback, SocketAddr.isV4]

/-- A kernel that refuses every call. -/
def refuseAll : Calls Unit := fun k _ => ({ ret := .error Errno.einval, assocId := 0 }, k)

/-- 2²⁷ IPv4 addresses take 2³¹ bytes, which `connectx` passes as -2³¹. -/
theorem connectx_negative_length :
    ((connectx ⟨.little, .w64⟩ refuseAll.logged
        (List.replicate (2 ^ 27) (.loopback 5000)) ((), [])).2.2.filterMap AddrCall.told).map
      Prod.fst = [-2147483648] ∧
    ¬ TellsTrueSize .little (List.replicate (2 ^ 27) (.loopback 5000))
      (connectx ⟨.little, .w64⟩ refuseAll.logged
        (List.replicate (2 ^ 27) (.loopback 5000)) ((), [])) := by
  have hlen : packedLen (List.replicate (2 ^ 27) (.loopback 5000)) = 2 ^ 31 :=
    packedLen_replicate_loopback (2 ^ 27) 5000
  have hne : List.replicate (2 ^ 27) (SocketAddr.loopback 5000) ≠ [] :=
    mt (List.replicate_eq_nil_iff _).mp (by decide)
  constructor
  · have hcast : (Int32.ofNat (2 ^ 31)).toInt = -2147483648 := by decide
    rw [connectx_told ⟨.little, .w64⟩ refuseAll hne (), hlen, List.map_cons, List.map_nil, hcast]
  · intro htells
    have hlt := (connectx_tellsTrueSize_iff ⟨.little, .w64⟩ refuseAll _ ()).mp htells
    omega

end Socket

end Lksctp
