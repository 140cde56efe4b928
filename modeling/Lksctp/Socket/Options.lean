-- SUMMARY: The socket options of the API: setters and getters, each one `setsockopt(2)` or `getsockopt(2)` with a structure of the kernel.
import Lksctp.Params
import Lksctp.Syscall
import Lksctp.Socket.Timeout

/-!
# Socket options

Every option is passed in a structure of fixed size. Options of an association have
its id in the first field, and those of a path also an address, which is all zero
when no path is meant.

`SetOption` and `GetOption` are the options of the API as data.
-/

namespace Lksctp

open Rust Machine

namespace Socket

/-- What the layout of some structures depends on besides the target. -/
structure Abi where
  /-- The alignment of a `u64`. -/
  alignU64 : Nat
  /-- The width of `time_t` and of `suseconds_t`. -/
  time : CWidth

/-- The C library of the platform. -/
def Abi.libc (abi : Abi) : Libc where
  timeT := abi.time
  susecondsT := abi.time
  solSocket := Sys.solSocket
  soRcvtimeo := Sys.soRcvtimeo
  soSndtimeo := Sys.soSndtimeo

variable {K : Type} (t : Target) (abi : Abi) (sys : Syscalls K)

/-! ## Values -/

def bufferTooLarge : IoError := .custom .invalidInput "socket buffer size exceeds i32::MAX"

/-- `i32::try_from(size)`. -/
def checkedBufferSize (size : Nat) : Res Int32 :=
  if size < 2 ^ 31 then .ok (Int32.ofNat size) else Res.err bufferTooLarge

/-- `b as i32`. -/
def boolAsI32 (b : Bool) : Int32 := if b then 1 else 0

/-- `v as usize`, which extends the sign. -/
def asUsize (w : PtrWidth) (v : Int32) : Nat := (v.toInt % w.usizeRange).toNat

/-- `pack_optional_addr`, or an address written into a zeroed `sockaddr_storage`. -/
def packAddress (addr : Option SocketAddr) : Res (Octets 128) := do
  let bytes ← Addr.packOptionalAddr t.endian addr
  toOctets 128 bytes

/-! ## Flags and numbers -/

def enableRcvinfo (fd : Int32) : Io K Unit :=
  setsockopt t.endian sys Codec.i32 fd Sys.solSctp Sys.sctpRecvrcvinfo 1

/-- An option that is a flag. -/
def setFlag (fd level opt : Int32) (on : Bool) : Io K Unit :=
  setsockopt t.endian sys Codec.i32 fd level opt (boolAsI32 on)

def flag (fd level opt : Int32) : Io K Bool := do
  let v ← getsockopt t.endian sys Codec.i32 fd level opt
  pure (v ≠ 0)

def nodelay (fd : Int32) : Io K Bool := flag t sys fd Sys.solSctp Sys.sctpNodelay

def setNodelay (fd : Int32) (nodelay : Bool) : Io K Unit :=
  setFlag t sys fd Sys.solSctp Sys.sctpNodelay nodelay

def reuseAddress (fd : Int32) : Io K Bool := flag t sys fd Sys.solSocket Sys.soReuseaddr

def setReuseAddress (fd : Int32) (enabled : Bool) : Io K Unit :=
  setFlag t sys fd Sys.solSocket Sys.soReuseaddr enabled

def reusePort (fd : Int32) : Io K Bool := flag t sys fd Sys.solSctp Sys.sctpReusePort

def setReusePort (fd : Int32) (enabled : Bool) : Io K Unit :=
  setFlag t sys fd Sys.solSctp Sys.sctpReusePort enabled

def isListening (fd : Int32) : Io K Bool := flag t sys fd Sys.solSocket Sys.soAcceptconn

def setAbortOnClose (fd : Int32) : Io K Unit :=
  setsockopt t.endian sys Sys.Linger.codec fd Sys.solSocket Sys.soLinger { lOnoff := 1, lLinger := 0 }

def setAutoclose (fd : Int32) (seconds : UInt32) : Io K Unit :=
  setsockopt t.endian sys Codec.u32 fd Sys.solSctp Sys.sctpAutoclose seconds

/-- A buffer size, which the kernel has as an `i32`. -/
def bufferSize (fd opt : Int32) : Io K Nat := do
  let v ← getsockopt t.endian sys Codec.i32 fd Sys.solSocket opt
  pure (asUsize t.ptr v)

def setBufferSize (fd opt : Int32) (size : Nat) : Io K Unit := do
  let v ← Io.lift (checkedBufferSize size)
  setsockopt t.endian sys Codec.i32 fd Sys.solSocket opt v

def sendBufferSize (fd : Int32) : Io K Nat := bufferSize t sys fd Sys.soSndbuf

def setSendBufferSize (fd : Int32) (size : Nat) : Io K Unit :=
  setBufferSize t sys fd Sys.soSndbuf size

def recvBufferSize (fd : Int32) : Io K Nat := bufferSize t sys fd Sys.soRcvbuf

def setRecvBufferSize (fd : Int32) (size : Nat) : Io K Unit :=
  setBufferSize t sys fd Sys.soRcvbuf size

/-- The pending error of the socket, if there is one. -/
def takeError (fd : Int32) : Io K (Option IoError) := do
  let v ← getsockopt t.endian sys Codec.i32 fd Sys.solSocket Sys.soError
  pure (if v = 0 then none else some (.os v))

def neitherStyle : IoError :=
  .custom .invalidInput "socket type is neither SOCK_STREAM nor SOCK_SEQPACKET"

def style (fd : Int32) : Io K Style := do
  let kind ← getsockopt t.endian sys Codec.i32 fd Sys.solSocket Sys.soType
  if kind = Sys.sockStream then pure .oneToOne
  else if kind = Sys.sockSeqpacket then pure .oneToMany
  else Io.err neitherStyle

/-! ## Structures -/

/-- `tail` is the byte of padding behind `se_on`. -/
def subscribeEventFor (fd : Int32) (assocId : AssocId) (event : EventType) (on : Bool)
    (tail : UInt8) : Io K Unit :=
  setsockopt t.endian sys Sys.SctpEvent.codec fd Sys.solSctp Sys.sctpEvent
    { seAssocId := assocId.val, seType := event.toRaw, seOn := if on then 1 else 0, tail }

def subscribeEvent (fd : Int32) (event : EventType) (on : Bool) (tail : UInt8) : Io K Unit :=
  subscribeEventFor t sys fd .future event on tail

def initParams (fd : Int32) : Io K InitParams := do
  let raw ← getsockopt t.endian sys Sys.SctpInitmsg.codec fd Sys.solSctp Sys.sctpInitmsg
  pure (.fromSys raw)

def setInitParams (fd : Int32) (params : InitParams) : Io K Unit :=
  setsockopt t.endian sys Sys.SctpInitmsg.codec fd Sys.solSctp Sys.sctpInitmsg params.toSys

def rtoInfo (fd : Int32) (assocId : AssocId) : Io K RtoInfo := do
  let raw ← getsockoptInout t.endian sys Sys.SctpRtoinfo.codec fd Sys.solSctp Sys.sctpRtoinfo
    { srtoAssocId := assocId.val, srtoInitial := 0, srtoMax := 0, srtoMin := 0 }
  pure { initial := raw.srtoInitial, max := raw.srtoMax, min := raw.srtoMin }

def setRtoInfo (fd : Int32) (assocId : AssocId) (rto : RtoInfo) : Io K Unit :=
  setsockopt t.endian sys Sys.SctpRtoinfo.codec fd Sys.solSctp Sys.sctpRtoinfo
    { srtoAssocId := assocId.val, srtoInitial := rto.initial, srtoMax := rto.max,
      srtoMin := rto.min }

def assocInfo (fd : Int32) (assocId : AssocId) : Io K AssocInfo := do
  let raw ← getsockoptInout t.endian sys Sys.SctpAssocparams.codec fd Sys.solSctp Sys.sctpAssocinfo
    { sasocAssocId := assocId.val, sasocAsocmaxrxt := 0, sasocNumberPeerDestinations := 0,
      sasocPeerRwnd := 0, sasocLocalRwnd := 0, sasocCookieLife := 0 }
  pure
    { asocmaxrxt := raw.sasocAsocmaxrxt
      numberPeerDestinations := raw.sasocNumberPeerDestinations
      peerRwnd := raw.sasocPeerRwnd
      localRwnd := raw.sasocLocalRwnd
      cookieLife := raw.sasocCookieLife }

/-- The fields that can only be read are passed as zero. -/
def setAssocInfo (fd : Int32) (assocId : AssocId) (info : AssocInfo) : Io K Unit :=
  setsockopt t.endian sys Sys.SctpAssocparams.codec fd Sys.solSctp Sys.sctpAssocinfo
    { sasocAssocId := assocId.val, sasocAsocmaxrxt := info.asocmaxrxt,
      sasocNumberPeerDestinations := 0, sasocPeerRwnd := 0, sasocLocalRwnd := 0,
      sasocCookieLife := info.cookieLife }

def delayedSack (fd : Int32) (assocId : AssocId) : Io K SackInfo := do
  let raw ← getsockoptInout t.endian sys Sys.SctpSackInfo.codec fd Sys.solSctp Sys.sctpDelayedSack
    { sackAssocId := assocId.val, sackDelay := 0, sackFreq := 0 }
  pure { delayMs := raw.sackDelay, freq := raw.sackFreq }

def setDelayedSack (fd : Int32) (assocId : AssocId) (info : SackInfo) : Io K Unit :=
  setsockopt t.endian sys Sys.SctpSackInfo.codec fd Sys.solSctp Sys.sctpDelayedSack
    { sackAssocId := assocId.val, sackDelay := info.delayMs, sackFreq := info.freq }

def assocStats (fd : Int32) (assocId : AssocId) : Io K AssocStats := do
  let raw ← getsockoptInout t.endian sys (Sys.SctpAssocStats.codec t.ptr abi.alignU64) fd
    Sys.solSctp Sys.sctpGetAssocStats (.query assocId.val)
  Io.lift (AssocStats.fromSys t.endian raw)

def status (fd : Int32) (assocId : AssocId) : Io K AssocStatus := do
  let raw ← getsockoptInout t.endian sys Sys.SctpStatus.codec fd Sys.solSctp Sys.sctpStatus
    (.query assocId.val)
  Io.lift (AssocStatus.fromSys t.endian raw)

/-! ## Structures with an address -/

def peerAddrInfo (fd : Int32) (assocId : AssocId) (addr : SocketAddr) : Io K PeerAddrInfo := do
  let storage ← Io.lift (packAddress t (some addr))
  let raw ← getsockoptInout t.endian sys Sys.SctpPaddrinfo.codec fd Sys.solSctp
    Sys.sctpGetPeerAddrInfo (.query assocId.val storage)
  Io.lift (PeerAddrInfo.fromSys t.endian raw)

def peerAddrParams (fd : Int32) (assocId : AssocId) (addr : Option SocketAddr) :
    Io K PeerAddrParams := do
  let storage ← Io.lift (packAddress t addr)
  let raw ← getsockoptInout t.endian sys Sys.SctpPaddrparams.codec fd Sys.solSctp
    Sys.sctpPeerAddrParams (.query assocId.val storage)
  pure (.fromSys raw)

def setPeerAddrParams (fd : Int32) (assocId : AssocId) (addr : Option SocketAddr)
    (params : PeerAddrParams) : Io K Unit := do
  let storage ← Io.lift (packAddress t addr)
  setsockopt t.endian sys Sys.SctpPaddrparams.codec fd Sys.solSctp Sys.sctpPeerAddrParams
    { sppAssocId := assocId.val, sppAddress := storage, sppHbinterval := params.hbInterval,
      sppPathmaxrxt := params.pathMaxRxt, sppPathmtu := params.pathMtu,
      sppSackdelay := params.sackDelay, sppFlags := params.flags,
      sppIpv6Flowlabel := params.ipv6Flowlabel, sppDscp := params.dscp, pad := 0 }

def setPrimary (fd : Int32) (assocId : AssocId) (addr : SocketAddr) : Io K Unit := do
  let storage ← Io.lift (packAddress t (some addr))
  setsockopt t.endian sys Sys.SctpPrim.codec fd Sys.solSctp Sys.sctpPrimaryAddr
    { sspAssocId := assocId.val, sspAddr := storage }

/-! ## Timeouts -/

/-- `libc::timeval`. -/
def Timeval.codec : Codec (Timeval abi.libc) :=
  (abi.time.codec.seq abi.time.codec).imap (fun (a, b) => ⟨a, b⟩) (fun tv => (tv.tvSec, tv.tvUsec))
    fun _ => rfl

/-- The call that `set_timeout` makes, on the descriptor `fd`. -/
def setTimeval (fd : Int32) : Server K (SetReq abi.libc) (Except Errno Unit) := fun k req =>
  let c := Timeval.codec abi
  let (reply, k) := sys k
    (.setsockopt fd req.level req.opt (c.put t.endian req.val) (UInt32.ofNat c.size))
  (reply.ret.map fun _ => (), k)

/-- The call that `timeout` makes. -/
def getTimeval (fd : Int32) : Server K GetReq (Except Errno (Timeval abi.libc)) := fun k req =>
  let c := Timeval.codec abi
  let (reply, k) := sys k
    (.getsockopt fd req.level req.opt (zeros c.size) (UInt32.ofNat c.size))
  (reply.ret.map fun _ => c.get t.endian (overlay (zeros c.size) reply.out), k)

def setRecvTimeoutOn (fd : Int32) (dur : Option Duration) : Io K Unit :=
  Io.of (setRecvTimeout abi.libc (setTimeval t abi sys fd) dur)

def recvTimeoutOn (fd : Int32) : Io K (Option Duration) :=
  Io.of (recvTimeout abi.libc (getTimeval t abi sys fd))

def setSendTimeoutOn (fd : Int32) (dur : Option Duration) : Io K Unit :=
  Io.of (setSendTimeout abi.libc (setTimeval t abi sys fd) dur)

def sendTimeoutOn (fd : Int32) : Io K (Option Duration) :=
  Io.of (sendTimeout abi.libc (getTimeval t abi sys fd))

/-! ## Options as data -/

inductive SetOption where
  | initParams (params : InitParams)
  | nodelay (on : Bool)
  | reuseAddress (on : Bool)
  | reusePort (on : Bool)
  | abortOnClose
  | autoclose (seconds : UInt32)
  | sendBufferSize (size : Nat)
  | recvBufferSize (size : Nat)
  | sendTimeout (dur : Option Duration)
  | recvTimeout (dur : Option Duration)
  | event (assocId : AssocId) (ev : EventType) (on : Bool) (tail : UInt8)
  | rtoInfo (assocId : AssocId) (info : RtoInfo)
  | assocInfo (assocId : AssocId) (info : AssocInfo)
  | delayedSack (assocId : AssocId) (info : SackInfo)
  | peerAddrParams (assocId : AssocId) (addr : Option SocketAddr) (params : PeerAddrParams)
  | primary (assocId : AssocId) (addr : SocketAddr)
  deriving DecidableEq

def SetOption.set (fd : Int32) : SetOption → Io K Unit
  | .initParams params => setInitParams t sys fd params
  | .nodelay on => setNodelay t sys fd on
  | .reuseAddress on => setReuseAddress t sys fd on
  | .reusePort on => setReusePort t sys fd on
  | .abortOnClose => setAbortOnClose t sys fd
  | .autoclose seconds => setAutoclose t sys fd seconds
  | .sendBufferSize size => setSendBufferSize t sys fd size
  | .recvBufferSize size => setRecvBufferSize t sys fd size
  | .sendTimeout dur => setSendTimeoutOn t abi sys fd dur
  | .recvTimeout dur => setRecvTimeoutOn t abi sys fd dur
  | .event assocId ev on tail => subscribeEventFor t sys fd assocId ev on tail
  | .rtoInfo assocId info => setRtoInfo t sys fd assocId info
  | .assocInfo assocId info => setAssocInfo t sys fd assocId info
  | .delayedSack assocId info => setDelayedSack t sys fd assocId info
  | .peerAddrParams assocId addr params => setPeerAddrParams t sys fd assocId addr params
  | .primary assocId addr => setPrimary t sys fd assocId addr

inductive GetOption where
  | initParams
  | nodelay
  | reuseAddress
  | reusePort
  | isListening
  | style
  | takeError
  | sendBufferSize
  | recvBufferSize
  | sendTimeout
  | recvTimeout
  | rtoInfo (assocId : AssocId)
  | assocInfo (assocId : AssocId)
  | delayedSack (assocId : AssocId)
  | assocStats (assocId : AssocId)
  | status (assocId : AssocId)
  | peerAddrInfo (assocId : AssocId) (addr : SocketAddr)
  | peerAddrParams (assocId : AssocId) (addr : Option SocketAddr)
  deriving DecidableEq

/-- What a getter returns. -/
def GetOption.Value : GetOption → Type
  | .initParams => InitParams
  | .nodelay | .reuseAddress | .reusePort | .isListening => Bool
  | .style => Style
  | .takeError => Option IoError
  | .sendBufferSize | .recvBufferSize => Nat
  | .sendTimeout | .recvTimeout => Option Duration
  | .rtoInfo _ => RtoInfo
  | .assocInfo _ => AssocInfo
  | .delayedSack _ => SackInfo
  | .assocStats _ => AssocStats
  | .status _ => AssocStatus
  | .peerAddrInfo .. => PeerAddrInfo
  | .peerAddrParams .. => PeerAddrParams

def GetOption.get (fd : Int32) : (q : GetOption) → Io K q.Value
  | .initParams => Socket.initParams t sys fd
  | .nodelay => Socket.nodelay t sys fd
  | .reuseAddress => Socket.reuseAddress t sys fd
  | .reusePort => Socket.reusePort t sys fd
  | .isListening => Socket.isListening t sys fd
  | .style => Socket.style t sys fd
  | .takeError => Socket.takeError t sys fd
  | .sendBufferSize => Socket.sendBufferSize t sys fd
  | .recvBufferSize => Socket.recvBufferSize t sys fd
  | .sendTimeout => sendTimeoutOn t abi sys fd
  | .recvTimeout => recvTimeoutOn t abi sys fd
  | .rtoInfo assocId => Socket.rtoInfo t sys fd assocId
  | .assocInfo assocId => Socket.assocInfo t sys fd assocId
  | .delayedSack assocId => Socket.delayedSack t sys fd assocId
  | .assocStats assocId => Socket.assocStats t abi sys fd assocId
  | .status assocId => Socket.status t sys fd assocId
  | .peerAddrInfo assocId addr => Socket.peerAddrInfo t sys fd assocId addr
  | .peerAddrParams assocId addr => Socket.peerAddrParams t sys fd assocId addr

/-! ## Timeouts in terms of system calls -/

theorem setTimeout_on (fd opt : Int32) (dur : Option Duration) :
    Io.of (setTimeout abi.libc (setTimeval t abi sys fd) opt dur) = (do
      let tv ← Io.lift (timevalFor abi.libc dur)
      setsockopt t.endian sys (Timeval.codec abi) fd Sys.solSocket opt tv) := by
  funext k
  change setTimeout abi.libc (setTimeval t abi sys fd) opt dur k = Io.exec (_ >>= _) k
  rw [Io.exec_bind, Io.exec_lift, setTimeout]
  cases timevalFor abi.libc dur with
  | error fault => rfl
  | ok tv =>
    have hsol : abi.libc.solSocket = Sys.solSocket := rfl
    simp only [setTimeval, hsol, setsockopt, callCvt, Io.exec_bind, Io.exec_call]
    generalize sys k _ = out
    obtain ⟨⟨ret, bytes, len, msg⟩, k'⟩ := out
    cases ret with
    | ok v => rfl
    | error errno => rfl

theorem timeout_on (fd opt : Int32) :
    Io.of (timeout abi.libc (getTimeval t abi sys fd) opt) = (do
      let tv ← getsockopt t.endian sys (Timeval.codec abi) fd Sys.solSocket opt
      Io.lift (durationOf tv)) := by
  funext k
  change timeout abi.libc (getTimeval t abi sys fd) opt k = Io.exec (_ >>= _) k
  have hsol : abi.libc.solSocket = Sys.solSocket := rfl
  rw [getsockopt, bind_assoc, Io.exec_bind, callCvt, Io.exec_bind, Io.exec_call, timeout]
  simp only [getTimeval, hsol]
  generalize sys k _ = out
  obtain ⟨⟨ret, bytes, len, msg⟩, k'⟩ := out
  cases ret with
  | ok v => rfl
  | error errno => rfl

/-! ## What cannot fail -/

theorem length_storage (e : Endian) (addr : Option SocketAddr) : (Addr.storage e addr).length = 128 := by
  cases addr with
  | none => exact length_zeros 128
  | some a =>
    have hle : a.wireLen ≤ 28 := a.wireLen_le
    simp only [Addr.storage, List.length_append, SocketAddr.length_layout, length_zeros]
    omega

/-- The address of an option as the kernel has it. -/
def storageOf (e : Endian) (addr : Option SocketAddr) : Octets 128 :=
  ⟨Addr.storage e addr, length_storage e addr⟩

/-- An address always fits its storage. -/
theorem packAddress_eq (addr : Option SocketAddr) :
    packAddress t addr = .ok (storageOf t.endian addr) := by
  rw [packAddress, Addr.packOptionalAddr_eq, Res.ok_bind, toOctets_ok (length_storage t.endian addr)]
  rfl

end Socket

end Lksctp
