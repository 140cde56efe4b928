-- SUMMARY: Socket and association parameters of the public API, and the kernel structures that carry them.
import Lksctp.Types
import Lksctp.Addr
import Lksctp.Rust.Codec

/-!
# Parameters

The second half of `types.rs`, with the structures of `sys.rs` that socket options
pass them in. The layouts are those of the kernel: the structures with an address
in them are packed, `sctp_event` has one byte of padding at its end, and the place
of the counters in `sctp_assoc_stats` depends on the architecture.
-/

namespace Lksctp

open Rust

/-! ## Kernel structures -/

namespace Sys

structure SctpInitmsg where
  sinitNumOstreams : UInt16
  sinitMaxInstreams : UInt16
  sinitMaxAttempts : UInt16
  sinitMaxInitTimeo : UInt16
  deriving DecidableEq, Repr

def SctpInitmsg.codec : Codec SctpInitmsg :=
  (Codec.u16.seq (Codec.u16.seq (Codec.u16.seq Codec.u16))).imap
    (fun (a, b, c, d) => ⟨a, b, c, d⟩)
    (fun s => (s.sinitNumOstreams, s.sinitMaxInstreams, s.sinitMaxAttempts, s.sinitMaxInitTimeo))
    fun _ => rfl

structure SctpEvent where
  seAssocId : Int32
  seType : UInt16
  seOn : UInt8
  /-- The byte that the compiler adds, with whatever is in it. -/
  tail : UInt8
  deriving DecidableEq, Repr

def SctpEvent.codec : Codec SctpEvent :=
  (Codec.i32.seq (Codec.u16.seq (Codec.u8.seq Codec.u8))).imap
    (fun (a, b, c, d) => ⟨a, b, c, d⟩)
    (fun s => (s.seAssocId, s.seType, s.seOn, s.tail))
    fun _ => rfl

structure SctpRtoinfo where
  srtoAssocId : Int32
  srtoInitial : UInt32
  srtoMax : UInt32
  srtoMin : UInt32
  deriving DecidableEq, Repr

def SctpRtoinfo.codec : Codec SctpRtoinfo :=
  (Codec.i32.seq (Codec.u32.seq (Codec.u32.seq Codec.u32))).imap
    (fun (a, b, c, d) => ⟨a, b, c, d⟩)
    (fun s => (s.srtoAssocId, s.srtoInitial, s.srtoMax, s.srtoMin))
    fun _ => rfl

structure SctpAssocparams where
  sasocAssocId : Int32
  sasocAsocmaxrxt : UInt16
  sasocNumberPeerDestinations : UInt16
  sasocPeerRwnd : UInt32
  sasocLocalRwnd : UInt32
  sasocCookieLife : UInt32
  deriving DecidableEq, Repr

def SctpAssocparams.codec : Codec SctpAssocparams :=
  (Codec.i32.seq (Codec.u16.seq (Codec.u16.seq (Codec.u32.seq (Codec.u32.seq Codec.u32))))).imap
    (fun (a, b, c, d, e, f) => ⟨a, b, c, d, e, f⟩)
    (fun s => (s.sasocAssocId, s.sasocAsocmaxrxt, s.sasocNumberPeerDestinations, s.sasocPeerRwnd,
      s.sasocLocalRwnd, s.sasocCookieLife))
    fun _ => rfl

structure SctpSackInfo where
  sackAssocId : Int32
  sackDelay : UInt32
  sackFreq : UInt32
  deriving DecidableEq, Repr

def SctpSackInfo.codec : Codec SctpSackInfo :=
  (Codec.i32.seq (Codec.u32.seq Codec.u32)).imap
    (fun (a, b, c) => ⟨a, b, c⟩)
    (fun s => (s.sackAssocId, s.sackDelay, s.sackFreq))
    fun _ => rfl

/-- `#[repr(C, packed)]`. -/
structure SctpPaddrinfo where
  spinfoAssocId : Int32
  spinfoAddress : Octets 128
  spinfoState : Int32
  spinfoCwnd : UInt32
  spinfoSrtt : UInt32
  spinfoRto : UInt32
  spinfoMtu : UInt32
  deriving DecidableEq

def SctpPaddrinfo.codec : Codec SctpPaddrinfo :=
  (Codec.i32.seq ((Codec.octets 128).seq (Codec.i32.seq (Codec.u32.seq (Codec.u32.seq
    (Codec.u32.seq Codec.u32)))))).imap
    (fun (a, b, c, d, e, f, g) => ⟨a, b, c, d, e, f, g⟩)
    (fun s => (s.spinfoAssocId, s.spinfoAddress, s.spinfoState, s.spinfoCwnd, s.spinfoSrtt,
      s.spinfoRto, s.spinfoMtu))
    fun _ => rfl

/-- `Default::default()`, with the fields that the kernel reads. -/
def SctpPaddrinfo.query (assocId : Int32) (address : Octets 128) : SctpPaddrinfo where
  spinfoAssocId := assocId
  spinfoAddress := address
  spinfoState := 0
  spinfoCwnd := 0
  spinfoSrtt := 0
  spinfoRto := 0
  spinfoMtu := 0

structure SctpStatus where
  sstatAssocId : Int32
  sstatState : Int32
  sstatRwnd : UInt32
  sstatUnackdata : UInt16
  sstatPenddata : UInt16
  sstatInstrms : UInt16
  sstatOutstrms : UInt16
  sstatFragmentationPoint : UInt32
  sstatPrimary : SctpPaddrinfo
  deriving DecidableEq

def SctpStatus.codec : Codec SctpStatus :=
  (Codec.i32.seq (Codec.i32.seq (Codec.u32.seq (Codec.u16.seq (Codec.u16.seq (Codec.u16.seq
    (Codec.u16.seq (Codec.u32.seq SctpPaddrinfo.codec)))))))).imap
    (fun (a, b, c, d, e, f, g, h, i) => ⟨a, b, c, d, e, f, g, h, i⟩)
    (fun s => (s.sstatAssocId, s.sstatState, s.sstatRwnd, s.sstatUnackdata, s.sstatPenddata,
      s.sstatInstrms, s.sstatOutstrms, s.sstatFragmentationPoint, s.sstatPrimary))
    fun _ => rfl

def SctpStatus.query (assocId : Int32) : SctpStatus where
  sstatAssocId := assocId
  sstatState := 0
  sstatRwnd := 0
  sstatUnackdata := 0
  sstatPenddata := 0
  sstatInstrms := 0
  sstatOutstrms := 0
  sstatFragmentationPoint := 0
  sstatPrimary := .query 0 (Octets.zeros 128)

/-- `#[repr(C, packed)]`. -/
structure SctpPrim where
  sspAssocId : Int32
  sspAddr : Octets 128
  deriving DecidableEq

def SctpPrim.codec : Codec SctpPrim :=
  (Codec.i32.seq (Codec.octets 128)).imap
    (fun (a, b) => ⟨a, b⟩)
    (fun s => (s.sspAssocId, s.sspAddr))
    fun _ => rfl

/-- `#[repr(C, packed)]`, with the byte that `aligned(4)` adds as a field. -/
structure SctpPaddrparams where
  sppAssocId : Int32
  sppAddress : Octets 128
  sppHbinterval : UInt32
  sppPathmaxrxt : UInt16
  sppPathmtu : UInt32
  sppSackdelay : UInt32
  sppFlags : UInt32
  sppIpv6Flowlabel : UInt32
  sppDscp : UInt8
  pad : UInt8
  deriving DecidableEq

def SctpPaddrparams.codec : Codec SctpPaddrparams :=
  (Codec.i32.seq ((Codec.octets 128).seq (Codec.u32.seq (Codec.u16.seq (Codec.u32.seq
    (Codec.u32.seq (Codec.u32.seq (Codec.u32.seq (Codec.u8.seq Codec.u8))))))))).imap
    (fun (a, b, c, d, e, f, g, h, i, j) => ⟨a, b, c, d, e, f, g, h, i, j⟩)
    (fun s => (s.sppAssocId, s.sppAddress, s.sppHbinterval, s.sppPathmaxrxt, s.sppPathmtu,
      s.sppSackdelay, s.sppFlags, s.sppIpv6Flowlabel, s.sppDscp, s.pad))
    fun _ => rfl

def SctpPaddrparams.query (assocId : Int32) (address : Octets 128) : SctpPaddrparams where
  sppAssocId := assocId
  sppAddress := address
  sppHbinterval := 0
  sppPathmaxrxt := 0
  sppPathmtu := 0
  sppSackdelay := 0
  sppFlags := 0
  sppIpv6Flowlabel := 0
  sppDscp := 0
  pad := 0

structure SctpAssocStats where
  sasAssocId : Int32
  sasObsRtoIpaddr : Octets 128
  sasMaxrto : UInt64
  sasIsacks : UInt64
  sasOsacks : UInt64
  sasOpackets : UInt64
  sasIpackets : UInt64
  sasRtxchunks : UInt64
  sasOutofseqtsns : UInt64
  sasIdupchunks : UInt64
  sasGapcnt : UInt64
  sasOuodchunks : UInt64
  sasIuodchunks : UInt64
  sasOodchunks : UInt64
  sasIodchunks : UInt64
  sasOctrlchunks : UInt64
  sasIctrlchunks : UInt64
  deriving DecidableEq

/-- The field `_pad`, which only 64-bit targets have. -/
def statsPad : PtrWidth → Nat
  | .w32 => 0
  | .w64 => 4

/-- The counters start at a multiple of the alignment of `u64`, which is 4 or 8 on a
    32-bit target. -/
def statsGap (w : PtrWidth) (alignU64 : Nat) : Nat :=
  (alignU64 - (4 + statsPad w + 128) % alignU64) % alignU64

def SctpAssocStats.codec (w : PtrWidth) (alignU64 : Nat) : Codec SctpAssocStats :=
  let counters := Codec.u64.seq (Codec.u64.seq (Codec.u64.seq (Codec.u64.seq (Codec.u64.seq
    (Codec.u64.seq (Codec.u64.seq (Codec.u64.seq (Codec.u64.seq (Codec.u64.seq (Codec.u64.seq
    (Codec.u64.seq (Codec.u64.seq (Codec.u64.seq Codec.u64)))))))))))))
  (Codec.i32.seq ((Codec.skip (statsPad w)).seq ((Codec.octets 128).seq
    ((Codec.skip (statsGap w alignU64)).seq counters)))).imap
    (fun (id, _, addr, _, a, b, c, d, e, f, g, h, i, j, k, l, m, n, o) =>
      ⟨id, addr, a, b, c, d, e, f, g, h, i, j, k, l, m, n, o⟩)
    (fun s => (s.sasAssocId, (), s.sasObsRtoIpaddr, (), s.sasMaxrto, s.sasIsacks, s.sasOsacks,
      s.sasOpackets, s.sasIpackets, s.sasRtxchunks, s.sasOutofseqtsns, s.sasIdupchunks,
      s.sasGapcnt, s.sasOuodchunks, s.sasIuodchunks, s.sasOodchunks, s.sasIodchunks,
      s.sasOctrlchunks, s.sasIctrlchunks))
    fun _ => rfl

def SctpAssocStats.query (assocId : Int32) : SctpAssocStats where
  sasAssocId := assocId
  sasObsRtoIpaddr := Octets.zeros 128
  sasMaxrto := 0
  sasIsacks := 0
  sasOsacks := 0
  sasOpackets := 0
  sasIpackets := 0
  sasRtxchunks := 0
  sasOutofseqtsns := 0
  sasIdupchunks := 0
  sasGapcnt := 0
  sasOuodchunks := 0
  sasIuodchunks := 0
  sasOodchunks := 0
  sasIodchunks := 0
  sasOctrlchunks := 0
  sasIctrlchunks := 0

structure SctpPeeloffFlagsArg where
  associd : Int32
  sd : Int32
  flags : UInt32
  deriving DecidableEq, Repr

def SctpPeeloffFlagsArg.codec : Codec SctpPeeloffFlagsArg :=
  (Codec.i32.seq (Codec.i32.seq Codec.u32)).imap
    (fun (a, b, c) => ⟨a, b, c⟩)
    (fun s => (s.associd, s.sd, s.flags))
    fun _ => rfl

/-- `libc::linger`. -/
structure Linger where
  lOnoff : Int32
  lLinger : Int32
  deriving DecidableEq, Repr

def Linger.codec : Codec Linger :=
  (Codec.i32.seq Codec.i32).imap (fun (a, b) => ⟨a, b⟩) (fun s => (s.lOnoff, s.lLinger)) fun _ => rfl

-- The sizes of the kernel ABI.
example : SctpInitmsg.codec.size = 8 ∧ SctpEvent.codec.size = 8 ∧ SctpRtoinfo.codec.size = 16 ∧
    SctpAssocparams.codec.size = 20 ∧ SctpSackInfo.codec.size = 12 ∧
    SctpPaddrinfo.codec.size = 152 ∧ SctpStatus.codec.size = 176 ∧ SctpPrim.codec.size = 132 ∧
    SctpPaddrparams.codec.size = 156 ∧ SctpPeeloffFlagsArg.codec.size = 12 ∧
    (SctpAssocStats.codec .w64 8).size = 256 ∧ (SctpAssocStats.codec .w32 4).size = 252 ∧
    (SctpAssocStats.codec .w32 8).size = 256 := by decide

end Sys

/-! ## Public types -/

inductive Family where
  | ipv4
  | ipv6
  deriving DecidableEq, Repr

inductive Style where
  | oneToOne
  | oneToMany
  deriving DecidableEq, Repr

/-- `std::net::Shutdown`. -/
inductive Shutdown where
  | read
  | write
  | both
  deriving DecidableEq, Repr

structure InitParams where
  numOstreams : UInt16
  maxInstreams : UInt16
  maxAttempts : UInt16
  maxInitTimeo : UInt16
  deriving DecidableEq, Repr

def InitParams.toSys (p : InitParams) : Sys.SctpInitmsg where
  sinitNumOstreams := p.numOstreams
  sinitMaxInstreams := p.maxInstreams
  sinitMaxAttempts := p.maxAttempts
  sinitMaxInitTimeo := p.maxInitTimeo

def InitParams.fromSys (raw : Sys.SctpInitmsg) : InitParams where
  numOstreams := raw.sinitNumOstreams
  maxInstreams := raw.sinitMaxInstreams
  maxAttempts := raw.sinitMaxAttempts
  maxInitTimeo := raw.sinitMaxInitTimeo

structure RtoInfo where
  initial : UInt32
  max : UInt32
  min : UInt32
  deriving DecidableEq, Repr

structure AssocInfo where
  asocmaxrxt : UInt16
  numberPeerDestinations : UInt16
  peerRwnd : UInt32
  localRwnd : UInt32
  cookieLife : UInt32
  deriving DecidableEq, Repr

structure SackInfo where
  delayMs : UInt32
  freq : UInt32
  deriving DecidableEq, Repr

structure AssocStats where
  assocId : AssocId
  retransmittedChunks : UInt64
  gapAcks : UInt64
  outOfSequenceTsns : UInt64
  sacksSent : UInt64
  sacksReceived : UInt64
  controlChunksSent : UInt64
  controlChunksReceived : UInt64
  orderedDataChunksSent : UInt64
  orderedDataChunksReceived : UInt64
  unorderedDataChunksSent : UInt64
  unorderedDataChunksReceived : UInt64
  duplicateChunksReceived : UInt64
  packetsSent : UInt64
  packetsReceived : UInt64
  maxRtoKernelTicks : UInt64
  maxRtoAddress : Option SocketAddr
  deriving DecidableEq

/-- `read_sockaddr(&bytes).map(|(a, _)| a)`. -/
def readAddress (e : Endian) (bytes : Bytes) : Res (Option SocketAddr) := do
  let read ← Addr.readSockaddr e bytes
  pure (read.map Prod.fst)

def AssocStats.fromSys (e : Endian) (raw : Sys.SctpAssocStats) : Res AssocStats := do
  let maxRtoAddress ← readAddress e raw.sasObsRtoIpaddr.val
  pure
    { assocId := ⟨raw.sasAssocId⟩
      retransmittedChunks := raw.sasRtxchunks
      gapAcks := raw.sasGapcnt
      outOfSequenceTsns := raw.sasOutofseqtsns
      sacksSent := raw.sasOsacks
      sacksReceived := raw.sasIsacks
      controlChunksSent := raw.sasOctrlchunks
      controlChunksReceived := raw.sasIctrlchunks
      orderedDataChunksSent := raw.sasOodchunks
      orderedDataChunksReceived := raw.sasIodchunks
      unorderedDataChunksSent := raw.sasOuodchunks
      unorderedDataChunksReceived := raw.sasIuodchunks
      duplicateChunksReceived := raw.sasIdupchunks
      packetsSent := raw.sasOpackets
      packetsReceived := raw.sasIpackets
      maxRtoKernelTicks := raw.sasMaxrto
      maxRtoAddress }

inductive AssocState where
  | empty
  | closed
  | cookieWait
  | cookieEchoed
  | established
  | shutdownPending
  | shutdownSent
  | shutdownReceived
  | shutdownAckSent
  | unknown (v : Int32)
  deriving DecidableEq, Repr

def AssocState.fromRaw (v : Int32) : AssocState :=
  if v = 0 then .empty
  else if v = 1 then .closed
  else if v = 2 then .cookieWait
  else if v = 3 then .cookieEchoed
  else if v = 4 then .established
  else if v = 5 then .shutdownPending
  else if v = 6 then .shutdownSent
  else if v = 7 then .shutdownReceived
  else if v = 8 then .shutdownAckSent
  else .unknown v

inductive PeerAddrState where
  | inactive
  | potentiallyFailed
  | active
  | unconfirmed
  | unknown (v : Int32)
  deriving DecidableEq, Repr

def PeerAddrState.fromRaw (v : Int32) : PeerAddrState :=
  if v = 0 then .inactive
  else if v = 1 then .potentiallyFailed
  else if v = 2 then .active
  else if v = 3 then .unconfirmed
  else .unknown v

structure PeerAddrInfo where
  assocId : AssocId
  address : Option SocketAddr
  state : PeerAddrState
  cwnd : UInt32
  srtt : UInt32
  rto : UInt32
  mtu : UInt32
  deriving DecidableEq

def PeerAddrInfo.fromSys (e : Endian) (raw : Sys.SctpPaddrinfo) : Res PeerAddrInfo := do
  let address ← readAddress e raw.spinfoAddress.val
  pure
    { assocId := ⟨raw.spinfoAssocId⟩
      address
      state := .fromRaw raw.spinfoState
      cwnd := raw.spinfoCwnd
      srtt := raw.spinfoSrtt
      rto := raw.spinfoRto
      mtu := raw.spinfoMtu }

structure PeerAddrParams where
  hbInterval : UInt32
  pathMaxRxt : UInt16
  pathMtu : UInt32
  sackDelay : UInt32
  /-- The bits of `SppFlags`. -/
  flags : UInt32
  ipv6Flowlabel : UInt32
  dscp : UInt8
  deriving DecidableEq, Repr

def PeerAddrParams.fromSys (raw : Sys.SctpPaddrparams) : PeerAddrParams where
  hbInterval := raw.sppHbinterval
  pathMaxRxt := raw.sppPathmaxrxt
  pathMtu := raw.sppPathmtu
  sackDelay := raw.sppSackdelay
  flags := raw.sppFlags
  ipv6Flowlabel := raw.sppIpv6Flowlabel
  dscp := raw.sppDscp

structure AssocStatus where
  assocId : AssocId
  state : AssocState
  rwnd : UInt32
  unackdata : UInt16
  penddata : UInt16
  instrms : UInt16
  outstrms : UInt16
  fragmentationPoint : UInt32
  primary : PeerAddrInfo
  deriving DecidableEq

def AssocStatus.fromSys (e : Endian) (raw : Sys.SctpStatus) : Res AssocStatus := do
  let primary ← PeerAddrInfo.fromSys e raw.sstatPrimary
  pure
    { assocId := ⟨raw.sstatAssocId⟩
      state := .fromRaw raw.sstatState
      rwnd := raw.sstatRwnd
      unackdata := raw.sstatUnackdata
      penddata := raw.sstatPenddata
      instrms := raw.sstatInstrms
      outstrms := raw.sstatOutstrms
      fragmentationPoint := raw.sstatFragmentationPoint
      primary }

end Lksctp
