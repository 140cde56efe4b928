-- SUMMARY: The socket options as the kernel's own headers declare them: their numbers and sizes, and the place of every field.
import Lksctp.Params
import Lksctp.Socket.Timeout

/-!
# The option ABI of the kernel

The other side of the option calls. Nothing here is taken from the constants and
structures of the crate: an option is known by a number, a field by its offset, and
what the kernel writes is spelled out field by field. Only the integers themselves
are those of `Codec`.

The places are those of `linux/sctp.h`, where most structures are packed. The one
that is not is `sctp_assoc_stats`: its storage is aligned like a pointer and its
counters like a `u64`. The numbers of `SOL_SOCKET` are those of most architectures.
-/

namespace Lksctp

namespace Uapi

open Rust Socket

/-! ## Options -/

inductive OptName where
  | rtoinfo
  | associnfo
  | initmsg
  | nodelay
  | autoclose
  | primaryAddr
  | peerAddrParams
  | status
  | peerAddrInfo
  | delayedSack
  | reusePort
  | assocStats
  | event
  | soReuseaddr
  | soType
  | soError
  | soSndbuf
  | soRcvbuf
  | soLinger
  | soRcvtimeo
  | soSndtimeo
  | soAcceptconn
  deriving DecidableEq, Repr

/-- The multiple of `align` that is next to `n`. -/
def roundUp (n align : Nat) : Nat := n + (align - n % align) % align

/-- Where `sctp_assoc_stats` has its `sockaddr_storage`. -/
def statsAddress (w : PtrWidth) : Nat := roundUp 4 w.bytes

/-- Where `sctp_assoc_stats` has its counters. -/
def statsCounters (w : PtrWidth) (alignU64 : Nat) : Nat := roundUp (statsAddress w + 128) alignU64

namespace OptName

/-- The level and the number. -/
def number : OptName → Int32 × Int32
  | rtoinfo => (132, 0)
  | associnfo => (132, 1)
  | initmsg => (132, 2)
  | nodelay => (132, 3)
  | autoclose => (132, 4)
  | primaryAddr => (132, 6)
  | peerAddrParams => (132, 9)
  | status => (132, 14)
  | peerAddrInfo => (132, 15)
  | delayedSack => (132, 16)
  | reusePort => (132, 36)
  | assocStats => (132, 112)
  | event => (132, 127)
  | soReuseaddr => (1, 2)
  | soType => (1, 3)
  | soError => (1, 4)
  | soSndbuf => (1, 7)
  | soRcvbuf => (1, 8)
  | soLinger => (1, 13)
  | soRcvtimeo => (1, 20)
  | soSndtimeo => (1, 21)
  | soAcceptconn => (1, 30)

def all : List OptName :=
  [rtoinfo, associnfo, initmsg, nodelay, autoclose, primaryAddr, peerAddrParams, status,
    peerAddrInfo, delayedSack, reusePort, assocStats, event, soReuseaddr, soType, soError, soSndbuf,
    soRcvbuf, soLinger, soRcvtimeo, soSndtimeo, soAcceptconn]

def ofNumber (level opt : Int32) : Option OptName := all.find? fun n => n.number = (level, opt)

/-- No two options have the same number. -/
theorem ofNumber_number (n : OptName) : ofNumber n.number.1 n.number.2 = some n := by
  cases n <;> decide

/-- The size of the structure; `time` is the width of the integers of a `timeval`. -/
def size (w : PtrWidth) (alignU64 : Nat) (time : CWidth) : OptName → Nat
  | initmsg | event | soLinger => 8
  | delayedSack => 12
  | rtoinfo => 16
  | associnfo => 20
  | primaryAddr => 132
  | peerAddrInfo => 152
  | peerAddrParams => 156
  | status => 176
  | assocStats => statsCounters w alignU64 + 15 * 8
  | soRcvtimeo | soSndtimeo => 2 * (time.bits / 8)
  | nodelay | autoclose | reusePort | soReuseaddr | soType | soError | soSndbuf | soRcvbuf
  | soAcceptconn => 4

end OptName

/-! ## Enumerations -/

/-- `enum sctp_sn_type`. -/
def events : List (UInt16 × EventType) :=
  [(0x8001, .assocChange), (0x8002, .peerAddrChange), (0x8003, .sendFailed), (0x8004, .remoteError),
    (0x8005, .shutdown), (0x8006, .partialDelivery), (0x8007, .adaptationIndication),
    (0x8008, .authentication), (0x8009, .senderDry), (0x800a, .streamReset), (0x800b, .assocReset),
    (0x800c, .streamChange), (0x800d, .sendFailedEvent)]

/-- `enum sctp_sstat_state`. -/
def assocStates : List (Int32 × AssocState) :=
  [(0, .empty), (1, .closed), (2, .cookieWait), (3, .cookieEchoed), (4, .established),
    (5, .shutdownPending), (6, .shutdownSent), (7, .shutdownReceived), (8, .shutdownAckSent)]

/-- `enum sctp_spinfo_state`. -/
def pathStates : List (Int32 × PeerAddrState) :=
  [(0, .inactive), (1, .potentiallyFailed), (2, .active), (3, .unconfirmed)]

/-- The socket types that SCTP has. -/
def styles : List (Int32 × Style) := [(1, .oneToOne), (5, .oneToMany)]

theorem lookup_toRaw (event : EventType) : events.lookup event.toRaw = some event := by
  cases event <;> decide

theorem getD_lookup_cons {α β : Type} [DecidableEq α] (a k : α) (b d : β) (es : List (α × β)) :
    (((k, b) :: es).lookup a).getD d = if a = k then b else (es.lookup a).getD d := by
  by_cases h : a = k
  · simp [h]
  · simp [List.lookup_cons, beq_false_of_ne h, h]

theorem assocState_eq (state : Int32) :
    (assocStates.lookup state).getD (.unknown state) = .fromRaw state := by
  simp only [assocStates, getD_lookup_cons]
  rfl

theorem pathState_eq (state : Int32) :
    (pathStates.lookup state).getD (.unknown state) = .fromRaw state := by
  simp only [pathStates, getD_lookup_cons]
  rfl

/-! ## Addresses -/

/-- The address in a `sockaddr_storage`, unless its family is another than those of IP. -/
def sockaddr (e : Endian) (bs : Bytes) : Option SocketAddr :=
  let family := Codec.u16.field e bs 0
  let port := Codec.u16.field .big bs 2
  if family = 2 then some (.v4 ((Codec.octets 4).field e bs 4) port)
  else if family = 10 then
    some (.v6 ((Codec.octets 16).field e bs 8) port (Codec.u32.field e bs 4) (Codec.u32.field e bs 24))
  else none

/-- The 128 bytes of a `sockaddr_storage`, which are zero when there is no address. -/
def storage (e : Endian) : Option SocketAddr → Bytes
  | none => zeros 128
  | some (.v4 ip port) =>
    Codec.u16.put e 2 ++ (Codec.u16.put .big port ++ ((Codec.octets 4).put e ip ++ zeros 120))
  | some (.v6 ip port flowinfo scopeId) =>
    Codec.u16.put e 10 ++ (Codec.u16.put .big port ++ (Codec.u32.put e flowinfo ++
      ((Codec.octets 16).put e ip ++ (Codec.u32.put e scopeId ++ zeros 100))))

/-- It is the storage that the crate writes. -/
theorem storage_eq (e : Endian) (addr : Option SocketAddr) : storage e addr = Addr.storage e addr := by
  cases addr with
  | none => rfl
  | some addr =>
    cases addr with
    | v4 ip port =>
      have hzeros : zeros 120 = zeros 8 ++ zeros 112 := rfl
      rw [storage, hzeros, Addr.storage, SocketAddr.layout]
      simp only [List.append_assoc]
      rfl
    | v6 ip port flowinfo scopeId =>
      rw [storage, Addr.storage, SocketAddr.layout]
      simp only [List.append_assoc]
      rfl

/-- An address is found in its storage, whatever follows it. -/
theorem sockaddr_storage (e : Endian) (addr : Option SocketAddr) (post : Bytes) :
    sockaddr e (storage e addr ++ post) = addr := by
  cases addr with
  | none =>
    have hfamily : Codec.u16.field e (storage e none ++ post) 0 = 0 := by
      cases e <;> rfl
    simp [sockaddr, hfamily]
  | some addr =>
    cases addr with
    | v4 ip port => simp [sockaddr, storage, Codec.field_skip]
    | v6 ip port flowinfo scopeId => simp [sockaddr, storage, Codec.field_skip]

/-! ## Answers -/

/-- `struct sctp_paddrinfo`: what the kernel knows of a path. -/
structure PathInfo where
  assocId : Int32
  address : Option SocketAddr
  state : Int32
  cwnd : UInt32
  srtt : UInt32
  rto : UInt32
  mtu : UInt32

def PathInfo.bytes (e : Endian) (p : PathInfo) : Bytes :=
  Codec.i32.put e p.assocId ++ (storage e p.address ++ (Codec.i32.put e p.state ++
    (Codec.u32.put e p.cwnd ++ (Codec.u32.put e p.srtt ++ (Codec.u32.put e p.rto ++
      Codec.u32.put e p.mtu)))))

/-- `struct sctp_status`. -/
structure StatusInfo where
  assocId : Int32
  state : Int32
  rwnd : UInt32
  unackdata : UInt16
  penddata : UInt16
  instrms : UInt16
  outstrms : UInt16
  fragmentationPoint : UInt32
  primary : PathInfo

def StatusInfo.bytes (e : Endian) (s : StatusInfo) : Bytes :=
  Codec.i32.put e s.assocId ++ (Codec.i32.put e s.state ++ (Codec.u32.put e s.rwnd ++
    (Codec.u16.put e s.unackdata ++ (Codec.u16.put e s.penddata ++ (Codec.u16.put e s.instrms ++
      (Codec.u16.put e s.outstrms ++ (Codec.u32.put e s.fragmentationPoint ++
        s.primary.bytes e)))))))

/-- `struct timeval`. -/
structure Timeval (time : CWidth) where
  sec : BitVec time.bits
  usec : BitVec time.bits

def Timeval.bytes {time : CWidth} (e : Endian) (tv : Timeval time) : Bytes :=
  time.codec.put e tv.sec ++ time.codec.put e tv.usec

/-- `struct sctp_assoc_stats` of these statistics, in the order of the kernel. -/
def statsBytes (w : PtrWidth) (alignU64 : Nat) (e : Endian) (s : AssocStats) : Bytes :=
  Codec.i32.put e s.assocId.val ++ (zeros (statsAddress w - 4) ++ (storage e s.maxRtoAddress ++
    (zeros (statsCounters w alignU64 - (statsAddress w + 128)) ++
      (Codec.u64.put e s.maxRtoKernelTicks ++ (Codec.u64.put e s.sacksReceived ++
        (Codec.u64.put e s.sacksSent ++ (Codec.u64.put e s.packetsSent ++
          (Codec.u64.put e s.packetsReceived ++ (Codec.u64.put e s.retransmittedChunks ++
            (Codec.u64.put e s.outOfSequenceTsns ++ (Codec.u64.put e s.duplicateChunksReceived ++
              (Codec.u64.put e s.gapAcks ++ (Codec.u64.put e s.unorderedDataChunksSent ++
                (Codec.u64.put e s.unorderedDataChunksReceived ++
                  (Codec.u64.put e s.orderedDataChunksSent ++
                    (Codec.u64.put e s.orderedDataChunksReceived ++
                      (Codec.u64.put e s.controlChunksSent ++
                        Codec.u64.put e s.controlChunksReceived)))))))))))))))))

end Uapi

end Lksctp
