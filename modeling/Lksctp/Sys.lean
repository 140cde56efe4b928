-- SUMMARY: Constants and `#[repr(C)]` structures of the kernel ABI that the modelled code uses.
import Lksctp.Rust.Slice

/-!
# The kernel ABI

The part of `sys.rs` that the socket code reads. A structure that crosses the
system-call boundary comes with its `repr(C)` layout as bytes, in the byte order
of the host; `sctp_rcvinfo` has two padding bytes after `rcv_flags`, whose
content the kernel leaves open.
-/

namespace Lksctp

open Rust

/-- What the code is compiled for. -/
structure Target where
  endian : Endian
  ptr : PtrWidth
  deriving DecidableEq, Repr

namespace Sys

def ipprotoSctp : Int32 := 132

def solSctp : Int32 := 132

def afInet : UInt16 := 2
def afInet6 : UInt16 := 10

def sctpFutureAssoc : Int32 := 0

def sctpSockoptBindxAdd : Int32 := 100
def sctpSockoptBindxRem : Int32 := 101
def sctpSockoptConnectx3 : Int32 := 111

/-- `O_NONBLOCK` of `fcntl(2)`, with the value of most architectures. -/
def oNonblock : Int32 := 0x800

-- enum sctp_cmsg_type
def sctpCmsgSndinfo : Int32 := 2
def sctpCmsgRcvinfo : Int32 := 3

/-- `msg_flags` bit marking a notification. -/
def msgNotification : Int32 := 0x8000
/-- `msg_flags` bit set when a complete message was delivered. -/
def msgEor : Int32 := 0x80

-- enum sctp_sn_type
def sctpAssocChange : UInt16 := 0x8001
def sctpPeerAddrChange : UInt16 := 0x8002
def sctpSendFailed : UInt16 := 0x8003
def sctpRemoteError : UInt16 := 0x8004
def sctpShutdownEvent : UInt16 := 0x8005
def sctpPartialDeliveryEvent : UInt16 := 0x8006
def sctpAdaptationIndication : UInt16 := 0x8007
def sctpAuthenticationEvent : UInt16 := 0x8008
def sctpSenderDryEvent : UInt16 := 0x8009
def sctpStreamResetEvent : UInt16 := 0x800a
def sctpAssocResetEvent : UInt16 := 0x800b
def sctpStreamChangeEvent : UInt16 := 0x800c
def sctpSendFailedEvent : UInt16 := 0x800d

-- enum sctp_sac_state
def sctpCommUp : UInt16 := 0
def sctpCommLost : UInt16 := 1
def sctpRestart : UInt16 := 2
def sctpShutdownComp : UInt16 := 3
def sctpCantStrAssoc : UInt16 := 4

-- enum sctp_spc_state
def sctpAddrAvailable : Int32 := 0
def sctpAddrUnreachable : Int32 := 1
def sctpAddrRemoved : Int32 := 2
def sctpAddrAdded : Int32 := 3
def sctpAddrMadePrim : Int32 := 4
def sctpAddrConfirmed : Int32 := 5
def sctpAddrPotentiallyFailed : Int32 := 6

-- enum sctp_ssf_flags
def sctpDataUnsent : UInt16 := 0

/-! ## sctp_sndinfo -/

structure SctpSndinfo where
  sndSid : UInt16
  sndFlags : UInt16
  sndPpid : UInt32
  sndContext : UInt32
  sndAssocId : Int32
  deriving DecidableEq, Repr

def SctpSndinfo.toBytes (e : Endian) (s : SctpSndinfo) : Bytes :=
  e.putU16 s.sndSid ++ (e.putU16 s.sndFlags ++ (e.putU32 s.sndPpid ++
    (e.putU32 s.sndContext ++ e.putI32 s.sndAssocId)))

def SctpSndinfo.size : Nat := 16

@[simp] theorem SctpSndinfo.length_toBytes (e : Endian) (s : SctpSndinfo) :
    (s.toBytes e).length = SctpSndinfo.size := by
  simp [toBytes, size]

/-! ## sctp_sndrcvinfo -/

structure SctpSndrcvinfo where
  sinfoStream : UInt16
  sinfoSsn : UInt16
  sinfoFlags : UInt16
  sinfoPpid : UInt32
  sinfoContext : UInt32
  sinfoTimetolive : UInt32
  sinfoTsn : UInt32
  sinfoCumtsn : UInt32
  sinfoAssocId : Int32
  deriving DecidableEq, Repr

/-- The structure as the kernel writes it; `pad` is the hole before `sinfo_ppid`. -/
def SctpSndrcvinfo.toBytes (e : Endian) (pad : Octets 2) (s : SctpSndrcvinfo) : Bytes :=
  e.putU16 s.sinfoStream ++ (e.putU16 s.sinfoSsn ++ (e.putU16 s.sinfoFlags ++ (pad.val ++
    (e.putU32 s.sinfoPpid ++ (e.putU32 s.sinfoContext ++ (e.putU32 s.sinfoTimetolive ++
      (e.putU32 s.sinfoTsn ++ (e.putU32 s.sinfoCumtsn ++ e.putI32 s.sinfoAssocId))))))))

/-! ## sctp_rcvinfo -/

structure SctpRcvinfo where
  rcvSid : UInt16
  rcvSsn : UInt16
  rcvFlags : UInt16
  rcvPpid : UInt32
  rcvTsn : UInt32
  rcvCumtsn : UInt32
  rcvContext : UInt32
  rcvAssocId : Int32
  deriving DecidableEq, Repr

def SctpRcvinfo.size : Nat := 28

/-- The structure as the kernel writes it; `pad` is the hole before `rcv_ppid`. -/
def SctpRcvinfo.toBytes (e : Endian) (pad : Octets 2) (s : SctpRcvinfo) : Bytes :=
  e.putU16 s.rcvSid ++ (e.putU16 s.rcvSsn ++ (e.putU16 s.rcvFlags ++ (pad.val ++
    (e.putU32 s.rcvPpid ++ (e.putU32 s.rcvTsn ++ (e.putU32 s.rcvCumtsn ++
      (e.putU32 s.rcvContext ++ e.putI32 s.rcvAssocId)))))))

/-- `ptr::read_unaligned` of an `sctp_rcvinfo` at the start of `data`. -/
def SctpRcvinfo.read (e : Endian) (data : Bytes) : Res SctpRcvinfo := do
  let sid ← slice data 0 2
  let ssn ← slice data 2 4
  let flags ← slice data 4 6
  let ppid ← slice data 8 12
  let tsn ← slice data 12 16
  let cumtsn ← slice data 16 20
  let context ← slice data 20 24
  let assocId ← slice data 24 28
  pure
    { rcvSid := e.getU16 sid
      rcvSsn := e.getU16 ssn
      rcvFlags := e.getU16 flags
      rcvPpid := e.getU32 ppid
      rcvTsn := e.getU32 tsn
      rcvCumtsn := e.getU32 cumtsn
      rcvContext := e.getU32 context
      rcvAssocId := e.getI32 assocId }

@[simp] theorem SctpRcvinfo.length_toBytes (e : Endian) (pad : Octets 2) (s : SctpRcvinfo) :
    (s.toBytes e pad).length = SctpRcvinfo.size := by
  simp [toBytes, size, pad.property]

/-- The kernel's structure is read back field by field, whatever the padding
    and whatever follows it. -/
theorem SctpRcvinfo.read_toBytes (e : Endian) (pad : Octets 2) (s : SctpRcvinfo) (post : Bytes) :
    SctpRcvinfo.read e (s.toBytes e pad ++ post) = .ok s := by
  simp [toBytes, SctpRcvinfo.read, slice_skip, slice_head, pad.property]

end Sys

end Lksctp
