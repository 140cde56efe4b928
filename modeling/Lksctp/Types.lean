-- SUMMARY: Identifiers, per-message metadata and event classes of the public API, with their conversions to the kernel's structures.
import Lksctp.Sys

/-!
# Public types

The types of `types.rs` that the data path uses. A `Ppid` is held in host order;
the kernel passes its four bytes through verbatim, so `toWire` and `fromWire` sit
at the system-call boundary.
-/

namespace Lksctp

open Rust

structure AssocId where
  val : Int32
  deriving DecidableEq, Repr

def AssocId.future : AssocId := ⟨Sys.sctpFutureAssoc⟩

structure Ppid where
  val : UInt32
  deriving DecidableEq, Repr

/-- The value stored in `snd_ppid`: `u32::to_be`. -/
def Ppid.toWire (e : Endian) (p : Ppid) : UInt32 := e.toBe32 p.val

/-- Converts from the value found in `rcv_ppid`: `u32::from_be`. -/
def Ppid.fromWire (e : Endian) (v : UInt32) : Ppid := ⟨e.fromBe32 v⟩

/-! ## Send and receive metadata -/

structure SendFlags where
  bits : UInt16
  deriving DecidableEq, Repr

structure SendInfo where
  sid : UInt16
  ppid : Ppid
  flags : SendFlags
  context : UInt32
  assocId : AssocId
  deriving DecidableEq, Repr

def SendInfo.toSys (e : Endian) (i : SendInfo) : Sys.SctpSndinfo where
  sndSid := i.sid
  sndFlags := i.flags.bits
  sndPpid := i.ppid.toWire e
  sndContext := i.context
  sndAssocId := i.assocId.val

structure RcvFlags where
  bits : UInt16
  deriving DecidableEq, Repr

structure RcvInfo where
  sid : UInt16
  ssn : UInt16
  flags : RcvFlags
  ppid : Ppid
  tsn : UInt32
  cumtsn : UInt32
  context : UInt32
  assocId : AssocId
  deriving DecidableEq, Repr

def RcvInfo.fromSys (e : Endian) (raw : Sys.SctpRcvinfo) : RcvInfo where
  sid := raw.rcvSid
  ssn := raw.rcvSsn
  flags := ⟨raw.rcvFlags⟩
  ppid := Ppid.fromWire e raw.rcvPpid
  tsn := raw.rcvTsn
  cumtsn := raw.rcvCumtsn
  context := raw.rcvContext
  assocId := ⟨raw.rcvAssocId⟩

/-! ## Event classes -/

inductive EventType where
  | assocChange
  | peerAddrChange
  | sendFailed
  | remoteError
  | shutdown
  | partialDelivery
  | adaptationIndication
  | authentication
  | senderDry
  | streamReset
  | assocReset
  | streamChange
  | sendFailedEvent
  deriving DecidableEq, Repr

def EventType.toRaw : EventType → UInt16
  | .assocChange => Sys.sctpAssocChange
  | .peerAddrChange => Sys.sctpPeerAddrChange
  | .sendFailed => Sys.sctpSendFailed
  | .remoteError => Sys.sctpRemoteError
  | .shutdown => Sys.sctpShutdownEvent
  | .partialDelivery => Sys.sctpPartialDeliveryEvent
  | .adaptationIndication => Sys.sctpAdaptationIndication
  | .authentication => Sys.sctpAuthenticationEvent
  | .senderDry => Sys.sctpSenderDryEvent
  | .streamReset => Sys.sctpStreamResetEvent
  | .assocReset => Sys.sctpAssocResetEvent
  | .streamChange => Sys.sctpStreamChangeEvent
  | .sendFailedEvent => Sys.sctpSendFailedEvent

end Lksctp
