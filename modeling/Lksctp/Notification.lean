-- SUMMARY: SCTP notifications: the parsed types and the parser over explicit byte offsets.
import Lksctp.Types
import Lksctp.AddrList

/-!
# Notifications

The kernel delivers a notification through the receive path as one of the structs
of `union sctp_notification`. `parse` reads the fields of the struct that the
type word selects at explicit offsets, in the byte order of the host.
-/

namespace Lksctp

open Rust

inductive AssocChangeState where
  | commUp
  | commLost
  | restart
  | shutdownComplete
  | cantStartAssoc
  | unknown (code : UInt16)
  deriving DecidableEq, Repr

def AssocChangeState.fromRaw (v : UInt16) : AssocChangeState :=
  if v = Sys.sctpCommUp then .commUp
  else if v = Sys.sctpCommLost then .commLost
  else if v = Sys.sctpRestart then .restart
  else if v = Sys.sctpShutdownComp then .shutdownComplete
  else if v = Sys.sctpCantStrAssoc then .cantStartAssoc
  else .unknown v

structure AssocChange where
  state : AssocChangeState
  error : UInt16
  outboundStreams : UInt16
  inboundStreams : UInt16
  assocId : AssocId
  info : Bytes
  deriving DecidableEq, Repr

inductive PeerAddrChangeState where
  | available
  | unreachable
  | removed
  | added
  | madePrimary
  | confirmed
  | potentiallyFailed
  | unknown (code : Int32)
  deriving DecidableEq, Repr

def PeerAddrChangeState.fromRaw (v : Int32) : PeerAddrChangeState :=
  if v = Sys.sctpAddrAvailable then .available
  else if v = Sys.sctpAddrUnreachable then .unreachable
  else if v = Sys.sctpAddrRemoved then .removed
  else if v = Sys.sctpAddrAdded then .added
  else if v = Sys.sctpAddrMadePrim then .madePrimary
  else if v = Sys.sctpAddrConfirmed then .confirmed
  else if v = Sys.sctpAddrPotentiallyFailed then .potentiallyFailed
  else .unknown v

structure PeerAddrChange where
  address : Option SocketAddr
  state : PeerAddrChangeState
  error : Int32
  assocId : AssocId
  deriving DecidableEq

structure RemoteError where
  error : UInt16
  assocId : AssocId
  data : Bytes
  deriving DecidableEq, Repr

/-- Both the legacy `SCTP_SEND_FAILED` and `SCTP_SEND_FAILED_EVENT`. -/
structure SendFailed where
  unsent : Bool
  error : UInt32
  sid : UInt16
  ppid : Ppid
  context : UInt32
  assocId : AssocId
  payload : Bytes
  deriving DecidableEq, Repr

structure ShutdownEvent where
  assocId : AssocId
  deriving DecidableEq, Repr

structure PartialDeliveryEvent where
  indication : UInt32
  assocId : AssocId
  stream : UInt32
  seq : UInt32
  deriving DecidableEq, Repr

structure AdaptationIndication where
  indication : UInt32
  assocId : AssocId
  deriving DecidableEq, Repr

structure AuthenticationEvent where
  keyNumber : UInt16
  altKeyNumber : UInt16
  indication : UInt32
  assocId : AssocId
  deriving DecidableEq, Repr

structure SenderDryEvent where
  assocId : AssocId
  deriving DecidableEq, Repr

structure StreamResetEvent where
  flags : UInt16
  assocId : AssocId
  streams : List UInt16
  deriving DecidableEq, Repr

structure AssocResetEvent where
  flags : UInt16
  assocId : AssocId
  localTsn : UInt32
  remoteTsn : UInt32
  deriving DecidableEq, Repr

structure StreamChangeEvent where
  flags : UInt16
  assocId : AssocId
  instrms : UInt16
  outstrms : UInt16
  deriving DecidableEq, Repr

structure RawNotification where
  snType : UInt16
  snFlags : UInt16
  data : Bytes
  deriving DecidableEq, Repr

inductive Notification where
  | assocChange (n : AssocChange)
  | peerAddrChange (n : PeerAddrChange)
  | remoteError (n : RemoteError)
  | sendFailed (n : SendFailed)
  | shutdown (n : ShutdownEvent)
  | partialDelivery (n : PartialDeliveryEvent)
  | adaptationIndication (n : AdaptationIndication)
  | authentication (n : AuthenticationEvent)
  | senderDry (n : SenderDryEvent)
  | streamReset (n : StreamResetEvent)
  | assocReset (n : AssocResetEvent)
  | streamChange (n : StreamChangeEvent)
  | unknown (n : RawNotification)
  deriving DecidableEq

namespace Notification

/-! ## Reading at an offset -/

def err (msg : String) : IoError := .custom .invalidData ("sctp notification: " ++ msg)

def u16At (e : Endian) (buf : Bytes) (off : Nat) : Res UInt16 :=
  Res.okOr ((getRange buf off (off + 2)).map e.getU16) (err "truncated")

def u32At (e : Endian) (buf : Bytes) (off : Nat) : Res UInt32 :=
  Res.okOr ((getRange buf off (off + 4)).map e.getU32) (err "truncated")

def i32At (e : Endian) (buf : Bytes) (off : Nat) : Res Int32 := do
  pure (← u32At e buf off).toInt32

def assocAt (e : Endian) (buf : Bytes) (off : Nat) : Res AssocId := do
  pure ⟨← i32At e buf off⟩

/-- `buf.get(off..).unwrap_or(&[]).to_vec()`. -/
def tail (buf : Bytes) (off : Nat) : Bytes := (getRange buf off buf.length).getD []

/-! ## One parser per struct -/

def parseAssocChange (e : Endian) (buf : Bytes) : Res Notification := do
  let state := AssocChangeState.fromRaw (← u16At e buf 8)
  let error ← u16At e buf 10
  let outboundStreams ← u16At e buf 12
  let inboundStreams ← u16At e buf 14
  let assocId ← assocAt e buf 16
  let info := tail buf 20
  pure (.assocChange { state, error, outboundStreams, inboundStreams, assocId, info })

/-- `struct sctp_paddr_change` is packed: the address at 8, the state at 136. -/
def parsePeerAddrChange (e : Endian) (buf : Bytes) : Res Notification := do
  let addrBytes ← Res.okOr (getRange buf 8 136) (err "truncated paddr_change")
  let address := (← Addr.readSockaddr e addrBytes).map Prod.fst
  let state := PeerAddrChangeState.fromRaw (← i32At e buf 136)
  let error ← i32At e buf 140
  let assocId ← assocAt e buf 144
  pure (.peerAddrChange { address, state, error, assocId })

/-- `sre_error` is in network order. -/
def parseRemoteError (e : Endian) (buf : Bytes) : Res Notification := do
  let error := e.fromBe16 (← u16At e buf 8)
  let assocId ← assocAt e buf 12
  let data := tail buf 16
  pure (.remoteError { error, assocId, data })

/-- Legacy layout: `ssf_info` is a 32-byte `sctp_sndrcvinfo` at 12. -/
def parseSendFailed (e : Endian) (snFlags : UInt16) (buf : Bytes) : Res Notification := do
  let unsent := snFlags == Sys.sctpDataUnsent
  let error ← u32At e buf 8
  let sid ← u16At e buf 12
  let ppid := Ppid.fromWire e (← u32At e buf 20)
  let context ← u32At e buf 24
  let assocId ← assocAt e buf 44
  let payload := tail buf 48
  pure (.sendFailed { unsent, error, sid, ppid, context, assocId, payload })

/-- New layout: `ssfe_info` is a 16-byte `sctp_sndinfo` at 12. -/
def parseSendFailedEvent (e : Endian) (snFlags : UInt16) (buf : Bytes) : Res Notification := do
  let unsent := snFlags == Sys.sctpDataUnsent
  let error ← u32At e buf 8
  let sid ← u16At e buf 12
  let ppid := Ppid.fromWire e (← u32At e buf 16)
  let context ← u32At e buf 20
  let assocId ← assocAt e buf 28
  let payload := tail buf 32
  pure (.sendFailed { unsent, error, sid, ppid, context, assocId, payload })

def parseShutdown (e : Endian) (buf : Bytes) : Res Notification := do
  pure (.shutdown { assocId := ← assocAt e buf 8 })

def parsePartialDelivery (e : Endian) (buf : Bytes) : Res Notification := do
  let indication ← u32At e buf 8
  let assocId ← assocAt e buf 12
  let stream ← u32At e buf 16
  let seq ← u32At e buf 20
  pure (.partialDelivery { indication, assocId, stream, seq })

def parseAdaptationIndication (e : Endian) (buf : Bytes) : Res Notification := do
  let indication ← u32At e buf 8
  let assocId ← assocAt e buf 12
  pure (.adaptationIndication { indication, assocId })

def parseAuthentication (e : Endian) (buf : Bytes) : Res Notification := do
  let keyNumber ← u16At e buf 8
  let altKeyNumber ← u16At e buf 10
  let indication ← u32At e buf 12
  let assocId ← assocAt e buf 16
  pure (.authentication { keyNumber, altKeyNumber, indication, assocId })

def parseSenderDry (e : Endian) (buf : Bytes) : Res Notification := do
  pure (.senderDry { assocId := ← assocAt e buf 8 })

/-- The loop over the stream list: pushing each id is consing it onto the ids
    of the later rounds. -/
def resetStreams (e : Endian) (buf : Bytes) (off : Nat) : Res (List UInt16) :=
  if off + 2 ≤ buf.length then do
    let stream ← u16At e buf off
    let streams ← resetStreams e buf (off + 2)
    pure (stream :: streams)
  else pure []
termination_by buf.length - off

def parseStreamReset (e : Endian) (snFlags : UInt16) (buf : Bytes) : Res Notification := do
  let streams ← resetStreams e buf 12
  let assocId ← assocAt e buf 8
  pure (.streamReset { flags := snFlags, assocId, streams })

def parseAssocReset (e : Endian) (snFlags : UInt16) (buf : Bytes) : Res Notification := do
  let assocId ← assocAt e buf 8
  let localTsn ← u32At e buf 12
  let remoteTsn ← u32At e buf 16
  pure (.assocReset { flags := snFlags, assocId, localTsn, remoteTsn })

def parseStreamChange (e : Endian) (snFlags : UInt16) (buf : Bytes) : Res Notification := do
  let assocId ← assocAt e buf 8
  let instrms ← u16At e buf 12
  let outstrms ← u16At e buf 14
  pure (.streamChange { flags := snFlags, assocId, instrms, outstrms })

/-- The `match` on the notification type. -/
def parseBody (e : Endian) (snType snFlags : UInt16) (buf : Bytes) : Res Notification :=
  if snType = Sys.sctpAssocChange then parseAssocChange e buf
  else if snType = Sys.sctpPeerAddrChange then parsePeerAddrChange e buf
  else if snType = Sys.sctpRemoteError then parseRemoteError e buf
  else if snType = Sys.sctpSendFailed then parseSendFailed e snFlags buf
  else if snType = Sys.sctpSendFailedEvent then parseSendFailedEvent e snFlags buf
  else if snType = Sys.sctpShutdownEvent then parseShutdown e buf
  else if snType = Sys.sctpPartialDeliveryEvent then parsePartialDelivery e buf
  else if snType = Sys.sctpAdaptationIndication then parseAdaptationIndication e buf
  else if snType = Sys.sctpAuthenticationEvent then parseAuthentication e buf
  else if snType = Sys.sctpSenderDryEvent then parseSenderDry e buf
  else if snType = Sys.sctpStreamResetEvent then parseStreamReset e snFlags buf
  else if snType = Sys.sctpAssocResetEvent then parseAssocReset e snFlags buf
  else if snType = Sys.sctpStreamChangeEvent then parseStreamChange e snFlags buf
  else pure (.unknown { snType, snFlags, data := buf })

/-- Parses one complete notification. `sn_length` is not looked at: the extent of
    `buf` is authoritative. -/
def parse (e : Endian) (buf : Bytes) : Res Notification := do
  let snType ← u16At e buf 0
  let snFlags ← u16At e buf 2
  parseBody e snType snFlags buf

/-! ## Reading a buffer given as a concatenation -/

@[simp] theorem u16At_skip {e : Endian} {pre rest : Bytes} {off : Nat} (h : pre.length ≤ off) :
    u16At e (pre ++ rest) off = u16At e rest (off - pre.length) := by
  simp only [u16At, getRange_skip (Nat.le_add_right off 2) h, Nat.sub_add_comm h]

@[simp] theorem u32At_skip {e : Endian} {pre rest : Bytes} {off : Nat} (h : pre.length ≤ off) :
    u32At e (pre ++ rest) off = u32At e rest (off - pre.length) := by
  simp only [u32At, getRange_skip (Nat.le_add_right off 4) h, Nat.sub_add_comm h]

@[simp] theorem u16At_head {e : Endian} {mid post : Bytes} (h : mid.length = 2) :
    u16At e (mid ++ post) 0 = .ok (e.getU16 mid) := by
  simp [u16At, getRange_head h]

@[simp] theorem u32At_head {e : Endian} {mid post : Bytes} (h : mid.length = 4) :
    u32At e (mid ++ post) 0 = .ok (e.getU32 mid) := by
  simp [u32At, getRange_head h]

@[simp] theorem u16At_all {e : Endian} {mid : Bytes} (h : mid.length = 2) :
    u16At e mid 0 = .ok (e.getU16 mid) := by
  simp [u16At, getRange_all h]

@[simp] theorem u32At_all {e : Endian} {mid : Bytes} (h : mid.length = 4) :
    u32At e mid 0 = .ok (e.getU32 mid) := by
  simp [u32At, getRange_all h]

@[simp] theorem i32At_skip {e : Endian} {pre rest : Bytes} {off : Nat} (h : pre.length ≤ off) :
    i32At e (pre ++ rest) off = i32At e rest (off - pre.length) := by
  simp only [i32At, u32At_skip h]

@[simp] theorem i32At_head {e : Endian} {mid post : Bytes} (h : mid.length = 4) :
    i32At e (mid ++ post) 0 = .ok (e.getI32 mid) := by
  simp [i32At, u32At_head h, Endian.getI32]

@[simp] theorem i32At_all {e : Endian} {mid : Bytes} (h : mid.length = 4) :
    i32At e mid 0 = .ok (e.getI32 mid) := by
  simp [i32At, u32At_all h, Endian.getI32]

@[simp] theorem assocAt_skip {e : Endian} {pre rest : Bytes} {off : Nat} (h : pre.length ≤ off) :
    assocAt e (pre ++ rest) off = assocAt e rest (off - pre.length) := by
  simp only [assocAt, i32At_skip h]

@[simp] theorem assocAt_head {e : Endian} {mid post : Bytes} (h : mid.length = 4) :
    assocAt e (mid ++ post) 0 = .ok ⟨e.getI32 mid⟩ := by
  simp [assocAt, i32At_head h]

@[simp] theorem assocAt_all {e : Endian} {mid : Bytes} (h : mid.length = 4) :
    assocAt e mid 0 = .ok ⟨e.getI32 mid⟩ := by
  simp [assocAt, i32At_all h]

theorem tail_eq_drop (buf : Bytes) (off : Nat) : tail buf off = buf.drop off := by
  by_cases h : off ≤ buf.length
  · have htake : (buf.drop off).take (buf.length - off) = buf.drop off :=
      List.take_of_length_le (by simp)
    simp [tail, getRange, h, htake]
  · simp [tail, getRange, h, List.drop_of_length_le (Nat.le_of_not_le h)]

@[simp] theorem tail_skip {pre rest : Bytes} {off : Nat} (h : pre.length ≤ off) :
    tail (pre ++ rest) off = tail rest (off - pre.length) := by
  simp only [tail_eq_drop, List.drop_append, List.drop_of_length_le h, List.nil_append]

@[simp] theorem tail_zero (buf : Bytes) : tail buf 0 = buf := by simp [tail_eq_drop]

/-! ## Failing -/

/-- A computation that can fail in one way only: with the error of a notification
    that is not well formed. -/
def FailsInvalid {α : Type} (x : Res α) : Prop :=
  ∀ fault, x = .error fault → ∃ msg, fault = .err (err msg)

end Notification

end Lksctp
