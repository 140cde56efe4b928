-- SUMMARY: The kernel's notification structs as bytes, and the proof that the parser undoes their layout.
import Lksctp.Notification

/-!
# The layout of notifications

The reference encoder: every struct of `union sctp_notification`, field by field
in the order of `<uapi/linux/sctp.h>`, with the padding that `repr(C)` leaves
open. `KernelNotification.notification` says what such a struct reports, and
`parse_encode` that this is what the parser returns.
-/

namespace Lksctp

open Rust

/-! ## State codes -/

/-- `enum sctp_sac_state`. -/
def AssocChangeState.codes : List (UInt16 × AssocChangeState) :=
  [(0, .commUp), (1, .commLost), (2, .restart), (3, .shutdownComplete), (4, .cantStartAssoc)]

/-- The state a code stands for; a code without a name stands for itself. -/
def AssocChangeState.ofCode (code : UInt16) : AssocChangeState :=
  (codes.lookup code).getD (.unknown code)

/-- `enum sctp_spc_state`. -/
def PeerAddrChangeState.codes : List (Int32 × PeerAddrChangeState) :=
  [(0, .available), (1, .unreachable), (2, .removed), (3, .added), (4, .madePrimary),
    (5, .confirmed), (6, .potentiallyFailed)]

def PeerAddrChangeState.ofCode (code : Int32) : PeerAddrChangeState :=
  (codes.lookup code).getD (.unknown code)

/-! ## The structs -/

/-- The 128 bytes of an `spc_aaddr`: an address written over whatever was in the
    storage, or a family that the code does not know. -/
inductive PeerStorage where
  | address (a : SocketAddr) (background : Octets 128)
  | foreign (family : UInt16) (notInet : family ≠ Sys.afInet) (notInet6 : family ≠ Sys.afInet6)
      (rest : Octets 126)

namespace PeerStorage

def toBytes (e : Endian) : PeerStorage → Bytes
  | .address a background => a.layout e ++ background.val.drop a.wireLen
  | .foreign family _ _ rest => e.putU16 family ++ rest.val

/-- The address the storage holds, if the code knows its family. -/
def address? : PeerStorage → Option SocketAddr
  | .address a _ => some a
  | .foreign _ _ _ _ => none

@[simp] theorem length_toBytes (e : Endian) (s : PeerStorage) : (s.toBytes e).length = 128 := by
  cases s with
  | address a background =>
    have hle : a.wireLen ≤ 28 := a.wireLen_le
    have hlen := background.property
    simp only [toBytes, List.length_append, SocketAddr.length_layout, List.length_drop, hlen]
    omega
  | foreign family _ _ rest => simp [toBytes, rest.property]

theorem readSockaddr_toBytes (e : Endian) (s : PeerStorage) :
    ∃ r, Addr.readSockaddr e (s.toBytes e) = .ok r ∧ r.map Prod.fst = s.address? := by
  cases s with
  | address a background => exact ⟨_, Addr.readSockaddr_layout e a _, rfl⟩
  | foreign family h4 h6 rest =>
    refine ⟨none, ?_, rfl⟩
    simp [toBytes, Addr.readSockaddr, slice_head, h4, h6]

end PeerStorage

/-- The part of each struct that follows the common header. Values in network
    order are given as host values; `pad` fields are the holes of `repr(C)`. -/
inductive KernelStruct where
  | assocChange (state error outboundStreams inboundStreams : UInt16) (assocId : Int32)
      (info : Bytes)
  | peerAddrChange (addr : PeerStorage) (state error assocId : Int32)
  | remoteError (error : UInt16) (pad : Octets 2) (assocId : Int32) (data : Bytes)
  | sendFailed (error : UInt32) (ppid : Ppid) (info : Sys.SctpSndrcvinfo) (pad : Octets 2)
      (assocId : Int32) (data : Bytes)
  | sendFailedEvent (error : UInt32) (ppid : Ppid) (info : Sys.SctpSndinfo) (assocId : Int32)
      (data : Bytes)
  | shutdown (assocId : Int32)
  | partialDelivery (indication : UInt32) (assocId : Int32) (stream seq : UInt32)
  | adaptationIndication (indication : UInt32) (assocId : Int32)
  | authentication (keyNumber altKeyNumber : UInt16) (indication : UInt32) (assocId : Int32)
  | senderDry (assocId : Int32)
  | streamReset (assocId : Int32) (streams : List UInt16)
  | assocReset (assocId : Int32) (localTsn remoteTsn : UInt32)
  | streamChange (assocId : Int32) (instrms outstrms : UInt16)
  | other (snType : UInt16) (foreign : ∀ ev : EventType, ev.toRaw ≠ snType) (raw : Bytes)

structure KernelNotification where
  snFlags : UInt16
  snLength : UInt32
  body : KernelStruct

namespace KernelStruct

def snType : KernelStruct → UInt16
  | .assocChange .. => Sys.sctpAssocChange
  | .peerAddrChange .. => Sys.sctpPeerAddrChange
  | .remoteError .. => Sys.sctpRemoteError
  | .sendFailed .. => Sys.sctpSendFailed
  | .sendFailedEvent .. => Sys.sctpSendFailedEvent
  | .shutdown .. => Sys.sctpShutdownEvent
  | .partialDelivery .. => Sys.sctpPartialDeliveryEvent
  | .adaptationIndication .. => Sys.sctpAdaptationIndication
  | .authentication .. => Sys.sctpAuthenticationEvent
  | .senderDry .. => Sys.sctpSenderDryEvent
  | .streamReset .. => Sys.sctpStreamResetEvent
  | .assocReset .. => Sys.sctpAssocResetEvent
  | .streamChange .. => Sys.sctpStreamChangeEvent
  | .other snType _ _ => snType

/-- The fields behind the header. The embedded structs are those of `sys.rs`,
    with the payload protocol identifier in network order. -/
def toBytes (e : Endian) : KernelStruct → Bytes
  | .assocChange state error outboundStreams inboundStreams assocId info =>
    e.putU16 state ++ (e.putU16 error ++ (e.putU16 outboundStreams ++ (e.putU16 inboundStreams ++
      (e.putI32 assocId ++ info))))
  | .peerAddrChange addr state error assocId =>
    addr.toBytes e ++ (e.putI32 state ++ (e.putI32 error ++ e.putI32 assocId))
  | .remoteError error pad assocId data =>
    Endian.big.putU16 error ++ (pad.val ++ (e.putI32 assocId ++ data))
  | .sendFailed error ppid info pad assocId data =>
    e.putU32 error ++ (Sys.SctpSndrcvinfo.toBytes e pad { info with sinfoPpid := ppid.toWire e } ++
      (e.putI32 assocId ++ data))
  | .sendFailedEvent error ppid info assocId data =>
    e.putU32 error ++ (Sys.SctpSndinfo.toBytes e { info with sndPpid := ppid.toWire e } ++
      (e.putI32 assocId ++ data))
  | .shutdown assocId => e.putI32 assocId
  | .partialDelivery indication assocId stream seq =>
    e.putU32 indication ++ (e.putI32 assocId ++ (e.putU32 stream ++ e.putU32 seq))
  | .adaptationIndication indication assocId => e.putU32 indication ++ e.putI32 assocId
  | .authentication keyNumber altKeyNumber indication assocId =>
    e.putU16 keyNumber ++ (e.putU16 altKeyNumber ++ (e.putU32 indication ++ e.putI32 assocId))
  | .senderDry assocId => e.putI32 assocId
  | .streamReset assocId streams => e.putI32 assocId ++ streams.flatMap e.putU16
  | .assocReset assocId localTsn remoteTsn =>
    e.putI32 assocId ++ (e.putU32 localTsn ++ e.putU32 remoteTsn)
  | .streamChange assocId instrms outstrms =>
    e.putI32 assocId ++ (e.putU16 instrms ++ e.putU16 outstrms)
  | .other _ _ raw => raw

end KernelStruct

namespace KernelNotification

/-- The bytes the kernel puts into the receive buffer. -/
def encode (e : Endian) (k : KernelNotification) : Bytes :=
  e.putU16 k.body.snType ++ (e.putU16 k.snFlags ++ (e.putU32 k.snLength ++ k.body.toBytes e))

/-- What the struct reports. Only an unknown notification keeps its bytes. -/
def notification (e : Endian) (k : KernelNotification) : Notification :=
  match k.body with
  | .assocChange state error outboundStreams inboundStreams assocId info =>
    .assocChange
      { state := .ofCode state, error, outboundStreams, inboundStreams, assocId := ⟨assocId⟩, info }
  | .peerAddrChange addr state error assocId =>
    .peerAddrChange { address := addr.address?, state := .ofCode state, error, assocId := ⟨assocId⟩ }
  | .remoteError error _ assocId data => .remoteError { error, assocId := ⟨assocId⟩, data }
  | .sendFailed error ppid info _ assocId data =>
    .sendFailed
      { unsent := k.snFlags == Sys.sctpDataUnsent, error, sid := info.sinfoStream, ppid
        context := info.sinfoContext, assocId := ⟨assocId⟩, payload := data }
  | .sendFailedEvent error ppid info assocId data =>
    .sendFailed
      { unsent := k.snFlags == Sys.sctpDataUnsent, error, sid := info.sndSid, ppid
        context := info.sndContext, assocId := ⟨assocId⟩, payload := data }
  | .shutdown assocId => .shutdown { assocId := ⟨assocId⟩ }
  | .partialDelivery indication assocId stream seq =>
    .partialDelivery { indication, assocId := ⟨assocId⟩, stream, seq }
  | .adaptationIndication indication assocId =>
    .adaptationIndication { indication, assocId := ⟨assocId⟩ }
  | .authentication keyNumber altKeyNumber indication assocId =>
    .authentication { keyNumber, altKeyNumber, indication, assocId := ⟨assocId⟩ }
  | .senderDry assocId => .senderDry { assocId := ⟨assocId⟩ }
  | .streamReset assocId streams =>
    .streamReset { flags := k.snFlags, assocId := ⟨assocId⟩, streams }
  | .assocReset assocId localTsn remoteTsn =>
    .assocReset { flags := k.snFlags, assocId := ⟨assocId⟩, localTsn, remoteTsn }
  | .streamChange assocId instrms outstrms =>
    .streamChange { flags := k.snFlags, assocId := ⟨assocId⟩, instrms, outstrms }
  | .other snType _ _ => .unknown { snType, snFlags := k.snFlags, data := k.encode e }

end KernelNotification

/-! ## The parser undoes the layout -/

theorem AssocChangeState.fromRaw_eq_ofCode (code : UInt16) : fromRaw code = ofCode code := by
  unfold fromRaw
  split_ifs with h0 h1 h2 h3 h4
  · subst h0; rfl
  · subst h1; rfl
  · subst h2; rfl
  · subst h3; rfl
  · subst h4; rfl
  · simp only [Sys.sctpCommUp, Sys.sctpCommLost, Sys.sctpRestart, Sys.sctpShutdownComp,
      Sys.sctpCantStrAssoc] at h0 h1 h2 h3 h4
    simp only [ofCode, codes, List.lookup_cons, beq_eq_false_iff_ne.mpr, h0, h1, h2, h3, h4,
      not_false_eq_true, ne_eq, List.lookup_nil, Option.getD_none]

theorem AssocChangeState.ofCode_eq_unknown_iff (code : UInt16) :
    ofCode code = .unknown code ↔ 4 < code := by
  rw [← fromRaw_eq_ofCode]
  have hcode : 4 < code ↔ code ≠ 0 ∧ code ≠ 1 ∧ code ≠ 2 ∧ code ≠ 3 ∧ code ≠ 4 := by
    simp only [UInt16.lt_iff_toNat_lt, ne_eq, ← UInt16.toNat_inj, UInt16.reduceToNat]
    omega
  rw [hcode]
  simp only [fromRaw, Sys.sctpCommUp, Sys.sctpCommLost, Sys.sctpRestart, Sys.sctpShutdownComp,
    Sys.sctpCantStrAssoc]
  grind

theorem PeerAddrChangeState.fromRaw_eq_ofCode (code : Int32) : fromRaw code = ofCode code := by
  unfold fromRaw
  split_ifs with h0 h1 h2 h3 h4 h5 h6
  · subst h0; rfl
  · subst h1; rfl
  · subst h2; rfl
  · subst h3; rfl
  · subst h4; rfl
  · subst h5; rfl
  · subst h6; rfl
  · simp only [Sys.sctpAddrAvailable, Sys.sctpAddrUnreachable, Sys.sctpAddrRemoved,
      Sys.sctpAddrAdded, Sys.sctpAddrMadePrim, Sys.sctpAddrConfirmed,
      Sys.sctpAddrPotentiallyFailed] at h0 h1 h2 h3 h4 h5 h6
    simp only [ofCode, codes, List.lookup_cons, beq_eq_false_iff_ne.mpr, h0, h1, h2, h3, h4, h5,
      h6, not_false_eq_true, ne_eq, List.lookup_nil, Option.getD_none]

theorem PeerAddrChangeState.ofCode_eq_unknown_iff (code : Int32) :
    ofCode code = .unknown code ↔ code < 0 ∨ 6 < code := by
  rw [← fromRaw_eq_ofCode]
  have hcode : code < 0 ∨ 6 < code ↔ code ≠ 0 ∧ code ≠ 1 ∧ code ≠ 2 ∧ code ≠ 3 ∧ code ≠ 4 ∧
      code ≠ 5 ∧ code ≠ 6 := by
    simp only [Int32.lt_iff_toInt_lt, ne_eq, ← Int32.toInt_inj, Int32.reduceToInt]
    omega
  rw [hcode]
  simp only [fromRaw, Sys.sctpAddrAvailable, Sys.sctpAddrUnreachable, Sys.sctpAddrRemoved,
    Sys.sctpAddrAdded, Sys.sctpAddrMadePrim, Sys.sctpAddrConfirmed, Sys.sctpAddrPotentiallyFailed]
  grind

namespace Notification

/-- The loop reads the stream list to its end. -/
theorem resetStreams_flatMap (e : Endian) (streams : List UInt16) (pre : Bytes) :
    resetStreams e (pre ++ streams.flatMap e.putU16) pre.length = .ok streams := by
  induction streams generalizing pre with
  | nil =>
    rw [resetStreams, if_neg (by simp)]
    rfl
  | cons s streams ih =>
    have hrest := ih (pre ++ e.putU16 s)
    rw [List.length_append, Endian.length_putU16, List.append_assoc] at hrest
    rw [resetStreams, if_pos (by simp), List.flatMap_cons]
    simp [hrest]

/-- The header selects the parser of the struct. -/
theorem parse_encode_header (e : Endian) (k : KernelNotification) :
    parse e (k.encode e) = parseBody e k.body.snType k.snFlags (k.encode e) := by
  simp [parse, KernelNotification.encode]

/-- A type word of no event class leaves the bytes unparsed. -/
theorem parseBody_of_foreign {e : Endian} {snType snFlags : UInt16}
    (h : ∀ ev : EventType, ev.toRaw ≠ snType) (buf : Bytes) :
    parseBody e snType snFlags buf = .ok (.unknown { snType, snFlags, data := buf }) := by
  have hne : ∀ ev : EventType, snType ≠ ev.toRaw := fun ev => (h ev).symm
  exact (if_neg (hne .assocChange)).trans <| (if_neg (hne .peerAddrChange)).trans <|
    (if_neg (hne .remoteError)).trans <| (if_neg (hne .sendFailed)).trans <|
    (if_neg (hne .sendFailedEvent)).trans <| (if_neg (hne .shutdown)).trans <|
    (if_neg (hne .partialDelivery)).trans <| (if_neg (hne .adaptationIndication)).trans <|
    (if_neg (hne .authentication)).trans <| (if_neg (hne .senderDry)).trans <|
    (if_neg (hne .streamReset)).trans <| (if_neg (hne .assocReset)).trans <|
    if_neg (hne .streamChange)

/-- The parser undoes the kernel's layout: on a host of either byte order, every
    struct, whatever its padding and its length word, is parsed to what it
    reports. -/
theorem parse_encode (e : Endian) (k : KernelNotification) :
    parse e (k.encode e) = .ok (k.notification e) := by
  rw [parse_encode_header]
  obtain ⟨flags, len, body⟩ := k
  cases body with
  | assocChange state error outboundStreams inboundStreams assocId info =>
    change parseAssocChange e _ = _
    simp [parseAssocChange, KernelNotification.encode, KernelNotification.notification,
      KernelStruct.toBytes, AssocChangeState.fromRaw_eq_ofCode]
  | peerAddrChange addr state error assocId =>
    change parsePeerAddrChange e _ = _
    obtain ⟨read, hread, haddr⟩ := addr.readSockaddr_toBytes e
    simp [parsePeerAddrChange, KernelNotification.encode, KernelNotification.notification,
      KernelStruct.toBytes, PeerAddrChangeState.fromRaw_eq_ofCode, getRange_skip, getRange_head,
      hread, haddr]
  | remoteError error pad assocId data =>
    change parseRemoteError e _ = _
    simp [parseRemoteError, KernelNotification.encode, KernelNotification.notification,
      KernelStruct.toBytes, pad.property]
  | sendFailed error ppid info pad assocId data =>
    change parseSendFailed e flags _ = _
    simp [parseSendFailed, KernelNotification.encode, KernelNotification.notification,
      KernelStruct.toBytes, Sys.SctpSndrcvinfo.toBytes, pad.property, Ppid.toWire, Ppid.fromWire]
  | sendFailedEvent error ppid info assocId data =>
    change parseSendFailedEvent e flags _ = _
    simp [parseSendFailedEvent, KernelNotification.encode, KernelNotification.notification,
      KernelStruct.toBytes, Sys.SctpSndinfo.toBytes, Ppid.toWire, Ppid.fromWire]
  | shutdown assocId =>
    change parseShutdown e _ = _
    simp [parseShutdown, KernelNotification.encode, KernelNotification.notification,
      KernelStruct.toBytes]
  | partialDelivery indication assocId stream seq =>
    change parsePartialDelivery e _ = _
    simp [parsePartialDelivery, KernelNotification.encode, KernelNotification.notification,
      KernelStruct.toBytes]
  | adaptationIndication indication assocId =>
    change parseAdaptationIndication e _ = _
    simp [parseAdaptationIndication, KernelNotification.encode, KernelNotification.notification,
      KernelStruct.toBytes]
  | authentication keyNumber altKeyNumber indication assocId =>
    change parseAuthentication e _ = _
    simp [parseAuthentication, KernelNotification.encode, KernelNotification.notification,
      KernelStruct.toBytes]
  | senderDry assocId =>
    change parseSenderDry e _ = _
    simp [parseSenderDry, KernelNotification.encode, KernelNotification.notification,
      KernelStruct.toBytes]
  | streamReset assocId streams =>
    change parseStreamReset e flags _ = _
    have hstreams := resetStreams_flatMap e streams
      (e.putU16 Sys.sctpStreamResetEvent ++ (e.putU16 flags ++ (e.putU32 len ++ e.putI32 assocId)))
    simp only [List.append_assoc, List.length_append, Endian.length_putU16, Endian.length_putU32,
      Endian.length_putI32] at hstreams
    simp [parseStreamReset, KernelNotification.encode, KernelNotification.notification,
      KernelStruct.toBytes, KernelStruct.snType, hstreams]
  | assocReset assocId localTsn remoteTsn =>
    change parseAssocReset e flags _ = _
    simp [parseAssocReset, KernelNotification.encode, KernelNotification.notification,
      KernelStruct.toBytes]
  | streamChange assocId instrms outstrms =>
    change parseStreamChange e flags _ = _
    simp [parseStreamChange, KernelNotification.encode, KernelNotification.notification,
      KernelStruct.toBytes]
  | other snType foreign raw =>
    exact parseBody_of_foreign foreign _

/-- The parser undoes the kernel's layout, for every type of notification, every
    content and both byte orders. Codes without a name, and only they, are kept as
    they are, and the peer's address is stored by the writer of `addr.rs`. -/
theorem kernel_notifications_parse_back (e : Endian) :
    (∀ k : KernelNotification, parse e (k.encode e) = .ok (k.notification e)) ∧
    (∀ code, AssocChangeState.ofCode code = .unknown code ↔ 4 < code) ∧
    (∀ code, PeerAddrChangeState.ofCode code = .unknown code ↔ code < 0 ∨ 6 < code) ∧
    (∀ (a : SocketAddr) (background : Octets 128),
      Addr.writeSockaddr e a background.val =
        .ok ((PeerStorage.address a background).toBytes e, a.wireLen)) := by
  refine ⟨parse_encode e, AssocChangeState.ofCode_eq_unknown_iff,
    PeerAddrChangeState.ofCode_eq_unknown_iff, ?_⟩
  intro a background
  have hroom : a.wireLen ≤ background.val.length := by
    have hle : a.wireLen ≤ 28 := a.wireLen_le
    rw [background.property]
    omega
  exact Addr.writeSockaddr_eq hroom

end Notification

end Lksctp
