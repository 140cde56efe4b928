-- SUMMARY: `Socket::send_msg` up to its system call, and the way of the per-message metadata to the receiver and back.
import Lksctp.NotificationLayout
import Lksctp.Socket.Recv

/-!
# Sending

`send_msg` turns its arguments into one `sendmsg(2)`: the payload as it is, the
destination as a name, and the metadata as one `SCTP_SNDINFO` control message.

The metadata goes through four layouts. The sender writes an `sctp_sndinfo`; the
peer's kernel fills an `sctp_rcvinfo` from the chunk; and the sender's own kernel
reports a failed message with the `sctp_sndinfo` again, or with the older
`sctp_sndrcvinfo`. What the kernels copy between them is the value of the stream
identifier and the four bytes of the payload protocol identifier.
-/

namespace Lksctp

open Rust Machine Kernel

namespace Socket

/-! ## The code -/

def msgNosignal : Int32 := 0x4000

/-- The `msghdr` and the flags that are passed to `sendmsg(2)`. -/
structure SendReq where
  payload : Bytes
  name : Bytes
  control : Bytes
  flags : Int32
  deriving DecidableEq, Repr

/-- The control message of a send. -/
def sndinfoMessage (e : Endian) (info : SendInfo) : Cmsg.Message where
  level := Sys.ipprotoSctp
  ty := Sys.sctpCmsgSndinfo
  data := (info.toSys e).toBytes e

def sendRequest (t : Target) (buf : Bytes) (dest : Option SocketAddr) (info : SendInfo) :
    Res SendReq := do
  let sndCmsgSpace ← Cmsg.space t.ptr Sys.SctpSndinfo.size
  let (control, clen) ← Cmsg.write t (zeros sndCmsgSpace) (sndinfoMessage t.endian info)
  let (name, nameLen) ← match dest with
    | some a => Addr.writeSockaddr t.endian a (zeros 128)
    | none => pure ([], 0)
  pure
    { payload := buf
      name := name.take nameLen
      control := control.take clen
      flags := msgNosignal }

/-- `cvt_size` of what `sendmsg(2)` returned. -/
def sendResult : Except Errno Nat → Res Nat
  | .error e => Res.err (.os e)
  | .ok n => .ok n

/-! ## The request -/

/-- The destination as `msg_name`. -/
def destName (e : Endian) : Option SocketAddr → Bytes
  | some a => a.layout e
  | none => []

theorem sendRequest_eq (t : Target) (buf : Bytes) (dest : Option SocketAddr) (info : SendInfo) :
    sendRequest t buf dest info = .ok
      { payload := buf
        name := destName t.endian dest
        control := (sndinfoMessage t.endian info).layout t
        flags := msgNosignal } := by
  have hlen : (sndinfoMessage t.endian info).data.length = Sys.SctpSndinfo.size :=
    Sys.SctpSndinfo.length_toBytes _ _
  have hmax : Sys.SctpSndinfo.size ≤ t.ptr.isizeMax := by cases t.ptr <;> decide
  have hspace : (sndinfoMessage t.endian info).space t = Cmsg.spaceOf t.ptr Sys.SctpSndinfo.size := by
    rw [Cmsg.Message.space, hlen]
  have hroom : (sndinfoMessage t.endian info).space t ≤
      (zeros (Cmsg.spaceOf t.ptr Sys.SctpSndinfo.size)).length := by rw [hspace, length_zeros]
  have hwrite := Cmsg.write_eq (hlen.trans_le hmax) hroom
  have hcontrol : ((sndinfoMessage t.endian info).layout t).take
      (Cmsg.spaceOf t.ptr Sys.SctpSndinfo.size) = (sndinfoMessage t.endian info).layout t :=
    List.take_of_length_le (by rw [Cmsg.Message.length_layout, hspace])
  rw [hspace, List.drop_of_length_le (by simp), List.append_nil] at hwrite
  cases dest with
  | none => simp [sendRequest, Cmsg.space_eq hmax, hwrite, hcontrol, destName]
  | some a =>
    have hname : a.wireLen ≤ (zeros 128).length := by
      have hle : a.wireLen ≤ 28 := a.wireLen_le
      rw [length_zeros]
      omega
    simp [sendRequest, Cmsg.space_eq hmax, hwrite, hcontrol, destName, Addr.writeSockaddr_eq hname]

theorem iter_sndinfoMessage (t : Target) (info : SendInfo) :
    Cmsg.iter t ((sndinfoMessage t.endian info).layout t) = .ok [sndinfoMessage t.endian info] := by
  have hmax : (sndinfoMessage t.endian info).space t ≤ t.ptr.isizeMax := by
    rw [Cmsg.Message.space, sndinfoMessage, Sys.SctpSndinfo.length_toBytes]
    cases t.ptr <;> decide
  have hiter := Cmsg.iter_layoutList (t := t) [sndinfoMessage t.endian info] 0 (by simpa using hmax)
  simpa using hiter

/-! ## The words of an sctp_sndinfo -/

/-- The three words of an `sctp_sndinfo` that the kernels pass on. -/
def sndSidBytes (sndinfo : Bytes) : Bytes := sndinfo.take 2
def sndPpidBytes (sndinfo : Bytes) : Bytes := (sndinfo.drop 4).take 4
def sndContextBytes (sndinfo : Bytes) : Bytes := (sndinfo.drop 8).take 4

variable (e : Endian) (info : SendInfo)

@[simp] theorem sndSidBytes_toBytes :
    sndSidBytes ((info.toSys e).toBytes e) = e.putU16 info.sid := by
  simp [sndSidBytes, Sys.SctpSndinfo.toBytes, SendInfo.toSys]

@[simp] theorem sndPpidBytes_toBytes :
    sndPpidBytes ((info.toSys e).toBytes e) = Endian.big.putU32 info.ppid.val := by
  simp [sndPpidBytes, Sys.SctpSndinfo.toBytes, SendInfo.toSys, Ppid.toWire, List.drop_append,
    List.drop_of_length_le]

@[simp] theorem sndContextBytes_toBytes :
    sndContextBytes ((info.toSys e).toBytes e) = e.putU32 info.context := by
  simp [sndContextBytes, Sys.SctpSndinfo.toBytes, SendInfo.toSys, List.drop_append,
    List.drop_of_length_le]

/-! ## What the kernels make of them -/

/-- An `SCTP_SEND_FAILED_EVENT` with the sender's `sctp_sndinfo` in it. -/
def sendFailedEventBytes (snFlags : UInt16) (snLength error : UInt32) (ssfeInfo : Bytes)
    (assocId : Int32) (data : Bytes) : Bytes :=
  e.putU16 Sys.sctpSendFailedEvent ++ (e.putU16 snFlags ++ (e.putU32 snLength ++
    (e.putU32 error ++ (ssfeInfo ++ (e.putI32 assocId ++ data)))))

/-- The older report: three words of the sender's `sctp_sndinfo` are copied into
    an `sctp_sndrcvinfo`. -/
def legacyInfo (sndinfo : Bytes) (others : Sys.SctpSndrcvinfo) : Sys.SctpSndrcvinfo :=
  { others with
    sinfoStream := e.getU16 (sndSidBytes sndinfo)
    sinfoPpid := e.getU32 (sndPpidBytes sndinfo)
    sinfoContext := e.getU32 (sndContextBytes sndinfo) }

def sendFailedBytes (snFlags : UInt16) (snLength error : UInt32) (ssfInfo : Sys.SctpSndrcvinfo)
    (pad : Octets 2) (assocId : Int32) (data : Bytes) : Bytes :=
  e.putU16 Sys.sctpSendFailed ++ (e.putU16 snFlags ++ (e.putU32 snLength ++
    (e.putU32 error ++ (ssfInfo.toBytes e pad ++ (e.putI32 assocId ++ data)))))

/-- The receiver's `sctp_rcvinfo`: the value of the sender's stream identifier, and
    the four bytes of its payload protocol identifier as they are. -/
def receivedInfo (rcv : Endian) (sndinfo : Bytes) (others : Sys.SctpRcvinfo) : Sys.SctpRcvinfo :=
  { others with
    rcvSid := e.getU16 (sndSidBytes sndinfo)
    rcvPpid := rcv.getU32 (sndPpidBytes sndinfo) }

/-- What both reports of a failed message must say. -/
def reportedFailure (snFlags : UInt16) (error : UInt32) (assocId : Int32) (data : Bytes) :
    Notification :=
  .sendFailed
    { unsent := snFlags == Sys.sctpDataUnsent, error, sid := info.sid, ppid := info.ppid
      context := info.context, assocId := ⟨assocId⟩, payload := data }

theorem parse_sendFailedEventBytes (snFlags : UInt16) (snLength error : UInt32) (assocId : Int32)
    (data : Bytes) :
    Notification.parse e (sendFailedEventBytes e snFlags snLength error ((info.toSys e).toBytes e)
      assocId data) = .ok (reportedFailure info snFlags error assocId data) :=
  Notification.parse_encode e
    ⟨snFlags, snLength, .sendFailedEvent error info.ppid (info.toSys e) assocId data⟩

theorem legacyInfo_sinfoPpid (others : Sys.SctpSndrcvinfo) :
    (legacyInfo e ((info.toSys e).toBytes e) others).sinfoPpid = info.ppid.toWire e := by
  simp only [legacyInfo, sndPpidBytes_toBytes, Ppid.toWire]
  rw [← Endian.putU32_toBe32 e, Endian.getU32_putU32]

theorem parse_sendFailedBytes (snFlags : UInt16) (snLength error : UInt32)
    (others : Sys.SctpSndrcvinfo) (pad : Octets 2) (assocId : Int32) (data : Bytes) :
    Notification.parse e (sendFailedBytes e snFlags snLength error
      (legacyInfo e ((info.toSys e).toBytes e) others) pad assocId data) =
        .ok (reportedFailure info snFlags error assocId data) := by
  have hparse := Notification.parse_encode e
    ⟨snFlags, snLength, .sendFailed error info.ppid
      (legacyInfo e ((info.toSys e).toBytes e) others) pad assocId data⟩
  simp only [KernelNotification.encode, KernelNotification.notification, KernelStruct.snType,
    KernelStruct.toBytes, ← legacyInfo_sinfoPpid e info others] at hparse
  rw [sendFailedBytes, hparse]
  simp [legacyInfo, reportedFailure]

theorem fromSys_receivedInfo (snd rcv : Endian) (others : Sys.SctpRcvinfo) :
    (RcvInfo.fromSys rcv (receivedInfo snd rcv ((info.toSys snd).toBytes snd) others)).sid =
        info.sid ∧
      (RcvInfo.fromSys rcv (receivedInfo snd rcv ((info.toSys snd).toBytes snd) others)).ppid =
        info.ppid := by
  simp [RcvInfo.fromSys, receivedInfo, Ppid.fromWire]

/-- The metadata of a message survives the way to the receiver and back. The
    control buffer of a send holds one `SCTP_SNDINFO` with the payload protocol
    identifier in network order; both reports of a failed send name the sender's
    stream, identifier and context; and a receiver of any byte order gets the
    sender's stream and identifier. -/
theorem sendMsg_metadata_survives (snd rcv : Target) (buf : Bytes) (dest : Option SocketAddr)
    (info : SendInfo) :
    ∃ req sndinfo,
      sendRequest snd buf dest info = .ok req ∧
      Cmsg.iter snd req.control = .ok [⟨Sys.ipprotoSctp, Sys.sctpCmsgSndinfo, sndinfo⟩] ∧
      sndinfo.length = 16 ∧
      slice sndinfo 4 8 = .ok (Endian.big.putU32 info.ppid.val) ∧
      (∀ snFlags snLength error assocId data,
        Notification.parse snd.endian
          (sendFailedEventBytes snd.endian snFlags snLength error sndinfo assocId data) =
            .ok (reportedFailure info snFlags error assocId data)) ∧
      (∀ snFlags snLength error others pad assocId data,
        Notification.parse snd.endian
          (sendFailedBytes snd.endian snFlags snLength error
            (legacyInfo snd.endian sndinfo others) pad assocId data) =
              .ok (reportedFailure info snFlags error assocId data)) ∧
      (∀ others bytes last pad peer rest rbuf wantFrom, ∃ r q len i eor sender,
        (recvMsg rcv).Returns (recvmsg rcv) (.first rbuf wantFrom)
          (.data bytes last (receivedInfo snd.endian rcv.endian sndinfo others) pad peer :: rest)
          r q ∧
        r.result = .ok (.data len (some i) eor, sender) ∧ i.sid = info.sid ∧ i.ppid = info.ppid) := by
  refine ⟨_, (info.toSys snd.endian).toBytes snd.endian, sendRequest_eq snd buf dest info,
    iter_sndinfoMessage snd info, Sys.SctpSndinfo.length_toBytes _ _, ?_,
    parse_sendFailedEventBytes snd.endian info, ?_, ?_⟩
  · rw [slice_ok (by decide) (by rw [Sys.SctpSndinfo.length_toBytes]; decide)]
    exact congrArg _ (sndPpidBytes_toBytes snd.endian info)
  · intro snFlags snLength error others pad assocId data
    exact parse_sendFailedBytes snd.endian info snFlags snLength error others pad assocId data
  · intro others bytes last pad peer rest rbuf wantFrom
    obtain ⟨hsid, hppid⟩ := fromSys_receivedInfo info snd.endian rcv.endian others
    exact ⟨_, _, _, _, _, _, recvMsg_returns rcv rbuf wantFrom _, rfl, hsid, hppid⟩

end Socket

end Lksctp
