-- SUMMARY: `Socket::recv_msg` with its reassembly loop, one system call at a time, and the atomic read that it refines.
import Lksctp.Kernel
import Lksctp.NotificationBounds
import Lksctp.Machine.Program

/-!
# Receiving

`recv_msg` is not one system call: a notification that did not fit the caller's
buffer is read to its end by `reassemble_notification`. It is modelled as a
program that does one `recvmsg(2)` at a time, so that arrivals and other readers
can be placed between its calls.

`deliver` is the read as a caller thinks of it, one item in one step. `Reading`
relates a call that is under way to the read it will turn out to have been;
`Reading.step` is the simulation, and every property of the receive path in this
development goes through it.
-/

namespace Lksctp

open Rust Machine Kernel

/-- The outcome of a receive call. -/
inductive RecvMsg where
  /-- `len` bytes are in the caller's buffer. -/
  | data (len : Nat) (info : Option RcvInfo) (eor : Bool)
  | notification (n : Notification)
  deriving DecidableEq

namespace Socket

/-! ## The code -/

/-- Received control messages: room for `SCTP_RCVINFO` plus slack. -/
def rcvCmsgSpace : Nat := 192

def maxNotification : Nat := 2 ^ 20

/-- The scratch buffer of `reassemble_notification`. -/
def scratchLen : Nat := 4096

def desynchronized : IoError :=
  .custom .invalidData "sctp notification reassembly desynchronized"

def oversizedNotification : IoError :=
  .custom .invalidData "sctp notification larger than 1 MiB discarded"

/-- What a call has returned, with the caller's buffer as it is then. -/
structure Received where
  result : Res (RecvMsg × Option SocketAddr)
  buf : Bytes
  deriving DecidableEq

/-- Where a call of `recv_msg` is: before its first `recvmsg(2)`, or in the loop
    of `reassemble_notification`. -/
inductive RecvState where
  | first (buf : Bytes) (wantFrom : Bool)
  | reassemble (buf : Bytes) (sender : Option SocketAddr) (out : Bytes) (oversized : Bool)
  deriving DecidableEq

/-- One round of the loop of `reassemble_notification`. -/
def reassembleStep (out : Bytes) (oversized : Bool) (reply : Except Errno RecvOut) :
    Step (Bytes × Bool) (Res Bytes) :=
  match reply with
  | .error e => .done (Res.err (.os e))
  | .ok msg =>
    if msg.flags &&& Sys.msgNotification = 0 then .done (Res.err desynchronized)
    else
      let n := msg.bytes.length
      let (out, oversized) :=
        if out.length + n > maxNotification then (out, true) else (out ++ msg.bytes, oversized)
      if msg.flags &&& Sys.msgEor = 0 then .next (out, oversized)
      else .done (if oversized then Res.err oversizedNotification else .ok out)

/-- The address in the name buffer, if it was asked for and written. -/
def senderOf (t : Target) (wantFrom : Bool) (name : Bytes) : Res (Option SocketAddr) :=
  if wantFrom ∧ 0 < name.length then do
    pure ((← Addr.readSockaddr t.endian name).map Prod.fst)
  else pure none

/-- One round of the loop over the control messages. -/
def rcvInfoStep (t : Target) (info : Option RcvInfo) (m : Cmsg.Message) : Res (Option RcvInfo) :=
  if m.level = Sys.ipprotoSctp ∧ m.ty = Sys.sctpCmsgRcvinfo ∧
      Sys.SctpRcvinfo.size ≤ m.data.length then do
    let raw ← Sys.SctpRcvinfo.read t.endian m.data
    pure (some (RcvInfo.fromSys t.endian raw))
  else pure info

def rcvInfo (t : Target) (control : Bytes) : Res (Option RcvInfo) := do
  (← Cmsg.iter t control).foldlM (rcvInfoStep t) none

/-- `recv_msg` up to and after its first `recvmsg(2)`. -/
def firstStep (t : Target) (buf : Bytes) (wantFrom : Bool) (reply : Except Errno RecvOut) :
    Step RecvState Received :=
  match reply with
  | .error e => .done ⟨Res.err (.os e), buf⟩
  | .ok msg =>
    let n := msg.bytes.length
    -- The kernel has overwritten `buf[..n]`.
    let buf := msg.bytes ++ buf.drop n
    match senderOf t wantFrom msg.name with
    | .error fault => .done ⟨.error fault, buf⟩
    | .ok sender =>
      if msg.flags &&& Sys.msgNotification = 0 then
        let eor : Bool := msg.flags &&& Sys.msgEor ≠ 0
        .done ⟨(rcvInfo t msg.control).map fun info => (.data n info eor, sender), buf⟩
      else if msg.flags &&& Sys.msgEor = 0 then
        .next (.reassemble buf sender msg.bytes false)
      else
        .done ⟨(Notification.parse t.endian msg.bytes).map fun p => (.notification p, sender), buf⟩

def recvMsg (t : Target) : Program RecvReq (Except Errno RecvOut) RecvState Received where
  request
    | .first buf wantFrom =>
      { iovLen := buf.length, nameLen := if wantFrom then 128 else 0, controlLen := rcvCmsgSpace }
    | .reassemble .. => { iovLen := scratchLen, nameLen := 0, controlLen := 0 }
  resume
    | .first buf wantFrom, reply => firstStep t buf wantFrom reply
    | .reassemble buf sender out oversized, reply =>
      match reassembleStep out oversized reply with
      | .next (out, oversized) => .next (.reassemble buf sender out oversized)
      | .done assembled =>
        .done ⟨(assembled >>= Notification.parse t.endian).map fun p => (.notification p, sender), buf⟩

/-! ## The atomic read -/

/-- The caller's buffer after an item of these bytes has been read into it. -/
def overwrite (buf bytes : Bytes) : Bytes := bytes.take buf.length ++ buf.drop bytes.length

def reportedSender (wantFrom : Bool) (peer : SocketAddr) : Option SocketAddr :=
  if wantFrom then some peer else none

/-- What a notification of these bytes is reported as. The limit of 1 MiB holds
    only for a notification that has to be reassembled. -/
def notificationResult (e : Endian) (bufLen : Nat) (bytes : Bytes) : Res Notification :=
  if bufLen < bytes.length ∧ maxNotification < bytes.length then Res.err oversizedNotification
  else Notification.parse e bytes

/-- A whole notification, delivered to a caller with this buffer. -/
def Received.ofNotification (t : Target) (buf : Bytes) (wantFrom : Bool) (bytes : Bytes)
    (peer : SocketAddr) : Received where
  result := (notificationResult t.endian buf.length bytes).map fun p =>
    (.notification p, reportedSender wantFrom peer)
  buf := overwrite buf bytes

/-- The next bytes of a piece of data, as many as the buffer holds. -/
def Received.ofData (t : Target) (buf : Bytes) (wantFrom : Bool) (bytes : Bytes) (last : Bool)
    (info : Sys.SctpRcvinfo) (peer : SocketAddr) : Received where
  result := .ok (.data (min buf.length bytes.length) (some (RcvInfo.fromSys t.endian info))
    (last && bytes.length ≤ buf.length), reportedSender wantFrom peer)
  buf := overwrite buf bytes

def Received.ofEof (buf : Bytes) : Received where
  result := .ok (.data 0 none false, none)
  buf := buf

/-- One call of `recv_msg` as one step on the queue. -/
def deliver (t : Target) (buf : Bytes) (wantFrom : Bool) : List Item → Received × List Item
  | [] => (⟨Res.err (.os Errno.eagain), buf⟩, [])
  | .eof :: rest => (.ofEof buf, .eof :: rest)
  | .notification bytes peer :: rest => (.ofNotification t buf wantFrom bytes peer, rest)
  | .data bytes last info pad peer :: rest =>
    (.ofData t buf wantFrom bytes last info peer,
      keepRest (.data · last info pad peer) bytes buf.length rest)

/-- A call that is under way, in state `s` with the queue `q`, is the read of the
    queue `q₀` into the buffer `buf`: in the loop, the head of `q` is what is left
    of the notification at the head of `q₀`. -/
inductive Reading (buf : Bytes) (wantFrom : Bool) : RecvState → List Item → List Item → Prop where
  | first (q : List Item) : Reading buf wantFrom (.first buf wantFrom) q q
  | reassemble {seen tail out : Bytes} {oversized : Bool} {peer : SocketAddr} {rest : List Item}
      (hlong : buf.length ≤ seen.length) (htail : tail ≠ [])
      (hover : oversized = true → maxNotification < seen.length)
      (hout : oversized = false → out = seen) :
      Reading buf wantFrom
        (.reassemble (overwrite buf (seen ++ tail)) (reportedSender wantFrom peer) out oversized)
        (.notification tail peer :: rest) (.notification (seen ++ tail) peer :: rest)

/-! ## The pieces of the first read -/

theorem overwrite_eq (buf bytes : Bytes) :
    bytes.take buf.length ++ buf.drop (bytes.take buf.length).length = overwrite buf bytes := by
  by_cases h : bytes.length ≤ buf.length
  · simp [overwrite, List.take_of_length_le h]
  · have hle : buf.length ≤ bytes.length := Nat.le_of_not_le h
    simp [overwrite, List.drop_of_length_le hle, hle]

/-- The requested name comes back as the peer's address. -/
theorem senderOf_nameFor (t : Target) (wantFrom : Bool) (req : RecvReq) (peer : SocketAddr)
    (hreq : req.nameLen = if wantFrom then 128 else 0) :
    senderOf t wantFrom (nameFor t req peer) = .ok (reportedSender wantFrom peer) := by
  cases wantFrom with
  | false => simp [senderOf, reportedSender]
  | true =>
    have hlen : peer.wireLen ≤ 28 := peer.wireLen_le
    have hroom : peer.wireLen ≤ req.nameLen := by
      simp only [if_true] at hreq
      omega
    have hpos := peer.wireLen_pos
    have hread := Addr.readSockaddr_layout t.endian peer []
    rw [List.append_nil] at hread
    simp [senderOf, nameFor, hroom, hpos, hread, reportedSender]

theorem space_rcvinfoMessage_le (t : Target) (info : Sys.SctpRcvinfo) (pad : Octets 2) :
    (rcvinfoMessage t.endian info pad).space t ≤ rcvCmsgSpace := by
  simp only [Cmsg.Message.space, rcvinfoMessage, Sys.SctpRcvinfo.length_toBytes]
  cases t.ptr <;> decide

/-- The control message of a data read is found and read back. -/
theorem rcvInfo_rcvinfoMessage (t : Target) (info : Sys.SctpRcvinfo) (pad : Octets 2) :
    rcvInfo t ((rcvinfoMessage t.endian info pad).layout t) =
      .ok (some (RcvInfo.fromSys t.endian info)) := by
  have hspace := space_rcvinfoMessage_le t info pad
  have hmax : rcvCmsgSpace ≤ t.ptr.isizeMax := by cases t.ptr <;> decide
  have hiter : Cmsg.iter t ((rcvinfoMessage t.endian info pad).layout t) =
      .ok [rcvinfoMessage t.endian info pad] := by
    have h := Cmsg.iter_layoutList (t := t) [rcvinfoMessage t.endian info pad] 0
      (by simpa using hspace.trans hmax)
    simpa using h
  have hread := Sys.SctpRcvinfo.read_toBytes t.endian pad info []
  rw [List.append_nil] at hread
  rw [rcvInfo, hiter]
  simp [rcvInfoStep, rcvinfoMessage, hread]

/-! ## The simulation -/

variable {t : Target} {buf : Bytes} {wantFrom : Bool} {s : RecvState} {q q₀ : List Item}

/-- One system call of a call that is under way. -/
def recvStep (t : Target) (s : RecvState) (q : List Item) : Step RecvState Received × List Item :=
  ((recvMsg t).resume s (recvmsg t q ((recvMsg t).request s)).1,
    (recvmsg t q ((recvMsg t).request s)).2)

/-- What is still to be read of the item at the head, plus the first call. -/
def readVariant : RecvState → List Item → Nat
  | .first .., .notification bytes _ :: _ => bytes.length + 1
  | .reassemble .., .notification bytes _ :: _ => bytes.length
  | _, _ => 0

theorem recvStep_eof (t : Target) (buf : Bytes) (wantFrom : Bool) (rest : List Item) :
    recvStep t (.first buf wantFrom) (.eof :: rest) = (.done (.ofEof buf), .eof :: rest) := by
  have hiter : Cmsg.iter t [] = .ok [] := Cmsg.iter_of_none (Cmsg.next_zeros t 0)
  simp [recvStep, recvMsg, recvmsg, firstStep, senderOf, rcvInfo, hiter, Received.ofEof,
    RecvOut.nothing]

theorem recvStep_data (t : Target) (buf : Bytes) (wantFrom : Bool) (bytes : Bytes) (last : Bool)
    (info : Sys.SctpRcvinfo) (pad : Octets 2) (peer : SocketAddr) (rest : List Item) :
    recvStep t (.first buf wantFrom) (.data bytes last info pad peer :: rest) =
      (.done (.ofData t buf wantFrom bytes last info peer),
        keepRest (.data · last info pad peer) bytes buf.length rest) := by
  have hcontrol := space_rcvinfoMessage_le t info pad
  simp [recvStep, recvMsg, recvmsg, firstStep, senderOf_nameFor, controlFor, hcontrol,
    rcvInfo_rcvinfoMessage, Received.ofData, ← overwrite_eq]
  simp only [← decide_not, not_lt]

theorem recvStep_notification_fits {bytes : Bytes} (h : bytes.length ≤ buf.length)
    (peer : SocketAddr) (rest : List Item) :
    recvStep t (.first buf wantFrom) (.notification bytes peer :: rest) =
      (.done (.ofNotification t buf wantFrom bytes peer), rest) := by
  simp [recvStep, recvMsg, recvmsg, firstStep, senderOf_nameFor, keepRest_of_le h, h,
    Received.ofNotification, notificationResult, not_lt.mpr h, ← overwrite_eq,
    List.take_of_length_le h]

theorem recvStep_notification_long {bytes : Bytes} (h : buf.length < bytes.length)
    (peer : SocketAddr) (rest : List Item) :
    recvStep t (.first buf wantFrom) (.notification bytes peer :: rest) =
      (.next (.reassemble (overwrite buf bytes) (reportedSender wantFrom peer)
        (bytes.take buf.length) false), .notification (bytes.drop buf.length) peer :: rest) := by
  simp [recvStep, recvMsg, recvmsg, firstStep, senderOf_nameFor, keepRest_of_lt h,
    not_le.mpr h, ← overwrite_eq]

/-- What a round of the loop does with a chunk that belongs to a notification. -/
theorem reassembleStep_notification (out : Bytes) (oversized : Bool) {msg : RecvOut}
    (h : msg.flags &&& Sys.msgNotification ≠ 0) :
    reassembleStep out oversized (.ok msg) =
      let long := decide (maxNotification < out.length + msg.bytes.length)
      let out' := if long then out else out ++ msg.bytes
      if msg.flags &&& Sys.msgEor = 0 then .next (out', long || oversized)
      else .done (if long || oversized then Res.err oversizedNotification else .ok out') := by
  by_cases hlong : maxNotification < out.length + msg.bytes.length
  · simp [reassembleStep, h, hlong]
  · simp [reassembleStep, h, hlong]

theorem reassembleStep_chunk (out bytes : Bytes) (oversized eor : Bool) :
    reassembleStep out oversized
        (.ok { bytes := bytes, flags := msgFlags true eor, control := [], name := [] }) =
      let long := decide (maxNotification < out.length + bytes.length)
      let out' := if long then out else out ++ bytes
      if eor then .done (if long || oversized then Res.err oversizedNotification else .ok out')
      else .next (out', long || oversized) := by
  rw [reassembleStep_notification _ _ (by simp)]
  cases eor <;> simp

/-- In the loop, a read takes the next chunk of the notification. -/
theorem recvStep_reassemble (t : Target) (buf out tail : Bytes) (sender : Option SocketAddr)
    (oversized : Bool) (peer : SocketAddr) (rest : List Item) :
    recvStep t (.reassemble buf sender out oversized) (.notification tail peer :: rest) =
      let long := decide (maxNotification < out.length + (tail.take scratchLen).length)
      let out' := if long then out else out ++ tail.take scratchLen
      if tail.length ≤ scratchLen then
        (.done ⟨((if long || oversized then Res.err oversizedNotification else .ok out') >>=
          Notification.parse t.endian).map fun p => (.notification p, sender), buf⟩, rest)
      else
        (.next (.reassemble buf sender out' (long || oversized)),
          .notification (tail.drop scratchLen) peer :: rest) := by
  have hname : nameFor t { iovLen := scratchLen, nameLen := 0, controlLen := 0 } peer = [] := by
    simp [nameFor, Nat.ne_of_gt peer.wireLen_pos]
  by_cases hshort : tail.length ≤ scratchLen
  · simp only [recvStep, recvMsg, recvmsg, hname, reassembleStep_chunk, hshort, decide_true,
      if_true, keepRest_of_le hshort]
  · simp only [recvStep, recvMsg, recvmsg, hname, reassembleStep_chunk, hshort, decide_false,
      if_false, keepRest_of_lt (not_le.mp hshort), Bool.false_eq_true]

/-- The flag is set only when more than the limit has been seen. -/
theorem loop_oversized {seen out chunk : Bytes} {oversized : Bool}
    (hover : oversized = true → maxNotification < seen.length)
    (hout : oversized = false → out = seen)
    (h : (decide (maxNotification < out.length + chunk.length) || oversized) = true) :
    maxNotification < (seen ++ chunk).length := by
  rw [List.length_append]
  cases oversized with
  | true =>
    have := hover rfl
    omega
  | false =>
    obtain rfl := hout rfl
    simpa using h

/-- While the flag is clear, nothing that was seen is missing from `out`. -/
theorem loop_out {seen out chunk : Bytes} {oversized : Bool}
    (hout : oversized = false → out = seen)
    (h : (decide (maxNotification < out.length + chunk.length) || oversized) = false) :
    (if decide (maxNotification < out.length + chunk.length) then out else out ++ chunk) =
      seen ++ chunk := by
  obtain ⟨hlong, hover⟩ := Bool.or_eq_false_iff.mp h
  rw [hlong, hout hover]
  rfl

/-- At the end of the notification, the flag says whether the limit was passed. -/
theorem loop_total {seen out chunk : Bytes} {oversized : Bool}
    (hover : oversized = true → maxNotification < seen.length)
    (hout : oversized = false → out = seen) :
    (if (decide (maxNotification < out.length + chunk.length) || oversized) = true
      then Res.err oversizedNotification
      else .ok (if decide (maxNotification < out.length + chunk.length) then out
        else out ++ chunk)) =
      if (seen ++ chunk).length ≤ maxNotification then .ok (seen ++ chunk)
      else Res.err oversizedNotification := by
  cases hflag : decide (maxNotification < out.length + chunk.length) || oversized with
  | true =>
    have hlong := loop_oversized hover hout hflag
    rw [if_pos rfl, if_neg (not_le.mpr hlong)]
  | false =>
    have hsmall : (seen ++ chunk).length ≤ maxNotification := by
      obtain ⟨hlong, hclear⟩ := Bool.or_eq_false_iff.mp hflag
      rw [List.length_append, ← hout hclear]
      exact not_lt.mp (of_decide_eq_false hlong)
    rw [loop_out hout hflag, if_neg (by simp), if_pos hsmall]

theorem loop_result (e : Endian) {seen tail out : Bytes} {oversized : Bool}
    (hlong : buf.length ≤ seen.length) (htail : tail ≠ [])
    (hover : oversized = true → maxNotification < seen.length)
    (hout : oversized = false → out = seen) :
    ((if (decide (maxNotification < out.length + tail.length) || oversized) = true
      then Res.err oversizedNotification
      else .ok (if decide (maxNotification < out.length + tail.length) then out else out ++ tail))
        >>= Notification.parse e) =
      notificationResult e buf.length (seen ++ tail) := by
  have hpos : 0 < tail.length := List.length_pos_iff.mpr htail
  have hbuf : buf.length < (seen ++ tail).length := by
    rw [List.length_append]
    omega
  rw [loop_total hover hout]
  unfold notificationResult
  by_cases hsmall : (seen ++ tail).length ≤ maxNotification
  · rw [if_pos hsmall, if_neg fun h => not_lt.mpr hsmall h.2]
    rfl
  · rw [if_neg hsmall, if_pos ⟨hbuf, not_le.mp hsmall⟩]
    rfl

/-- A call that is under way goes on being the same read, and gets nearer to its
    end, or it stops with what the atomic read returns. -/
theorem Reading.step (h : Reading buf wantFrom s q q₀) :
    (∃ s', (recvStep t s q).1 = .next s' ∧ Reading buf wantFrom s' (recvStep t s q).2 q₀ ∧
      readVariant s' (recvStep t s q).2 < readVariant s q) ∨
    ((recvStep t s q).1 = .done (deliver t buf wantFrom q₀).1 ∧
      (recvStep t s q).2 = (deliver t buf wantFrom q₀).2) := by
  cases h with
  | first =>
    match q with
    | [] => exact .inr ⟨rfl, rfl⟩
    | .eof :: rest =>
      rw [recvStep_eof]
      exact .inr ⟨rfl, rfl⟩
    | .data bytes last info pad peer :: rest =>
      rw [recvStep_data]
      exact .inr ⟨rfl, rfl⟩
    | .notification bytes peer :: rest =>
      by_cases hfits : bytes.length ≤ buf.length
      · rw [recvStep_notification_fits hfits]
        exact .inr ⟨rfl, rfl⟩
      · have hlt : buf.length < bytes.length := not_le.mp hfits
        rw [recvStep_notification_long hlt]
        refine .inl ⟨_, rfl, ?_, ?_⟩
        · have hseen : buf.length ≤ (bytes.take buf.length).length := by simp [hlt.le]
          have hread : Reading buf wantFrom (.reassemble _ (reportedSender wantFrom peer)
              (bytes.take buf.length) false) (.notification (bytes.drop buf.length) peer :: rest) _ :=
            .reassemble hseen (by simpa using hlt) (by simp) fun _ => rfl
          rwa [List.take_append_drop] at hread
        · simp only [readVariant, List.length_drop]
          omega
  | @reassemble seen tail out oversized peer rest hlong htail hover hout =>
    have hpos : 0 < tail.length := List.length_pos_iff.mpr htail
    rw [recvStep_reassemble]
    by_cases hshort : tail.length ≤ scratchLen
    · right
      have hresult := loop_result t.endian hlong htail hover hout
      rw [List.take_of_length_le hshort, if_pos hshort]
      exact ⟨by rw [hresult]; rfl, rfl⟩
    · left
      have hsplit : seen ++ tail = (seen ++ tail.take scratchLen) ++ tail.drop scratchLen := by simp
      rw [if_neg hshort, hsplit]
      refine ⟨_, rfl, .reassemble ?_ ?_ (loop_oversized hover hout) (loop_out hout), ?_⟩
      · rw [List.length_append]
        omega
      · simpa using hshort
      · simp only [readVariant, List.length_drop, scratchLen]
        omega

def RecvState.isReassembling : RecvState → Bool
  | .reassemble .. => true
  | .first .. => false

/-- A call that goes on is in the loop. -/
theorem isReassembling_of_recvStep {s' : RecvState} (h : (recvStep t s q).1 = .next s') :
    s'.isReassembling = true := by
  cases s with
  | first buf wantFrom =>
    simp only [recvStep, recvMsg, firstStep] at h
    repeat' split at h
    all_goals first
      | cases h; rfl
      | cases h
  | reassemble buf sender out oversized =>
    simp only [recvStep, recvMsg] at h
    split at h
    · obtain rfl := Step.next.inj h
      rfl
    · cases h

/-- A receive goes on only after a part of a notification. -/
theorem Reading.part_of_next {s' : RecvState} (h : Reading buf wantFrom s q q₀)
    (hnext : (recvStep t s q).1 = .next s') :
    ∃ bytes peer rest, q = .notification bytes peer :: rest ∧
      ((recvMsg t).request s).iovLen < bytes.length := by
  cases h with
  | first =>
    match q with
    | [] => cases hnext
    | .eof :: rest =>
      rw [recvStep_eof] at hnext
      cases hnext
    | .data bytes last info pad peer :: rest =>
      rw [recvStep_data] at hnext
      cases hnext
    | .notification bytes peer :: rest =>
      refine ⟨bytes, peer, rest, rfl, ?_⟩
      by_contra hfits
      rw [recvStep_notification_fits (not_lt.mp hfits)] at hnext
      cases hnext
  | @reassemble seen tail out oversized peer rest =>
    refine ⟨tail, peer, rest, rfl, ?_⟩
    by_contra hlt
    have hfits : tail.length ≤ scratchLen := not_lt.mp hlt
    rw [recvStep_reassemble, if_pos hfits] at hnext
    cases hnext

theorem Reading.ne_nil (h : Reading buf wantFrom s q q₀) (hne : q₀ ≠ []) :
    q ≠ [] := by
  cases h with
  | first => exact hne
  | reassemble => exact List.cons_ne_nil _ _

/-- In the loop there is something left to read. -/
theorem Reading.ne_nil_of_isReassembling (h : Reading buf wantFrom s q q₀)
    (hmid : s.isReassembling = true) : q₀ ≠ [] := by
  cases h with
  | first => cases hmid
  | reassemble => exact List.cons_ne_nil _ _

/-- Items that arrive in the meantime do not disturb a call that is under way. -/
theorem Reading.append (h : Reading buf wantFrom s q q₀) (more : List Item) :
    Reading buf wantFrom s (q ++ more) (q₀ ++ more) := by
  cases h with
  | first => exact .first _
  | reassemble hlong htail hover hout => exact .reassemble hlong htail hover hout

/-- Left to itself, a call returns what the atomic read returns. -/
theorem recvMsg_returns (t : Target) (buf : Bytes) (wantFrom : Bool) (q : List Item) :
    (recvMsg t).Returns (recvmsg t) (.first buf wantFrom) q (deliver t buf wantFrom q).1
      (deliver t buf wantFrom q).2 := by
  have hstep : ∀ s k, Reading buf wantFrom s k q →
      Program.StepOk (recvMsg t) (recvmsg t) (Reading buf wantFrom · · q) readVariant
        (fun r k' => (r, k') = deliver t buf wantFrom q) s k := by
    intro s k h
    unfold Program.StepOk
    obtain ⟨s', hnext, hread, hlt⟩ | ⟨hdone, hq⟩ := h.step (t := t)
    · simp only [recvStep] at hnext hread hlt
      rw [hnext]
      exact ⟨hread, hlt⟩
    · simp only [recvStep] at hdone hq
      rw [hdone, hq]
  obtain ⟨r, k', hret, hpost⟩ := Program.returns_of_variant hstep (Reading.first q)
  rwa [← hpost]

theorem recvMsg_returns_iff {r : Received} {q' : List Item} :
    (recvMsg t).Returns (recvmsg t) (.first buf wantFrom) q r q' ↔
      deliver t buf wantFrom q = (r, q') := by
  constructor
  · intro h
    obtain ⟨hr, hq⟩ := h.unique (recvMsg_returns t buf wantFrom q)
    rw [hr, hq]
  · intro h
    have hret := recvMsg_returns t buf wantFrom q
    rwa [h] at hret

/-! ## What an atomic read does -/

/-- The user data in an item. -/
def itemPayload : Item → Bytes
  | .data bytes .. => bytes
  | _ => []

def queuePayload (q : List Item) : Bytes := q.flatMap itemPayload

/-- The bytes of user data that a call handed to its caller. -/
def Received.payload (r : Received) : Bytes :=
  match r.result with
  | .ok (.data len _ _, _) => r.buf.take len
  | _ => []

@[simp] theorem length_overwrite (buf bytes : Bytes) :
    (overwrite buf bytes).length = buf.length := by
  simp only [overwrite, List.length_append, List.length_take, List.length_drop]
  omega

@[simp] theorem queuePayload_cons (item : Item) (q : List Item) :
    queuePayload (item :: q) = itemPayload item ++ queuePayload q := rfl

@[simp] theorem queuePayload_append (q q' : List Item) :
    queuePayload (q ++ q') = queuePayload q ++ queuePayload q' := List.flatMap_append

/-- The part of a notification that has been read holds no user data. -/
theorem Reading.payload {buf : Bytes} {wantFrom : Bool} {st : RecvState} {q vq : List Item}
    (h : Reading buf wantFrom st q vq) : queuePayload q = queuePayload vq := by
  cases h with
  | first => rfl
  | reassemble => rfl

theorem deliver_length_buf (t : Target) (buf : Bytes) (wantFrom : Bool) (q : List Item) :
    (deliver t buf wantFrom q).1.buf.length = buf.length := by
  match q with
  | [] => rfl
  | .eof :: rest => rfl
  | .notification bytes peer :: rest => exact length_overwrite buf bytes
  | .data bytes last info pad peer :: rest => exact length_overwrite buf bytes

theorem Received.payload_ofNotification (buf bytes : Bytes) (peer : SocketAddr) :
    (Received.ofNotification t buf wantFrom bytes peer).payload = [] := by
  cases h : notificationResult t.endian buf.length bytes with
  | error fault => simp [Received.payload, Received.ofNotification, h, Except.map]
  | ok p => simp [Received.payload, Received.ofNotification, h]

theorem Received.payload_ofData (buf bytes : Bytes) (last : Bool) (info : Sys.SctpRcvinfo)
    (peer : SocketAddr) :
    (Received.ofData t buf wantFrom bytes last info peer).payload = bytes.take buf.length := by
  by_cases h : bytes.length ≤ buf.length
  · simp [Received.payload, Received.ofData, overwrite, h, List.take_of_length_le h]
  · have hlt : buf.length < bytes.length := not_le.mp h
    simp [Received.payload, Received.ofData, overwrite, hlt.le, List.drop_of_length_le hlt.le,
      List.take_take]

/-- User data that is taken off the queue is handed to the caller. -/
theorem deliver_payload (t : Target) (buf : Bytes) (wantFrom : Bool) (q : List Item) :
    (deliver t buf wantFrom q).1.payload ++ queuePayload (deliver t buf wantFrom q).2 =
      queuePayload q := by
  match q with
  | [] => rfl
  | .eof :: rest => rfl
  | .notification bytes peer :: rest =>
    simp [deliver, Received.payload_ofNotification, itemPayload]
  | .data bytes last info pad peer :: rest =>
    by_cases h : bytes.length ≤ buf.length
    · simp [deliver, Received.payload_ofData, itemPayload, keepRest_of_le h, List.take_of_length_le h]
    · have hlt : buf.length < bytes.length := not_le.mp h
      simp [deliver, Received.payload_ofData, itemPayload, keepRest_of_lt hlt,
        ← List.append_assoc]

/-- Only an empty queue makes a call report `WouldBlock`: a notification that was
    taken off the queue is never mistaken for it. -/
theorem deliver_wouldBlock (h : (deliver t buf wantFrom q).1.result.isWouldBlock = true) :
    q = [] := by
  match q with
  | [] => rfl
  | .eof :: rest => cases h
  | .data bytes last info pad peer :: rest => cases h
  | .notification bytes peer :: rest =>
    exfalso
    simp only [deliver, Received.ofNotification, notificationResult] at h
    split at h
    · cases h
    · cases hparse : Notification.parse t.endian bytes with
      | ok p =>
        rw [hparse] at h
        cases h
      | error fault =>
        obtain ⟨msg, rfl⟩ := Notification.FailsInvalid.parse t.endian bytes fault hparse
        rw [hparse] at h
        cases h

/-- A notification that is reported is the one at the head of the queue, parsed
    as a whole. -/
theorem deliver_notification {n : Notification} {sender : Option SocketAddr}
    (h : (deliver t buf wantFrom q).1.result = .ok (.notification n, sender)) :
    ∃ bytes peer rest, q = .notification bytes peer :: rest ∧
      Notification.parse t.endian bytes = .ok n := by
  match q with
  | [] => cases h
  | .eof :: rest => cases h
  | .data bytes last info pad peer :: rest => cases h
  | .notification bytes peer :: rest =>
    refine ⟨bytes, peer, rest, rfl, ?_⟩
    simp only [deliver, Received.ofNotification, notificationResult] at h
    split at h
    · cases h
    · cases hparse : Notification.parse t.endian bytes with
      | error fault =>
        rw [hparse] at h
        cases h
      | ok p =>
        rw [hparse] at h
        obtain ⟨rfl, -⟩ : p = n ∧ _ := by simpa using h
        rfl

/-- A read adds no notification to the queue. -/
theorem mem_of_mem_deliver {bytes : Bytes} {peer : SocketAddr}
    (h : .notification bytes peer ∈ (deliver t buf wantFrom q).2) :
    .notification bytes peer ∈ q := by
  match q with
  | [] => exact h
  | .eof :: rest => exact h
  | .notification bytes' peer' :: rest => exact List.mem_cons_of_mem _ h
  | .data bytes' last info pad peer' :: rest =>
    simp only [deliver, keepRest] at h
    split at h
    · exact List.mem_cons_of_mem _ h
    · obtain _ | ⟨_, h⟩ := h
      exact List.mem_cons_of_mem _ h

end Socket

end Lksctp
