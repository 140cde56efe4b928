-- SUMMARY: The metadata of a data read: `recv_msg` reports the last `SCTP_RCVINFO` message and is blind to all other control data.
import Lksctp.Socket.Recv

/-!
# Receive metadata

A data read comes with control messages, of which `recv_msg` looks at one kind.
The others are the kernel's business: they may have any level, type, payload and
padding. `rcvInfo_controlBytes` reduces the loop over the control buffer to the
last message that qualifies, and `decodeRcvinfo` says which of its bytes are
reported as what.
-/

namespace Lksctp

open Rust Machine Kernel

namespace Socket

/-! ## Control data -/

/-- A control message with the bytes that pad it, which need not be zero. -/
structure ControlMessage (t : Target) where
  msg : Cmsg.Message
  pad : Bytes
  length_pad : pad.length = msg.padLen t

def ControlMessage.bytes {t : Target} (c : ControlMessage t) : Bytes := c.msg.layoutWith t c.pad

/-- `cmsg::write` pads with zeros. -/
example (t : Target) (m : Cmsg.Message) :
    ControlMessage.bytes (t := t) ⟨m, zeros _, length_zeros _⟩ = m.layout t := rfl

/-- Control messages back to back. -/
def controlBytes {t : Target} (cs : List (ControlMessage t)) : Bytes := cs.flatMap (·.bytes)

variable {t : Target}

theorem controlBytes_cons (c : ControlMessage t) (cs : List (ControlMessage t)) :
    controlBytes (c :: cs) = c.bytes ++ controlBytes cs := rfl

theorem iter_controlBytes (cs : List (ControlMessage t)) (n : Nat)
    (h : (controlBytes cs).length ≤ t.ptr.isizeMax) :
    Cmsg.iter t (controlBytes cs ++ zeros n) = .ok (cs.map (·.msg)) := by
  induction cs with
  | nil => exact Cmsg.iter_of_none (Cmsg.next_zeros t n)
  | cons c cs ih =>
    have hspace : c.bytes.length = c.msg.space t := Cmsg.Message.length_layoutWith c.length_pad
    rw [controlBytes_cons, List.length_append] at h
    have hfirst : Cmsg.iter t (c.bytes ++ (controlBytes cs ++ zeros n)) =
        (Cmsg.iter t (controlBytes cs ++ zeros n)).map (c.msg :: ·) :=
      Cmsg.iter_layoutWith c.length_pad _ (by omega)
    rw [controlBytes_cons, List.append_assoc, hfirst, ih (by omega)]
    rfl

/-! ## One message -/

/-- The message that carries the metadata: the level, the type, and room for an
    `sctp_rcvinfo`. -/
def isRcvinfo (m : Cmsg.Message) : Bool :=
  m.level = Sys.ipprotoSctp ∧ m.ty = Sys.sctpCmsgRcvinfo ∧ Sys.SctpRcvinfo.size ≤ m.data.length

/-- The bytes of a field of width `n` at offset `off`. -/
def fieldAt (data : Bytes) (off n : Nat) : Bytes := (data.drop off).take n

/-- The fields of an `sctp_rcvinfo` at their offsets. The payload protocol
    identifier is in network order, bytes 6 and 7 are padding. -/
def decodeRcvinfo (e : Endian) (data : Bytes) : RcvInfo where
  sid := e.getU16 (fieldAt data 0 2)
  ssn := e.getU16 (fieldAt data 2 2)
  flags := ⟨e.getU16 (fieldAt data 4 2)⟩
  ppid := ⟨Endian.big.getU32 (fieldAt data 8 4)⟩
  tsn := e.getU32 (fieldAt data 12 4)
  cumtsn := e.getU32 (fieldAt data 16 4)
  context := e.getU32 (fieldAt data 20 4)
  assocId := ⟨e.getI32 (fieldAt data 24 4)⟩

theorem read_of_le (e : Endian) {data : Bytes} (h : Sys.SctpRcvinfo.size ≤ data.length) :
    ∃ raw, Sys.SctpRcvinfo.read e data = .ok raw ∧ RcvInfo.fromSys e raw = decodeRcvinfo e data := by
  have hlen : 28 ≤ data.length := h
  have hppid : ((data.drop 8).take 4).length = 4 := by simp; omega
  simp (disch := omega) only [Sys.SctpRcvinfo.read, slice_ok, Res.ok_bind, Res.pure_eq]
  refine ⟨_, rfl, ?_⟩
  simp [RcvInfo.fromSys, decodeRcvinfo, fieldAt, Ppid.fromWire, Endian.fromBe32_getU32 hppid]

theorem rcvInfoStep_eq (t : Target) (info : Option RcvInfo) (m : Cmsg.Message) :
    rcvInfoStep t info m =
      .ok (if isRcvinfo m then some (decodeRcvinfo t.endian m.data) else info) := by
  unfold rcvInfoStep
  split
  · next h =>
    obtain ⟨raw, hread, hraw⟩ := read_of_le t.endian h.2.2
    simp [isRcvinfo, h, hread, hraw]
  · next h => simp [isRcvinfo, h]

/-- The bytes of a payload that belong to a field of the structure. -/
def rcvinfoFields (data : Bytes) : Bytes := fieldAt data 0 6 ++ fieldAt data 8 20

/-- A field that lies in a range of the structure is determined by that range. -/
theorem fieldAt_congr {data data' : Bytes} {off n i k : Nat}
    (h : fieldAt data off n = fieldAt data' off n) (hik : i + k ≤ n) :
    fieldAt data (off + i) k = fieldAt data' (off + i) k := by
  have hcut := congrArg (fun bs => (bs.drop i).take k) h
  simp only [fieldAt, List.drop_take, List.take_take, List.drop_drop] at hcut
  rwa [min_eq_left (by omega)] at hcut

/-- The decoding depends on the bytes of the fields alone. -/
theorem decodeRcvinfo_congr (e : Endian) {data data' : Bytes}
    (h : Sys.SctpRcvinfo.size ≤ data.length) (h' : Sys.SctpRcvinfo.size ≤ data'.length)
    (hfields : rcvinfoFields data = rcvinfoFields data') :
    decodeRcvinfo e data = decodeRcvinfo e data' := by
  have hlen : 28 ≤ data.length := h
  have hlen' : 28 ≤ data'.length := h'
  obtain ⟨hlow, hhigh⟩ := List.append_inj hfields (by simp [fieldAt]; omega)
  have hsid := fieldAt_congr (i := 0) (k := 2) hlow (by decide)
  have hssn := fieldAt_congr (i := 2) (k := 2) hlow (by decide)
  have hflags := fieldAt_congr (i := 4) (k := 2) hlow (by decide)
  have hppid := fieldAt_congr (i := 0) (k := 4) hhigh (by decide)
  have htsn := fieldAt_congr (i := 4) (k := 4) hhigh (by decide)
  have hcumtsn := fieldAt_congr (i := 8) (k := 4) hhigh (by decide)
  have hcontext := fieldAt_congr (i := 12) (k := 4) hhigh (by decide)
  have hassoc := fieldAt_congr (i := 16) (k := 4) hhigh (by decide)
  simp only [decodeRcvinfo, hsid, hssn, hflags, hppid, htsn, hcumtsn, hcontext, hassoc]

/-! ## The loop over the messages -/

/-- The accumulator ends up with the last message that qualifies. -/
theorem foldlM_rcvInfoStep (t : Target) (ms : List Cmsg.Message) (info : Option RcvInfo) :
    ms.foldlM (rcvInfoStep t) info =
      .ok (((ms.filter isRcvinfo).getLast?.map fun m => decodeRcvinfo t.endian m.data).or info) := by
  induction ms generalizing info with
  | nil => simp
  | cons m ms ih =>
    rw [List.foldlM_cons, rcvInfoStep_eq, Res.ok_bind, ih]
    cases h : isRcvinfo m with
    | true =>
      rw [List.filter_cons_of_pos h, List.getLast?_cons]
      cases (ms.filter isRcvinfo).getLast? <;> simp
    | false => simp [h]

/-- The metadata messages of a control buffer. -/
def rcvinfoMessages (cs : List (ControlMessage t)) : List Cmsg.Message :=
  (cs.map (·.msg)).filter isRcvinfo

/-- What the control data of a read is reported as. -/
def reportedInfo (cs : List (ControlMessage t)) : Option RcvInfo :=
  (rcvinfoMessages cs).getLast?.map fun m => decodeRcvinfo t.endian m.data

theorem rcvInfo_controlBytes (cs : List (ControlMessage t)) (n : Nat)
    (h : (controlBytes cs).length ≤ t.ptr.isizeMax) :
    rcvInfo t (controlBytes cs ++ zeros n) = .ok (reportedInfo cs) := by
  rw [rcvInfo, iter_controlBytes cs n h, Res.ok_bind, foldlM_rcvInfoStep, Option.or_none]
  rfl

theorem reportedInfo_eq_none_iff (cs : List (ControlMessage t)) :
    reportedInfo cs = none ↔ ∀ c ∈ cs, ¬ isRcvinfo c.msg := by
  simp [reportedInfo, rcvinfoMessages]

theorem reportedInfo_congr {cs cs' : List (ControlMessage t)}
    (h : (rcvinfoMessages cs).map (fun m => rcvinfoFields m.data) =
      (rcvinfoMessages cs').map fun m => rcvinfoFields m.data) :
    reportedInfo cs = reportedInfo cs' := by
  have hsize : ∀ cs : List (ControlMessage t), ∀ m ∈ (rcvinfoMessages cs).getLast?,
      Sys.SctpRcvinfo.size ≤ m.data.length := by
    intro cs m hm
    have hmem : isRcvinfo m := (List.mem_filter.mp (List.mem_of_getLast? hm)).2
    simp only [isRcvinfo, decide_eq_true_eq] at hmem
    exact hmem.2.2
  have hlast := congrArg List.getLast? h
  rw [List.getLast?_map, List.getLast?_map] at hlast
  unfold reportedInfo
  cases hm : (rcvinfoMessages cs).getLast? with
  | none =>
    rw [hm, Option.map_none, eq_comm, Option.map_eq_none_iff] at hlast
    rw [hlast]
  | some m =>
    rw [hm, Option.map_some, eq_comm, Option.map_eq_some_iff] at hlast
    obtain ⟨m', hm', hfields⟩ := hlast
    rw [hm', Option.map_some, Option.map_some,
      decodeRcvinfo_congr t.endian (hsize cs m hm) (hsize cs' m' hm') hfields.symm]

/-! ## Reading data -/

/-- A reply to the first `recvmsg(2)` that carries data: any control messages,
    zero bytes behind them, all within the control buffer. -/
structure DataReply (t : Target) where
  bytes : Bytes
  flags : Int32
  messages : List (ControlMessage t)
  zeroed : Nat
  name : Bytes
  data : flags &&& Sys.msgNotification = 0
  fits : (controlBytes messages).length + zeroed ≤ rcvCmsgSpace

def DataReply.recvOut (r : DataReply t) : RecvOut where
  bytes := r.bytes
  flags := r.flags
  control := controlBytes r.messages ++ zeros r.zeroed
  name := r.name

/-- The `info` of the data that a call has returned. -/
def infoOf : Step RecvState Received → Option (Option RcvInfo)
  | .done ⟨.ok (.data _ info _, _), _⟩ => some info
  | _ => none

theorem infoOf_recvMsg (buf : Bytes) (wantFrom : Bool) (r : DataReply t) :
    infoOf ((recvMsg t).resume (.first buf wantFrom) (.ok r.recvOut)) =
      some (reportedInfo r.messages) := by
  have hmax : rcvCmsgSpace ≤ t.ptr.isizeMax := by cases t.ptr <;> decide
  have hfits := r.fits
  have hinfo : rcvInfo t r.recvOut.control = .ok (reportedInfo r.messages) :=
    rcvInfo_controlBytes r.messages r.zeroed (by omega)
  have hdata : r.recvOut.flags &&& Sys.msgNotification = 0 := r.data
  obtain ⟨sender, hsender⟩ : ∃ sender, senderOf t wantFrom r.recvOut.name = .ok sender := by
    unfold senderOf
    split
    · obtain ⟨o, ho⟩ := Addr.readSockaddr_total t.endian r.recvOut.name
      exact ⟨o.map Prod.fst, by rw [ho]; rfl⟩
    · exact ⟨none, rfl⟩
  simp [recvMsg, firstStep, hsender, hdata, hinfo, infoOf]

/-- A data read reports the last `SCTP_RCVINFO` message that is long enough, field
    by field, and nothing when there is none. Two reads whose metadata messages agree
    in the bytes of their fields report the same, whatever other messages, payloads
    and padding stand around them. -/
theorem recvMsg_reports_last_rcvinfo (t : Target) (buf : Bytes) (wantFrom : Bool)
    (r : DataReply t) :
    infoOf ((recvMsg t).resume (.first buf wantFrom) (.ok r.recvOut)) =
      some ((rcvinfoMessages r.messages).getLast?.map fun m => decodeRcvinfo t.endian m.data) ∧
    (infoOf ((recvMsg t).resume (.first buf wantFrom) (.ok r.recvOut)) = some none ↔
      ∀ c ∈ r.messages, ¬ isRcvinfo c.msg) ∧
    ∀ (buf' : Bytes) (wantFrom' : Bool) (r' : DataReply t),
      (rcvinfoMessages r'.messages).map (fun m => rcvinfoFields m.data) =
        (rcvinfoMessages r.messages).map (fun m => rcvinfoFields m.data) →
      infoOf ((recvMsg t).resume (.first buf' wantFrom') (.ok r'.recvOut)) =
        infoOf ((recvMsg t).resume (.first buf wantFrom) (.ok r.recvOut)) := by
  refine ⟨infoOf_recvMsg buf wantFrom r, ?_, ?_⟩
  · rw [infoOf_recvMsg, Option.some_inj]
    exact reportedInfo_eq_none_iff r.messages
  · intro buf' wantFrom' r' hsame
    rw [infoOf_recvMsg, infoOf_recvMsg, reportedInfo_congr hsame]

end Socket

end Lksctp
