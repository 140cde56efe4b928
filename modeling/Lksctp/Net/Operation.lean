-- SUMMARY: The asynchronous operations, one system call at a time, and what it means that a call of one of them was a single operation.
import Lksctp.Net.Common
import Lksctp.Socket.Lifecycle
import Lksctp.Socket.Send

/-!
# Asynchronous operations

`recv_msg`, `recv_msg_from`, `accept`, `send_msg` and `send_msg_to` run a closure
under `try_io`. The closures of the last three do one system call on the socket;
`accept` then sets an option on the socket that it has got, and a receive reads
the rest of a long notification. Waiting for readiness does not fail, and neither
does what `accept` does with the socket that it has got.

`Effect` is an operation as one step on the kernel's side of the socket, together
with the system calls that it is made of. `Underway` relates a future that has not
completed to the step that it will turn out to be: the socket is still in the
state `v` for everybody else, although some of the calls have been made.
-/

namespace Lksctp

open Rust Machine Kernel Socket

namespace Net

/-! ## The kernel's side -/

/-- An association that waits for `accept4(2)`. -/
structure Conn where
  fd : Int32
  peer : SocketAddr
  deriving DecidableEq

structure SocketSt where
  queue : List Item
  backlog : List Conn
  /-- What `sendmsg(2)` has taken over, in order. -/
  sent : List SendReq
  deriving DecidableEq

/-- How a system call is answered: with what it is for, by `EAGAIN`, or by another
    error; the last two have no effect. -/
inductive Answer where
  | perform
  | refuse
  | fail (e : Errno)
  deriving DecidableEq

def Answer.choose {R K : Type} (how : Answer) (performed : Except Errno R × K) (k : K) :
    Except Errno R × K :=
  match how with
  | .perform => performed
  | .refuse => (.error Errno.eagain, k)
  | .fail e => (.error e, k)

/-- `accept4(2)` on a non-blocking socket: the new descriptor and the peer's name. -/
def accept4 (t : Target) : List Conn → Except Errno (Int32 × Bytes) × List Conn
  | [] => (.error Errno.eagain, [])
  | conn :: rest => (.ok (conn.fd, conn.peer.layout t.endian), rest)

/-- `sendmsg(2)` takes over a message as a whole. -/
def sendmsg (sent : List SendReq) (req : SendReq) : Except Errno Nat × List SendReq :=
  (.ok req.payload.length, sent ++ [req])

/-- A system call on the socket and its reply. -/
inductive Call where
  | recvmsg (req : RecvReq) (reply : Except Errno RecvOut)
  | accept4 (reply : Except Errno (Int32 × Bytes))
  | sendmsg (req : SendReq) (reply : Except Errno Nat)
  deriving DecidableEq

def replyWouldBlock {R : Type} : Except Errno R → Bool
  | .error e => e = Errno.eagain
  | .ok _ => false

def Call.wouldBlock : Call → Bool
  | .recvmsg _ reply => replyWouldBlock reply
  | .accept4 reply => replyWouldBlock reply
  | .sendmsg _ reply => replyWouldBlock reply

/-! ## The closures -/

inductive Op where
  /-- `recv_msg`, or `recv_msg_from`, which also asks for the sender. -/
  | recv (buf : Bytes) (wantFrom : Bool)
  | accept
  /-- `send_msg`, or `send_msg_to`, which has a destination. -/
  | send (buf : Bytes) (dest : Option SocketAddr) (info : SendInfo)
  deriving DecidableEq

inductive Outcome where
  | received (out : Received)
  | accepted (result : Res (Int32 × SocketAddr))
  | sent (result : Res Nat)
  deriving DecidableEq

def Outcome.isWouldBlock : Outcome → Bool
  | .received out => out.result.isWouldBlock
  | .accepted result => result.isWouldBlock
  | .sent result => result.isWouldBlock

/-- Before which system call a closure is. -/
inductive OpState where
  | recv (s : RecvState)
  | accept4
  /-- `accept_with_flags` has got a socket and sets `SCTP_RECVRCVINFO` on it. -/
  | enableRcvinfo (fd : Int32) (name : Bytes)
  | send (buf : Bytes) (dest : Option SocketAddr) (info : SendInfo)

def Op.start : Op → OpState
  | .recv buf wantFrom => .recv (.first buf wantFrom)
  | .accept => .accept4
  | .send buf dest info => .send buf dest info

/-- The closure for the next attempt; a receive keeps the caller's buffer. -/
def Op.again (op : Op) (outcome : Outcome) : OpState :=
  match op, outcome with
  | .recv _ wantFrom, .received out => .recv (.first out.buf wantFrom)
  | op, _ => op.start

/-- `accept_with_flags` after `accept4(2)` and the option. -/
def acceptResult (t : Target) (fd : Int32) (name : Bytes) : Res (Int32 × SocketAddr) := do
  let peer ← Res.okOr ((← Addr.readSockaddr t.endian name).map Prod.fst) badPeerSockaddr
  pure (fd, peer)

def recvOutcome : Step RecvState Received → Step OpState Outcome
  | .next s => .next (.recv s)
  | .done out => .done (.received out)

/-- One system call of a closure, with the call if it was made on this socket. -/
def callStep (t : Target) (k : SocketSt) (how : Answer) :
    OpState → Step OpState Outcome × SocketSt × Option Call
  | .recv s =>
    let req := (recvMsg t).request s
    let (reply, queue) := how.choose (recvmsg t k.queue req) k.queue
    (recvOutcome ((recvMsg t).resume s reply), { k with queue }, some (.recvmsg req reply))
  | .accept4 =>
    let (reply, backlog) := how.choose (accept4 t k.backlog) k.backlog
    let result := match reply with
      | .error e => .done (.accepted (Res.err (.os e)))
      | .ok (fd, name) => .next (.enableRcvinfo fd name)
    (result, { k with backlog }, some (.accept4 reply))
  | .enableRcvinfo fd name => (.done (.accepted (acceptResult t fd name)), k, none)
  | .send buf dest info =>
    match sendRequest t buf dest info with
    | .error fault => (.done (.sent (.error fault)), k, none)
    | .ok req =>
      let (reply, sent) := how.choose (sendmsg k.sent req) k.sent
      (.done (.sent (sendResult reply)), { k with sent }, some (.sendmsg req reply))

/-- `try_io` around the closure of `op`. -/
def Op.tryIo (op : Op) : Step OpState Outcome → Step (Attempt OpState) Outcome :=
  Net.tryIo Outcome.isWouldBlock op.again

/-- What the code relies on: no `EAGAIN` while the rest of a notification is queued,
    and the option can be set on a socket that was just accepted. -/
def Answer.allowed : Answer → OpState → Bool
  | .perform, _ => true
  | .refuse, .recv s => !s.isReassembling
  | .refuse, .accept4 | .refuse, .send .. => true
  | .refuse, .enableRcvinfo .. => false
  | .fail _, .enableRcvinfo .. => false
  | .fail e, _ => e ≠ Errno.eagain

/-! ## One operation -/

/-- The calls read the notification at the head of `q`, one after another and not
    to its end; `q'` is what they leave. -/
inductive Chunks (t : Target) (q : List Item) : List Call → List Item → Prop where
  | nil : Chunks t q [] q
  | snoc {calls : List Call} {bytes : Bytes} {peer : SocketAddr} {rest q' : List Item}
      {req : RecvReq} {reply : Except Errno RecvOut}
      (h : Chunks t q calls (.notification bytes peer :: rest)) (hpart : req.iovLen < bytes.length)
      (hcall : recvmsg t (.notification bytes peer :: rest) req = (reply, q')) :
      Chunks t q (calls ++ [.recvmsg req reply]) q'

/-- One operation of each kind: the state of the socket before it, the calls that
    it consists of, what it returns, and the state after it. -/
inductive Effect (t : Target) : Op → SocketSt → List Call → Outcome → SocketSt → Prop where
  /-- An item is read by one call, or a notification by the last one of several. -/
  | recv {buf : Bytes} {wantFrom : Bool} {v : SocketSt} {part : List Call} {q : List Item}
      {req : RecvReq} {reply : Except Errno RecvOut} (hne : v.queue ≠ [])
      (hpart : Chunks t v.queue part q)
      (hlast : recvmsg t q req = (reply, (deliver t buf wantFrom v.queue).2)) :
      Effect t (.recv buf wantFrom) v (part ++ [.recvmsg req reply])
        (.received (deliver t buf wantFrom v.queue).1)
        { v with queue := (deliver t buf wantFrom v.queue).2 }
  /-- The call fails, or a later one of the calls for a notification does. -/
  | recvFailed {buf buf' : Bytes} {wantFrom : Bool} {v : SocketSt} {part : List Call}
      {q : List Item} {req : RecvReq} {e : Errno} (he : e ≠ Errno.eagain)
      (hpart : Chunks t v.queue part q) :
      Effect t (.recv buf wantFrom) v (part ++ [.recvmsg req (.error e)])
        (.received ⟨Res.err (.os e), buf'⟩) { v with queue := q }
  | accept {v : SocketSt} {conn : Conn} {rest : List Conn} (h : v.backlog = conn :: rest) :
      Effect t .accept v [.accept4 (.ok (conn.fd, conn.peer.layout t.endian))]
        (.accepted (.ok (conn.fd, conn.peer))) { v with backlog := rest }
  | acceptFailed {v : SocketSt} {e : Errno} (he : e ≠ Errno.eagain) :
      Effect t .accept v [.accept4 (.error e)] (.accepted (Res.err (.os e))) v
  | send {buf : Bytes} {dest : Option SocketAddr} {info : SendInfo} {v : SocketSt} {req : SendReq}
      (hreq : sendRequest t buf dest info = .ok req) :
      Effect t (.send buf dest info) v [.sendmsg req (.ok buf.length)] (.sent (.ok buf.length))
        { v with sent := v.sent ++ [req] }
  | sendFailed {buf : Bytes} {dest : Option SocketAddr} {info : SendInfo} {v : SocketSt}
      {req : SendReq} {e : Errno} (hreq : sendRequest t buf dest info = .ok req)
      (he : e ≠ Errno.eagain) :
      Effect t (.send buf dest info) v [.sendmsg req (.error e)] (.sent (Res.err (.os e))) v

/-- A future that has made the effective calls `calls`; the socket is in the state
    `k`, and would be in `v` without them. -/
inductive Underway (t : Target) :
    Op → Attempt OpState → List Call → SocketSt → SocketSt → Prop where
  | waiting (op : Op) (v : SocketSt) : Underway t op (.waiting op.start) [] v v
  | running (op : Op) (v : SocketSt) : Underway t op (.running op.start) [] v v
  | reading {buf : Bytes} {wantFrom : Bool} {s : RecvState} {calls : List Call} {q : List Item}
      {v : SocketSt} (hread : Reading buf wantFrom s q v.queue) (hmid : s.isReassembling = true)
      (hpart : Chunks t v.queue calls q) :
      Underway t (.recv buf wantFrom) (.running (.recv s)) calls { v with queue := q } v
  | accepted {v : SocketSt} {conn : Conn} {rest : List Conn} (h : v.backlog = conn :: rest) :
      Underway t .accept (.running (.enableRcvinfo conn.fd (conn.peer.layout t.endian)))
        [.accept4 (.ok (conn.fd, conn.peer.layout t.endian))] { v with backlog := rest } v

/-! ## Replies -/

variable {t : Target} {op : Op} {position : Attempt OpState} {st : OpState} {calls : List Call}
  {k v : SocketSt} {how : Answer} {q : List Item} {req : RecvReq} {buf : Bytes} {wantFrom : Bool}
  {s : RecvState}

/-- The calls that were not answered by `EAGAIN`. -/
def effective (call : Option Call) : List Call := call.toList.filter fun c => !c.wouldBlock

theorem effective_of_not {c : Call} (h : c.wouldBlock = false) : effective (some c) = [c] := by
  simp [effective, h]

theorem isWouldBlock_os {α : Type} (e : Errno) :
    (Res.err (.os e) : Res α).isWouldBlock = decide (e = Errno.eagain) := by
  by_cases h : e = Errno.eagain
  · simp [Res.isWouldBlock, Res.err, IoError.kind, h]
  · simp only [Res.isWouldBlock, Res.err, IoError.kind, h, if_false, decide_false]
    split_ifs <;> rfl

/-- `recvmsg(2)` has something to return when there is something in the queue. -/
theorem recvmsg_ok (t : Target) (hq : q ≠ []) (req : RecvReq) :
    ∃ out, (recvmsg t q req).1 = .ok out := by
  match q with
  | [] => exact absurd rfl hq
  | .eof :: rest => exact ⟨_, rfl⟩
  | .notification bytes peer :: rest => exact ⟨_, rfl⟩
  | .data bytes last info pad peer :: rest => exact ⟨_, rfl⟩

theorem recvmsg_append (t : Target) (hq : q ≠ []) (req : RecvReq) (more : List Item) :
    recvmsg t (q ++ more) req = ((recvmsg t q req).1, (recvmsg t q req).2 ++ more) := by
  match q with
  | [] => exact absurd rfl hq
  | .eof :: rest => rfl
  | .notification bytes peer :: rest =>
    simp only [recvmsg, List.cons_append, keepRest_append]
  | .data bytes last info pad peer :: rest =>
    simp only [recvmsg, List.cons_append, keepRest_append]

theorem Chunks.append {q' : List Item} (h : Chunks t q calls q') (more : List Item) :
    Chunks t (q ++ more) calls (q' ++ more) := by
  induction h with
  | nil => exact .nil
  | snoc h hpart hcall ih =>
    rw [List.cons_append] at ih
    refine .snoc ih hpart ?_
    rw [← List.cons_append, recvmsg_append t (List.cons_ne_nil _ _), hcall]

/-- A failed system call ends a receive with its error. -/
theorem resume_error (t : Target) (s : RecvState) (e : Errno) :
    ∃ buf', (recvMsg t).resume s (.error e) = .done ⟨Res.err (.os e), buf'⟩ := by
  cases s with
  | first buf wantFrom => exact ⟨buf, rfl⟩
  | reassemble buf sender out oversized => exact ⟨buf, rfl⟩

/-! ## One system call of a future -/

/-- A call that leaves the closure of `op` in `result` and the socket in `k'`: the
    future is still under way, or it has completed as one operation on `v`. -/
def CallOk (t : Target) (op : Op) (calls : List Call) (v : SocketSt) (result : Step OpState Outcome)
    (k' : SocketSt) : Prop :=
  match op.tryIo result with
  | .next position => Underway t op position calls k' v
  | .done outcome => Effect t op v calls outcome k'

theorem CallOk.of_next (h : Underway t op (.running st) calls k v) :
    CallOk t op calls v (.next st) k := h

theorem CallOk.of_done {outcome : Outcome} (hblock : outcome.isWouldBlock = false)
    (h : Effect t op v calls outcome k) : CallOk t op calls v (.done outcome) k := by
  simpa only [CallOk, Op.tryIo, tryIo, hblock, Bool.false_eq_true, if_false] using h

/-- After `EAGAIN` the future waits again, with the closure it had. -/
theorem CallOk.of_wouldBlock {outcome : Outcome} (hblock : outcome.isWouldBlock = true)
    (hagain : op.again outcome = op.start) : CallOk t op [] v (.done outcome) v := by
  simp only [CallOk, Op.tryIo, tryIo, hblock, if_true, hagain]
  exact .waiting op v

theorem CallOk.recv_perform (hread : Reading buf wantFrom s q v.queue) (hne : v.queue ≠ [])
    (hpart : Chunks t v.queue calls q) :
    CallOk t (.recv buf wantFrom)
      (calls ++ [.recvmsg ((recvMsg t).request s) (recvmsg t q ((recvMsg t).request s)).1]) v
      (recvOutcome (recvStep t s q).1) { v with queue := (recvStep t s q).2 } := by
  obtain ⟨s', hnext, hread', -⟩ | ⟨hdone, hq⟩ := hread.step (t := t)
  · rw [hnext]
    obtain ⟨bytes, peer, rest, rfl, hlt⟩ := hread.part_of_next hnext
    exact .of_next (.reading hread' (isReassembling_of_recvStep hnext) (.snoc hpart hlt rfl))
  · rw [hdone, hq]
    apply CallOk.of_done
    · cases hblock : (deliver t buf wantFrom v.queue).1.result.isWouldBlock with
      | true => exact absurd (deliver_wouldBlock hblock) hne
      | false => exact hblock
    · exact .recv hne hpart (Prod.ext rfl hq)

theorem CallOk.recv_fail {e : Errno} (he : e ≠ Errno.eagain) (hpart : Chunks t v.queue calls q)
    (s : RecvState) (req : RecvReq) :
    CallOk t (.recv buf wantFrom) (calls ++ [.recvmsg req (.error e)]) v
      (recvOutcome ((recvMsg t).resume s (.error e))) { v with queue := q } := by
  obtain ⟨buf', hresume⟩ := resume_error t s e
  rw [hresume]
  apply CallOk.of_done
  · simpa [Outcome.isWouldBlock, isWouldBlock_os] using he
  · exact .recvFailed he hpart

/-- A system call of a receive that is answered. -/
theorem CallOk.recv (hread : Reading buf wantFrom s q v.queue)
    (hne : how = .perform → v.queue ≠ []) (hpart : Chunks t v.queue calls q)
    (hrefuse : how ≠ .refuse) (hallowed : how.allowed (.recv s) = true) :
    CallOk t (.recv buf wantFrom)
      (calls ++ effective (callStep t { v with queue := q } how (.recv s)).2.2) v
      (callStep t { v with queue := q } how (.recv s)).1
      (callStep t { v with queue := q } how (.recv s)).2.1 := by
  cases how with
  | refuse => exact absurd rfl hrefuse
  | perform =>
    obtain ⟨out, hreply⟩ := recvmsg_ok t (hread.ne_nil (hne rfl)) ((recvMsg t).request s)
    have hok : replyWouldBlock (recvmsg t q ((recvMsg t).request s)).1 = false := by
      rw [hreply]
      rfl
    have hcalls : effective (callStep t { v with queue := q } .perform (.recv s)).2.2 =
        [.recvmsg ((recvMsg t).request s) (recvmsg t q ((recvMsg t).request s)).1] :=
      effective_of_not hok
    rw [hcalls]
    exact CallOk.recv_perform hread (hne rfl) hpart
  | fail e =>
    have he : e ≠ Errno.eagain := of_decide_eq_true hallowed
    have hcalls : effective (callStep t { v with queue := q } (.fail e) (.recv s)).2.2 =
        [.recvmsg ((recvMsg t).request s) (.error e)] :=
      effective_of_not (decide_eq_false he)
    rw [hcalls]
    exact CallOk.recv_fail he hpart s _

/-- The first system call of a receive, which may find nothing to read. -/
theorem CallOk.recv_first (v : SocketSt)
    (hallowed : how.allowed (.recv (.first buf wantFrom)) = true) :
    CallOk t (.recv buf wantFrom) (effective (callStep t v how (.recv (.first buf wantFrom))).2.2) v
      (callStep t v how (.recv (.first buf wantFrom))).1
      (callStep t v how (.recv (.first buf wantFrom))).2.1 := by
  obtain ⟨queue, backlog, sent⟩ := v
  cases how with
  | refuse => exact CallOk.of_wouldBlock rfl rfl
  | fail e =>
    apply CallOk.recv (v := ⟨queue, backlog, sent⟩) (.first queue) _ .nil _ hallowed
    · intro h
      cases h
    · intro h
      cases h
  | perform =>
    cases queue with
    | nil => exact CallOk.of_wouldBlock rfl rfl
    | cons item rest =>
      apply CallOk.recv (v := ⟨item :: rest, backlog, sent⟩) (.first _) _ .nil _ hallowed
      · intro _
        exact List.cons_ne_nil _ _
      · intro h
        cases h

/-- The peer's name is read back as its address. -/
theorem acceptResult_layout (t : Target) (fd : Int32) (peer : SocketAddr) :
    acceptResult t fd (peer.layout t.endian) = .ok (fd, peer) := by
  have hread := Addr.readSockaddr_layout t.endian peer []
  rw [List.append_nil] at hread
  simp [acceptResult, hread]

theorem CallOk.accept4 (v : SocketSt) (hallowed : how.allowed .accept4 = true) :
    CallOk t .accept (effective (callStep t v how .accept4).2.2) v (callStep t v how .accept4).1
      (callStep t v how .accept4).2.1 := by
  cases how with
  | refuse => exact CallOk.of_wouldBlock rfl rfl
  | fail e =>
    have he : e ≠ Errno.eagain := of_decide_eq_true hallowed
    have hcalls : effective (callStep t v (.fail e) .accept4).2.2 = [.accept4 (.error e)] :=
      effective_of_not (decide_eq_false he)
    rw [hcalls]
    apply CallOk.of_done
    · simpa [Outcome.isWouldBlock, isWouldBlock_os] using he
    · exact .acceptFailed he
  | perform =>
    obtain ⟨queue, backlog, sent⟩ := v
    cases backlog with
    | nil => exact CallOk.of_wouldBlock rfl rfl
    | cons conn rest => exact CallOk.of_next (.accepted rfl)

theorem CallOk.enableRcvinfo {conn : Conn} {rest : List Conn} (h : v.backlog = conn :: rest) :
    CallOk t .accept [.accept4 (.ok (conn.fd, conn.peer.layout t.endian))] v
      (.done (.accepted (acceptResult t conn.fd (conn.peer.layout t.endian))))
      { v with backlog := rest } := by
  rw [acceptResult_layout]
  exact CallOk.of_done rfl (.accept h)

theorem CallOk.send (v : SocketSt) {dest : Option SocketAddr} {info : SendInfo}
    (hallowed : how.allowed (.send buf dest info) = true) :
    CallOk t (.send buf dest info) (effective (callStep t v how (.send buf dest info)).2.2) v
      (callStep t v how (.send buf dest info)).1 (callStep t v how (.send buf dest info)).2.1 := by
  have hreq := sendRequest_eq t buf dest info
  simp only [callStep, hreq]
  cases how with
  | refuse => exact CallOk.of_wouldBlock rfl rfl
  | perform => exact CallOk.of_done rfl (.send hreq)
  | fail e =>
    have he : e ≠ Errno.eagain := of_decide_eq_true hallowed
    have hnot : ∀ req, (Call.sendmsg req (.error e)).wouldBlock = false :=
      fun _ => decide_eq_false he
    simp only [Answer.choose, effective_of_not (hnot _)]
    apply CallOk.of_done
    · simpa [Outcome.isWouldBlock, sendResult, isWouldBlock_os] using he
    · exact .sendFailed hreq he

/-- Every system call of a future keeps it under way or completes it as one
    operation. -/
theorem Underway.call (h : Underway t op (.running st) calls k v)
    (hallowed : how.allowed st = true) :
    CallOk t op (calls ++ effective (callStep t k how st).2.2) v (callStep t k how st).1
      (callStep t k how st).2.1 := by
  cases h with
  | accepted hbacklog => exact CallOk.enableRcvinfo hbacklog
  | @reading buf wantFrom s _ q _ hread hmid hpart =>
    apply CallOk.recv hread (fun _ => hread.ne_nil_of_isReassembling hmid) hpart _ hallowed
    rintro rfl
    rw [Answer.allowed, hmid] at hallowed
    cases hallowed
  | running =>
    cases op with
    | accept => exact CallOk.accept4 k hallowed
    | send buf dest info => exact CallOk.send k hallowed
    | recv buf wantFrom => exact CallOk.recv_first k hallowed

/-! ## What happens beside a future -/

def SocketSt.arrive (k : SocketSt) (item : Item) : SocketSt :=
  { k with queue := k.queue ++ [item] }

def SocketSt.incoming (k : SocketSt) (conn : Conn) : SocketSt :=
  { k with backlog := k.backlog ++ [conn] }

def SocketSt.addSent (k : SocketSt) (reqs : List SendReq) : SocketSt :=
  { k with sent := k.sent ++ reqs }

theorem Underway.arrive (h : Underway t op position calls k v) (item : Item) :
    Underway t op position calls (k.arrive item) (v.arrive item) := by
  cases h with
  | waiting => exact .waiting op _
  | running => exact .running op _
  | reading hread hmid hpart =>
    exact .reading (v := v.arrive item) (hread.append [item]) hmid (hpart.append [item])
  | accepted hbacklog => exact .accepted (v := v.arrive item) hbacklog

theorem Underway.incoming (h : Underway t op position calls k v) (conn : Conn) :
    Underway t op position calls (k.incoming conn) (v.incoming conn) := by
  cases h with
  | waiting => exact .waiting op _
  | running => exact .running op _
  | reading hread hmid hpart => exact .reading (v := v.incoming conn) hread hmid hpart
  | accepted hbacklog =>
    apply Underway.accepted (v := v.incoming conn)
    rw [SocketSt.incoming, hbacklog]
    rfl

theorem Underway.addSent (h : Underway t op position calls k v) (reqs : List SendReq) :
    Underway t op position calls (k.addSent reqs) (v.addSent reqs) := by
  cases h with
  | waiting => exact .waiting op _
  | running => exact .running op _
  | reading hread hmid hpart => exact .reading (v := v.addSent reqs) hread hmid hpart
  | accepted hbacklog => exact .accepted (v := v.addSent reqs) hbacklog

/-- Suspended, a future has done nothing. -/
theorem Underway.eq_of_waiting (h : Underway t op (.waiting st) calls k v) :
    calls = [] ∧ st = op.start ∧ k = v := by
  cases h
  exact ⟨rfl, rfl, rfl⟩

theorem Underway.wake (h : Underway t op (.waiting st) calls k v) :
    Underway t op (.running st) calls k v := by
  cases h
  exact .running op k

/-- A send that has not completed has done nothing. -/
theorem Underway.eq_of_send {dest : Option SocketAddr} {info : SendInfo}
    (h : Underway t (.send buf dest info) position calls k v) :
    calls = [] ∧ k = v ∧ ∀ k', Underway t (.send buf dest info) position [] k' k' := by
  cases h with
  | waiting => exact ⟨rfl, rfl, .waiting _⟩
  | running => exact ⟨rfl, rfl, .running _⟩

/-- A send does nothing but to hand over a message, whatever else is going on. -/
theorem Effect.eq_addSent {dest : Option SocketAddr} {info : SendInfo} {outcome : Outcome}
    (h : Effect t (.send buf dest info) v calls outcome k) :
    ∃ reqs, k = v.addSent reqs ∧
      ∀ v', Effect t (.send buf dest info) v' calls outcome (v'.addSent reqs) := by
  cases h with
  | send hreq => exact ⟨_, rfl, fun v' => .send hreq⟩
  | sendFailed hreq he =>
    have hnone : ∀ v' : SocketSt, v'.addSent [] = v' := by simp [SocketSt.addSent]
    refine ⟨[], (hnone _).symm, fun v' => ?_⟩
    rw [hnone]
    exact .sendFailed hreq he

end Net

end Lksctp
