-- SUMMARY: Two hosts and an association between them: the messages that one application sends are those that the other collects.
import Lksctp.Machine.Relay
import Lksctp.Net.Delivery
import Lksctp.Socket.Reads
import Lksctp.Socket.Send

/-!
# Messages from end to end

One application sends messages with `send_msg`, and the other one receives with
`recv_msg` and collects fragments until `eor` is true. Between them are the two
kernels. They hand messages over in the order of their streams, deliver a long one
in pieces, and queue notifications wherever they like.

The hosts need not have the same byte order or pointer width. What goes from one to
the other are the payload and the metadata that the sender's kernel has found in the
control data.
-/

namespace Lksctp

open Rust Machine Kernel Socket

namespace Sys

def sctpUnordered : UInt16 := 1
def sctpAddrOver : UInt16 := 2
def sctpSackImmediately : UInt16 := 8

end Sys

namespace Net

/-! ## Collecting -/

/-- A message as the receiving application has it in the end. -/
structure Collected where
  payload : Bytes
  stream : Option (UInt16 × Ppid)
  deriving DecidableEq, Repr

/-- The messages that are complete, and the fragments of the next one. -/
structure Collector where
  complete : List Collected
  fragments : Bytes
  deriving DecidableEq, Repr

namespace Collector

def empty : Collector where
  complete := []
  fragments := []

/-- A fragment, with the metadata it came with. -/
def add (c : Collector) (bytes : Bytes) (info : Option RcvInfo) (eor : Bool) : Collector :=
  if eor then
    { complete := c.complete ++ [⟨c.fragments ++ bytes, info.map fun i => (i.sid, i.ppid)⟩]
      fragments := [] }
  else { c with fragments := c.fragments ++ bytes }

/-- What the application does with the result of a `recv_msg`. -/
def receive (c : Collector) (out : Received) : Collector :=
  match out.result with
  | .ok (.data len info eor, _) => c.add (out.buf.take len) info eor
  | _ => c

/-- The same with a whole item of the queue. -/
def take (e : Endian) (c : Collector) : Item → Collector
  | .data bytes last info _ _ => c.add bytes (some (RcvInfo.fromSys e info)) last
  | _ => c

variable {t : Target} {e : Endian}

theorem add_add (c : Collector) (bytes bytes' : Bytes) (info info' : Option RcvInfo) (eor : Bool) :
    (c.add bytes info false).add bytes' info' eor = c.add (bytes ++ bytes') info' eor := by
  cases eor with
  | true => simp [add]
  | false => simp [add]

theorem complete_prefix_add (c : Collector) (bytes : Bytes) (info : Option RcvInfo) (eor : Bool) :
    c.complete <+: (c.add bytes info eor).complete := by
  cases eor with
  | true => exact List.prefix_append _ _
  | false => exact List.prefix_rfl

theorem complete_prefix_foldl (c : Collector) (items : List Item) :
    c.complete <+: (items.foldl (take e) c).complete := by
  induction items generalizing c with
  | nil => exact List.prefix_rfl
  | cons item items ih =>
    refine List.IsPrefix.trans ?_ (ih (c.take e item))
    cases item with
    | data bytes last info pad peer => exact complete_prefix_add c ..
    | notification | eof => exact List.prefix_rfl

/-- A read does not change what can be collected: what it returns and what it leaves make up
    what was there. -/
theorem foldl_deliver (c : Collector) (buf : Bytes) (wantFrom : Bool) (q : List Item) :
    (deliver t buf wantFrom q).2.foldl (take t.endian) (c.receive (deliver t buf wantFrom q).1) =
      q.foldl (take t.endian) c := by
  match q with
  | [] => rfl
  | .eof :: rest =>
    have hnone : c.receive (.ofEof buf) = c := by simp [receive, Received.ofEof, add]
    rw [deliver, hnone]
  | .notification bytes peer :: rest =>
    have hnone : c.receive (.ofNotification t buf wantFrom bytes peer) = c := by
      unfold receive Received.ofNotification
      cases notificationResult t.endian buf.length bytes with
      | ok p => rfl
      | error fault => rfl
    simp only [deliver, List.foldl_cons, hnone]
    rfl
  | .data bytes last info pad peer :: rest =>
    by_cases hle : bytes.length ≤ buf.length
    · simp only [deliver, keepRest_of_le hle, Received.ofData_of_le hle, List.foldl_cons]
      simp [receive, take]
    · have hlt : buf.length < bytes.length := not_le.mp hle
      simp only [deliver, keepRest_of_lt hlt, Received.ofData_of_lt hlt, List.foldl_cons]
      simp only [receive, take, add_add, List.take_take, min_self, List.take_append_drop]

end Collector

/-- All reads together do not change it either. -/
theorem Drains.collect {t : Target} {q q' : List Item} {outs : List Received}
    (h : Drains t q outs q') (c : Collector) :
    q'.foldl (Collector.take t.endian) (outs.foldl Collector.receive c) =
      q.foldl (Collector.take t.endian) c := by
  induction h with
  | nothing => rfl
  | one _ _ buf ih => rw [List.foldl_append, List.foldl_cons, List.foldl_nil, ← ih,
      Collector.foldl_deliver]

/-! ## The association -/

/-- The arguments of a `send_msg`. -/
structure Message where
  payload : Bytes
  info : SendInfo
  deriving DecidableEq, Repr

/-- A message between the hosts: its payload, and the `sctp_sndinfo` it was sent with. -/
structure InFlight where
  payload : Bytes
  sndinfo : Bytes
  deriving DecidableEq, Repr

/-- The `sctp_sndinfo` that the kernel finds in the control data of a `sendmsg(2)`. -/
def sndinfoOf (t : Target) (control : Bytes) : Option Bytes :=
  match Cmsg.iter t control with
  | .ok ms =>
    (ms.find? fun m => m.level = Sys.ipprotoSctp ∧ m.ty = Sys.sctpCmsgSndinfo).map (·.data)
  | .error _ => none

namespace InFlight

variable (e : Endian) (m : InFlight)

def sid : UInt16 := e.getU16 (sndSidBytes m.sndinfo)

def flags : UInt16 := e.getU16 ((m.sndinfo.drop 2).take 2)

/-- It keeps its place among the messages of its stream. -/
def Ordered : Prop := m.flags e &&& Sys.sctpUnordered = 0

instance : DecidablePred (Ordered e) := fun _ => inferInstanceAs (Decidable (_ = _))

/-- Other flags end or abort the association, or let the kernel give the message up. -/
def IsPlain : Prop :=
  m.flags e &&& ~~~(Sys.sctpUnordered ||| Sys.sctpAddrOver ||| Sys.sctpSackImmediately) = 0

instance : DecidablePred (IsPlain e) := fun _ => inferInstanceAs (Decidable (_ = _))

end InFlight

structure LinkSt where
  /-- The messages that have been sent. -/
  sent : List Message
  wire : List InFlight
  /-- The message that is being delivered, and how much of it has been. -/
  current : Option (InFlight × Nat)
  /-- All that was ever queued. -/
  arrived : List Item
  queue : List Item
  /-- The `recv_msg` that is underway. -/
  reader : Option (Attempt RecvState)
  outs : List Received

inductive LinkAct where
  | send (m : Message)
  /-- The message at this place is the next to be delivered. -/
  | hand (i : Nat)
  /-- The next bytes of it are queued. What the sender has no say in comes with them. -/
  | deliver (n : Nat) (others : Sys.SctpRcvinfo) (pad : Octets 2) (peer : SocketAddr)
  | notify (bytes : Bytes) (peer : SocketAddr)
  | peerClosed
  | recv (buf : Bytes)
  | pollRecv
  | dropRecv

namespace LinkSt

def init : LinkSt where
  sent := []
  wire := []
  current := none
  arrived := []
  queue := []
  reader := none
  outs := []

def enqueue (s : LinkSt) (item : Item) : LinkSt :=
  { s with arrived := s.arrived ++ [item], queue := s.queue ++ [item] }

/-- `send_msg`, and a kernel that takes the message. An empty one is refused. -/
def send (t : Target) (s : LinkSt) (m : Message) : Option LinkSt :=
  match sendRequest t m.payload none m.info with
  | .error _ => none
  | .ok req =>
    match sndinfoOf t req.control with
    | none => none
    | some sndinfo =>
      let f : InFlight := { payload := req.payload, sndinfo }
      if req.payload ≠ [] ∧ f.IsPlain t.endian then
        some { s with sent := s.sent ++ [m], wire := s.wire ++ [f] }
      else none

def hand (e : Endian) (s : LinkSt) (i : Nat) : Option LinkSt :=
  match s.current, s.wire.drop i with
  | none, m :: behind =>
    if MayPass (InFlight.sid e) (InFlight.Ordered e) m (s.wire.take i) then
      some { s with wire := s.wire.take i ++ behind, current := some (m, 0) }
    else none
  | _, _ => none

def deliver (snd rcv : Endian) (s : LinkSt) (n : Nat) (others : Sys.SctpRcvinfo) (pad : Octets 2)
    (peer : SocketAddr) : Option LinkSt :=
  match s.current with
  | some (m, k) =>
    if n = 0 then none
    else
      let info := receivedInfo snd rcv m.sndinfo others
      let last : Bool := m.payload.length ≤ k + n
      some
        { s.enqueue (.data ((m.payload.drop k).take n) last info pad peer) with
          current := if last then none else some (m, k + n) }
  | none => none

def pollRecv (t : Target) (s : LinkSt) : Option LinkSt :=
  match s.reader with
  | some a =>
    match readStep t false s.queue a with
    | (.next a, queue) => some { s with queue, reader := some a }
    | (.done out, queue) => some { s with queue, reader := none, outs := s.outs ++ [out] }
  | none => none

/-- What the receiving application has collected. -/
def collected (s : LinkSt) : Collector := s.outs.foldl Collector.receive .empty

end LinkSt

/-- A sender and a receiver, and an association between them. -/
def linkSystem (snd rcv : Target) : System LinkSt LinkAct where
  step s
    | .send m => s.send snd m
    | .hand i => s.hand snd.endian i
    | .deliver n others pad peer => s.deliver snd.endian rcv.endian n others pad peer
    | .notify bytes peer => some (s.enqueue (.notification bytes peer))
    | .peerClosed => some (s.enqueue .eof)
    | .recv buf =>
      match s.reader with
      | none => some { s with reader := some (.waiting (.first buf false)) }
      | some _ => none
    | .pollRecv => s.pollRecv rcv
    | .dropRecv =>
      match s.reader with
      | some (.waiting _) => some { s with reader := none }
      | _ => none

/-! ## A message on its way -/

namespace Message

variable (e : Endian) (m : Message)

def inFlight : InFlight where
  payload := m.payload
  sndinfo := (m.info.toSys e).toBytes e

def collected : Collected where
  payload := m.payload
  stream := some (m.info.sid, m.info.ppid)

def sid : UInt16 := m.info.sid

def Ordered : Prop := m.info.flags.bits &&& Sys.sctpUnordered = 0

theorem sid_inFlight : (m.inFlight e).sid e = m.sid := by
  simp [inFlight, InFlight.sid, sid]

theorem flags_inFlight : (m.inFlight e).flags e = m.info.flags.bits := by
  simp [inFlight, InFlight.flags, SendInfo.toSys, Sys.SctpSndinfo.toBytes]

theorem ordered_inFlight : (m.inFlight e).Ordered e ↔ m.Ordered := by
  rw [InFlight.Ordered, flags_inFlight, Ordered]

/-- What the kernel lets pass is what the messages allow. -/
theorem mayPass_inFlight {before : List Message}
    (h : MayPass (InFlight.sid e) (InFlight.Ordered e) (m.inFlight e) (before.map (inFlight e))) :
    MayPass sid Ordered m before := by
  intro hm m' hm' hsid
  rw [← ordered_inFlight e]
  apply h ((m.ordered_inFlight e).mpr hm) _ (List.mem_map_of_mem hm')
  rw [sid_inFlight, sid_inFlight, hsid]

end Message

theorem sndinfoOf_layout (t : Target) (info : SendInfo) :
    sndinfoOf t ((sndinfoMessage t.endian info).layout t) =
      some ((info.toSys t.endian).toBytes t.endian) := by
  rw [sndinfoOf, iter_sndinfoMessage]
  rfl

theorem LinkSt.send_eq_some {t : Target} {s s' : LinkSt} {m : Message} (h : s.send t m = some s') :
    s' = { s with sent := s.sent ++ [m], wire := s.wire ++ [m.inFlight t.endian] } := by
  simp only [LinkSt.send, sendRequest_eq, sndinfoOf_layout] at h
  split at h
  · exact (Option.some.inj h).symm
  · cases h

/-! ## The invariant -/

/-- The message that is being delivered is `now`, and these are its bytes so far. -/
def Delivering (e : Endian) (fragments : Bytes) : Option (InFlight × Nat) → List Message → Prop
  | none, now => now = [] ∧ fragments = []
  | some (f, k), now => ∃ m, now = [m] ∧ f = m.inFlight e ∧ fragments = m.payload.take k

/-- Of the messages that were sent, `done` can be collected from what was queued, `now` is being
    delivered, and the others are `behind`. -/
structure OnTheWay (snd rcv : Endian) (sent : List Message) (wire : List InFlight)
    (current : Option (InFlight × Nat)) (arrived : List Item) (done now behind : List Message) :
    Prop where
  relayed : Relayed Message.sid Message.Ordered sent (done ++ (now ++ behind))
  wire : wire = behind.map (Message.inFlight snd)
  complete : (arrived.foldl (Collector.take rcv) .empty).complete = done.map Message.collected
  current : Delivering snd (arrived.foldl (Collector.take rcv) .empty).fragments current now

namespace OnTheWay

variable {snd rcv : Endian} {sent : List Message} {wire : List InFlight}
  {current : Option (InFlight × Nat)} {arrived : List Item} {done now behind : List Message}

theorem init (snd rcv : Endian) : OnTheWay snd rcv [] [] none [] [] [] [] :=
  ⟨.nil, rfl, rfl, rfl, rfl⟩

theorem send (h : OnTheWay snd rcv sent wire current arrived done now behind) (m : Message) :
    OnTheWay snd rcv (sent ++ [m]) (wire ++ [m.inFlight snd]) current arrived done now
      (behind ++ [m]) where
  relayed := by
    have hsend := h.relayed.send m
    rwa [List.append_assoc, List.append_assoc] at hsend
  wire := by rw [h.wire, List.map_append, List.map_singleton]
  complete := h.complete
  current := h.current

/-- An item that is no data. -/
theorem other (h : OnTheWay snd rcv sent wire current arrived done now behind) {item : Item}
    (hitem : ∀ c, Collector.take rcv c item = c) :
    OnTheWay snd rcv sent wire current (arrived ++ [item]) done now behind := by
  have hsame : (arrived ++ [item]).foldl (Collector.take rcv) .empty =
      arrived.foldl (Collector.take rcv) .empty := by
    rw [List.foldl_append, List.foldl_cons, List.foldl_nil, hitem]
  exact ⟨h.relayed, h.wire, hsame ▸ h.complete, hsame ▸ h.current⟩

/-- A message may overtake others, and is the next to be delivered. -/
theorem hand {before : List InFlight} {f : InFlight} {after : List InFlight}
    (h : OnTheWay snd rcv sent wire none arrived done now behind)
    (hwire : wire = before ++ f :: after)
    (hpass : MayPass (InFlight.sid snd) (InFlight.Ordered snd) f before) :
    ∃ m behind', OnTheWay snd rcv sent (before ++ after) (some (f, 0)) arrived done [m] behind' := by
  obtain ⟨hnow, hnone⟩ := h.current
  subst hnow
  obtain ⟨before', rest, hbehind, rfl, hrest⟩ := List.map_eq_append_iff.mp (h.wire.symm.trans hwire)
  obtain ⟨m, after', rfl, rfl, rfl⟩ := List.map_eq_cons_iff.mp hrest
  have hrelayed := h.relayed
  rw [List.nil_append, hbehind] at hrelayed
  refine ⟨m, before' ++ after', ?_, ?_, h.complete, m, rfl, rfl, ?_⟩
  · exact hrelayed.overtake (m.mayPass_inFlight snd hpass)
  · rw [List.map_append]
  · rw [List.take_zero]
    exact hnone

/-- More of the message is queued; with its last bytes it is done. -/
theorem deliver {f : InFlight} {k : Nat}
    (h : OnTheWay snd rcv sent wire (some (f, k)) arrived done now behind) (n : Nat)
    (others : Sys.SctpRcvinfo) (pad : Octets 2) (peer : SocketAddr) :
    let last : Bool := f.payload.length ≤ k + n
    ∃ done' now', OnTheWay snd rcv sent wire (if last then none else some (f, k + n))
      (arrived ++ [.data ((f.payload.drop k).take n) last (receivedInfo snd rcv f.sndinfo others) pad
        peer]) done' now' behind := by
  obtain ⟨m, rfl, rfl, hfragments⟩ := h.current
  obtain ⟨hsid, hppid⟩ := fromSys_receivedInfo m.info snd rcv others
  have hbytes : (arrived.foldl (Collector.take rcv) .empty).fragments ++
      ((m.payload.drop k).take n) = m.payload.take (k + n) := by
    rw [hfragments, List.take_add]
  intro last
  by_cases hlast : m.payload.length ≤ k + n
  · have hlast' : last = true := decide_eq_true hlast
    refine ⟨done ++ [m], [], ?_, h.wire, ?_, ?_⟩
    · have hrelayed := h.relayed
      rwa [List.append_assoc]
    · rw [List.foldl_append, List.foldl_cons, List.foldl_nil, Collector.take, hlast']
      simp only [Collector.add, if_true, h.complete, Message.inFlight, hbytes, Option.map_some]
      rw [hsid, hppid, List.take_of_length_le hlast, List.map_append]
      rfl
    · rw [hlast', if_pos rfl, List.foldl_append, List.foldl_cons, List.foldl_nil, Collector.take]
      exact ⟨rfl, rfl⟩
  · have hlast' : last = false := decide_eq_false hlast
    refine ⟨done, [m], h.relayed, h.wire, ?_, ?_⟩
    · rw [List.foldl_append, List.foldl_cons, List.foldl_nil, Collector.take, hlast']
      exact h.complete
    · rw [hlast', if_neg (by decide), List.foldl_append, List.foldl_cons, List.foldl_nil,
        Collector.take]
      exact ⟨m, rfl, rfl, hbytes⟩

end OnTheWay

/-- Wherever the messages are, the reader has read what there was so far. -/
def LinkInv (snd rcv : Target) (s : LinkSt) : Prop :=
  (∃ done now behind, OnTheWay snd.endian rcv.endian s.sent s.wire s.current s.arrived done now
    behind) ∧
  ReadSoFar rcv s.arrived s.reader s.queue s.outs

theorem LinkInv.init (snd rcv : Target) : LinkInv snd rcv .init :=
  ⟨⟨[], [], [], .init snd.endian rcv.endian⟩, .start rcv []⟩

variable {snd rcv : Target} {s s' : LinkSt} {a : LinkAct}

theorem LinkInv.pollRecv (h : LinkInv snd rcv s) (hstep : s.pollRecv rcv = some s') :
    LinkInv snd rcv s' := by
  obtain ⟨hway, hread⟩ := h
  unfold LinkSt.pollRecv at hstep
  cases hreader : s.reader with
  | none =>
    rw [hreader] at hstep
    cases hstep
  | some io =>
    rw [hreader] at hread hstep
    rcases hpoll : readStep rcv false s.queue io with ⟨res, queue⟩
    cases res with
    | next io' =>
      have hnext := hread.poll (congrArg Prod.fst hpoll)
      simp only [hpoll] at hstep hnext
      obtain rfl := Option.some.inj hstep
      exact ⟨hway, hnext⟩
    | done out =>
      have hdone := hread.done (congrArg Prod.fst hpoll)
      simp only [hpoll] at hstep hdone
      obtain rfl := Option.some.inj hstep
      exact ⟨hway, hdone⟩

theorem LinkInv.hand (h : LinkInv snd rcv s) {i : Nat} (hstep : s.hand snd.endian i = some s') :
    LinkInv snd rcv s' := by
  obtain ⟨⟨done, now, behind, hway⟩, hread⟩ := h
  unfold LinkSt.hand at hstep
  split at hstep
  · next f after hcurrent hdrop =>
    split at hstep
    · next hpass =>
      obtain rfl := Option.some.inj hstep
      rw [hcurrent] at hway
      have hwire : s.wire = s.wire.take i ++ f :: after := by rw [← hdrop, List.take_append_drop]
      obtain ⟨m, behind', hway'⟩ := hway.hand hwire hpass
      exact ⟨⟨done, [m], behind', hway'⟩, hread⟩
    · cases hstep
  · cases hstep

theorem LinkInv.deliver (h : LinkInv snd rcv s) {n : Nat} {others : Sys.SctpRcvinfo}
    {pad : Octets 2} {peer : SocketAddr}
    (hstep : s.deliver snd.endian rcv.endian n others pad peer = some s') : LinkInv snd rcv s' := by
  obtain ⟨⟨done, now, behind, hway⟩, hread⟩ := h
  unfold LinkSt.deliver at hstep
  split at hstep
  · next f k hcurrent =>
    split at hstep
    · cases hstep
    · obtain rfl := Option.some.inj hstep
      rw [hcurrent] at hway
      obtain ⟨done', now', hway'⟩ := hway.deliver n others pad peer
      exact ⟨⟨done', now', behind, hway'⟩, hread.enqueue _⟩
  · cases hstep

theorem LinkInv.step (h : LinkInv snd rcv s) (hstep : (linkSystem snd rcv).step s a = some s') :
    LinkInv snd rcv s' := by
  cases a with
  | send m =>
    obtain ⟨⟨done, now, behind, hway⟩, hread⟩ := h
    obtain rfl := LinkSt.send_eq_some hstep
    exact ⟨⟨done, now, behind ++ [m], hway.send m⟩, hread⟩
  | hand i => exact h.hand hstep
  | deliver n others pad peer => exact h.deliver hstep
  | notify bytes peer =>
    obtain ⟨⟨done, now, behind, hway⟩, hread⟩ := h
    obtain rfl := Option.some.inj hstep
    exact ⟨⟨done, now, behind, hway.other fun _ => rfl⟩, hread.enqueue _⟩
  | peerClosed =>
    obtain ⟨⟨done, now, behind, hway⟩, hread⟩ := h
    obtain rfl := Option.some.inj hstep
    exact ⟨⟨done, now, behind, hway.other fun _ => rfl⟩, hread.enqueue _⟩
  | recv buf =>
    obtain ⟨hway, hread⟩ := h
    simp only [linkSystem] at hstep
    split at hstep
    · next hreader =>
      obtain rfl := Option.some.inj hstep
      rw [hreader] at hread
      exact ⟨hway, hread.receive buf⟩
    · cases hstep
  | pollRecv => exact h.pollRecv hstep
  | dropRecv =>
    obtain ⟨hway, hread⟩ := h
    simp only [linkSystem] at hstep
    split at hstep
    · next hreader =>
      obtain rfl := Option.some.inj hstep
      rw [hreader] at hread
      exact ⟨hway, hread.drop⟩
    · cases hstep

/-! ## Every run -/

/-- Nothing is on its way, and no data waits to be read. -/
structure LinkSt.Settled (s : LinkSt) : Prop where
  wire : s.wire = []
  current : s.current = none
  reader : s.reader = none
  queue : ∀ item ∈ s.queue, ∀ bytes last info pad peer, item ≠ .data bytes last info pad peer

theorem Collector.foldl_of_no_data {e : Endian} (c : Collector) {items : List Item}
    (h : ∀ item ∈ items, ∀ bytes last info pad peer, item ≠ .data bytes last info pad peer) :
    items.foldl (Collector.take e) c = c := by
  induction items with
  | nil => rfl
  | cons item items ih =>
    have hrest := ih fun item' hitem => h item' (List.mem_cons_of_mem _ hitem)
    cases item with
    | data bytes last info pad peer => exact absurd rfl (h _ List.mem_cons_self bytes last info pad peer)
    | notification | eof => exact hrest

/-- The messages that the receiving application has collected are messages that were sent: with
    their payload, stream and protocol identifier, each of them once, and those of an ordered
    stream in the order in which they were sent. Once everything is settled, they are all there.

    Every message has data in it, and no flags but `UNORDERED`, `ADDR_OVER` and
    `SACK_IMMEDIATELY`; others would end the association or go to every association. -/
theorem messages_arrive (snd rcv : Target) (acts : List LinkAct)
    (hrun : (linkSystem snd rcv).run .init acts = some s) :
    ∃ received pending,
      s.collected.complete = received.map Message.collected ∧
      Relayed Message.sid Message.Ordered s.sent (received ++ pending) ∧
      (s.Settled → pending = []) := by
  obtain ⟨⟨done, now, behind, hway⟩, vq, hreader, hdrains⟩ : LinkInv snd rcv s :=
    System.run_invariant (fun _ _ _ h hstep => LinkInv.step h hstep) (LinkInv.init snd rcv) hrun
  have hcollect : vq.foldl (Collector.take rcv.endian) s.collected =
      s.arrived.foldl (Collector.take rcv.endian) .empty := hdrains.collect .empty
  have hprefix : s.collected.complete <+: done.map Message.collected := by
    rw [← hway.complete, ← hcollect]
    exact Collector.complete_prefix_foldl _ _
  obtain ⟨unread, hunread⟩ := hprefix
  obtain ⟨received, left, rfl, hreceived, rfl⟩ := List.map_eq_append_iff.mp hunread.symm
  refine ⟨received, left ++ (now ++ behind), hreceived.symm, ?_, ?_⟩
  · have hrelayed := hway.relayed
    rwa [List.append_assoc] at hrelayed
  · intro hsettled
    have hcurrent := hway.current
    rw [hsettled.current] at hcurrent
    rw [hsettled.reader] at hreader
    obtain rfl : s.queue = vq := hreader
    rw [Collector.foldl_of_no_data _ hsettled.queue] at hcollect
    have hall := hway.complete
    rw [← hcollect, ← hunread] at hall
    have hleft : left = [] := by simpa using hall
    have hbehind : behind = [] := by simpa [hsettled.wire] using hway.wire
    rw [hleft, hcurrent.1, hbehind]
    rfl

/-- Three bytes on stream 0, and one byte on stream 1. -/
def twoMessages : List Message :=
  [⟨[1, 2, 3], ⟨0, ⟨60⟩, ⟨0⟩, 0, .future⟩⟩, ⟨[9], ⟨1, ⟨18⟩, ⟨0⟩, 7, .future⟩⟩]

/-- The second message overtakes the first, which comes in two pieces with a notification between
    them, and is read with a buffer of one byte. -/
def overtaking : List LinkAct :=
  twoMessages.map .send ++
    [.hand 1, .deliver 8 ⟨0, 0, 0, 0, 1, 1, 0, 1⟩ (Octets.zeros 2) (.loopback 5000), .hand 0,
      .deliver 2 ⟨0, 0, 0, 0, 2, 2, 0, 1⟩ (Octets.zeros 2) (.loopback 5000),
      .notify [128, 5, 0, 0, 0, 0, 0, 12, 0, 0, 0, 1] (.loopback 5000),
      .deliver 1 ⟨0, 0, 0, 0, 3, 3, 0, 1⟩ (Octets.zeros 2) (.loopback 5000)] ++
    (List.replicate 4 [.recv [0], .pollRecv, .pollRecv]).flatten ++
    [.pollRecv, .recv [0], .pollRecv, .pollRecv]

theorem messages_arrive_overtaking :
    ∃ s, (linkSystem ⟨.little, .w64⟩ ⟨.big, .w32⟩).run .init overtaking = some s ∧
      s.collected.complete = twoMessages.reverse.map Message.collected ∧
      ∃ received pending,
        s.collected.complete = received.map Message.collected ∧
        Relayed Message.sid Message.Ordered s.sent (received ++ pending) ∧
        (s.Settled → pending = []) := by
  have hview : ((linkSystem ⟨.little, .w64⟩ ⟨.big, .w32⟩).run .init overtaking).any
      (fun s => s.collected.complete = twoMessages.reverse.map Message.collected) := by
    decide +kernel
  obtain ⟨s, hrun, hs⟩ := (Option.any_eq_true _ _).mp hview
  exact ⟨s, hrun, of_decide_eq_true hs, messages_arrive _ _ overtaking hrun⟩

end Net

end Lksctp
