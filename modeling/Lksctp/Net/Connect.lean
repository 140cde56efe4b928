-- SUMMARY: `StreamBuilder` and its `connectx`, step by step beside a kernel that queues subscribed events at any moment.
import Mathlib.Data.Finset.Basic
import Mathlib.Data.Finset.Lattice.Lemmas
import Lksctp.Net.Common
import Lksctp.NotificationLayout

/-!
# Connecting

`connectx` observes establishment through `AssocChange` notifications. When the
caller has not subscribed to them, it subscribes before the connect and
unsubscribes after `CommUp`; a flag of the builder remembers which case it is.

The kernel tests the subscription when it queues a notification, and never
withdraws one. `connSystem` is the connect, and then the stream with its reader,
with kernel events placed between any two of their steps.
-/

namespace Lksctp

open Rust Machine Kernel Socket

namespace Net

/-! ## The builder -/

/-- `setsockopt(SCTP_EVENT)`: one class is added or removed. -/
def setEvent (subs : Finset EventType) (event : EventType) (on : Bool) : Finset EventType :=
  if on then insert event subs else subs.erase event

/-- `SctpSocket::subscribe_events`, with the reply to each of its system calls. -/
def subscribeEvents (subs : Finset EventType) (replies : Nat → Option IoError) :
    List EventType → Res (Finset EventType)
  | [] => pure subs
  | event :: events =>
    match replies 0 with
    | some e => Res.err e
    | none => subscribeEvents (setEvent subs event true) (fun i => replies (i + 1)) events

structure StreamBuilder where
  /-- The classes that the socket is subscribed to. -/
  subs : Finset EventType
  assocChangeSubscribed : Bool
  deriving DecidableEq

/-- The builder's options that have nothing to do with events. -/
inductive BuilderOption where
  | rtoInfo
  | peerAddrParams
  | delayedSack
  | assocInfo
  | bindx
  | initParams
  | nodelay
  | sendBufferSize
  | recvBufferSize
  | reuseAddress
  | reusePort
  deriving DecidableEq, Repr

/-- A call on the builder, with the replies of the kernel. -/
inductive BuilderCall where
  | setOption (opt : BuilderOption) (reply : Option IoError)
  | subscribeEvents (events : List EventType) (replies : Nat → Option IoError)

namespace StreamBuilder

/-- `SctpStream::builder`: a new socket has no event subscribed. -/
def new : StreamBuilder where
  subs := ∅
  assocChangeSubscribed := false

def apply (b : StreamBuilder) : BuilderCall → Res StreamBuilder
  | .setOption _ reply =>
    match reply with
    | some e => Res.err e
    | none => pure b
  | .subscribeEvents events replies => do
    let subs ← Net.subscribeEvents b.subs replies events
    let assocChangeSubscribed :=
      if events.contains .assocChange then true else b.assocChangeSubscribed
    pure { subs, assocChangeSubscribed }

/-- A chain of calls, which ends at the first error. -/
def build (calls : List BuilderCall) : Res StreamBuilder := calls.foldlM apply new

end StreamBuilder

/-! ## The connect -/

/-- How far `connectx` is, and then the stream with its reader. -/
inductive Phase where
  | subscribe
  | register
  | connect
  | establish (st : EstState)
  | unsubscribe
  | stream (reader : Option (Attempt RecvState))
  | failed (fault : Fault)

structure ConnSt where
  subs : Finset EventType
  queue : List Item
  /-- Everything that was ever queued, in order. -/
  arrived : List Item
  phase : Phase
  /-- What `recv_msg` on the stream has returned. -/
  delivered : List Received
  /-- The subscriptions that the owner of the stream has changed. -/
  callerEvents : List (EventType × Bool)

inductive ConnAct where
  /-- The kernel has a notification for the subscribers of its class. -/
  | notify (k : KernelNotification) (peer : SocketAddr)
  | message (bytes : Bytes) (last : Bool) (info : Sys.SctpRcvinfo) (pad : Octets 2)
      (peer : SocketAddr)
  | peerClosed
  /-- The next step of `connectx`, with the kernel's reply to it. -/
  | poll (reply : Option IoError) (soError : Except Errno Int32)
  /-- A call of `recv_msg` on the stream. -/
  | recv (buf : Bytes)
  | pollRecv
  | dropRecv
  | subscribeEvent (event : EventType) (on : Bool) (reply : Option IoError)

/-- The class of a notification; the kernel has no other ones. -/
def eventType : KernelStruct → Option EventType
  | .assocChange .. => some .assocChange
  | .peerAddrChange .. => some .peerAddrChange
  | .remoteError .. => some .remoteError
  | .sendFailed .. => some .sendFailed
  | .sendFailedEvent .. => some .sendFailedEvent
  | .shutdown .. => some .shutdown
  | .partialDelivery .. => some .partialDelivery
  | .adaptationIndication .. => some .adaptationIndication
  | .authentication .. => some .authentication
  | .senderDry .. => some .senderDry
  | .streamReset .. => some .streamReset
  | .assocReset .. => some .assocReset
  | .streamChange .. => some .streamChange
  | .other .. => none

def Subscribed (subs : Finset EventType) (k : KernelNotification) : Prop :=
  ∃ ev ∈ subs, eventType k.body = some ev

instance (subs : Finset EventType) (k : KernelNotification) : Decidable (Subscribed subs k) :=
  decidable_of_iff (∃ ev ∈ subs, eventType k.body = some ev) Iff.rfl

namespace ConnSt

def enqueue (s : ConnSt) (item : Item) : ConnSt :=
  { s with queue := s.queue ++ [item], arrived := s.arrived ++ [item] }

/-- After a step of `connectx` that has succeeded or failed. -/
def proceed (s : ConnSt) (reply : Option IoError) (next : ConnSt) : ConnSt :=
  match reply with
  | some e => { s with phase := .failed (.err e) }
  | none => next

/-- `connectx`; `keep` is the builder's flag. -/
def poll (t : Target) (keep : Bool) (reply : Option IoError) (soError : Except Errno Int32)
    (s : ConnSt) : Option ConnSt :=
  match s.phase with
  | .subscribe =>
    if keep then some { s with phase := .register }
    else some (s.proceed reply
      { s with subs := setEvent s.subs .assocChange true, phase := .register })
  | .register => some (s.proceed reply { s with phase := .connect })
  | .connect => some (s.proceed reply { s with phase := .establish estStart })
  | .establish st =>
    match estStep t soError s.queue st with
    | (.next st, queue) => some { s with queue, phase := .establish st }
    | (.done (.ok ()), queue) => some { s with queue, phase := .unsubscribe }
    | (.done (.error fault), queue) => some { s with queue, phase := .failed fault }
  | .unsubscribe =>
    if keep then some { s with phase := .stream none }
    else some (s.proceed reply
      { s with subs := setEvent s.subs .assocChange false, phase := .stream none })
  | .stream _ => none
  | .failed _ => none

/-- The reader of the stream. -/
def pollRecv (t : Target) (s : ConnSt) : Option ConnSt :=
  match s.phase with
  | .stream (some a) =>
    match readStep t false s.queue a with
    | (.next a, queue) => some { s with queue, phase := .stream (some a) }
    | (.done out, queue) =>
      some { s with queue, phase := .stream none, delivered := s.delivered ++ [out] }
  | _ => none

end ConnSt

def connSystem (t : Target) (keep : Bool) : System ConnSt ConnAct where
  step s
    | .notify k peer =>
      if Subscribed s.subs k then some (s.enqueue (.notification (k.encode t.endian) peer)) else some s
    | .message bytes last info pad peer => some (s.enqueue (.data bytes last info pad peer))
    | .peerClosed => some (s.enqueue .eof)
    | .poll reply soError => s.poll t keep reply soError
    | .recv buf =>
      match s.phase with
      | .stream none => some { s with phase := .stream (some (.waiting (.first buf false))) }
      | _ => none
    | .pollRecv => s.pollRecv t
    | .dropRecv =>
      -- A future can be dropped only while it is suspended.
      match s.phase with
      | .stream (some (.waiting _)) => some { s with phase := .stream none }
      | _ => none
    | .subscribeEvent event on reply =>
      match s.phase, reply with
      | .stream _, none =>
        some { s with
          subs := setEvent s.subs event on
          callerEvents := s.callerEvents ++ [(event, on)] }
      | .stream _, some _ => some s
      | _, _ => none

def connInit (b : StreamBuilder) : ConnSt where
  subs := b.subs
  queue := []
  arrived := []
  phase := .subscribe
  delivered := []
  callerEvents := []

/-! ## What the builder remembers -/

/-- The classes named by the calls of `subscribe_events`. -/
def namedEvents : List BuilderCall → Finset EventType
  | [] => ∅
  | .setOption .. :: calls => namedEvents calls
  | .subscribeEvents events _ :: calls => events.toFinset ∪ namedEvents calls

theorem subscribeEvents_ok {subs subs' : Finset EventType} {replies : Nat → Option IoError}
    {events : List EventType} (h : subscribeEvents subs replies events = .ok subs') :
    subs' = subs ∪ events.toFinset := by
  induction events generalizing subs replies with
  | nil =>
    obtain rfl := Except.ok.inj h
    simp
  | cons event events ih =>
    rw [subscribeEvents] at h
    cases hreply : replies 0 with
    | some e =>
      rw [hreply] at h
      cases h
    | none =>
      rw [hreply] at h
      rw [ih h, setEvent, if_pos rfl, List.toFinset_cons, Finset.insert_union,
        Finset.union_insert]

theorem StreamBuilder.apply_ok {b b' : StreamBuilder} {call : BuilderCall}
    (h : b.apply call = .ok b') :
    b'.subs = b.subs ∪ namedEvents [call] ∧
      (b'.assocChangeSubscribed = true ↔
        b.assocChangeSubscribed = true ∨ .assocChange ∈ namedEvents [call]) := by
  cases call with
  | setOption opt reply =>
    cases reply with
    | some e => cases h
    | none =>
      obtain rfl := Except.ok.inj h
      simp [namedEvents]
  | subscribeEvents events replies =>
    obtain ⟨subs, hsubs, h⟩ := Res.bind_eq_ok.mp h
    obtain rfl := Except.ok.inj h
    simp only [namedEvents, Finset.union_empty, List.mem_toFinset]
    refine ⟨subscribeEvents_ok hsubs, ?_⟩
    by_cases hmem : EventType.assocChange ∈ events
    · simp [hmem]
    · simp [hmem]

/-- The socket is subscribed to what the calls named, and the flag says whether
    `AssocChange` was among them. -/
theorem StreamBuilder.foldlM_apply_ok {b b' : StreamBuilder} {calls : List BuilderCall}
    (h : calls.foldlM apply b = .ok b') :
    b'.subs = b.subs ∪ namedEvents calls ∧
      (b'.assocChangeSubscribed = true ↔
        b.assocChangeSubscribed = true ∨ .assocChange ∈ namedEvents calls) := by
  induction calls generalizing b with
  | nil =>
    obtain rfl := Except.ok.inj h
    simp [namedEvents]
  | cons call calls ih =>
    rw [List.foldlM_cons] at h
    obtain ⟨b₁, hcall, hrest⟩ := Res.bind_eq_ok.mp h
    obtain ⟨hsubs₁, hflag₁⟩ := apply_ok hcall
    obtain ⟨hsubs, hflag⟩ := ih hrest
    have hnamed : namedEvents (call :: calls) = namedEvents [call] ∪ namedEvents calls := by
      cases call <;> simp [namedEvents]
    rw [hnamed, hsubs, hsubs₁, Finset.union_assoc, hflag, hflag₁, Finset.mem_union, or_assoc]
    exact ⟨rfl, Iff.rfl⟩

theorem StreamBuilder.build_ok {b : StreamBuilder} {calls : List BuilderCall}
    (h : build calls = .ok b) :
    b.subs = namedEvents calls ∧
      (b.assocChangeSubscribed = true ↔ .assocChange ∈ namedEvents calls) := by
  obtain ⟨hsubs, hflag⟩ := foldlM_apply_ok h
  exact ⟨by rw [hsubs, new, Finset.empty_union], by simpa [new] using hflag⟩

/-! ## What a step can do -/

variable {t : Target} {keep : Bool} {s s' : ConnSt} {a : ConnAct}

/-- Every step of the system, with the state it leads to. -/
inductive ConnMove (t : Target) (keep : Bool) (s : ConnSt) : ConnAct → ConnSt → Prop where
  | ignored (a : ConnAct) : ConnMove t keep s a s
  | notified {k : KernelNotification} {peer : SocketAddr} (h : Subscribed s.subs k) :
      ConnMove t keep s (.notify k peer) (s.enqueue (.notification (k.encode t.endian) peer))
  | queued (a : ConnAct) {item : Item} (h : ∀ bytes peer, item ≠ .notification bytes peer) :
      ConnMove t keep s a (s.enqueue item)
  | failed (a : ConnAct) (fault : Fault) (queue : List Item) :
      ConnMove t keep s a { s with queue, phase := .failed fault }
  | subscribed (a : ConnAct) (h : s.phase = .subscribe) :
      ConnMove t keep s a
        { s with subs := if keep then s.subs else insert .assocChange s.subs, phase := .register }
  | registered (a : ConnAct) (h : s.phase = .register) :
      ConnMove t keep s a { s with phase := .connect }
  | connected (a : ConnAct) (h : s.phase = .connect) :
      ConnMove t keep s a { s with phase := .establish estStart }
  | establishing (a : ConnAct) {st st' : EstState} {soError : Except Errno Int32}
      {queue : List Item} (h : s.phase = .establish st)
      (hstep : estStep t soError s.queue st = (.next st', queue)) :
      ConnMove t keep s a { s with queue, phase := .establish st' }
  | up (a : ConnAct) {st : EstState} {soError : Except Errno Int32} {queue : List Item}
      (h : s.phase = .establish st)
      (hstep : estStep t soError s.queue st = (.done (.ok ()), queue)) :
      ConnMove t keep s a { s with queue, phase := .unsubscribe }
  | unsubscribed (a : ConnAct) (h : s.phase = .unsubscribe) :
      ConnMove t keep s a
        { s with
          subs := if keep then s.subs else s.subs.erase .assocChange
          phase := .stream none }
  | receive (buf : Bytes) (h : s.phase = .stream none) :
      ConnMove t keep s (.recv buf) { s with phase := .stream (some (.waiting (.first buf false))) }
  | receiving (a : ConnAct) {io io' : Attempt RecvState} {queue : List Item}
      (h : s.phase = .stream (some io)) (hstep : readStep t false s.queue io = (.next io', queue)) :
      ConnMove t keep s a { s with queue, phase := .stream (some io') }
  | received (a : ConnAct) {io : Attempt RecvState} {out : Received} {queue : List Item}
      (h : s.phase = .stream (some io)) (hstep : readStep t false s.queue io = (.done out, queue)) :
      ConnMove t keep s a
        { s with queue, phase := .stream none, delivered := s.delivered ++ [out] }
  | dropped (a : ConnAct) {st : RecvState} (h : s.phase = .stream (some (.waiting st))) :
      ConnMove t keep s a { s with phase := .stream none }
  | changed (a : ConnAct) {reader : Option (Attempt RecvState)} (event : EventType) (on : Bool)
      (h : s.phase = .stream reader) :
      ConnMove t keep s a
        { s with
          subs := setEvent s.subs event on
          callerEvents := s.callerEvents ++ [(event, on)] }

theorem ConnMove.of_proceed {next : ConnSt} (h : ConnMove t keep s a next)
    (reply : Option IoError) : ConnMove t keep s a (s.proceed reply next) := by
  cases reply with
  | some e => exact .failed a _ s.queue
  | none => exact h

theorem ConnMove.of_poll {reply : Option IoError} {soError : Except Errno Int32}
    (h : s.poll t keep reply soError = some s') : ConnMove t keep s a s' := by
  unfold ConnSt.poll at h
  cases hphase : s.phase with
  | subscribe =>
    have hmove : ConnMove t keep s a _ := .subscribed a hphase
    cases keep with
    | true =>
      obtain rfl : _ = s' := by simpa [hphase] using h
      exact hmove
    | false =>
      obtain rfl : s.proceed reply _ = s' := by simpa [hphase] using h
      exact hmove.of_proceed reply
  | register =>
    obtain rfl : s.proceed reply _ = s' := by simpa [hphase] using h
    exact (ConnMove.registered a hphase).of_proceed reply
  | connect =>
    obtain rfl : s.proceed reply _ = s' := by simpa [hphase] using h
    exact (ConnMove.connected a hphase).of_proceed reply
  | establish st =>
    rcases hstep : estStep t soError s.queue st with ⟨res, queue⟩
    cases res with
    | next st' =>
      obtain rfl : _ = s' := by simpa [hphase, hstep] using h
      exact .establishing a hphase hstep
    | done r =>
      cases r with
      | ok u =>
        obtain rfl : _ = s' := by simpa [hphase, hstep] using h
        exact .up a hphase hstep
      | error fault =>
        obtain rfl : _ = s' := by simpa [hphase, hstep] using h
        exact .failed a fault queue
  | unsubscribe =>
    have hmove : ConnMove t keep s a _ := .unsubscribed a hphase
    cases keep with
    | true =>
      obtain rfl : _ = s' := by simpa [hphase] using h
      exact hmove
    | false =>
      obtain rfl : s.proceed reply _ = s' := by simpa [hphase] using h
      exact hmove.of_proceed reply
  | stream reader => simp [hphase] at h
  | failed fault => simp [hphase] at h

theorem ConnMove.of_pollRecv (h : s.pollRecv t = some s') : ConnMove t keep s a s' := by
  unfold ConnSt.pollRecv at h
  split at h
  · next io hphase =>
    rcases hstep : readStep t false s.queue io with ⟨res, queue⟩
    cases res with
    | next io' =>
      obtain rfl : _ = s' := by simpa [hstep] using h
      exact .receiving a hphase hstep
    | done out =>
      obtain rfl : _ = s' := by simpa [hstep] using h
      exact .received a hphase hstep
  · cases h

theorem ConnMove.of_step (h : (connSystem t keep).step s a = some s') : ConnMove t keep s a s' := by
  cases a with
  | notify k peer =>
    by_cases hsub : Subscribed s.subs k
    · obtain rfl : _ = s' := by simpa [connSystem, hsub] using h
      exact .notified hsub
    · obtain rfl : _ = s' := by simpa [connSystem, hsub] using h
      exact .ignored _
  | message bytes last info pad peer =>
    obtain rfl := Option.some.inj h
    exact .queued _ (by simp)
  | peerClosed =>
    obtain rfl := Option.some.inj h
    exact .queued _ (by simp)
  | poll reply soError => exact .of_poll h
  | recv buf =>
    simp only [connSystem] at h
    split at h
    · next hphase =>
      obtain rfl := Option.some.inj h
      exact .receive buf hphase
    · cases h
  | pollRecv => exact .of_pollRecv h
  | dropRecv =>
    simp only [connSystem] at h
    split at h
    · next hphase =>
      obtain rfl := Option.some.inj h
      exact .dropped _ hphase
    · cases h
  | subscribeEvent event on reply =>
    simp only [connSystem] at h
    split at h
    · next _ hphase =>
      obtain rfl := Option.some.inj h
      exact .changed _ event on hphase
    · obtain rfl := Option.some.inj h
      exact .ignored _
    · cases h

/-! ## Subscriptions -/

/-- The subscriptions after the owner of the stream has changed some. -/
def afterChanges (subs : Finset EventType) (changes : List (EventType × Bool)) :
    Finset EventType :=
  changes.foldl (fun subs change => setEvent subs change.1 change.2) subs

/-- While connecting, `AssocChange` is subscribed in addition to what was named. -/
def SubsInv (keep : Bool) (named : Finset EventType) (s : ConnSt) : Prop :=
  match s.phase with
  | .subscribe => s.subs = named ∧ s.callerEvents = []
  | .register | .connect | .establish _ | .unsubscribe =>
    s.subs = (if keep then named else insert .assocChange named) ∧ s.callerEvents = []
  | .stream _ => s.subs = afterChanges named s.callerEvents
  | .failed _ => True

theorem SubsInv.step {named : Finset EventType} (hkeep : keep = true ↔ .assocChange ∈ named)
    (h : SubsInv keep named s) (hstep : (connSystem t keep).step s a = some s') :
    SubsInv keep named s' := by
  cases ConnMove.of_step hstep with
  | ignored => exact h
  | notified => exact h
  | queued => exact h
  | failed => trivial
  | subscribed _ hphase =>
    simp only [SubsInv, hphase] at h ⊢
    rw [h.1]
    exact ⟨rfl, h.2⟩
  | registered _ hphase =>
    simpa only [SubsInv, hphase] using h
  | connected _ hphase =>
    simpa only [SubsInv, hphase] using h
  | establishing _ hphase =>
    simpa only [SubsInv, hphase] using h
  | up _ hphase =>
    simpa only [SubsInv, hphase] using h
  | unsubscribed _ hphase =>
    simp only [SubsInv, hphase] at h ⊢
    rw [h.1, h.2]
    cases keep with
    | true => rfl
    | false =>
      have hnot : EventType.assocChange ∉ named := fun hmem => absurd (hkeep.mpr hmem) Bool.false_ne_true
      exact Finset.erase_insert hnot
  | receive _ hphase => simpa only [SubsInv, hphase] using h
  | receiving _ hphase => simpa only [SubsInv, hphase] using h
  | received _ hphase => simpa only [SubsInv, hphase] using h
  | dropped _ hphase => simpa only [SubsInv, hphase] using h
  | changed _ event on hphase =>
    simp only [SubsInv, hphase] at h ⊢
    rw [h, afterChanges, afterChanges, List.foldl_append]
    rfl

theorem subs_of_stream {calls : List BuilderCall} {b : StreamBuilder} {acts : List ConnAct}
    {reader : Option (Attempt RecvState)} (hb : StreamBuilder.build calls = .ok b)
    (hrun : (connSystem t b.assocChangeSubscribed).run (connInit b) acts = some s)
    (hphase : s.phase = .stream reader) :
    s.subs = afterChanges (namedEvents calls) s.callerEvents := by
  obtain ⟨hsubs, hflag⟩ := StreamBuilder.build_ok hb
  have hinv := System.run_invariant (fun _ _ _ => SubsInv.step (t := t) hflag)
    (s := connInit b) ⟨hsubs, rfl⟩ hrun
  simpa only [SubsInv, hphase] using hinv

/-- Establishment is observed correctly, and consumes what it must. `established`
    returns because of the first decisive item: with `Ok` for `CommUp`, and then has
    taken off the queue that item and those before it, and with `Err` for any other.
    Once a decisive item has arrived, it returns after finitely many moves. A stream
    that `connectx` has returned is subscribed to what the builder's calls named, and to
    nothing else. -/
theorem establishment_observed (t : Target) :
    (∀ q acts s, (estSystem t).run (estInit q) acts = some s →
      (∀ r, s.task = .done r → ∃ pre item post,
        s.arrived = pre ++ item :: post ∧ Undecided t.endian pre ∧
        verdict t.endian item ≠ none ∧ (r = .ok () ↔ verdict t.endian item = some true) ∧
        ((∃ error, r = Res.err error) ↔ verdict t.endian item = some false) ∧
        (r = .ok () → s.queue = post)) ∧
      (¬ Undecided t.endian s.arrived → ∃ bound, ∀ acts' s',
        (estSystem t).run s acts' = some s' → bound ≤ polls acts' → ∃ r, s'.task = .done r) ∧
      (∀ st soError, s.task = .next st → ∃ s', (estSystem t).step s (.poll soError) = some s')) ∧
    (∀ calls b acts s reader, StreamBuilder.build calls = .ok b →
      (connSystem t b.assocChangeSubscribed).run (connInit b) acts = some s →
      s.phase = .stream reader →
      s.subs = afterChanges (namedEvents calls) s.callerEvents) := by
  refine ⟨fun q acts s hrun => ⟨?_, ?_, ?_⟩, ?_⟩
  · intro r hdone
    exact established_decides hrun hdone
  · intro hdec
    exact established_terminates hrun hdec
  · intro st soError htask
    exact poll_enabled htask soError
  · intro calls b acts s reader hb hrun hphase
    exact subs_of_stream hb hrun hphase

/-- `SCTP_COMM_UP` with ten streams each way. -/
def commUp : KernelNotification := ⟨0, 20, .assocChange 0 0 10 10 1 []⟩

set_option maxRecDepth 4000 in
/-- A wake-up with nothing to read, and then `CommUp` with the end behind it. -/
theorem establishment_observed_commUp :
    ∃ s pre item post,
      (estSystem ⟨.little, .w64⟩).run (estInit [])
        [.poll (.ok 0), .poll (.ok 0), .arrive (.notification (commUp.encode .little) (.loopback 5000)),
          .arrive .eof, .poll (.ok 0), .poll (.ok 0)] = some s ∧
      s.task = .done (.ok ()) ∧ s.arrived = pre ++ item :: post ∧
      verdict .little item = some true ∧ s.queue = post := by
  obtain ⟨s, hrun, hdone⟩ : ∃ s, (estSystem ⟨.little, .w64⟩).run (estInit [])
      [.poll (.ok 0), .poll (.ok 0), .arrive (.notification (commUp.encode .little) (.loopback 5000)),
        .arrive .eof, .poll (.ok 0), .poll (.ok 0)] = some s ∧ s.task = .done (.ok ()) :=
    ⟨_, rfl, rfl⟩
  obtain ⟨hreturned, -, -⟩ := (establishment_observed ⟨.little, .w64⟩).1 _ _ s hrun
  obtain ⟨pre, item, post, harrived, -, -, hok, -, hqueue⟩ := hreturned _ hdone
  exact ⟨s, pre, item, post, hrun, hdone, harrived, hok.mp rfl, hqueue rfl⟩

/-! ## Notifications that nobody asked for -/

def IsAssocChange (e : Endian) (item : Item) : Prop :=
  ∃ bytes peer ac, item = .notification bytes peer ∧
    Notification.parse e bytes = .ok (.assocChange ac)

def NoAssocChange (e : Endian) (items : List Item) : Prop := ∀ i ∈ items, ¬ IsAssocChange e i

/-- A result of `recv_msg` that hands an `AssocChange` to the caller. -/
def Received.IsAssocChange (r : Received) : Prop :=
  ∃ ac sender, r.result = .ok (.notification (.assocChange ac), sender)

/-- `connectx` has not returned. -/
def Phase.Connecting : Phase → Prop
  | .stream _ | .failed _ => False
  | _ => True

instance : ∀ p : Phase, Decidable p.Connecting
  | .stream _ | .failed _ => isFalse id
  | .subscribe | .register | .connect | .establish _ | .unsubscribe => isTrue trivial

/-- No `AssocChange` is queued behind `CommUp` before `connectx` has returned. -/
def Quiet (e : Endian) (s : ConnSt) : ConnAct → Prop
  | .notify k _ =>
    eventType k.body = some .assocChange → .assocChange ∈ s.subs → s.phase.Connecting →
      ∀ i ∈ s.arrived, verdict e i ≠ some true
  | _ => True

instance (e : Endian) (s : ConnSt) : ∀ a, Decidable (Quiet e s a)
  | .notify k _ =>
    inferInstanceAs (Decidable (eventType k.body = some .assocChange → .assocChange ∈ s.subs →
      s.phase.Connecting → ∀ i ∈ s.arrived, verdict e i ≠ some true))
  | .message .. | .peerClosed | .poll .. | .recv _ | .pollRecv | .dropRecv | .subscribeEvent .. =>
    isTrue trivial

/-- Behind a `CommUp` there is no `AssocChange`. -/
def QuietAfterUp (e : Endian) (arrived : List Item) : Prop :=
  ∀ pre item post, arrived = pre ++ item :: post → verdict e item = some true →
    NoAssocChange e post

/-- The queue as the reader of the stream is going to see it. -/
def ReaderAt (reader : Option (Attempt RecvState)) (q vq : List Item) : Prop :=
  match reader with
  | none => q = vq
  | some a => ∃ buf, ReadingIo buf false a q vq

/-- While connecting, nothing but undecided items has been taken off; then, up to
    the caller's own subscription, no `AssocChange` is left or can come. -/
def PhaseInv (e : Endian) (s : ConnSt) : Prop :=
  match s.phase with
  | .subscribe | .register | .connect => s.queue = s.arrived
  | .establish st => ∃ n, EstInv e (.next st) s.queue s.arrived n
  | .unsubscribe => ∃ pre item, verdict e item = some true ∧ s.arrived = pre ++ item :: s.queue
  | .stream reader => (.assocChange, true) ∈ s.callerEvents ∨
      .assocChange ∉ s.subs ∧ ∃ vq, ReaderAt reader s.queue vq ∧ NoAssocChange e vq
  | .failed _ => True

structure CleanInv (e : Endian) (s : ConnSt) : Prop where
  phase : PhaseInv e s
  quiet : s.phase.Connecting → QuietAfterUp e s.arrived
  delivered : ∀ r ∈ s.delivered, Received.IsAssocChange r → (.assocChange, true) ∈ s.callerEvents

theorem NoAssocChange.append {e : Endian} {items items' : List Item} (h : NoAssocChange e items)
    (h' : NoAssocChange e items') : NoAssocChange e (items ++ items') := by
  intro i hi
  obtain hi | hi := List.mem_append.mp hi
  · exact h i hi
  · exact h' i hi

theorem NoAssocChange.singleton {e : Endian} {item : Item} (h : ¬ IsAssocChange e item) :
    NoAssocChange e [item] := by
  intro i hi
  rwa [List.mem_singleton.mp hi]

/-- Only notifications of the class are read as `AssocChange`. -/
theorem eventType_of_isAssocChange {e : Endian} {k : KernelNotification} {peer : SocketAddr}
    (h : IsAssocChange e (.notification (k.encode e) peer)) :
    eventType k.body = some .assocChange := by
  obtain ⟨bytes, peer', ac, hitem, hparse⟩ := h
  obtain ⟨rfl, -⟩ := Item.notification.inj hitem
  rw [Notification.parse_encode] at hparse
  obtain ⟨flags, len, body⟩ := k
  cases body <;> simp_all [KernelNotification.notification, eventType]

/-- What is delivered as an `AssocChange` was one. -/
theorem deliver_isAssocChange {buf : Bytes} {wantFrom : Bool} {q : List Item}
    (h : Received.IsAssocChange (deliver t buf wantFrom q).1) : ¬ NoAssocChange t.endian q := by
  obtain ⟨ac, sender, hres⟩ := h
  obtain ⟨bytes, peer, rest, rfl, hparse⟩ := deliver_notification hres
  exact fun hno => hno (.notification bytes peer) (by simp) ⟨bytes, peer, ac, rfl, hparse⟩

theorem deliver_noAssocChange {buf : Bytes} {wantFrom : Bool} {q : List Item}
    (h : NoAssocChange t.endian q) : NoAssocChange t.endian (deliver t buf wantFrom q).2 := by
  rintro i hi ⟨bytes, peer, ac, rfl, hparse⟩
  exact h _ (mem_of_mem_deliver hi) ⟨bytes, peer, ac, rfl, hparse⟩

theorem QuietAfterUp.append {e : Endian} {arrived : List Item} {item : Item}
    (h : QuietAfterUp e arrived)
    (hitem : IsAssocChange e item → ∀ i ∈ arrived, verdict e i ≠ some true) :
    QuietAfterUp e (arrived ++ [item]) := by
  intro pre up post hsplit hup
  obtain rfl | ⟨post', rfl, harrived⟩ :
      post = [] ∨ ∃ post', post = post' ++ [item] ∧ arrived = pre ++ up :: post' := by
    obtain rfl | ⟨post', last, rfl⟩ := List.eq_nil_or_concat post
    · exact .inl rfl
    · right
      rw [List.concat_eq_append, ← List.cons_append, ← List.append_assoc] at hsplit
      obtain ⟨harrived, hlast⟩ := List.append_inj' hsplit rfl
      obtain rfl : item = last := by simpa using hlast
      exact ⟨post', List.concat_eq_append, harrived⟩
  · simp [NoAssocChange]
  · refine (h pre up post' harrived hup).append (.singleton fun hchange => ?_)
    exact hitem hchange up (by simp [harrived]) hup

theorem ReaderAt.append {reader : Option (Attempt RecvState)} {q vq : List Item}
    (h : ReaderAt reader q vq) (more : List Item) : ReaderAt reader (q ++ more) (vq ++ more) := by
  cases reader with
  | none => exact congrArg (· ++ more) h
  | some a =>
    obtain ⟨buf, hread⟩ := h
    exact ⟨buf, hread.append more⟩

/-- An item is queued: behind `CommUp`, or on a stream whose owner has not
    subscribed, it must not be an `AssocChange`. -/
theorem CleanInv.enqueue {e : Endian} (h : CleanInv e s) {item : Item}
    (hstream : .assocChange ∉ s.subs → ¬ IsAssocChange e item)
    (hup : s.phase.Connecting → IsAssocChange e item →
      ∀ i ∈ s.arrived, verdict e i ≠ some true) :
    CleanInv e (s.enqueue item) := by
  refine ⟨?_, fun hphase => (h.quiet hphase).append (hup hphase), h.delivered⟩
  have hinv := h.phase
  unfold PhaseInv at hinv ⊢
  simp only [ConnSt.enqueue]
  split
  · simp_all
  · simp_all
  · simp_all
  · next st hphase =>
    simp only [hphase] at hinv
    obtain ⟨n, hest⟩ := hinv
    obtain ⟨n', hest', -⟩ := hest.arrive item
    exact ⟨n', hest'⟩
  · next hphase =>
    simp only [hphase] at hinv
    obtain ⟨pre, up, hverdict, harrived⟩ := hinv
    exact ⟨pre, up, hverdict, by rw [harrived, List.append_assoc, List.cons_append]⟩
  · next reader hphase =>
    simp only [hphase] at hinv
    obtain hcaller | ⟨hnot, vq, hreader, hclean⟩ := hinv
    · exact .inl hcaller
    · exact .inr ⟨hnot, _, hreader.append [item], hclean.append (.singleton (hstream hnot))⟩
  · trivial

/-- A read of the stream takes nothing off the queue that was not subscribed. -/
theorem CleanInv.receive {io : Attempt RecvState} (h : CleanInv t.endian s)
    (hphase : s.phase = .stream (some io)) :
    (∀ io' queue, readStep t false s.queue io = (.next io', queue) →
      CleanInv t.endian { s with queue, phase := .stream (some io') }) ∧
    (∀ out queue, readStep t false s.queue io = (.done out, queue) →
      CleanInv t.endian
        { s with queue, phase := .stream none, delivered := s.delivered ++ [out] }) := by
  have hinv := h.phase
  simp only [PhaseInv, hphase] at hinv
  obtain hcaller | ⟨hnot, vq, ⟨buf, hread⟩, hclean⟩ := hinv
  · refine ⟨fun io' queue _ => ⟨.inl hcaller, False.elim, h.delivered⟩, fun out queue _ => ?_⟩
    exact ⟨.inl hcaller, False.elim, fun r _ _ => hcaller⟩
  · obtain ⟨io', hnext, hread', -⟩ | ⟨-, -, hdone, hq⟩ := hread.step (t := t)
    · refine ⟨fun io'' queue hstep => ?_, fun out queue hstep => by simp [hstep] at hnext⟩
      simp only [hstep] at hnext hread'
      obtain rfl := Step.next.inj hnext
      exact ⟨.inr ⟨hnot, vq, ⟨buf, hread'⟩, hclean⟩, False.elim, h.delivered⟩
    · refine ⟨fun io' queue hstep => by simp [hstep] at hdone, fun out queue hstep => ?_⟩
      simp only [hstep] at hdone hq
      obtain rfl := Step.done.inj hdone
      subst hq
      refine ⟨.inr ⟨hnot, _, rfl, deliver_noAssocChange hclean⟩, False.elim, ?_⟩
      intro r hr hchange
      obtain hr | hr := List.mem_append.mp hr
      · exact h.delivered r hr hchange
      · rw [List.mem_singleton.mp hr] at hchange
        exact absurd hclean (deliver_isAssocChange hchange)

/-- A subscribed notification is queued. -/
theorem CleanInv.notified {e : Endian} {k : KernelNotification} {peer : SocketAddr}
    (h : CleanInv e s) (hsub : Subscribed s.subs k)
    (hquiet : Quiet e s (.notify k peer)) :
    CleanInv e (s.enqueue (.notification (k.encode e) peer)) := by
  have hmem : IsAssocChange e (.notification (k.encode e) peer) → .assocChange ∈ s.subs := by
    intro hchange
    obtain ⟨ev, hmem, hev⟩ := hsub
    rw [eventType_of_isAssocChange hchange] at hev
    exact Option.some.inj hev ▸ hmem
  apply h.enqueue
  · intro hnot hchange
    exact hnot (hmem hchange)
  · intro hphase hchange
    exact hquiet (eventType_of_isAssocChange hchange) (hmem hchange) hphase

/-- The owner of the stream changes a subscription. -/
theorem CleanInv.changed {e : Endian} {reader : Option (Attempt RecvState)} (h : CleanInv e s)
    (hphase : s.phase = .stream reader) (event : EventType) (on : Bool) :
    CleanInv e
      { s with
        subs := setEvent s.subs event on
        callerEvents := s.callerEvents ++ [(event, on)] } := by
  have hnotConnecting : ¬ s.phase.Connecting := by
    rw [hphase]
    exact id
  have hinv := h.phase
  simp only [PhaseInv, hphase] at hinv
  refine ⟨?_, fun hphase' => absurd hphase' hnotConnecting, fun r hr hchange => ?_⟩
  · simp only [PhaseInv, hphase]
    obtain hcaller | ⟨hnot, hclean⟩ := hinv
    · exact .inl (List.mem_append_left _ hcaller)
    · by_cases hsub : event = .assocChange ∧ on = true
      · obtain ⟨rfl, rfl⟩ := hsub
        exact .inl (by simp)
      · refine .inr ⟨fun hmem => hsub ?_, hclean⟩
        cases on with
        | true => exact ⟨by simpa [setEvent, hnot, eq_comm] using hmem, rfl⟩
        | false => simp [setEvent, hnot] at hmem
  · exact List.mem_append_left _ (h.delivered r hr hchange)

theorem CleanInv.step (h : CleanInv t.endian s) (hquiet : Quiet t.endian s a)
    (hstep : (connSystem t false).step s a = some s') : CleanInv t.endian s' := by
  have hinv := h.phase
  have hquietUp : ∀ {p : Phase}, s.phase = p → p.Connecting → QuietAfterUp t.endian s.arrived :=
    fun hphase hp => h.quiet (hphase ▸ hp)
  cases ConnMove.of_step hstep with
  | ignored => exact h
  | notified hsub => exact h.notified hsub hquiet
  | queued _ hitem =>
    have hno : ∀ {e}, ¬ IsAssocChange e _ := fun ⟨bytes, peer, _, heq, _⟩ => hitem bytes peer heq
    exact h.enqueue (fun _ => hno) (fun _ hchange => absurd hchange hno)
  | failed => exact ⟨trivial, False.elim, h.delivered⟩
  | subscribed _ hphase =>
    simp only [PhaseInv, hphase] at hinv
    exact ⟨hinv, fun _ => hquietUp hphase trivial, h.delivered⟩
  | registered _ hphase =>
    simp only [PhaseInv, hphase] at hinv
    exact ⟨hinv, fun _ => hquietUp hphase trivial, h.delivered⟩
  | connected _ hphase =>
    simp only [PhaseInv, hphase] at hinv
    have hest : ∃ n, EstInv t.endian (.next estStart) s.queue s.arrived n := by
      rw [← hinv]
      exact EstInv.init t.endian s.queue
    exact ⟨hest, fun _ => hquietUp hphase trivial, h.delivered⟩
  | @establishing _ _ _ soError _ hphase hest =>
    simp only [PhaseInv, hphase] at hinv
    obtain ⟨n, hinv⟩ := hinv
    obtain ⟨n', hinv', -⟩ := hinv.poll soError
    rw [hest] at hinv'
    exact ⟨⟨n', hinv'⟩, fun _ => hquietUp hphase trivial, h.delivered⟩
  | @up _ _ soError queue hphase hest =>
    simp only [PhaseInv, hphase] at hinv
    obtain ⟨n, hinv⟩ := hinv
    obtain ⟨n', hinv', -⟩ := hinv.poll soError
    rw [hest] at hinv'
    refine ⟨?_, fun _ => hquietUp hphase trivial, h.delivered⟩
    generalize s.arrived = arrived at hinv' ⊢
    cases hinv' with
    | up hpre hitem => exact ⟨_, _, hitem, rfl⟩
  | unsubscribed _ hphase =>
    simp only [PhaseInv, hphase] at hinv
    obtain ⟨pre, item, hup, harrived⟩ := hinv
    -- What is left in the queue is what came behind `CommUp`.
    have hclean := hquietUp hphase trivial pre item s.queue harrived hup
    exact ⟨.inr ⟨by simp, s.queue, rfl, hclean⟩, False.elim, h.delivered⟩
  | receive buf hphase =>
    simp only [PhaseInv, hphase] at hinv
    obtain hcaller | ⟨hnot, vq, rfl, hclean⟩ := hinv
    · exact ⟨.inl hcaller, False.elim, h.delivered⟩
    · exact ⟨.inr ⟨hnot, _, ⟨buf, .waiting _⟩, hclean⟩, False.elim, h.delivered⟩
  | receiving _ hphase hread => exact (h.receive hphase).1 _ _ hread
  | received _ hphase hread => exact (h.receive hphase).2 _ _ hread
  | dropped _ hphase =>
    simp only [PhaseInv, hphase] at hinv
    obtain hcaller | ⟨hnot, vq, ⟨buf, hread⟩, hclean⟩ := hinv
    · exact ⟨.inl hcaller, False.elim, h.delivered⟩
    · exact ⟨.inr ⟨hnot, vq, hread.queue_eq, hclean⟩, False.elim, h.delivered⟩
  | changed _ event on hphase => exact h.changed hphase event on

/-- A stream hands its reader no `AssocChange` that was not subscribed, in every
    run in which none is queued between `CommUp` and the return of `connectx`. -/
theorem stream_delivers_subscribed (t : Target) (calls : List BuilderCall) (b : StreamBuilder)
    (hbuild : StreamBuilder.build calls = .ok b) (hcalls : .assocChange ∉ namedEvents calls)
    (acts : List ConnAct) (s : ConnSt)
    (hquiet : (connSystem t b.assocChangeSubscribed).AllSteps (Quiet t.endian) (connInit b) acts)
    (hrun : (connSystem t b.assocChangeSubscribed).run (connInit b) acts = some s) :
    ∀ r ∈ s.delivered, ∀ ac sender,
      r.result = .ok (.notification (.assocChange ac), sender) →
        (.assocChange, true) ∈ s.callerEvents := by
  have hkeep : b.assocChangeSubscribed = false := by
    rw [← Bool.not_eq_true, (StreamBuilder.build_ok hbuild).2]
    exact hcalls
  rw [hkeep] at hquiet hrun
  have hinit : CleanInv t.endian (connInit b) := by
    refine ⟨rfl, fun _ => ?_, by simp [connInit]⟩
    intro pre item post harrived
    simp [connInit] at harrived
  have hinv := System.run_invariant_of_allSteps
    (fun _ _ _ h hok hstep => CleanInv.step (t := t) h hok hstep) hinit hquiet hrun
  intro r hr ac sender hres
  exact hinv.delivered r hr ⟨ac, sender, hres⟩

/-- `SCTP_COMM_LOST` for the same association. -/
def commLost : KernelNotification := ⟨0, 20, .assocChange 1 0 10 10 1 []⟩

def shutdownEvent : KernelNotification := ⟨0, 12, .shutdown 1⟩

/-- The system calls of `connectx` up to `established`, which then finds `CommUp`. -/
def connectToUp : List ConnAct :=
  [.poll none (.ok 0), .poll none (.ok 0), .poll none (.ok 0), .notify commUp (.loopback 5000),
    .poll none (.ok 0), .poll none (.ok 0)]

/-- The same, then the end of `connectx`, and a reader while the peer shuts down
    and aborts. -/
def connectAndRead : List ConnAct :=
  connectToUp ++ [.poll none (.ok 0), .notify shutdownEvent (.loopback 5000), .notify commLost (.loopback 5000),
    .recv (zeros 64), .pollRecv, .pollRecv]

/-- An abort that is reported before the end of `connectx`. -/
def connectDuringAbort : List ConnAct :=
  connectToUp ++ [.notify commLost (.loopback 5000), .poll none (.ok 0), .recv (zeros 64), .pollRecv,
    .pollRecv]

/-- The builder after `subscribe_events(&[EventType::Shutdown])`. -/
def shutdownBuilder : StreamBuilder := ⟨{.shutdown}, false⟩

/-- A caller of `subscribe_events(&[EventType::Shutdown])` gets that event, and
    nothing of an abort after the connect. -/
theorem stream_delivers_subscribed_shutdown :
    ∃ s,
      (connSystem ⟨.little, .w64⟩ shutdownBuilder.assocChangeSubscribed).run
        (connInit shutdownBuilder) connectAndRead = some s ∧
      s.delivered.length = 1 ∧ s.callerEvents = [] ∧
      ∀ r ∈ s.delivered, ∀ ac sender,
        r.result ≠ .ok (.notification (.assocChange ac), sender) := by
  have hbuild : StreamBuilder.build [.subscribeEvents [.shutdown] fun _ => none] =
      .ok shutdownBuilder := by
    decide +kernel
  have hview : ((connSystem ⟨.little, .w64⟩ shutdownBuilder.assocChangeSubscribed).run
      (connInit shutdownBuilder) connectAndRead).any
        (fun s => s.delivered.length = 1 ∧ s.callerEvents = []) := by
    decide +kernel
  have hquiet : (connSystem ⟨.little, .w64⟩ shutdownBuilder.assocChangeSubscribed).AllSteps
      (Quiet .little) (connInit shutdownBuilder) connectAndRead := by
    decide +kernel
  obtain ⟨s, hrun, hs⟩ := (Option.any_eq_true _ _).mp hview
  obtain ⟨hlen, hcaller⟩ := of_decide_eq_true hs
  refine ⟨s, hrun, hlen, hcaller, ?_⟩
  intro r hr ac sender hres
  have hmem := stream_delivers_subscribed ⟨.little, .w64⟩ _ _ hbuild (by decide) connectAndRead s
    hquiet hrun r hr ac sender hres
  simp [hcaller] at hmem

/-- The peer aborts after `CommUp` and before the temporary subscription is gone:
    the reader of a stream without any subscription gets `CommLost`. -/
theorem stream_delivers_unsubscribed :
    ∃ s,
      (connSystem ⟨.little, .w64⟩ false).run (connInit StreamBuilder.new) connectDuringAbort =
        some s ∧
      s.callerEvents = [] ∧ s.subs = ∅ ∧
      ∃ r ∈ s.delivered, r.result = .ok (.notification (.assocChange
        { state := .commLost, error := 0, outboundStreams := 10, inboundStreams := 10
          assocId := ⟨1⟩, info := [] }), none) := by
  have hview : ((connSystem ⟨.little, .w64⟩ false).run (connInit StreamBuilder.new)
      connectDuringAbort).any (fun s => s.callerEvents = [] ∧ s.subs = ∅ ∧
        ∃ r ∈ s.delivered, r.result = .ok (.notification (.assocChange
          { state := .commLost, error := 0, outboundStreams := 10, inboundStreams := 10
            assocId := ⟨1⟩, info := [] }), none)) := by
    decide +kernel
  obtain ⟨s, hrun, hs⟩ := (Option.any_eq_true _ _).mp hview
  exact ⟨s, hrun, of_decide_eq_true hs⟩

end Net

end Lksctp
