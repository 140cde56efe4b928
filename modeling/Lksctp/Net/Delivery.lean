-- SUMMARY: What a connected stream delivers: exactly the items that arrived behind `CommUp`, for `connectx` and for `connectx_from_socket`.
import Lksctp.Net.Connect
import Lksctp.Net.Objects

/-!
# Delivery on a connected stream

`established` reads from the queue that the stream is going to read from. Whatever
arrives while it runs, the stream starts right behind the `CommUp` that ended it, and
from there on its reads are those of an undisturbed queue, also when their futures
are dropped.

`connectx_from_socket` is the same connect on a socket that may have been used before,
with its own subscription in front, which it keeps.
-/

namespace Lksctp

open Rust Machine Kernel Socket

namespace Net

/-! ## connectx_from_socket -/

/-- `connectx_from_socket` up to `register`, on a socket with these subscriptions and this
    queue. The rest of it is `connectx` with the flag for a subscription that stays. -/
def connectxFromSocket (style : Res Style) (reply : Option IoError) (subs : Finset EventType)
    (queue : List Item) : Res ConnSt := do
  if (← style) ≠ .oneToOne then Res.err SctpStream.notOneToOne
  else
    match reply with
    | some e => Res.err e
    | none =>
      pure
        { subs := setEvent subs .assocChange true
          queue
          arrived := queue
          phase := .register
          delivered := []
          callerEvents := [] }

/-! ## Reading a queue to its end -/

/-- `outs` is what one `recv_msg` after another returns on the queue `q`, and `q'` is what is
    left of it. -/
inductive Drains (t : Target) (q : List Item) : List Received → List Item → Prop where
  | nothing : Drains t q [] q
  | one {outs : List Received} {q' : List Item} (h : Drains t q outs q') (hq : q' ≠ [])
      (buf : Bytes) :
      Drains t q (outs ++ [(deliver t buf false q').1]) (deliver t buf false q').2

variable {t : Target} {keep : Bool} {s s' : ConnSt} {a : ConnAct} {q q' : List Item}

/-- What arrives behind the head does not change a read. -/
theorem deliver_append (buf : Bytes) (wantFrom : Bool) (hq : q ≠ []) (more : List Item) :
    deliver t buf wantFrom (q ++ more) =
      ((deliver t buf wantFrom q).1, (deliver t buf wantFrom q).2 ++ more) := by
  cases q with
  | nil => exact absurd rfl hq
  | cons item rest =>
    cases item with
    | eof => rfl
    | notification bytes peer => rfl
    | data bytes last info pad peer => simp only [List.cons_append, deliver, keepRest_append]

theorem Drains.append {outs : List Received} (h : Drains t q outs q') (more : List Item) :
    Drains t (q ++ more) outs (q' ++ more) := by
  induction h with
  | nothing => exact .nothing
  | @one outs q' _ hq buf ih =>
    have hne : q' ++ more ≠ [] := fun hnil => hq (List.append_eq_nil_iff.mp hnil).1
    have hone := ih.one hne buf
    rwa [deliver_append buf false hq] at hone

/-- A reader that has returned `outs` of everything that was queued, `post`, with the `recv_msg`
    that is underway and what is left in the queue. -/
def ReadSoFar (t : Target) (post : List Item) (reader : Option (Attempt RecvState))
    (queue : List Item) (outs : List Received) : Prop :=
  ∃ vq, ReaderAt reader queue vq ∧ Drains t post outs vq

namespace ReadSoFar

variable {post queue : List Item} {reader : Option (Attempt RecvState)} {outs : List Received}

theorem start (t : Target) (queue : List Item) : ReadSoFar t queue none queue [] :=
  ⟨queue, rfl, .nothing⟩

theorem enqueue (h : ReadSoFar t post reader queue outs) (item : Item) :
    ReadSoFar t (post ++ [item]) reader (queue ++ [item]) outs := by
  obtain ⟨vq, hreader, hdrains⟩ := h
  exact ⟨_, hreader.append [item], hdrains.append [item]⟩

theorem receive (h : ReadSoFar t post none queue outs) (buf : Bytes) :
    ReadSoFar t post (some (.waiting (.first buf false))) queue outs := by
  obtain ⟨vq, rfl, hdrains⟩ := h
  exact ⟨queue, ⟨buf, .waiting _⟩, hdrains⟩

theorem poll {io io' : Attempt RecvState} (h : ReadSoFar t post (some io) queue outs)
    (hstep : (readStep t false queue io).1 = .next io') :
    ReadSoFar t post (some io') (readStep t false queue io).2 outs := by
  obtain ⟨vq, ⟨buf, hread⟩, hdrains⟩ := h
  rcases hread.step (t := t) with ⟨io'', hnext, hread', -⟩ | ⟨-, -, hdone, -⟩
  · obtain rfl := Step.next.inj (hstep.symm.trans hnext)
    exact ⟨vq, ⟨buf, hread'⟩, hdrains⟩
  · rw [hstep] at hdone
    cases hdone

theorem done {io : Attempt RecvState} {out : Received} (h : ReadSoFar t post (some io) queue outs)
    (hstep : (readStep t false queue io).1 = .done out) :
    ReadSoFar t post none (readStep t false queue io).2 (outs ++ [out]) := by
  obtain ⟨vq, ⟨buf, hread⟩, hdrains⟩ := h
  rcases hread.step (t := t) with ⟨io', hnext, -⟩ | ⟨hvq, -, hdone, hq⟩
  · rw [hstep] at hnext
    cases hnext
  · obtain rfl := Step.done.inj (hstep.symm.trans hdone)
    exact ⟨_, hq, hdrains.one hvq buf⟩

/-- Suspended, a future has taken nothing off the queue, and can be dropped. -/
theorem drop {st : RecvState} (h : ReadSoFar t post (some (.waiting st)) queue outs) :
    ReadSoFar t post none queue outs := by
  obtain ⟨vq, ⟨buf, hread⟩, hdrains⟩ := h
  exact ⟨vq, hread.queue_eq, hdrains⟩

end ReadSoFar

/-! ## The invariant -/

/-- The first decisive item was `CommUp`, and `post` is what has arrived behind it. -/
def UpThen (e : Endian) (arrived post : List Item) : Prop :=
  ∃ pre item, Undecided e pre ∧ verdict e item = some true ∧ arrived = pre ++ item :: post

theorem UpThen.append {e : Endian} {arrived post : List Item} (h : UpThen e arrived post)
    (more : List Item) : UpThen e (arrived ++ more) (post ++ more) := by
  obtain ⟨pre, item, hpre, hitem, rfl⟩ := h
  exact ⟨pre, item, hpre, hitem, by rw [List.append_assoc, List.cons_append]⟩

def DeliveryInv (t : Target) (s : ConnSt) : Prop :=
  match s.phase with
  | .subscribe | .register | .connect => s.delivered = [] ∧ s.queue = s.arrived
  | .establish st => s.delivered = [] ∧ ∃ n, EstInv t.endian (.next st) s.queue s.arrived n
  | .unsubscribe => s.delivered = [] ∧ UpThen t.endian s.arrived s.queue
  | .stream reader => ∃ post, UpThen t.endian s.arrived post ∧
      ReadSoFar t post reader s.queue s.delivered
  | .failed _ => True

theorem DeliveryInv.enqueue (h : DeliveryInv t s) (item : Item) : DeliveryInv t (s.enqueue item) := by
  unfold DeliveryInv at h ⊢
  simp only [ConnSt.enqueue]
  cases hphase : s.phase with
  | subscribe | register | connect =>
    simp only [hphase] at h ⊢
    exact ⟨h.1, congrArg (· ++ [item]) h.2⟩
  | establish st =>
    simp only [hphase] at h ⊢
    obtain ⟨hnone, n, hest⟩ := h
    obtain ⟨n', hest', -⟩ := hest.arrive item
    exact ⟨hnone, n', hest'⟩
  | unsubscribe =>
    simp only [hphase] at h ⊢
    exact ⟨h.1, h.2.append [item]⟩
  | stream reader =>
    simp only [hphase] at h ⊢
    obtain ⟨post, hup, hread⟩ := h
    exact ⟨_, hup.append [item], hread.enqueue item⟩
  | failed fault => trivial

theorem DeliveryInv.step (h : DeliveryInv t s) (hstep : (connSystem t keep).step s a = some s') :
    DeliveryInv t s' := by
  cases ConnMove.of_step hstep with
  | ignored => exact h
  | notified => exact h.enqueue _
  | queued => exact h.enqueue _
  | failed => trivial
  | subscribed _ hphase | registered _ hphase =>
    simpa only [DeliveryInv, hphase] using h
  | connected _ hphase =>
    simp only [DeliveryInv, hphase] at h ⊢
    rw [h.2]
    exact ⟨h.1, EstInv.init t.endian s.arrived⟩
  | establishing _ hphase hest =>
    simp only [DeliveryInv, hphase] at h ⊢
    obtain ⟨hnone, n, hinv⟩ := h
    obtain ⟨n', hinv', -⟩ := hinv.poll _
    rw [hest] at hinv'
    exact ⟨hnone, n', hinv'⟩
  | up _ hphase hest =>
    simp only [DeliveryInv, hphase] at h ⊢
    obtain ⟨hnone, n, hinv⟩ := h
    obtain ⟨n', hinv', -⟩ := hinv.poll _
    rw [hest] at hinv'
    refine ⟨hnone, ?_⟩
    generalize s.arrived = arrived at hinv'
    cases hinv' with
    | up hpre hitem => exact ⟨_, _, hpre, hitem, rfl⟩
  | unsubscribed _ hphase =>
    simp only [DeliveryInv, hphase] at h ⊢
    obtain ⟨hnone, hup⟩ := h
    rw [hnone]
    exact ⟨s.queue, hup, .start t s.queue⟩
  | receive buf hphase =>
    simp only [DeliveryInv, hphase] at h ⊢
    obtain ⟨post, hup, hread⟩ := h
    exact ⟨post, hup, hread.receive buf⟩
  | receiving _ hphase hpoll =>
    simp only [DeliveryInv, hphase] at h ⊢
    obtain ⟨post, hup, hread⟩ := h
    have hnext := hread.poll (congrArg Prod.fst hpoll)
    rw [hpoll] at hnext
    exact ⟨post, hup, hnext⟩
  | received _ hphase hpoll =>
    simp only [DeliveryInv, hphase] at h ⊢
    obtain ⟨post, hup, hread⟩ := h
    have hdone := hread.done (congrArg Prod.fst hpoll)
    rw [hpoll] at hdone
    exact ⟨post, hup, hdone⟩
  | dropped _ hphase =>
    simp only [DeliveryInv, hphase] at h ⊢
    obtain ⟨post, hup, hread⟩ := h
    exact ⟨post, hup, hread.drop⟩
  | changed _ event on hphase =>
    simpa only [DeliveryInv, hphase] using h

/-! ## Every run -/

/-- A connect that has not looked at the queue yet. -/
structure ConnSt.Fresh (s : ConnSt) : Prop where
  phase : s.phase = .subscribe ∨ s.phase = .register
  delivered : s.delivered = []
  queue : s.queue = s.arrived

theorem ConnSt.Fresh.inv (h : s.Fresh) : DeliveryInv t s := by
  rcases h.phase with hphase | hphase
  · simp only [DeliveryInv, hphase]
    exact ⟨h.delivered, h.queue⟩
  · simp only [DeliveryInv, hphase]
    exact ⟨h.delivered, h.queue⟩

/-- `StreamBuilder::connectx` starts on a new socket. -/
theorem connInit_fresh (b : StreamBuilder) : (connInit b).Fresh := ⟨.inl rfl, rfl, rfl⟩

theorem connectxFromSocket_ok {style : Res Style} {reply : Option IoError} {subs : Finset EventType}
    (h : connectxFromSocket style reply subs q = .ok s) :
    style = .ok .oneToOne ∧ s.Fresh ∧ s.phase = .register ∧ s.subs = insert .assocChange subs ∧
      s.callerEvents = [] := by
  unfold connectxFromSocket at h
  cases style with
  | error fault => cases h
  | ok style =>
    cases style with
    | oneToMany => cases h
    | oneToOne =>
      cases reply with
      | some e => cases h
      | none =>
        obtain rfl := Except.ok.inj h
        exact ⟨rfl, ⟨.inr rfl, rfl, rfl⟩, rfl, rfl, rfl⟩

/-- A stream exists only because `CommUp` was the first decisive item, and what it has delivered
    is what one `recv_msg` after another makes of the items behind that: none of them is lost,
    repeated or out of order, and nothing from before is seen, wherever the kernel's events and
    dropped futures fall. -/
theorem stream_continues_behind_up (s₀ : ConnSt) (hfresh : s₀.Fresh) (acts : List ConnAct)
    (hrun : (connSystem t keep).run s₀ acts = some s) (reader : Option (Attempt RecvState))
    (hphase : s.phase = .stream reader) :
    ∃ pre item post vq, s.arrived = pre ++ item :: post ∧ Undecided t.endian pre ∧
      verdict t.endian item = some true ∧ Drains t post s.delivered vq ∧
      ReaderAt reader s.queue vq := by
  have hinv : DeliveryInv t s := System.run_invariant
    (fun _ _ _ h hstep => DeliveryInv.step h hstep) hfresh.inv hrun
  simp only [DeliveryInv, hphase] at hinv
  obtain ⟨post, ⟨pre, item, hpre, hitem, harrived⟩, vq, hreader, hdrains⟩ := hinv
  exact ⟨pre, item, post, vq, harrived, hpre, hitem, hdrains, hreader⟩

/-- A stream that nobody reads from at the moment. -/
def Phase.isIdle : Phase → Bool
  | .stream none => true
  | _ => false

theorem Phase.eq_of_isIdle {phase : Phase} (h : phase.isIdle = true) : phase = .stream none := by
  cases phase with
  | stream reader =>
    cases reader with
    | none => rfl
    | some io => cases h
  | _ => cases h

/-- The peer aborts right behind `CommUp`, before the stream is there: the stream delivers that,
    and nothing else. -/
theorem stream_continues_behind_up_abort :
    ∃ s, (connSystem ⟨.little, .w64⟩ false).run (connInit .new) connectDuringAbort = some s ∧
      s.arrived.length = 2 ∧ s.delivered.length = 1 ∧
      ∃ pre item post vq, s.arrived = pre ++ item :: post ∧ Undecided .little pre ∧
        verdict .little item = some true ∧ Drains ⟨.little, .w64⟩ post s.delivered vq ∧
        ReaderAt none s.queue vq := by
  have hview : ((connSystem ⟨.little, .w64⟩ false).run (connInit .new) connectDuringAbort).any
      (fun s => s.arrived.length = 2 ∧ s.delivered.length = 1 ∧ s.phase.isIdle = true) := by
    decide +kernel
  obtain ⟨s, hrun, hs⟩ := (Option.any_eq_true _ _).mp hview
  obtain ⟨harrived, hdelivered, hidle⟩ := of_decide_eq_true hs
  exact ⟨s, hrun, harrived, hdelivered, stream_continues_behind_up (connInit .new)
    (connInit_fresh .new) connectDuringAbort hrun none (Phase.eq_of_isIdle hidle)⟩

/-- `connectx_from_socket` returns a stream only for a one-to-one socket, and leaves `AssocChange`
    subscribed there next to what was subscribed before, until the owner of the stream changes
    it. -/
theorem connectxFromSocket_keeps_subscription (style : Res Style) (reply : Option IoError)
    (subs : Finset EventType) (queue : List Item) (s₀ : ConnSt)
    (hstart : connectxFromSocket style reply subs queue = .ok s₀) (acts : List ConnAct)
    (hrun : (connSystem t true).run s₀ acts = some s) (reader : Option (Attempt RecvState))
    (hphase : s.phase = .stream reader) :
    style = .ok .oneToOne ∧
      s.subs = afterChanges (insert .assocChange subs) s.callerEvents := by
  obtain ⟨hstyle, -, hregister, hsubs, hcaller⟩ := connectxFromSocket_ok hstart
  have hkeep : true = true ↔ EventType.assocChange ∈ insert .assocChange subs :=
    ⟨fun _ => Finset.mem_insert_self _ _, fun _ => rfl⟩
  have hinit : SubsInv true (insert .assocChange subs) s₀ := by
    simp only [SubsInv, hregister, if_true]
    exact ⟨hsubs, hcaller⟩
  have hinv := System.run_invariant (fun _ _ _ => SubsInv.step (t := t) hkeep) hinit hrun
  simp only [SubsInv, hphase] at hinv
  exact ⟨hstyle, hinv⟩

/-- A socket that was subscribed to shutdowns. -/
def shutdownSocket : ConnSt where
  subs := {.assocChange, .shutdown}
  queue := []
  arrived := []
  phase := .register
  delivered := []
  callerEvents := []

theorem connectxFromSocket_keeps_subscription_shutdown :
    ∃ s, (connSystem ⟨.little, .w64⟩ true).run shutdownSocket
        (connectToUp.tail ++ [.poll none (.ok 0)]) = some s ∧
      (.ok .oneToOne : Res Style) = .ok .oneToOne ∧
      s.subs = afterChanges (insert .assocChange {.shutdown}) s.callerEvents := by
  have hview : ((connSystem ⟨.little, .w64⟩ true).run shutdownSocket
      (connectToUp.tail ++ [.poll none (.ok 0)])).any (fun s => s.phase.isIdle = true) := by
    decide +kernel
  have hstart : connectxFromSocket (.ok .oneToOne) none {.shutdown} [] = .ok shutdownSocket := rfl
  obtain ⟨s, hrun, hs⟩ := (Option.any_eq_true _ _).mp hview
  exact ⟨s, hrun, connectxFromSocket_keeps_subscription _ _ _ _ _ hstart _ hrun none
    (Phase.eq_of_isIdle (of_decide_eq_true hs))⟩

end Net

end Lksctp
