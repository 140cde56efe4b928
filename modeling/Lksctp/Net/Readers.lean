-- SUMMARY: Two receive calls on one socket, interleaved at their system calls, and when each of them gets whole notifications.
import Mathlib.Logic.Function.Basic
import Lksctp.Net.Common

/-!
# Two readers of one socket

A `recv_msg` that reassembles a notification does several system calls, and the
call of another thread or task can fall between them. `readersSystem` has two
readers and lets their system calls be interleaved in every way.

The readers agree with each other as long as no system call is made by one of
them while the other is in the middle of a notification. `Shared` is the
invariant for that case: at most one reader `holds` the head of the queue.
-/

namespace Lksctp

open Rust Machine Kernel Socket

namespace Net

/-- How a call waits: in the kernel, not at all, or in `read_op`. -/
inductive Mode where
  | blocking
  | nonblocking
  | async
  deriving DecidableEq, Repr

inductive Side where
  | left
  | right
  deriving DecidableEq, Repr

def Side.other : Side → Side
  | .left => .right
  | .right => .left

/-- A call of `recv_msg` that has not returned. -/
structure Reader where
  mode : Mode
  wantFrom : Bool
  position : Attempt RecvState

structure ReadersSt where
  queue : List Item
  /-- Everything that was ever queued, in order. -/
  arrived : List Item
  readers : Side → Option Reader
  /-- What the calls have returned, in the order of their last system calls. -/
  returned : List Received

inductive ReadersAct where
  | arrive (item : Item)
  | start (side : Side) (mode : Mode) (buf : Bytes) (wantFrom : Bool)
  /-- The socket is reported ready to a reader that waits in `read_op`. -/
  | wake (side : Side)
  | syscall (side : Side)

/-- The position of a call that starts. -/
def startPosition (mode : Mode) (s : RecvState) : Attempt RecvState :=
  match mode with
  | .async => .waiting s
  | .blocking | .nonblocking => .running s

/-- Only `read_op` tries again after a result that would block. -/
def afterSyscall (mode : Mode) (wantFrom : Bool) (result : Step RecvState Received) :
    Step (Attempt RecvState) Received :=
  match mode with
  | .async => tryRecv wantFrom result
  | .blocking | .nonblocking =>
    match result with
    | .next s => .next (.running s)
    | .done out => .done out

namespace ReadersSt

def setReader (s : ReadersSt) (side : Side) (r : Option Reader) : ReadersSt :=
  { s with readers := Function.update s.readers side r }

/-- One system call; a blocking one waits for something to read. -/
def syscall (t : Target) (s : ReadersSt) (side : Side) : Option ReadersSt :=
  match s.readers side with
  | some ⟨mode, wantFrom, .running st⟩ =>
    if mode = .blocking ∧ s.queue.isEmpty then none
    else
      let s' := { s with queue := (recvStep t st s.queue).2 }
      match afterSyscall mode wantFrom (recvStep t st s.queue).1 with
      | .next position => some (s'.setReader side (some ⟨mode, wantFrom, position⟩))
      | .done out => some ({ s' with returned := s.returned ++ [out] }.setReader side none)
  | _ => none

end ReadersSt

def readersSystem (t : Target) : System ReadersSt ReadersAct where
  step s
    | .arrive item => some { s with queue := s.queue ++ [item], arrived := s.arrived ++ [item] }
    | .start side mode buf wantFrom =>
      match s.readers side with
      | none => some (s.setReader side (some ⟨mode, wantFrom, startPosition mode (.first buf wantFrom)⟩))
      | some _ => none
    | .wake side =>
      match s.readers side with
      | some ⟨mode, wantFrom, .waiting st⟩ =>
        some (s.setReader side (some ⟨mode, wantFrom, .running st⟩))
      | _ => none
    | .syscall side => s.syscall t side

def readersInit (q : List Item) : ReadersSt where
  queue := q
  arrived := q
  readers := fun _ => none
  returned := []

/-! ## The law and the condition -/

/-- Every notification that was returned is the parse of a whole one, and all the
    user data that has left the queue was returned. -/
structure WholeReads (e : Endian) (s : ReadersSt) : Prop where
  notifications : ∀ r ∈ s.returned, ∀ n sender, r.result = .ok (.notification n, sender) →
    ∃ bytes peer, .notification bytes peer ∈ s.arrived ∧ Notification.parse e bytes = .ok n
  data : s.returned.flatMap Received.payload ++ queuePayload s.queue = queuePayload s.arrived

/-- A reader that has read a part of a notification. -/
def Reader.reassembling (r : Reader) : Bool :=
  match r.position with
  | .running st => st.isReassembling
  | .waiting _ => false

/-- A system call is made only while the other reader is not in the middle of a
    notification. -/
def Undisturbed (s : ReadersSt) : ReadersAct → Prop
  | .syscall side => ∀ r ∈ s.readers side.other, r.reassembling = false
  | _ => True

instance (s : ReadersSt) : ∀ a, Decidable (Undisturbed s a)
  | .syscall side =>
    inferInstanceAs (Decidable (∀ r ∈ s.readers side.other, r.reassembling = false))
  | .arrive _ | .start .. | .wake _ => isTrue trivial

/-! ## The invariant -/

/-- A call that has taken nothing off the queue. -/
def Reader.Idle (r : Reader) : Prop :=
  ∃ buf, r.position = .waiting (.first buf r.wantFrom) ∨ r.position = .running (.first buf r.wantFrom)

/-- The readers over the queue `vq` of whole notifications; the `holder`, if there
    is one, is in the middle of the first of them. -/
structure Shared (s : ReadersSt) (vq : List Item) (holder : Option Side) : Prop where
  idle : ∀ side, ∀ r ∈ s.readers side, holder ≠ some side → r.Idle
  held : ∀ side ∈ holder, ∃ r st buf, s.readers side = some r ∧ r.position = .running st ∧
    st.isReassembling = true ∧ Reading buf r.wantFrom st s.queue vq
  free : holder = none → s.queue = vq

structure ReadersInv (e : Endian) (s : ReadersSt) : Prop where
  shared : ∃ vq holder, Shared s vq holder ∧
    ∀ bytes peer, .notification bytes peer ∈ vq → .notification bytes peer ∈ s.arrived
  whole : WholeReads e s

variable {t : Target} {s s' : ReadersSt} {vq : List Item} {holder : Option Side} {side : Side}

theorem Side.eq_or_eq_other (side side' : Side) : side' = side ∨ side' = side.other := by
  cases side <;> cases side' <;> simp [Side.other]

theorem Side.other_ne (side : Side) : side.other ≠ side := by cases side <;> simp [Side.other]

@[simp] theorem ReadersSt.setReader_self (s : ReadersSt) (side : Side) (o : Option Reader) :
    (s.setReader side o).readers side = o := Function.update_self ..

theorem ReadersSt.setReader_of_ne (s : ReadersSt) {side side' : Side} (o : Option Reader)
    (h : side' ≠ side) : (s.setReader side o).readers side' = s.readers side' :=
  Function.update_of_ne h ..

theorem Shared.payload (h : Shared s vq holder) : queuePayload s.queue = queuePayload vq := by
  cases holder with
  | none => rw [h.free rfl]
  | some side =>
    obtain ⟨_, _, _, _, _, _, hread⟩ := h.held side rfl
    exact hread.payload

theorem Shared.arrive (h : Shared s vq holder) (item : Item) :
    Shared { s with queue := s.queue ++ [item], arrived := s.arrived ++ [item] } (vq ++ [item])
      holder := by
  refine ⟨h.idle, fun side hside => ?_, fun hnone => congrArg (· ++ [item]) (h.free hnone)⟩
  obtain ⟨r, st, buf, hr, hpos, hmid, hread⟩ := h.held side hside
  exact ⟨r, st, buf, hr, hpos, hmid, hread.append [item]⟩

/-- Only a reader in the middle of a notification holds the queue. -/
theorem Shared.not_held (h : Shared s vq holder)
    (hfree : ∀ r ∈ s.readers side, r.reassembling = false) : holder ≠ some side := by
  rintro rfl
  obtain ⟨r, st, buf, hr, hpos, hmid, -⟩ := h.held side rfl
  have hnot := hfree r hr
  simp [Reader.reassembling, hpos, hmid] at hnot

/-- A reader that holds nothing starts, wakes up or is gone. -/
theorem Shared.setReader (h : Shared s vq holder) (hside : holder ≠ some side)
    {o : Option Reader} (ho : ∀ r ∈ o, r.Idle) : Shared (s.setReader side o) vq holder := by
  refine ⟨fun side' r hr hne => ?_, fun side' hheld => ?_, h.free⟩
  · by_cases heq : side' = side
    · subst heq
      rw [ReadersSt.setReader_self] at hr
      exact ho r hr
    · rw [ReadersSt.setReader_of_ne _ _ heq] at hr
      exact h.idle side' r hr hne
  · obtain ⟨r, st, buf, hr, hrest⟩ := h.held side' hheld
    have hne : side' ≠ side := by
      rintro rfl
      exact hside hheld
    exact ⟨r, st, buf, by rw [ReadersSt.setReader_of_ne _ _ hne]; exact hr, hrest⟩

/-- Undisturbed, the reader that makes a system call is reading `vq`. -/
theorem Shared.reading (h : Shared s vq holder) {mode : Mode} {wantFrom : Bool} {st : RecvState}
    (hr : s.readers side = some ⟨mode, wantFrom, .running st⟩) (hfree : holder ≠ some side.other) :
    ∃ buf, Reading buf wantFrom st s.queue vq := by
  cases hholder : holder with
  | none =>
    obtain ⟨buf, hpos | hpos⟩ := h.idle side _ hr (by simp [hholder])
    · cases hpos
    · obtain rfl : st = .first buf wantFrom := by simpa using hpos
      rw [h.free hholder]
      exact ⟨buf, .first vq⟩
  | some side' =>
    obtain rfl : side' = side := by
      obtain heq | heq := side.eq_or_eq_other side'
      · exact heq
      · exact absurd (by rw [hholder, heq]) hfree
    obtain ⟨r, st', buf, hr', hpos, -, hread⟩ := h.held side' hholder
    rw [hr] at hr'
    obtain rfl := Option.some.inj hr'
    obtain rfl : st = st' := by simpa using hpos
    exact ⟨buf, hread⟩

/-- The reader has read a part of the notification and holds the queue. -/
theorem Shared.hold (h : Shared s vq holder) (hfree : holder ≠ some side.other) {mode : Mode}
    {wantFrom : Bool} {st : RecvState} {buf : Bytes} {queue : List Item}
    (hmid : st.isReassembling = true) (hread : Reading buf wantFrom st queue vq) :
    Shared ({ s with queue }.setReader side (some ⟨mode, wantFrom, .running st⟩)) vq
      (some side) := by
  refine ⟨fun side' r hr hne => ?_, fun side' hheld => ?_, fun hnone => by cases hnone⟩
  · have hother : side' = side.other := by
      obtain heq | heq := side.eq_or_eq_other side'
      · exact absurd (by rw [heq]) hne
      · exact heq
    subst hother
    rw [ReadersSt.setReader_of_ne _ _ side.other_ne] at hr
    exact h.idle side.other r hr hfree
  · obtain rfl := Option.some.inj hheld
    exact ⟨_, st, buf, ReadersSt.setReader_self .., rfl, hmid, hread⟩

/-- The reader has finished an item, and nobody holds the queue. -/
theorem Shared.release (h : Shared s vq holder) (hfree : holder ≠ some side.other)
    (queue : List Item) (returned : List Received) {o : Option Reader} (ho : ∀ r ∈ o, r.Idle) :
    Shared ({ s with queue, returned }.setReader side o) queue none := by
  refine ⟨fun side' r hr _ => ?_, fun side' hheld => (by cases hheld), fun _ => rfl⟩
  obtain rfl | rfl := side.eq_or_eq_other side'
  · rw [ReadersSt.setReader_self] at hr
    exact ho r hr
  · rw [ReadersSt.setReader_of_ne _ _ side.other_ne] at hr
    exact h.idle side.other r hr hfree

/-! ## Steps -/

theorem WholeReads.arrive {e : Endian} (h : WholeReads e s) (item : Item) :
    WholeReads e { s with queue := s.queue ++ [item], arrived := s.arrived ++ [item] } := by
  refine ⟨fun r hr n sender hres => ?_, ?_⟩
  · obtain ⟨bytes, peer, hmem, hparse⟩ := h.notifications r hr n sender hres
    exact ⟨bytes, peer, List.mem_append_left _ hmem, hparse⟩
  · simp only [queuePayload_append, ← List.append_assoc, h.data]

/-- A call returns what it has read from the queue `vq`. -/
theorem WholeReads.returned (h : WholeReads t.endian s) (buf : Bytes) (wantFrom : Bool)
    (hpayload : queuePayload s.queue = queuePayload vq)
    (hmem : ∀ bytes peer, .notification bytes peer ∈ vq → .notification bytes peer ∈ s.arrived) :
    WholeReads t.endian
      { s with
        queue := (deliver t buf wantFrom vq).2
        returned := s.returned ++ [(deliver t buf wantFrom vq).1] } := by
  refine ⟨fun r hr n sender hres => ?_, ?_⟩
  · obtain hr | hr := List.mem_append.mp hr
    · exact h.notifications r hr n sender hres
    · rw [List.mem_singleton.mp hr] at hres
      obtain ⟨bytes, peer, rest, rfl, hparse⟩ := deliver_notification hres
      exact ⟨bytes, peer, hmem bytes peer (by simp), hparse⟩
  · simp only [List.flatMap_append, List.flatMap_singleton, List.append_assoc, deliver_payload]
    rw [← hpayload, h.data]

theorem afterSyscall_next (mode : Mode) (wantFrom : Bool) (st : RecvState) :
    afterSyscall mode wantFrom (.next st) = .next (.running st) := by
  cases mode <;> rfl

/-- A finished call returns, unless it would block and is tried again. -/
theorem afterSyscall_done (mode : Mode) (wantFrom : Bool) (out : Received) :
    afterSyscall mode wantFrom (.done out) = .done out ∨
    out.result.isWouldBlock = true ∧
      afterSyscall mode wantFrom (.done out) = .next (.waiting (.first out.buf wantFrom)) := by
  cases mode with
  | blocking => exact .inl rfl
  | nonblocking => exact .inl rfl
  | async =>
    cases h : out.result.isWouldBlock with
    | true => exact .inr ⟨rfl, tryRecv_wouldBlock h⟩
    | false => exact .inl (tryRecv_done h)

theorem ReadersInv.syscall (h : ReadersInv t.endian s)
    (hfree : ∀ r ∈ s.readers side.other, r.reassembling = false)
    (hstep : s.syscall t side = some s') : ReadersInv t.endian s' := by
  obtain ⟨⟨vq, holder, hshared, hmem⟩, hwhole⟩ := h
  have hholder : holder ≠ some side.other := hshared.not_held hfree
  unfold ReadersSt.syscall at hstep
  split at hstep
  · next mode wantFrom st hr =>
    split at hstep
    · cases hstep
    · obtain ⟨buf, hread⟩ := hshared.reading hr hholder
      obtain ⟨st', hnext, hread', -⟩ | ⟨hdone, hq⟩ := hread.step (t := t)
      · have hmid := isReassembling_of_recvStep hnext
        simp only [hnext, afterSyscall_next] at hstep
        obtain rfl := Option.some.inj hstep
        refine ⟨⟨vq, some side, hshared.hold hholder hmid hread', hmem⟩, hwhole.notifications, ?_⟩
        exact (congrArg _ (hread'.payload.trans hshared.payload.symm)).trans hwhole.data
      · simp only [hdone, hq] at hstep
        have hmem' : ∀ bytes peer, .notification bytes peer ∈ (deliver t buf wantFrom vq).2 →
            .notification bytes peer ∈ s.arrived :=
          fun bytes peer hin => hmem bytes peer (mem_of_mem_deliver hin)
        obtain hafter | ⟨hblock, hafter⟩ :=
          afterSyscall_done mode wantFrom (deliver t buf wantFrom vq).1
        · rw [hafter] at hstep
          obtain rfl := Option.some.inj hstep
          have hrelease := hshared.release hholder (deliver t buf wantFrom vq).2
            (s.returned ++ [(deliver t buf wantFrom vq).1]) (o := none) (by simp)
          have hreturned := hwhole.returned buf wantFrom hshared.payload hmem
          exact ⟨⟨_, none, hrelease, hmem'⟩, hreturned.notifications, hreturned.data⟩
        · -- Nothing was queued, and the reader waits again.
          obtain rfl := deliver_wouldBlock hblock
          rw [hafter] at hstep
          obtain rfl := Option.some.inj hstep
          have hidle : Reader.Idle ⟨mode, wantFrom, .waiting (.first buf wantFrom)⟩ :=
            ⟨buf, .inl rfl⟩
          have hrelease := hshared.release hholder [] s.returned
            (o := some ⟨mode, wantFrom, .waiting (.first buf wantFrom)⟩) (by simpa using hidle)
          refine ⟨⟨_, none, hrelease, hmem'⟩, hwhole.notifications, ?_⟩
          exact (congrArg _ hshared.payload.symm).trans hwhole.data
  · cases hstep

theorem ReadersInv.arrive (h : ReadersInv t.endian s) (item : Item) :
    ReadersInv t.endian
      { s with queue := s.queue ++ [item], arrived := s.arrived ++ [item] } := by
  obtain ⟨⟨vq, holder, hshared, hmem⟩, hwhole⟩ := h
  refine ⟨⟨_, holder, hshared.arrive item, fun bytes peer hin => ?_⟩, hwhole.arrive item⟩
  obtain hin | hin := List.mem_append.mp hin
  · exact List.mem_append_left _ (hmem bytes peer hin)
  · exact List.mem_append_right _ hin

/-- A reader that holds nothing is put in the place of one that holds nothing. -/
theorem ReadersInv.setReader (h : ReadersInv t.endian s)
    (hfree : ∀ r ∈ s.readers side, r.reassembling = false) {r : Reader} (hidle : r.Idle) :
    ReadersInv t.endian (s.setReader side (some r)) := by
  obtain ⟨⟨vq, holder, hshared, hmem⟩, hwhole⟩ := h
  have hshared' := hshared.setReader (hshared.not_held hfree) (o := some r) (by simpa using hidle)
  exact ⟨⟨vq, holder, hshared', hmem⟩, hwhole.notifications, hwhole.data⟩

theorem Reader.idle_start (mode : Mode) (buf : Bytes) (wantFrom : Bool) :
    Reader.Idle ⟨mode, wantFrom, startPosition mode (.first buf wantFrom)⟩ := by
  cases mode with
  | async => exact ⟨buf, .inl rfl⟩
  | blocking => exact ⟨buf, .inr rfl⟩
  | nonblocking => exact ⟨buf, .inr rfl⟩

/-- A reader that waits has taken nothing off the queue. -/
theorem ReadersInv.idle_wake {mode : Mode} {wantFrom : Bool} {st : RecvState}
    (h : ReadersInv t.endian s) (hr : s.readers side = some ⟨mode, wantFrom, .waiting st⟩) :
    Reader.Idle ⟨mode, wantFrom, .running st⟩ := by
  obtain ⟨⟨vq, holder, hshared, -⟩, -⟩ := h
  have hside : holder ≠ some side := by
    apply hshared.not_held
    intro r hmem
    obtain rfl : ⟨mode, wantFrom, .waiting st⟩ = r := Option.some.inj (hr.symm.trans hmem)
    rfl
  obtain ⟨buf, hpos | hpos⟩ := hshared.idle side _ hr hside
  · obtain rfl : st = .first buf wantFrom := by simpa using hpos
    exact ⟨buf, .inr rfl⟩
  · cases hpos

theorem ReadersInv.step {a : ReadersAct} (h : ReadersInv t.endian s) (hfree : Undisturbed s a)
    (hstep : (readersSystem t).step s a = some s') : ReadersInv t.endian s' := by
  cases a with
  | arrive item =>
    obtain rfl := Option.some.inj hstep
    exact h.arrive item
  | start side mode buf wantFrom =>
    simp only [readersSystem] at hstep
    split at hstep
    · next hnone =>
      obtain rfl := Option.some.inj hstep
      exact h.setReader (by simp [hnone]) (Reader.idle_start mode buf wantFrom)
    · cases hstep
  | wake side =>
    simp only [readersSystem] at hstep
    split at hstep
    · next mode wantFrom st hr =>
      obtain rfl := Option.some.inj hstep
      exact h.setReader (by simp [hr, Reader.reassembling]) (h.idle_wake hr)
    · cases hstep
  | syscall side => exact h.syscall hfree hstep

/-- Two readers of one socket get whole notifications and lose no user data, in
    every run in which neither makes a system call while the other is in the middle
    of a notification. -/
theorem undisturbed_readers_whole (t : Target) (q : List Item) (acts : List ReadersAct)
    (s : ReadersSt)
    (hfree : (readersSystem t).AllSteps Undisturbed (readersInit q) acts)
    (hrun : (readersSystem t).run (readersInit q) acts = some s) : WholeReads t.endian s := by
  have hinit : ReadersInv t.endian (readersInit q) := by
    refine ⟨⟨q, none, ⟨?_, ?_, fun _ => rfl⟩, fun _ _ h => h⟩, ?_, rfl⟩
    · intro side r hr
      cases hr
    · intro side hheld
      cases hheld
    · intro r hr
      cases hr
  exact (System.run_invariant_of_allSteps (fun _ _ _ h hok hstep => ReadersInv.step h hok hstep)
    hinit hfree hrun).whole

/-! ## A small buffer beside a large one -/

/-- An `SCTP_SHUTDOWN_EVENT` and a message of one byte. -/
def shutdownAndMessage : List Item :=
  [.notification [5, 128, 0, 0, 12, 0, 0, 0, 1, 0, 0, 0] (.loopback 5000),
    .data [42] true ⟨0, 0, 0, 0, 1, 1, 0, 1⟩ (Octets.zeros 2) (.loopback 5000)]

/-- Both readers start; the left one has room for eight bytes. -/
def startBoth : List ReadersAct :=
  [.start .left .blocking (zeros 8) false, .start .right .blocking (zeros 64) false]

/-- The left reader is left alone until it has the notification. -/
theorem undisturbed_readers_whole_shutdown :
    ∃ s, (readersSystem ⟨.little, .w64⟩).run (readersInit shutdownAndMessage)
        (startBoth ++ [.syscall .left, .syscall .left]) = some s ∧
      s.returned.map (·.result) = [.ok (.notification (.shutdown ⟨⟨1⟩⟩), none)] ∧
      WholeReads .little s := by
  have hview : ((readersSystem ⟨.little, .w64⟩).run (readersInit shutdownAndMessage)
      (startBoth ++ [.syscall .left, .syscall .left])).any (fun s =>
        s.returned.map (·.result) = [.ok (.notification (.shutdown ⟨⟨1⟩⟩), none)]) := by
    decide +kernel
  have hfree : (readersSystem ⟨.little, .w64⟩).AllSteps Undisturbed (readersInit shutdownAndMessage)
      (startBoth ++ [.syscall .left, .syscall .left]) := by
    decide +kernel
  obtain ⟨s, hrun, hs⟩ := (Option.any_eq_true _ _).mp hview
  exact ⟨s, hrun, of_decide_eq_true hs,
    undisturbed_readers_whole ⟨.little, .w64⟩ shutdownAndMessage _ s hfree hrun⟩

/-- The right reader takes the last four bytes of the notification for another
    one; the left reader then reads the message into its scratch buffer and drops
    it. -/
theorem disturbed_readers_torn :
    ∃ s, (readersSystem ⟨.little, .w64⟩).run (readersInit shutdownAndMessage)
        (startBoth ++ [.syscall .left, .syscall .right, .syscall .left]) = some s ∧
      s.returned.map (·.result) =
        [.ok (.notification (.unknown ⟨1, 0, [1, 0, 0, 0]⟩), none), Res.err desynchronized] ∧
      s.queue = [] ∧
      (¬ ∃ bytes peer, .notification bytes peer ∈ s.arrived ∧
        Notification.parse .little bytes = .ok (.unknown ⟨1, 0, [1, 0, 0, 0]⟩)) ∧
      s.returned.flatMap Received.payload ≠ queuePayload s.arrived ∧
      ¬ WholeReads .little s := by
  have hview : ((readersSystem ⟨.little, .w64⟩).run (readersInit shutdownAndMessage)
      (startBoth ++ [.syscall .left, .syscall .right, .syscall .left])).any (fun s =>
        s.returned.map (·.result) =
          [.ok (.notification (.unknown ⟨1, 0, [1, 0, 0, 0]⟩), none), Res.err desynchronized] ∧
        s.queue = [] ∧ s.arrived = shutdownAndMessage ∧
        s.returned.flatMap Received.payload ≠ queuePayload s.arrived) := by
    decide +kernel
  obtain ⟨s, hrun, hs⟩ := (Option.any_eq_true _ _).mp hview
  obtain ⟨hreturned, hqueue, harrived, hlost⟩ := of_decide_eq_true hs
  refine ⟨s, hrun, hreturned, hqueue, ?_, hlost, fun hwhole => hlost ?_⟩
  · rintro ⟨bytes, peer, hmem, hparse⟩
    obtain ⟨rfl, rfl⟩ : bytes = [5, 128, 0, 0, 12, 0, 0, 0, 1, 0, 0, 0] ∧ peer = _ := by
      simpa [harrived, shutdownAndMessage] using hmem
    exact absurd hparse (by decide +kernel)
  · simpa [hqueue, queuePayload] using hwhole.data

end Net

end Lksctp
