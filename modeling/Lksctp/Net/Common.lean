-- SUMMARY: The readiness loop around non-blocking calls, and `established`, which waits for the outcome of a connect.
import Lksctp.Socket.Recv
import Lksctp.Machine.System

/-!
# The tokio plumbing

The asynchronous operations of `common.rs` are loops: wait until the socket is
reported ready, try the call, and wait again when it would have blocked. `tryIo`
is one attempt of such a loop. Readiness may be reported at any time, whether or
not there is anything to read.

`established` is such a loop over `recv_msg` which looks for the first item that
decides about the association. `estSystem` puts it beside a kernel that queues
items at any moment, and `EstInv` says what it has consumed.
-/

namespace Lksctp

open Rust Machine Kernel Socket

namespace Net

/-- Where a future is that runs a closure under `try_io`: suspended until the
    socket is ready, or inside the closure. -/
inductive Attempt (S : Type) where
  | waiting (s : S)
  | running (s : S)
  deriving DecidableEq

/-- `guard.try_io(f)` at the end of a system call of `f`: a result that would
    block is dropped and the closure starts `again` when the socket is ready. -/
def tryIo {S R : Type} (wouldBlock : R → Bool) (again : R → S) : Step S R → Step (Attempt S) R
  | .next s => .next (.running s)
  | .done r => if wouldBlock r then .next (.waiting (again r)) else .done r

/-- `try_io` around `recv_msg`; the closure keeps the caller's buffer. -/
def tryRecv (wantFrom : Bool) : Step RecvState Received → Step (Attempt RecvState) Received :=
  tryIo (fun out => out.result.isWouldBlock) fun out => .first out.buf wantFrom

/-- One move of `read_op` around `recv_msg`: a wake-up or a system call. -/
def readStep (t : Target) (wantFrom : Bool) (q : List Item) :
    Attempt RecvState → Step (Attempt RecvState) Received × List Item
  | .waiting s => (.next (.running s), q)
  | .running s => (tryRecv wantFrom (recvStep t s q).1, (recvStep t s q).2)

/-! ## established -/

inductive EstState where
  | io (a : Attempt RecvState)
  /-- About to read `SO_ERROR`. -/
  | takeError
  deriving DecidableEq

/-- The buffer of `established`. -/
def estBufLen : Nat := 512

def estWaiting (buf : Bytes) : EstState := .io (.waiting (.first buf false))

def estStart : EstState := estWaiting (zeros estBufLen)

/-- The `match` on what was received. -/
def afterReceive (out : Received) : Step EstState (Res Unit) :=
  match out.result with
  | .error fault => .done (.error fault)
  | .ok (.notification (.assocChange ac), _) =>
    match ac.state with
    | .commUp => .done (.ok ())
    | .commLost | .cantStartAssoc => .next .takeError
    | _ => .next (estWaiting out.buf)
  | .ok (.notification _, _) => .next (estWaiting out.buf)
  | .ok (.data 0 _ _, _) =>
    .done (Res.err (.custom .connectionReset "socket closed during association setup"))
  | .ok (.data _ _ _, _) =>
    .done (Res.err (.custom .invalidData "user data received before SCTP_COMM_UP"))

def notEstablished : IoError :=
  .custom .connectionRefused "SCTP association could not be established"

/-- `take_error` and the error that is made of it. -/
def refusal : Except Errno Int32 → Res Unit
  | .error e => Res.err (.os e)
  | .ok v => if v = 0 then Res.err notEstablished else Res.err (.os v)

/-- One move of `established`: a wake-up or a system call. `soError` is the answer
    to `SO_ERROR`, where it is asked for. -/
def estStep (t : Target) (soError : Except Errno Int32) (q : List Item) :
    EstState → Step EstState (Res Unit) × List Item
  | .io a =>
    match (readStep t false q a).1 with
    | .next a' => (.next (.io a'), (readStep t false q a).2)
    | .done out => (afterReceive out, (readStep t false q a).2)
  | .takeError => (.done (refusal soError), q)

/-! ## One receive future -/

variable {t : Target} {e : Endian}

/-- A receive future that is under way is a read of the queue `vq`: it has taken
    nothing off it, or it is in the middle of the notification at its head. -/
inductive ReadingIo (buf : Bytes) (wantFrom : Bool) :
    Attempt RecvState → List Item → List Item → Prop where
  | waiting (q : List Item) : ReadingIo buf wantFrom (.waiting (.first buf wantFrom)) q q
  | running {s : RecvState} {q vq : List Item} (h : Reading buf wantFrom s q vq) :
      ReadingIo buf wantFrom (.running s) q vq

/-- How many moves the future can still take, if there is something to read. -/
def ioVariant : Attempt RecvState → List Item → Nat
  | .waiting s, q => readVariant s q + 2
  | .running s, q => readVariant s q + 1

variable {buf : Bytes} {wantFrom : Bool} {a : Attempt RecvState} {q vq : List Item}

theorem ReadingIo.append (h : ReadingIo buf wantFrom a q vq) (more : List Item) :
    ReadingIo buf wantFrom a (q ++ more) (vq ++ more) := by
  cases h with
  | waiting => exact .waiting _
  | running h => exact .running (h.append more)

/-- Suspended, a future holds nothing. -/
theorem ReadingIo.queue_eq {s : RecvState} (h : ReadingIo buf wantFrom (.waiting s) q vq) :
    q = vq := by
  cases h
  rfl

theorem tryRecv_done {out : Received} (h : out.result.isWouldBlock = false) :
    tryRecv wantFrom (.done out) = .done out := by
  simp [tryRecv, tryIo, h]

theorem tryRecv_wouldBlock {out : Received} (h : out.result.isWouldBlock = true) :
    tryRecv wantFrom (.done out) = .next (.waiting (.first out.buf wantFrom)) := by
  simp [tryRecv, tryIo, h]

/-- A move keeps the future the read that it is, or completes it with the result
    of that read. It completes only with something that was queued. -/
theorem ReadingIo.step (h : ReadingIo buf wantFrom a q vq) :
    (∃ a', (readStep t wantFrom q a).1 = .next a' ∧
      ReadingIo buf wantFrom a' (readStep t wantFrom q a).2 vq ∧
      (vq ≠ [] → ioVariant a' (readStep t wantFrom q a).2 < ioVariant a q)) ∨
    (vq ≠ [] ∧ (deliver t buf wantFrom vq).1.result.isWouldBlock = false ∧
      (readStep t wantFrom q a).1 = .done (deliver t buf wantFrom vq).1 ∧
      (readStep t wantFrom q a).2 = (deliver t buf wantFrom vq).2) := by
  cases h with
  | waiting =>
    exact .inl ⟨_, rfl, .running (.first q), fun _ => Nat.lt_succ_self _⟩
  | @running s _ _ h =>
    obtain ⟨s', hnext, hread, hlt⟩ | ⟨hdone, hq⟩ := h.step (t := t)
    · left
      simp only [readStep, hnext]
      exact ⟨_, rfl, .running hread, fun _ => Nat.succ_lt_succ hlt⟩
    · cases hblock : (deliver t buf wantFrom vq).1.result.isWouldBlock with
      | true =>
        -- Nothing was queued, so the future waits again and holds nothing.
        obtain rfl := deliver_wouldBlock hblock
        left
        simp only [readStep, hdone, hq, tryRecv_wouldBlock hblock]
        exact ⟨_, rfl, .waiting _, fun hvq => absurd rfl hvq⟩
      | false =>
        right
        refine ⟨?_, rfl, ?_, hq⟩
        · rintro rfl
          cases hblock
        · simp only [readStep, hdone, tryRecv_done hblock]

/-- A notification that is being read has at least one read to go. -/
theorem ioVariant_pos {bytes : Bytes} {peer : SocketAddr} {rest : List Item}
    (h : ReadingIo buf wantFrom a q (.notification bytes peer :: rest)) : 1 < ioVariant a q := by
  cases h with
  | waiting => exact Nat.lt_add_left _ (by decide)
  | running h =>
    cases h with
    | first => exact Nat.succ_lt_succ (Nat.succ_pos _)
    | reassemble _ htail => exact Nat.succ_lt_succ (List.length_pos_iff.mpr htail)

theorem readVariant_append {s : RecvState} (h : Reading buf wantFrom s q vq) (hvq : vq ≠ [])
    (more : List Item) : readVariant s (q ++ more) = readVariant s q := by
  cases h with
  | first =>
    match q with
    | [] => exact absurd rfl hvq
    | .eof :: rest => rfl
    | .data .. :: rest => rfl
    | .notification .. :: rest => rfl
  | reassemble => rfl

theorem ioVariant_append (h : ReadingIo buf wantFrom a q vq) (hvq : vq ≠ []) (more : List Item) :
    ioVariant a (q ++ more) = ioVariant a q := by
  cases h with
  | waiting => simp only [ioVariant, readVariant_append (.first q) hvq]
  | running h => simp only [ioVariant, readVariant_append h hvq]

/-! ## The task and the kernel -/

structure EstSt where
  queue : List Item
  /-- Everything that was ever queued, in order. -/
  arrived : List Item
  task : Step EstState (Res Unit)

inductive EstAct where
  | arrive (item : Item)
  | poll (soError : Except Errno Int32)

def estSystem (t : Target) : System EstSt EstAct where
  step s
    | .arrive item => some { s with queue := s.queue ++ [item], arrived := s.arrived ++ [item] }
    | .poll soError =>
      match s.task with
      | .next task =>
        some { s with queue := (estStep t soError s.queue task).2, task := (estStep t soError s.queue task).1 }
      | .done _ => none

def estInit (q : List Item) : EstSt where
  queue := q
  arrived := q
  task := .next estStart

/-- What an item decides about the association: nothing, or whether it is up. -/
def verdict (e : Endian) : Item → Option Bool
  | .notification bytes _ =>
    match notificationResult e estBufLen bytes with
    | .ok (.assocChange ac) =>
      match ac.state with
      | .commUp => some true
      | .commLost | .cantStartAssoc => some false
      | _ => none
    | .ok _ => none
    | .error (.err _) => some false
    | .error (.panic _) => none
  | .data .. => some false
  | .eof => some false

def Undecided (e : Endian) (items : List Item) : Prop := ∀ i ∈ items, verdict e i = none

/-! ## One item -/

/-- A notification is refused with an error, never with a panic. -/
theorem notificationResult_error {e : Endian} {bufLen : Nat} {bytes : Bytes} {fault : Fault}
    (h : notificationResult e bufLen bytes = .error fault) : ∃ error, fault = .err error := by
  unfold notificationResult at h
  split at h
  · exact ⟨_, (Except.error.inj h).symm⟩
  · obtain ⟨msg, rfl⟩ := Notification.FailsInvalid.parse e bytes fault h
    exact ⟨_, rfl⟩

/-- What `established` makes of an item follows its verdict. -/
theorem afterReceive_deliver {buf : Bytes} (hbuf : buf.length = estBufLen) (item : Item)
    (rest : List Item) :
    match verdict t.endian item with
    | none => (deliver t buf false (item :: rest)).2 = rest ∧
        afterReceive (deliver t buf false (item :: rest)).1 =
          .next (estWaiting (deliver t buf false (item :: rest)).1.buf)
    | some true => (deliver t buf false (item :: rest)).2 = rest ∧
        afterReceive (deliver t buf false (item :: rest)).1 = .done (.ok ())
    | some false =>
        (deliver t buf false (item :: rest)).2 = rest ∧
          (∃ bytes peer, item = .notification bytes peer) ∧
          afterReceive (deliver t buf false (item :: rest)).1 = .next .takeError ∨
        ∃ error, afterReceive (deliver t buf false (item :: rest)).1 = .done (Res.err error) := by
  cases item with
  | eof => exact .inr ⟨_, rfl⟩
  | data bytes last info pad peer =>
    simp only [verdict, deliver, Received.ofData]
    right
    cases min buf.length bytes.length with
    | zero => exact ⟨_, rfl⟩
    | succ n => exact ⟨_, rfl⟩
  | notification bytes peer =>
    simp only [verdict, deliver, Received.ofNotification, hbuf]
    cases hres : notificationResult t.endian estBufLen bytes with
    | error fault =>
      obtain ⟨error, rfl⟩ := notificationResult_error hres
      exact .inr ⟨error, rfl⟩
    | ok p =>
      cases p with
      | assocChange ac =>
        obtain ⟨state, _, _, _, _, _⟩ := ac
        cases state <;> simp [afterReceive]
      | _ => simp [afterReceive]

/-! ## Moves until the decision -/

/-- How many moves an item can take: a wake-up, the first read, one read per byte
    of a notification, and the look at `SO_ERROR`. -/
def itemMoves : Item → Nat
  | .notification bytes _ => bytes.length + 3
  | _ => 3

/-- How many moves the queue can take up to its first decisive item. -/
def movesLeft (e : Endian) : List Item → Nat
  | [] => 0
  | item :: rest => itemMoves item + if verdict e item = none then movesLeft e rest else 0

/-- The same without the head. -/
def movesBehind (e : Endian) : List Item → Nat
  | [] => 0
  | item :: rest => if verdict e item = none then movesLeft e rest else 0

theorem movesLeft_append {q : List Item} (h : ¬ Undecided e q) (more : List Item) :
    movesLeft e (q ++ more) = movesLeft e q := by
  induction q with
  | nil => simp [Undecided] at h
  | cons item rest ih =>
    cases hitem : verdict e item with
    | some b => simp [movesLeft, hitem]
    | none =>
      have hrest : ¬ Undecided e rest := by
        intro hrest
        apply h
        rintro i (_ | ⟨_, hi⟩)
        · exact hitem
        · exact hrest i hi
      simp [movesLeft, hitem, ih hrest]

theorem movesBehind_append {q : List Item} (h : ¬ Undecided e q) (more : List Item) :
    movesBehind e (q ++ more) = movesBehind e q := by
  match q with
  | [] => simp [Undecided] at h
  | item :: rest =>
    have hleft := movesLeft_append h more
    simpa [movesLeft, movesBehind] using hleft

theorem Undecided.append {items items' : List Item} (h : Undecided e items)
    (h' : Undecided e items') : Undecided e (items ++ items') := by
  intro i hi
  obtain hi | hi := List.mem_append.mp hi
  · exact h i hi
  · exact h' i hi

theorem Undecided.singleton {item : Item} (h : verdict e item = none) : Undecided e [item] := by
  intro i hi
  rwa [List.mem_singleton.mp hi]

theorem not_undecided_right {pre q : List Item} (hpre : Undecided e pre)
    (h : ¬ Undecided e (pre ++ q)) : ¬ Undecided e q := fun hq => h (hpre.append hq)

theorem ioVariant_waiting_le (buf : Bytes) (wantFrom : Bool) (item : Item) (rest : List Item) :
    ioVariant (.waiting (.first buf wantFrom)) (item :: rest) ≤ itemMoves item := by
  cases item with
  | notification bytes peer => exact le_rfl
  | data => exact Nat.le_of_ble_eq_true rfl
  | eof => exact Nat.le_of_ble_eq_true rfl

/-! ## The invariant -/

/-- The task, the queue and everything that ever arrived: the items before the
    ones in the queue were undecided, and a task that has returned did so because
    of the first item that was not. The number bounds the moves that are left, once
    a decisive item has arrived. -/
inductive EstInv (e : Endian) :
    Step EstState (Res Unit) → List Item → List Item → Nat → Prop where
  | reading {pre q vq : List Item} {buf : Bytes} {a : Attempt RecvState}
      (hpre : Undecided e pre) (hbuf : buf.length = estBufLen)
      (hread : ReadingIo buf false a q vq) :
      EstInv e (.next (.io a)) q (pre ++ vq) (ioVariant a q + movesBehind e vq)
  | takeError {pre q : List Item} {item : Item} (hpre : Undecided e pre)
      (hitem : verdict e item = some false) :
      EstInv e (.next .takeError) q (pre ++ item :: q) 1
  | up {pre q : List Item} {item : Item} (hpre : Undecided e pre)
      (hitem : verdict e item = some true) :
      EstInv e (.done (.ok ())) q (pre ++ item :: q) 0
  | failed {pre post q : List Item} {item : Item} {error : IoError} (hpre : Undecided e pre)
      (hitem : verdict e item = some false) :
      EstInv e (.done (Res.err error)) q (pre ++ item :: post) 0

theorem EstInv.init (e : Endian) (q : List Item) : ∃ n, EstInv e (.next estStart) q q n := by
  have hnil : Undecided e [] := by simp [Undecided]
  exact ⟨_, .reading hnil (length_zeros estBufLen) (.waiting q)⟩

theorem EstInv.arrive {task : Step EstState (Res Unit)} {q arrived : List Item} {n : Nat}
    (h : EstInv e task q arrived n) (item : Item) :
    ∃ n', EstInv e task (q ++ [item]) (arrived ++ [item]) n' ∧
      (¬ Undecided e arrived → n' = n) := by
  cases h with
  | reading hpre hbuf hread =>
    rw [List.append_assoc]
    refine ⟨_, .reading hpre hbuf (hread.append [item]), fun hdec => ?_⟩
    have hvq := not_undecided_right hpre hdec
    rw [movesBehind_append hvq, ioVariant_append hread]
    rintro rfl
    simp [Undecided] at hvq
  | takeError hpre hitem =>
    rw [List.append_assoc]
    exact ⟨_, .takeError hpre hitem, fun _ => rfl⟩
  | up hpre hitem =>
    rw [List.append_assoc]
    exact ⟨_, .up hpre hitem, fun _ => rfl⟩
  | failed hpre hitem =>
    rw [List.append_assoc]
    exact ⟨_, .failed hpre hitem, fun _ => rfl⟩

/-- The end of a `recv_msg` that has read `item`. -/
theorem EstInv.received {pre rest : List Item} {item : Item} {buf : Bytes} {n : Nat}
    (hpre : Undecided t.endian pre) (hbuf : buf.length = estBufLen) (hn : 0 < n)
    (hnotif : ∀ bytes peer, item = .notification bytes peer → 1 < n) :
    ∃ n', EstInv t.endian (afterReceive (deliver t buf false (item :: rest)).1)
        (deliver t buf false (item :: rest)).2 (pre ++ item :: rest) n' ∧
      (¬ Undecided t.endian (pre ++ item :: rest) → n' < n + movesBehind t.endian (item :: rest)) := by
  have hafter := afterReceive_deliver (t := t) hbuf item rest
  have hlen := deliver_length_buf t buf false (item :: rest)
  cases hitem : verdict t.endian item with
  | none =>
    simp only [hitem] at hafter
    obtain ⟨hrest, hnext⟩ := hafter
    rw [hrest, hnext, List.append_cons]
    have hpre' := hpre.append (.singleton hitem)
    refine ⟨_, .reading hpre' (hlen.trans hbuf) (.waiting rest), fun hdec => ?_⟩
    match rest with
    | [] => exact absurd (by simp [Undecided]) (not_undecided_right hpre' hdec)
    | next :: rest =>
      have hle := ioVariant_waiting_le (deliver t buf false (item :: next :: rest)).1.buf false next rest
      simp only [movesBehind, hitem, if_true, movesLeft]
      omega
  | some up =>
    cases up with
    | true =>
      simp only [hitem] at hafter
      obtain ⟨hrest, hdone⟩ := hafter
      rw [hrest, hdone]
      exact ⟨0, .up hpre hitem, fun _ => by omega⟩
    | false =>
      simp only [hitem] at hafter
      obtain ⟨hrest, ⟨bytes, peer, rfl⟩, hnext⟩ | ⟨error, hdone⟩ := hafter
      · have hpos := hnotif bytes peer rfl
        rw [hrest, hnext]
        exact ⟨1, .takeError hpre hitem, fun _ => by omega⟩
      · rw [hdone]
        exact ⟨0, .failed hpre hitem, fun _ => by omega⟩

theorem refusal_fails (soError : Except Errno Int32) : ∃ error, refusal soError = Res.err error := by
  cases soError with
  | error e => exact ⟨_, rfl⟩
  | ok v =>
    by_cases hv : v = 0
    · exact ⟨_, if_pos hv⟩
    · exact ⟨_, if_neg hv⟩

theorem ioVariant_ne_zero (a : Attempt RecvState) (q : List Item) : 0 < ioVariant a q := by
  cases a <;> exact Nat.succ_pos _

theorem EstInv.poll {st : EstState} {q arrived : List Item} {n : Nat}
    (h : EstInv t.endian (.next st) q arrived n) (soError : Except Errno Int32) :
    ∃ n', EstInv t.endian (estStep t soError q st).1 (estStep t soError q st).2 arrived n' ∧
      (¬ Undecided t.endian arrived → n' < n) := by
  cases h with
  | @reading pre _ vq buf a hpre hbuf hread =>
    obtain ⟨a', hnext, hread', hlt⟩ | ⟨hvq, -, hdone, hq⟩ := hread.step (t := t)
    · simp only [estStep, hnext]
      refine ⟨_, .reading hpre hbuf hread', fun hdec => ?_⟩
      have hvq : vq ≠ [] := by
        rintro rfl
        exact not_undecided_right hpre hdec (by simp [Undecided])
      exact Nat.add_lt_add_right (hlt hvq) _
    · simp only [estStep, hdone, hq]
      match vq with
      | [] => exact absurd rfl hvq
      | item :: rest =>
        exact EstInv.received hpre hbuf (ioVariant_ne_zero a q)
          fun bytes peer heq => ioVariant_pos (heq ▸ hread)
  | takeError hpre hitem =>
    obtain ⟨error, herror⟩ := refusal_fails soError
    simp only [estStep, herror]
    exact ⟨0, .failed hpre hitem, fun _ => Nat.one_pos⟩

/-! ## Runs -/

def EstAct.isPoll : EstAct → Bool
  | .poll _ => true
  | .arrive _ => false

/-- How often the task was moved in a run. -/
def polls (acts : List EstAct) : Nat := acts.countP EstAct.isPoll

def EstSt.Inv (e : Endian) (s : EstSt) (n : Nat) : Prop := EstInv e s.task s.queue s.arrived n

/-- One step of the system: arrivals do not cost moves, and moves are used up. -/
theorem EstSt.Inv.step {s s' : EstSt} {a : EstAct} {n : Nat} (h : s.Inv t.endian n)
    (hstep : (estSystem t).step s a = some s') :
    ∃ n', s'.Inv t.endian n' ∧ (¬ Undecided t.endian s.arrived →
      ¬ Undecided t.endian s'.arrived ∧ n' + a.isPoll.toNat ≤ n) := by
  cases a with
  | arrive item =>
    obtain rfl := Option.some.inj hstep
    obtain ⟨n', hinv, hn'⟩ := EstInv.arrive h item
    refine ⟨n', hinv, fun hdec => ⟨?_, by simp [EstAct.isPoll, hn' hdec]⟩⟩
    exact fun hall => hdec fun i hi => hall i (List.mem_append_left _ hi)
  | poll soError =>
    obtain ⟨q, arrived, task⟩ := s
    cases task with
    | done r => simp [estSystem] at hstep
    | next st =>
      obtain rfl := Option.some.inj hstep
      obtain ⟨n', hinv, hlt⟩ := EstInv.poll h soError
      refine ⟨n', hinv, fun hdec => ⟨hdec, ?_⟩⟩
      have := hlt hdec
      simp only [EstAct.isPoll, Bool.toNat_true]
      omega

theorem EstSt.Inv.run {s s' : EstSt} {acts : List EstAct} {n : Nat} (h : s.Inv t.endian n)
    (hrun : (estSystem t).run s acts = some s') :
    ∃ n', s'.Inv t.endian n' ∧ (¬ Undecided t.endian s.arrived → n' + polls acts ≤ n) := by
  induction acts generalizing s n with
  | nil =>
    obtain rfl := Option.some.inj hrun
    exact ⟨n, h, fun _ => le_rfl⟩
  | cons a acts ih =>
    obtain ⟨m, hstep, hrest⟩ := System.run_cons_eq_some.mp hrun
    obtain ⟨n₁, h₁, hn₁⟩ := h.step hstep
    obtain ⟨n₂, h₂, hn₂⟩ := ih h₁ hrest
    refine ⟨n₂, h₂, fun hdec => ?_⟩
    obtain ⟨hdec₁, hle₁⟩ := hn₁ hdec
    have hle₂ := hn₂ hdec₁
    have hcount : polls (a :: acts) = polls acts + a.isPoll.toNat := by
      cases ha : a.isPoll <;> simp [polls, ha]
    omega

/-- A task without moves left has returned. -/
theorem EstInv.returned {task : Step EstState (Res Unit)} {q arrived : List Item}
    (h : EstInv e task q arrived 0) : ∃ r, task = .done r := by
  generalize hn : 0 = n at h
  cases h with
  | @reading pre _ vq buf a hpre hbuf hread =>
    have hpos := ioVariant_ne_zero a q
    omega
  | takeError => omega
  | up => exact ⟨_, rfl⟩
  | failed => exact ⟨_, rfl⟩

theorem EstSt.inv_of_run {q : List Item} {acts : List EstAct} {s : EstSt}
    (hrun : (estSystem t).run (estInit q) acts = some s) : ∃ n, s.Inv t.endian n := by
  obtain ⟨n, hinit⟩ := EstInv.init t.endian q
  obtain ⟨n', hinv, -⟩ := EstSt.Inv.run (s := estInit q) hinit hrun
  exact ⟨n', hinv⟩

/-- `established` returns because of the first decisive item, with `Ok` for `CommUp`
    and with `Err` for every other; in the case of `Ok` everything up to that item is
    gone from the queue and everything behind it is still there. -/
theorem established_decides {q : List Item} {acts : List EstAct} {s : EstSt} {r : Res Unit}
    (hrun : (estSystem t).run (estInit q) acts = some s) (hdone : s.task = .done r) :
    ∃ pre item post, s.arrived = pre ++ item :: post ∧ Undecided t.endian pre ∧
      verdict t.endian item ≠ none ∧ (r = .ok () ↔ verdict t.endian item = some true) ∧
      ((∃ error, r = Res.err error) ↔ verdict t.endian item = some false) ∧
      (r = .ok () → s.queue = post) := by
  obtain ⟨n, hinv⟩ := EstSt.inv_of_run hrun
  rw [EstSt.Inv, hdone] at hinv
  generalize s.arrived = arrived at hinv ⊢
  cases hinv with
  | @up _ _ item hpre hitem =>
    have herr : (∃ error, (.ok () : Res Unit) = Res.err error) ↔
        verdict t.endian item = some false := by
      rw [hitem]
      exact ⟨fun ⟨_, h⟩ => (nomatch h), fun h => (nomatch h)⟩
    exact ⟨_, item, _, rfl, hpre, by simp [hitem], by simp [hitem], herr, fun _ => rfl⟩
  | @failed _ _ _ item error hpre hitem =>
    have hok : (Res.err error : Res Unit) = .ok () ↔ verdict t.endian item = some true := by
      rw [hitem]
      exact ⟨fun h => (nomatch h), fun h => (nomatch h)⟩
    exact ⟨_, item, _, rfl, hpre, by simp [hitem], hok, ⟨fun _ => hitem, fun _ => ⟨error, rfl⟩⟩,
      fun h => (nomatch h)⟩

/-- Once a decisive item has arrived, finitely many moves of the task are enough,
    however they are mixed with further arrivals. -/
theorem established_terminates {q : List Item} {acts : List EstAct} {s : EstSt}
    (hrun : (estSystem t).run (estInit q) acts = some s) (hdec : ¬ Undecided t.endian s.arrived) :
    ∃ bound, ∀ acts' s', (estSystem t).run s acts' = some s' → bound ≤ polls acts' →
      ∃ r, s'.task = .done r := by
  obtain ⟨n, hinv⟩ := EstSt.inv_of_run hrun
  refine ⟨n, fun acts' s' hrun' hpolls => ?_⟩
  obtain ⟨n', hinv', hle⟩ := hinv.run hrun'
  obtain rfl : n' = 0 := by
    have := hle hdec
    omega
  exact hinv'.returned

/-- A task that has not returned can always be moved. -/
theorem poll_enabled {s : EstSt} {st : EstState} (h : s.task = .next st)
    (soError : Except Errno Int32) : ∃ s', (estSystem t).step s (.poll soError) = some s' := by
  simp [estSystem, h]

end Net

end Lksctp
