-- SUMMARY: A reader and a writer of one socket whose futures are polled and dropped in any order, and why each completed one is one operation.
import Lksctp.Net.Operation

/-!
# Futures on one socket

`asyncSystem` is a socket with at most one pending future that reads or accepts and
one that sends. Futures are started one after another; while they are pending,
readiness is reported at any time, system calls are refused or fail, items and
connections arrive, and a future can be dropped wherever it is suspended.

`Replays` runs the completed futures in the order of their completion, each as one
`Effect`. The invariant says that this replay ends in the state of the socket, up
to the calls of a closure that is running.
-/

namespace Lksctp

open Rust Machine Kernel Socket

namespace Net

inductive Direction where
  | read
  | write
  deriving DecidableEq, Repr

def Op.direction : Op → Direction
  | .recv .. | .accept => .read
  | .send .. => .write

/-- A future that has neither completed nor been dropped. -/
structure Pending where
  id : Nat
  op : Op
  position : Attempt OpState

inductive Event where
  | arrived (item : Item)
  | incoming (conn : Conn)
  | completed (id : Nat) (op : Op) (outcome : Outcome)

def Event.completedId : Event → Option Nat
  | .completed id _ _ => some id
  | .arrived _ | .incoming _ => none

structure AsyncSt where
  kernel : SocketSt
  reader : Option Pending
  writer : Option Pending
  /-- How many futures were started; they are numbered from zero. -/
  started : Nat
  dropped : List Nat
  /-- Every system call on the socket, with the future that made it. -/
  calls : List (Nat × Call)
  history : List Event

inductive AsyncAct where
  | arrive (item : Item)
  | incoming (conn : Conn)
  | start (op : Op)
  /-- The socket is reported ready to a future that is suspended. -/
  | wake (d : Direction)
  | call (d : Direction) (how : Answer)
  | drop (d : Direction)

namespace AsyncSt

def slot (s : AsyncSt) : Direction → Option Pending
  | .read => s.reader
  | .write => s.writer

def setSlot (s : AsyncSt) (d : Direction) (o : Option Pending) : AsyncSt :=
  match d with
  | .read => { s with reader := o }
  | .write => { s with writer := o }

/-- One system call of the future in the slot. -/
def call (t : Target) (s : AsyncSt) (d : Direction) (how : Answer) : Option AsyncSt :=
  match s.slot d with
  | some ⟨id, op, .running st⟩ =>
    if how.allowed st then
      let (result, kernel, call) := callStep t s.kernel how st
      let s' := { s with kernel, calls := s.calls ++ call.toList.map (id, ·) }
      match op.tryIo result with
      | .next position => some (s'.setSlot d (some ⟨id, op, position⟩))
      | .done outcome =>
        some ({ s' with history := s.history ++ [Event.completed id op outcome] }.setSlot d none)
    else none
  | _ => none

end AsyncSt

def asyncSystem (t : Target) : System AsyncSt AsyncAct where
  step s
    | .arrive item =>
      some { s with kernel := s.kernel.arrive item, history := s.history ++ [.arrived item] }
    | .incoming conn =>
      some { s with kernel := s.kernel.incoming conn, history := s.history ++ [.incoming conn] }
    | .start op =>
      match s.slot op.direction with
      | none =>
        some ({ s with started := s.started + 1 }.setSlot op.direction
          (some ⟨s.started, op, .waiting op.start⟩))
      | some _ => none
    | .wake d =>
      match s.slot d with
      | some ⟨id, op, .waiting st⟩ => some (s.setSlot d (some ⟨id, op, .running st⟩))
      | _ => none
    | .call d how => s.call t d how
    | .drop d =>
      match s.slot d with
      | some ⟨id, _, .waiting _⟩ => some ({ s with dropped := s.dropped ++ [id] }.setSlot d none)
      | _ => none

def asyncInit (k : SocketSt) : AsyncSt where
  kernel := k
  reader := none
  writer := none
  started := 0
  dropped := []
  calls := []
  history := []

/-! ## The law -/

/-- The system calls of a future that were not answered by `EAGAIN`. -/
def callsOf (log : List (Nat × Call)) (id : Nat) : List Call :=
  (log.filter fun c => c.1 = id && !c.2.wouldBlock).map Prod.snd

def completedIds (history : List Event) : List Nat := history.filterMap Event.completedId

/-- The futures that are pending, in either slot. -/
def AsyncSt.pendingIds (s : AsyncSt) : List Nat :=
  s.reader.toList.map Pending.id ++ s.writer.toList.map Pending.id

/-- The history as a run in which each completed future is one operation, made of
    the calls that `calls` has for it. -/
inductive Replays (t : Target) (calls : Nat → List Call) (k : SocketSt) :
    List Event → SocketSt → Prop where
  | nil : Replays t calls k [] k
  | arrived {history : List Event} {v : SocketSt} (h : Replays t calls k history v) (item : Item) :
      Replays t calls k (history ++ [.arrived item]) (v.arrive item)
  | incoming {history : List Event} {v : SocketSt} (h : Replays t calls k history v)
      (conn : Conn) : Replays t calls k (history ++ [.incoming conn]) (v.incoming conn)
  | completed {history : List Event} {v v' : SocketSt} {id : Nat} {op : Op} {outcome : Outcome}
      (h : Replays t calls k history v) (heffect : Effect t op v (calls id) outcome v') :
      Replays t calls k (history ++ [.completed id op outcome]) v'

/-- A future that waits until the socket is ready. -/
def Pending.Suspended (f : Pending) : Prop := ∃ st, f.position = .waiting st

/-- Every future that was started is pending, was dropped or has completed, and a
    completed one is one operation. One that was dropped or is suspended has done
    nothing, and nothing else has been done to the socket. -/
structure ExactlyOnce (t : Target) (k : SocketSt) (s : AsyncSt) : Prop where
  ids : (s.pendingIds ++ s.dropped ++ completedIds s.history).Perm (List.range s.started)
  dropped : ∀ id ∈ s.dropped, callsOf s.calls id = []
  suspended : ∀ d, ∀ f ∈ s.slot d, f.Suspended → callsOf s.calls f.id = []
  replayed : ∃ v, Replays t (callsOf s.calls) k s.history v ∧
    ((∀ f ∈ s.reader, f.Suspended) → s.kernel = v)

/-! ## The log -/

variable {t : Target} {k v : SocketSt} {s s' : AsyncSt} {log : List (Nat × Call)}
  {history : List Event} {id i : Nat}

theorem callsOf_append_self (log : List (Nat × Call)) (id : Nat) (call : Option Call) :
    callsOf (log ++ call.toList.map (id, ·)) id = callsOf log id ++ effective call := by
  cases call with
  | none => simp [effective]
  | some c => cases hblock : c.wouldBlock <;> simp [callsOf, effective, hblock]

theorem callsOf_append_of_ne (log : List (Nat × Call)) (h : id ≠ i) (call : Option Call) :
    callsOf (log ++ call.toList.map (i, ·)) id = callsOf log id := by
  cases call with
  | none => simp
  | some c => simp [callsOf, h.symm]

@[simp] theorem completedIds_append_completed (history : List Event) (id : Nat) (op : Op)
    (outcome : Outcome) :
    completedIds (history ++ [.completed id op outcome]) = completedIds history ++ [id] := by
  simp [completedIds, Event.completedId]

@[simp] theorem completedIds_append_arrived (history : List Event) (item : Item) :
    completedIds (history ++ [.arrived item]) = completedIds history := by
  simp [completedIds, Event.completedId]

@[simp] theorem completedIds_append_incoming (history : List Event) (conn : Conn) :
    completedIds (history ++ [.incoming conn]) = completedIds history := by
  simp [completedIds, Event.completedId]

/-- A replay looks only at the calls of the futures that have completed. -/
theorem Replays.congr {calls calls' : Nat → List Call} (h : Replays t calls k history v)
    (hcalls : ∀ id ∈ completedIds history, calls id = calls' id) :
    Replays t calls' k history v := by
  induction h with
  | nil => exact .nil
  | arrived h item ih => exact .arrived (ih (by simpa using hcalls)) item
  | incoming h conn ih => exact .incoming (ih (by simpa using hcalls)) conn
  | @completed history v v' id op outcome h heffect ih =>
    rw [hcalls id (by simp)] at heffect
    apply Replays.completed _ heffect
    apply ih
    intro id' hid'
    exact hcalls id' (by simp [hid'])

/-! ## The invariant -/

/-- The reader's slot over the virtual state `v`: nobody has made calls that are
    not accounted for, or the future in the slot has. -/
def ReaderOk (t : Target) (calls : Nat → List Call) (k v : SocketSt) : Option Pending → Prop
  | none => k = v
  | some f => f.op.direction = .read ∧ Underway t f.op f.position (calls f.id) k v

/-- Sends have done nothing before they complete. -/
def WriterOk (t : Target) (calls : Nat → List Call) (o : Option Pending) : Prop :=
  ∀ f ∈ o, f.op.direction = .write ∧ calls f.id = [] ∧ ∀ v, Underway t f.op f.position [] v v

/-- The completed futures lead from `k` to `v`, and the socket is in `v` up to the
    calls of a closure that is running. -/
structure AsyncInv (t : Target) (k : SocketSt) (s : AsyncSt) (v : SocketSt) : Prop where
  replays : Replays t (callsOf s.calls) k s.history v
  ids : (s.pendingIds ++ s.dropped ++ completedIds s.history).Perm (List.range s.started)
  dropped : ∀ id ∈ s.dropped, callsOf s.calls id = []
  fresh : ∀ id, s.started ≤ id → callsOf s.calls id = []
  reader : ReaderOk t (callsOf s.calls) s.kernel v s.reader
  writer : WriterOk t (callsOf s.calls) s.writer

theorem AsyncInv.init (t : Target) (k : SocketSt) : AsyncInv t k (asyncInit k) k where
  replays := .nil
  ids := .nil
  dropped := by simp [asyncInit]
  fresh := fun _ _ => rfl
  reader := rfl
  writer := by simp [WriterOk, asyncInit]

theorem ReaderOk.congr {calls calls' : Nat → List Call} {o : Option Pending}
    (h : ReaderOk t calls k v o) (hcalls : ∀ f ∈ o, calls f.id = calls' f.id) :
    ReaderOk t calls' k v o := by
  cases o with
  | none => exact h
  | some f =>
    rw [ReaderOk, hcalls f rfl] at h
    exact h

theorem WriterOk.congr {calls calls' : Nat → List Call} {o : Option Pending}
    (h : WriterOk t calls o) (hcalls : ∀ f ∈ o, calls f.id = calls' f.id) :
    WriterOk t calls' o := by
  intro f hf
  rw [← hcalls f hf]
  exact h f hf

/-- Whatever the kernel does beside the reader, it does to the virtual state too. -/
theorem ReaderOk.map {calls : Nat → List Call} {o : Option Pending} (h : ReaderOk t calls k v o)
    (g : SocketSt → SocketSt)
    (hg : ∀ {op position calls}, Underway t op position calls k v →
      Underway t op position calls (g k) (g v)) : ReaderOk t calls (g k) (g v) o := by
  cases o with
  | none => exact congrArg g h
  | some f => exact ⟨h.1, hg h.2⟩

/-! ## The numbers of the futures -/

variable {d : Direction} {f : Pending}

def Direction.other : Direction → Direction
  | .read => .write
  | .write => .read

theorem AsyncSt.pendingIds_setSlot (h : s.slot d = none) (f : Pending) :
    (s.setSlot d (some f)).pendingIds.Perm (f.id :: s.pendingIds) := by
  cases d with
  | read =>
    have hreader : s.reader = none := h
    simp [pendingIds, setSlot, hreader]
  | write =>
    have hwriter : s.writer = none := h
    simp [pendingIds, setSlot, hwriter]

theorem AsyncSt.setSlot_none (s : AsyncSt) (d : Direction) : (s.setSlot d none).slot d = none := by
  cases d <;> rfl

theorem AsyncSt.setSlot_setSlot (h : s.slot d = some f) :
    (s.setSlot d none).setSlot d (some f) = s := by
  obtain ⟨kernel, reader, writer, started, dropped, calls, history⟩ := s
  cases d with
  | read => rw [show reader = some f from h]; rfl
  | write => rw [show writer = some f from h]; rfl

/-- A future leaves its slot. -/
theorem AsyncSt.pendingIds_perm (h : s.slot d = some f) :
    s.pendingIds.Perm (f.id :: (s.setSlot d none).pendingIds) := by
  have hperm := AsyncSt.pendingIds_setSlot (s.setSlot_none d) f
  rwa [AsyncSt.setSlot_setSlot h] at hperm

theorem AsyncSt.pendingIds_replace (h : s.slot d = some f) (f' : Pending) (hid : f'.id = f.id) :
    (s.setSlot d (some f')).pendingIds = s.pendingIds := by
  cases d with
  | read =>
    have hreader : s.reader = some f := h
    simp [pendingIds, setSlot, hreader, hid]
  | write =>
    have hwriter : s.writer = some f := h
    simp [pendingIds, setSlot, hwriter, hid]

theorem AsyncInv.ids_replaced (hinv : AsyncInv t k s v) (h : s.slot d = some f) (f' : Pending)
    (hid : f'.id = f.id) :
    ((s.setSlot d (some f')).pendingIds ++ s.dropped ++ completedIds s.history).Perm
      (List.range s.started) := by
  rw [AsyncSt.pendingIds_replace h f' hid]
  exact hinv.ids

theorem AsyncInv.ids_completed (hinv : AsyncInv t k s v) (h : s.slot d = some f) (outcome : Outcome) :
    ((s.setSlot d none).pendingIds ++ s.dropped ++
      completedIds (s.history ++ [.completed f.id f.op outcome])).Perm (List.range s.started) := by
  rw [completedIds_append_completed, ← List.append_assoc]
  refine ((List.perm_append_singleton _ _).trans ?_).trans hinv.ids
  exact ((AsyncSt.pendingIds_perm h).symm.append_right _).append_right _

/-- A pending future has its number to itself. -/
theorem AsyncInv.id_unique (hinv : AsyncInv t k s v) (h : s.slot d = some f) :
    f.id < s.started ∧ f.id ∉ s.dropped ∧ f.id ∉ completedIds s.history ∧
      ∀ f' ∈ s.slot d.other, f'.id ≠ f.id := by
  have hperm : (f.id :: ((s.setSlot d none).pendingIds ++ s.dropped ++ completedIds s.history)).Perm
      (List.range s.started) :=
    (((AsyncSt.pendingIds_perm h).append_right _).append_right _).symm.trans hinv.ids
  have hnodup := hperm.nodup_iff.mpr List.nodup_range
  obtain ⟨hnot, -⟩ := List.nodup_cons.mp hnodup
  simp only [List.mem_append, not_or] at hnot
  obtain ⟨⟨hpending, hdropped⟩, hcompleted⟩ := hnot
  refine ⟨List.mem_range.mp (hperm.subset (by simp)), hdropped, hcompleted, ?_⟩
  intro f' hf' heq
  apply hpending
  rw [← heq]
  cases d with
  | read =>
    have hwriter : s.writer = some f' := hf'
    simp [AsyncSt.pendingIds, AsyncSt.setSlot, hwriter]
  | write =>
    have hreader : s.reader = some f' := hf'
    simp [AsyncSt.pendingIds, AsyncSt.setSlot, hreader]

/-- The calls of the other futures, while the one in the slot makes one. -/
theorem AsyncInv.callsOf_log (hinv : AsyncInv t k s v) (h : s.slot d = some f)
    (call : Option Call) :
    Replays t (callsOf (s.calls ++ call.toList.map (f.id, ·))) k s.history v ∧
    (∀ id ∈ s.dropped, callsOf (s.calls ++ call.toList.map (f.id, ·)) id = []) ∧
    (∀ id, s.started ≤ id → callsOf (s.calls ++ call.toList.map (f.id, ·)) id = []) ∧
    ∀ f' ∈ s.slot d.other,
      callsOf s.calls f'.id = callsOf (s.calls ++ call.toList.map (f.id, ·)) f'.id := by
  obtain ⟨hlt, hdropped, hcompleted, hother⟩ := hinv.id_unique h
  have hsame : ∀ id, id ≠ f.id →
      callsOf s.calls id = callsOf (s.calls ++ call.toList.map (f.id, ·)) id :=
    fun id hne => (callsOf_append_of_ne s.calls hne call).symm
  refine ⟨hinv.replays.congr ?_, ?_, ?_, fun f' hf' => hsame f'.id (hother f' hf')⟩
  · intro id hid
    exact hsame id (ne_of_mem_of_not_mem hid hcompleted)
  · intro id hid
    rw [← hsame id (ne_of_mem_of_not_mem hid hdropped)]
    exact hinv.dropped id hid
  · intro id hle
    rw [← hsame id (hlt.trans_le hle).ne']
    exact hinv.fresh id hle

/-! ## Steps -/

theorem AsyncInv.arrive (hinv : AsyncInv t k s v) (item : Item) :
    AsyncInv t k
      { s with kernel := s.kernel.arrive item, history := s.history ++ [.arrived item] }
      (v.arrive item) where
  replays := hinv.replays.arrived item
  ids := by
    rw [completedIds_append_arrived]
    exact hinv.ids
  dropped := hinv.dropped
  fresh := hinv.fresh
  reader := hinv.reader.map (·.arrive item) fun h => h.arrive item
  writer := hinv.writer

theorem AsyncInv.incoming (hinv : AsyncInv t k s v) (conn : Conn) :
    AsyncInv t k
      { s with kernel := s.kernel.incoming conn, history := s.history ++ [.incoming conn] }
      (v.incoming conn) where
  replays := hinv.replays.incoming conn
  ids := by
    rw [completedIds_append_incoming]
    exact hinv.ids
  dropped := hinv.dropped
  fresh := hinv.fresh
  reader := hinv.reader.map (·.incoming conn) fun h => h.incoming conn
  writer := hinv.writer

theorem AsyncInv.start (hinv : AsyncInv t k s v) {op : Op} (h : s.slot op.direction = none) :
    AsyncInv t k
      ({ s with started := s.started + 1 }.setSlot op.direction
        (some ⟨s.started, op, .waiting op.start⟩)) v := by
  have hcalls : callsOf s.calls s.started = [] := hinv.fresh s.started le_rfl
  have hids : ((s.setSlot op.direction (some ⟨s.started, op, .waiting op.start⟩)).pendingIds ++
      s.dropped ++ completedIds s.history).Perm (List.range (s.started + 1)) := by
    rw [List.range_succ]
    have hperm := AsyncSt.pendingIds_setSlot h ⟨s.started, op, .waiting op.start⟩
    refine ((hperm.append_right _).append_right _).trans ?_
    exact (List.perm_append_singleton _ _).symm.trans (hinv.ids.append_right _)
  have hfresh : ∀ id, s.started + 1 ≤ id → callsOf s.calls id = [] :=
    fun id hle => hinv.fresh id (Nat.le_of_succ_le hle)
  cases hd : op.direction with
  | read =>
    rw [hd] at h hids
    refine ⟨hinv.replays, hids, hinv.dropped, hfresh, ⟨hd, ?_⟩, hinv.writer⟩
    have hkernel : s.kernel = v := by
      have hreader := hinv.reader
      rw [show s.reader = none from h] at hreader
      exact hreader
    simp only [AsyncSt.setSlot, hcalls, hkernel]
    exact .waiting op v
  | write =>
    rw [hd] at h hids
    refine ⟨hinv.replays, hids, hinv.dropped, hfresh, hinv.reader, ?_⟩
    rintro f ⟨⟩
    exact ⟨hd, hcalls, .waiting op⟩

theorem AsyncInv.reader_eq (hinv : AsyncInv t k s v) (h : s.slot .read = some f) :
    f.op.direction = .read ∧ Underway t f.op f.position (callsOf s.calls f.id) s.kernel v := by
  have hreader := hinv.reader
  rw [show s.reader = some f from h] at hreader
  exact hreader

variable {op : Op} {st : OpState}

theorem AsyncInv.wake (hinv : AsyncInv t k s v) (h : s.slot d = some ⟨id, op, .waiting st⟩) :
    AsyncInv t k (s.setSlot d (some ⟨id, op, .running st⟩)) v := by
  have hids := hinv.ids_replaced h ⟨id, op, .running st⟩ rfl
  cases d with
  | read =>
    obtain ⟨hd, hunderway⟩ := hinv.reader_eq h
    exact ⟨hinv.replays, hids, hinv.dropped, hinv.fresh, ⟨hd, hunderway.wake⟩, hinv.writer⟩
  | write =>
    refine ⟨hinv.replays, hids, hinv.dropped, hinv.fresh, hinv.reader, ?_⟩
    rintro f ⟨⟩
    obtain ⟨hd, hcalls, hunderway⟩ := hinv.writer _ h
    exact ⟨hd, hcalls, fun v' => (hunderway v').wake⟩

theorem AsyncInv.drop (hinv : AsyncInv t k s v) (h : s.slot d = some ⟨id, op, .waiting st⟩) :
    AsyncInv t k ({ s with dropped := s.dropped ++ [id] }.setSlot d none) v := by
  have hids : ((s.setSlot d none).pendingIds ++ (s.dropped ++ [id]) ++
      completedIds s.history).Perm (List.range s.started) := by
    refine List.Perm.trans ?_ hinv.ids
    apply List.Perm.append_right
    rw [← List.append_assoc]
    refine (List.perm_append_singleton _ _).trans ?_
    exact (AsyncSt.pendingIds_perm h).symm.append_right _
  have hdropped : callsOf s.calls id = [] →
      ∀ id' ∈ s.dropped ++ [id], callsOf s.calls id' = [] := by
    intro hcalls id' hid'
    obtain hid' | hid' := List.mem_append.mp hid'
    · exact hinv.dropped id' hid'
    · rwa [List.mem_singleton.mp hid']
  cases d with
  | read =>
    obtain ⟨hd, hunderway⟩ := hinv.reader_eq h
    obtain ⟨hcalls, -, hkernel⟩ := hunderway.eq_of_waiting
    exact ⟨hinv.replays, hids, hdropped hcalls, hinv.fresh, hkernel, hinv.writer⟩
  | write =>
    obtain ⟨hd, hcalls, -⟩ := hinv.writer _ h
    refine ⟨hinv.replays, hids, hdropped hcalls, hinv.fresh, hinv.reader, ?_⟩
    rintro f ⟨⟩

theorem AsyncInv.callRead (hinv : AsyncInv t k s v) {how : Answer}
    (h : s.slot .read = some ⟨id, op, .running st⟩) (hallowed : how.allowed st = true)
    (hstep : s.call t .read how = some s') : ∃ v', AsyncInv t k s' v' := by
  obtain ⟨hd, hunderway⟩ := hinv.reader_eq h
  have hok := hunderway.call hallowed
  obtain ⟨hreplays, hdropped, hfresh, hother⟩ :=
    hinv.callsOf_log h (callStep t s.kernel how st).2.2
  rw [← callsOf_append_self] at hok
  simp only [AsyncSt.call, h, hallowed, if_true] at hstep
  unfold CallOk at hok
  cases htry : op.tryIo (callStep t s.kernel how st).1 with
  | next position =>
    simp only [htry] at hok hstep
    obtain rfl := Option.some.inj hstep
    have hids := hinv.ids_replaced h ⟨id, op, position⟩ rfl
    exact ⟨v, hreplays, hids, hdropped, hfresh, ⟨hd, hok⟩, hinv.writer.congr hother⟩
  | done outcome =>
    simp only [htry] at hok hstep
    obtain rfl := Option.some.inj hstep
    exact ⟨_, hreplays.completed hok, hinv.ids_completed h outcome, hdropped, hfresh, rfl,
      hinv.writer.congr hother⟩

theorem AsyncInv.callWrite (hinv : AsyncInv t k s v) {how : Answer}
    (h : s.slot .write = some ⟨id, op, .running st⟩) (hallowed : how.allowed st = true)
    (hstep : s.call t .write how = some s') : ∃ v', AsyncInv t k s' v' := by
  obtain ⟨hd, hcalls, hunderway⟩ := hinv.writer _ h
  have hok := (hunderway s.kernel).call hallowed
  obtain ⟨hreplays, hdropped, hfresh, hother⟩ :=
    hinv.callsOf_log h (callStep t s.kernel how st).2.2
  rw [← hcalls, ← callsOf_append_self] at hok
  have hreader := hinv.reader.congr hother
  simp only [AsyncSt.call, h, hallowed, if_true] at hstep
  unfold CallOk at hok
  match op, hd with
  | .send buf dest info, _ =>
    cases htry : (Op.send buf dest info).tryIo (callStep t s.kernel how st).1 with
    | next position =>
      simp only [htry] at hok hstep
      obtain rfl := Option.some.inj hstep
      obtain ⟨hnone, hkernel, hunderway'⟩ := hok.eq_of_send
      have hids := hinv.ids_replaced h ⟨id, .send buf dest info, position⟩ rfl
      refine ⟨v, hreplays, hids, hdropped, hfresh, ?_, ?_⟩
      · change ReaderOk t (callsOf _) (callStep t s.kernel how st).2.1 v s.reader
        rw [hkernel]
        exact hreader
      · rintro f ⟨⟩
        exact ⟨rfl, hnone, hunderway'⟩
    | done outcome =>
      simp only [htry] at hok hstep
      obtain rfl := Option.some.inj hstep
      obtain ⟨reqs, hkernel, heffect⟩ := hok.eq_addSent
      refine ⟨v.addSent reqs, hreplays.completed (heffect v), hinv.ids_completed h outcome, hdropped,
        hfresh, ?_, ?_⟩
      · have hreader' := hreader.map (·.addSent reqs) fun h => h.addSent reqs
        rw [← hkernel] at hreader'
        exact hreader'
      · rintro f ⟨⟩

theorem AsyncInv.call (hinv : AsyncInv t k s v) {how : Answer}
    (hstep : s.call t d how = some s') : ∃ v', AsyncInv t k s' v' := by
  have hcall := hstep
  unfold AsyncSt.call at hcall
  split at hcall
  · next id op st h =>
    by_cases hallowed : how.allowed st = true
    · cases d with
      | read => exact hinv.callRead h hallowed hstep
      | write => exact hinv.callWrite h hallowed hstep
    · rw [if_neg hallowed] at hcall
      cases hcall
  · cases hcall

theorem AsyncInv.step {a : AsyncAct} (hinv : AsyncInv t k s v)
    (hstep : (asyncSystem t).step s a = some s') : ∃ v', AsyncInv t k s' v' := by
  cases a with
  | arrive item =>
    obtain rfl := Option.some.inj hstep
    exact ⟨_, hinv.arrive item⟩
  | incoming conn =>
    obtain rfl := Option.some.inj hstep
    exact ⟨_, hinv.incoming conn⟩
  | start op =>
    simp only [asyncSystem] at hstep
    split at hstep
    · next h =>
      obtain rfl := Option.some.inj hstep
      exact ⟨v, hinv.start h⟩
    · cases hstep
  | wake d =>
    simp only [asyncSystem] at hstep
    split at hstep
    · next id op st h =>
      obtain rfl := Option.some.inj hstep
      exact ⟨v, hinv.wake h⟩
    · cases hstep
  | call d how => exact hinv.call hstep
  | drop d =>
    simp only [asyncSystem] at hstep
    split at hstep
    · next id op st h =>
      obtain rfl := Option.some.inj hstep
      exact ⟨v, hinv.drop h⟩
    · cases hstep

theorem AsyncInv.exactlyOnce (hinv : AsyncInv t k s v) : ExactlyOnce t k s := by
  refine ⟨hinv.ids, hinv.dropped, ?_, v, hinv.replays, ?_⟩
  · rintro d ⟨id, op, position⟩ hf ⟨st, rfl⟩
    cases d with
    | read => exact (hinv.reader_eq hf).2.eq_of_waiting.1
    | write => exact (hinv.writer _ hf).2.1
  · intro hsuspended
    cases hreader : s.reader with
    | none =>
      have hkernel := hinv.reader
      rw [hreader] at hkernel
      exact hkernel
    | some f =>
      obtain ⟨id, op, position⟩ := f
      obtain ⟨st, rfl⟩ := hsuspended _ hreader
      exact (hinv.reader_eq hreader).2.eq_of_waiting.2.2

/-- Whatever the order of readiness events, system calls, refusals, failures and
    arrivals, and wherever futures are dropped, each completed future is exactly one
    operation on the socket. -/
theorem futures_exactly_once (t : Target) (k : SocketSt) (acts : List AsyncAct) (s : AsyncSt)
    (hrun : (asyncSystem t).run (asyncInit k) acts = some s) : ExactlyOnce t k s := by
  have hstep : ∀ s a s', (∃ v, AsyncInv t k s v) → (asyncSystem t).step s a = some s' →
      ∃ v, AsyncInv t k s' v := by
    rintro s a s' ⟨v, hinv⟩ hstep
    exact hinv.step hstep
  obtain ⟨v, hinv⟩ := System.run_invariant hstep ⟨k, AsyncInv.init t k⟩ hrun
  exact hinv.exactlyOnce

/-- A receive finds nothing and is dropped; another one reads a notification in two
    parts, with a send between them. -/
def dropThenReceive : List AsyncAct :=
  [.start (.recv (zeros 8) false), .wake .read, .call .read .perform, .drop .read,
    .start (.recv (zeros 8) false), .start (.send [1, 2] none ⟨0, ⟨0⟩, ⟨0⟩, 0, ⟨0⟩⟩),
    .arrive (.notification [5, 128, 0, 0, 12, 0, 0, 0, 1, 0, 0, 0] (.loopback 5000)),
    .wake .read, .call .read .refuse, .wake .read, .call .read .perform, .wake .write,
    .call .write .perform, .call .read .perform]

theorem futures_exactly_once_dropped :
    ∃ s, (asyncSystem ⟨.little, .w64⟩).run (asyncInit ⟨[], [], []⟩) dropThenReceive = some s ∧
      s.dropped = [0] ∧ completedIds s.history = [2, 1] ∧ (callsOf s.calls 1).length = 2 ∧
      (callsOf s.calls 2).length = 1 ∧ s.kernel.queue = [] ∧ s.kernel.sent.length = 1 ∧
      ExactlyOnce ⟨.little, .w64⟩ ⟨[], [], []⟩ s := by
  have hview : ((asyncSystem ⟨.little, .w64⟩).run (asyncInit ⟨[], [], []⟩) dropThenReceive).any
      (fun s => s.dropped = [0] ∧ completedIds s.history = [2, 1] ∧
        (callsOf s.calls 1).length = 2 ∧ (callsOf s.calls 2).length = 1 ∧ s.kernel.queue = [] ∧
        s.kernel.sent.length = 1) := by
    decide +kernel
  obtain ⟨s, hrun, hs⟩ := (Option.any_eq_true _ _).mp hview
  obtain ⟨hdropped, hcompleted, hreads, hsends, hqueue, hsent⟩ := of_decide_eq_true hs
  exact ⟨s, hrun, hdropped, hcompleted, hreads, hsends, hqueue, hsent,
    futures_exactly_once ⟨.little, .w64⟩ ⟨[], [], []⟩ _ s hrun⟩

end Net

end Lksctp
