-- SUMMARY: The code of the API objects beside the machines: a connect makes the polls of `connSystem`, and `accept` ends as the asynchronous one does.
import Lksctp.Machine.Simulation
import Lksctp.Net.Delivery
import Lksctp.Net.Operation
import Lksctp.Socket.LifecycleSpec
import Lksctp.Uapi

/-!
# Code and machines

A connect is written twice: as the code of an API object, which is cut where it may be
suspended, and as the phases of `connSystem`, which the kernel's events come between.
Against a kernel that has the subscriptions and the queue of `connSystem`, the code
does what polls of the system do, whatever its calls return and whatever arrives
before each of them.

The same is said of `accept`, whose end the asynchronous operations have as a result.
-/

namespace Lksctp

open Rust Machine Kernel Socket

/-- The calls that change neither the subscriptions of a socket nor take from its queue. -/
def Syscall.steady : Syscall → Bool
  | .getsockopt .. | .getsockoptAddrs .. | .fcntlGetfl _ | .fcntlSetfl .. | .currentRuntime
  | .register _ | .readable _ => true
  | _ => false

/-- The call that `subscribe_event` makes. -/
def Syscall.event (t : Target) (fd : Int32) (ev : EventType) (on : Bool) (tail : UInt8) : Syscall :=
  .setsockopt fd Sys.solSctp Sys.sctpEvent
    (Sys.SctpEvent.codec.put t.endian
      { seAssocId := AssocId.future.val, seType := ev.toRaw, seOn := if on then 1 else 0, tail })
    (UInt32.ofNat Sys.SctpEvent.codec.size)

namespace Net

/-! ## The kernel's side of one socket -/

/-- What may be queued for a socket with these subscriptions. -/
inductive Arrives (e : Endian) (subs : Finset EventType) : Item → Prop where
  | notification {k : KernelNotification} (h : Subscribed subs k) (peer : SocketAddr) :
      Arrives e subs (.notification (k.encode e) peer)
  | data (bytes : Bytes) (last : Bool) (info : Sys.SctpRcvinfo) (pad : Octets 2)
      (peer : SocketAddr) : Arrives e subs (.data bytes last info pad peer)
  | eof : Arrives e subs .eof

/-- A kernel with a socket `fd` that is subscribed to events and has a queue, in a program with
    a runtime. Before each call some items may arrive. -/
structure SocketKernel (t : Target) (K : Type) where
  serve : Syscalls K
  fd : Int32
  subs : K → Finset EventType
  queue : K → List Item
  arrivals : K → Syscall → List Item
  arrives : ∀ k c, ∀ item ∈ arrivals k c, Arrives t.endian (subs k) item
  runtime : ∀ k, ∃ v, (serve k .currentRuntime).1.ret = .ok v
  readable : ∀ k, ∃ v, (serve k (.readable fd)).1.ret = .ok v
  steady : ∀ k c, c.steady = true →
    subs (serve k c).2 = subs k ∧ queue (serve k c).2 = queue k ++ arrivals k c
  event : ∀ k ev on tail v, (serve k (.event t fd ev on tail)).1.ret = .ok v →
    subs (serve k (.event t fd ev on tail)).2 = setEvent (subs k) ev on ∧
      queue (serve k (.event t fd ev on tail)).2 = queue k ++ arrivals k (.event t fd ev on tail)
  recvmsg : ∀ k req,
    (serve k (.recvmsg fd req)).1.received =
        (Kernel.recvmsg t (queue k ++ arrivals k (.recvmsg fd req)) req).1 ∧
      subs (serve k (.recvmsg fd req)).2 = subs k ∧
      queue (serve k (.recvmsg fd req)).2 =
        (Kernel.recvmsg t (queue k ++ arrivals k (.recvmsg fd req)) req).2

/-- The kernel of a socket at which nothing more arrives, and whose calls succeed. -/
def SocketKernel.still (t : Target) (fd : Int32) :
    SocketKernel t (Finset EventType × List Item) where
  serve k
    | .setsockopt _ _ _ optval _ =>
      let raw := Sys.SctpEvent.codec.get t.endian optval
      match Uapi.events.lookup raw.seType with
      | some ev => ({ ret := .ok 0 }, setEvent k.1 ev (raw.seOn ≠ 0), k.2)
      | none => ({ ret := .error Errno.einval }, k)
    | .recvmsg _ req =>
      let (received, queue) := Kernel.recvmsg t k.2 req
      match received with
      | .ok msg => ({ ret := .ok 0, msg }, k.1, queue)
      | .error errno => ({ ret := .error errno }, k.1, queue)
    | _ => ({ ret := .ok 0 }, k)
  fd
  subs := Prod.fst
  queue := Prod.snd
  arrivals _ _ := []
  arrives := nofun
  runtime _ := ⟨0, rfl⟩
  readable _ := ⟨0, rfl⟩
  steady k c hc := by
    cases c with
    | setsockopt | recvmsg => cases hc
    | _ => exact ⟨rfl, (List.append_nil _).symm⟩
  event k ev on tail v _ := by
    simp [Syscall.event, Codec.get_put, Uapi.lookup_toRaw]
  recvmsg k req := by
    rw [List.append_nil]
    dsimp only
    cases (Kernel.recvmsg t k.2 req).1 with
    | ok msg => exact ⟨rfl, rfl, rfl⟩
    | error errno => exact ⟨rfl, rfl, rfl⟩

variable {t : Target} {K α β : Type} {N : SocketKernel t K} {keep : Bool} {m : Io K α}

/-! ## Steady code -/

/-- Code that only lets items arrive, and does not panic. -/
def Steady (N : SocketKernel t K) (m : Io K α) : Prop :=
  ∀ k, Io.wp m (fun r k' =>
    match r with
    | .ok _ => N.subs k' = N.subs k ∧
        ∃ more, (∀ item ∈ more, Arrives t.endian (N.subs k) item) ∧ N.queue k' = N.queue k ++ more
    | .error fault => ∃ error, fault = .err error) k

namespace Steady

theorem pure (a : α) : Steady N (Pure.pure a : Io K α) :=
  fun _ => .lift ⟨rfl, [], nofun, (List.append_nil _).symm⟩

theorem err (error : IoError) : Steady N (Io.err error : Io K α) := fun _ => .lift ⟨error, rfl⟩

theorem bind {f : α → Io K β} (h : Steady N m) (hf : ∀ a, Steady N (f a)) : Steady N (m >>= f) := by
  intro k
  apply (h k).bind
  · rintro a k' ⟨hsubs, more, hmore, hqueue⟩
    apply (hf a k').mono
    intro r k'' hr
    cases r with
    | ok b =>
      obtain ⟨hsubs', more', hmore', hqueue'⟩ := hr
      refine ⟨hsubs'.trans hsubs, more ++ more', ?_, ?_⟩
      · rw [hsubs] at hmore'
        intro item hitem
        exact (List.mem_append.mp hitem).elim (hmore item) (hmore' item)
      · rw [hqueue', hqueue, List.append_assoc]
    | error fault => exact hr
  · intro fault k' hfault
    exact hfault

theorem ofCall {c : Syscall} (hc : c.steady = true) : Steady N (Io.call N.serve c) := by
  intro k
  obtain ⟨hsubs, hqueue⟩ := N.steady k c hc
  exact ⟨hsubs, _, N.arrives k c, hqueue⟩

/-- A call that has to succeed, and the code behind it. -/
theorem call {c : Syscall} {f : Reply → Io K β} (hc : c.steady = true)
    (hf : ∀ k, Steady N (f (N.serve k c).1)) : Steady N (Io.call N.serve c >>= f) := by
  intro k
  have hbind : Steady N (Io.call N.serve c >>= fun _ => f (N.serve k c).1) :=
    (ofCall hc).bind fun _ => hf k
  exact hbind k

theorem callCvt {c : Syscall} {f : Int32 × Reply → Io K β} (hc : c.steady = true)
    (hf : ∀ ret reply, Steady N (f (ret, reply))) : Steady N (Socket.callCvt N.serve c >>= f) := by
  rw [Socket.callCvt, bind_assoc]
  apply call hc
  intro k
  cases hret : (N.serve k c).1.ret with
  | ok ret => exact hf ret _
  | error errno => exact err (.os errno)

/-- What is closed when it has failed does not matter. -/
theorem closing (fd : Int32) (h : Steady N m) : Steady N (Socket.closing N.serve fd m) := by
  intro k
  apply (h k).dropOnFault
  · exact fun _ _ hr => hr
  · exact fun _ _ hr => hr

end Steady

theorem steady_setNonblocking (fd : Int32) (nonblocking : Bool) :
    Steady N (Socket.setNonblocking N.serve fd nonblocking) := by
  apply Steady.callCvt rfl
  intro flags _
  dsimp only
  generalize (if nonblocking = true then flags ||| Sys.oNonblock
    else flags &&& ~~~Sys.oNonblock) = new
  split
  · exact Steady.callCvt rfl fun _ _ => .pure _
  · exact .pure _

theorem steady_register (fd : Int32) : Steady N (register N.serve fd) := by
  apply Steady.closing
  apply (steady_setNonblocking fd true).bind
  intro _
  apply Steady.call rfl
  intro k
  obtain ⟨v, hv⟩ := N.runtime k
  rw [hv]
  exact Steady.callCvt rfl fun _ _ => .pure _

theorem steady_connectx (fd : Int32) (addrs : List SocketAddr) :
    Steady N (connectxOn t N.serve fd addrs) := by
  cases addrs with
  | nil => exact .err noAddresses
  | cons addr addrs =>
    rw [connectx_on N.serve fd (List.cons_ne_nil addr addrs)]
    apply Steady.call rfl
    intro k
    dsimp only
    split
    · exact .pure _
    · split
      · next hprogress =>
        apply Steady.callCvt rfl
        intro flags _
        rw [hprogress, classifyConnectxError_einprogress]
        split
        · exact .pure _
        · exact .err _
      · exact .err _

theorem steady_style (fd : Int32) : Steady N (Socket.style t N.serve fd) := by
  rw [Socket.style, Socket.getsockopt, bind_assoc]
  apply Steady.callCvt rfl
  intro _ reply
  rw [pure_bind]
  split
  · exact .pure _
  · split
    · exact .pure _
    · exact .err _

/-! ## Phases -/

/-- The system is in this phase and has the subscriptions and the queue of the socket. -/
structure At (N : SocketKernel t K) (phase : Phase) (s : ConnSt) (k : K) : Prop where
  subs : s.subs = N.subs k
  queue : s.queue = N.queue k
  phase : s.phase = phase

/-- The phase that code has ended in. -/
def Ended (N : SocketKernel t K) (next : α → Phase) (r : Res α) (s : ConnSt) (k : K) : Prop :=
  match r with
  | .ok a => At N (next a) s k
  | .error fault => s.phase = .failed fault

/-- The actions of a connect: its own, and the kernel's. -/
def ConnAct.ofConnect : ConnAct → Bool
  | .poll .. | .notify .. | .message .. | .peerClosed => true
  | _ => false

/-- The code does what polls do that find the system in this phase, with the items that arrive
    meanwhile. -/
def Polls (N : SocketKernel t K) (keep : Bool) (phase : Phase) (m : Io K α) (next : α → Phase) :
    Prop :=
  Follows (connSystem t keep) (fun a => a.ofConnect = true) m (At N phase) (Ended N next)

/-- An item that arrives is an action of the kernel. -/
theorem Arrives.step (keep : Bool) {s : ConnSt} {item : Item} (h : Arrives t.endian s.subs item) :
    ∃ a : ConnAct, a.ofConnect = true ∧ (connSystem t keep).step s a = some (s.enqueue item) := by
  cases h with
  | @notification k hsub peer => exact ⟨.notify k peer, rfl, if_pos hsub⟩
  | data bytes last info pad peer => exact ⟨.message bytes last info pad peer, rfl, rfl⟩
  | eof => exact ⟨.peerClosed, rfl, rfl⟩

theorem run_arrivals (t : Target) (keep : Bool) (s : ConnSt) (items : List Item)
    (h : ∀ item ∈ items, Arrives t.endian s.subs item) :
    ∃ as s', (∀ a ∈ as, ConnAct.ofConnect a = true) ∧ (connSystem t keep).run s as = some s' ∧
      s'.subs = s.subs ∧ s'.queue = s.queue ++ items ∧ s'.phase = s.phase := by
  induction items generalizing s with
  | nil => exact ⟨[], s, nofun, rfl, rfl, (List.append_nil _).symm, rfl⟩
  | cons item items ih =>
    obtain ⟨a, ha, hstep⟩ := (h item List.mem_cons_self).step keep
    obtain ⟨as, s', has, hrun, hsubs, hqueue, hphase⟩ :=
      ih (s.enqueue item) fun item' hitem' => h item' (List.mem_cons_of_mem _ hitem')
    refine ⟨a :: as, s', ?_, System.run_cons_eq_some.mpr ⟨_, hstep, hrun⟩, hsubs, ?_, hphase⟩
    · intro a' ha'
      obtain rfl | ha' := List.mem_cons.mp ha'
      · exact ha
      · exact has a' ha'
    · rw [hqueue, ConnSt.enqueue, List.append_assoc, List.singleton_append]

namespace Polls

variable {phase : Phase} {next : α → Phase}

theorem pure {a : α} : Polls N keep (next a) (Pure.pure a) next := Follows.pure fun _ _ hs => hs

theorem bind {f : α → Io K β} {next' : β → Phase} (h : Polls N keep phase m next)
    (hf : ∀ a, Polls N keep (next a) (f a) next') : Polls N keep phase (m >>= f) next' := by
  apply Follows.bind h
  · exact hf
  · exact fun _ _ _ hfault => hfault

theorem closing (fd : Int32) (h : Polls N keep phase m next) :
    Polls N keep phase (Socket.closing N.serve fd m) next := by
  apply Follows.dropOnFault h
  exact fun _ _ _ hfault => hfault

/-- One poll behind a call, which sees what has arrived before the call. -/
theorem call {c : Syscall} {f : Reply → Io K α}
    (h : ∀ (s : ConnSt) k, s.subs = N.subs k → s.queue = N.queue k ++ N.arrivals k c →
      s.phase = phase → ∃ reply soError s', s.poll t keep reply soError = some s' ∧
        Io.wp (f (N.serve k c).1) (fun r k' => Ended N next r s' k') (N.serve k c).2) :
    Polls N keep phase (Io.call N.serve c >>= f) next := by
  rintro s k ⟨hsubs, hqueue, hphase⟩
  obtain ⟨as, s₁, has, hrun, hsubs₁, hqueue₁, hphase₁⟩ :=
    run_arrivals t keep s (N.arrivals k c) (hsubs ▸ N.arrives k c)
  obtain ⟨reply, soError, s', hpoll, hf⟩ := h s₁ k (hsubs₁.trans hsubs) (hqueue ▸ hqueue₁)
    (hphase₁.trans hphase)
  refine ⟨as ++ [.poll reply soError], s', ?_, ?_, ?_⟩
  · intro a ha
    obtain ha | ha := List.mem_append.mp ha
    · exact has a ha
    · rw [List.mem_singleton.mp ha]
      rfl
  · exact System.run_append hrun (System.run_cons_eq_some.mpr ⟨s', hpoll, rfl⟩)
  · rw [Io.wp, Io.exec_bind, Io.exec_call]
    exact hf

/-- A poll that makes no call. -/
theorem skip {phase' : Phase}
    (h : ∀ s : ConnSt, s.phase = phase →
      s.poll t keep none (.ok 0) = some { s with phase := phase' }) :
    Polls N keep phase (Pure.pure () : Io K Unit) fun _ => phase' := by
  apply Follows.action
  rintro s k ⟨hsubs, hqueue, hphase⟩
  exact ⟨.poll none (.ok 0), _, rfl, h s hphase, .lift ⟨hsubs, hqueue, rfl⟩⟩

/-- A poll that only goes on to the next phase, unless the code fails. -/
theorem of_steady {phase' : Phase} (hm : Steady N m)
    (hpoll : ∀ (s : ConnSt) reply, s.phase = phase →
      s.poll t keep reply (.ok 0) = some (s.proceed reply { s with phase := phase' })) :
    Polls N keep phase m fun _ => phase' := by
  rintro s k ⟨hsubs, hqueue, hphase⟩
  have hk := hm k
  unfold Io.wp at hk ⊢
  generalize m.exec k = out at hk ⊢
  obtain ⟨r, k'⟩ := out
  cases r with
  | ok a =>
    obtain ⟨hsubs', more, hmore, hqueue'⟩ := hk
    obtain ⟨as, s', has, hrun, hsubs₁, hqueue₁, hphase₁⟩ :=
      run_arrivals t keep { s with phase := phase' } more (hsubs ▸ hmore)
    refine ⟨.poll none (.ok 0) :: as, s', ?_, ?_, ?_⟩
    · intro a ha
      obtain rfl | ha := List.mem_cons.mp ha
      · rfl
      · exact has a ha
    · exact System.run_cons_eq_some.mpr ⟨_, hpoll s none hphase, hrun⟩
    · exact ⟨hsubs₁.trans (hsubs.trans hsubs'.symm),
        hqueue₁.trans (hqueue'.symm ▸ hqueue ▸ rfl), hphase₁⟩
  | error fault =>
    obtain ⟨error, rfl⟩ := hk
    refine ⟨[.poll (some error) (.ok 0)], { s with phase := .failed (.err error) }, ?_, ?_, rfl⟩
    · intro a ha
      rw [List.mem_singleton.mp ha]
      rfl
    · exact System.run_cons_eq_some.mpr ⟨_, hpoll s (some error) hphase, rfl⟩

end Polls

/-! ## The code of a connect -/

/-- `subscribe_event` is one call. -/
theorem subscribeEvent_eq (sys : Syscalls K) (fd : Int32) (ev : EventType) (on : Bool)
    (tail : UInt8) :
    subscribeEvent t sys fd ev on tail = (do
      let reply ← Io.call sys (.event t fd ev on tail)
      Io.lift ((cvt reply.ret).map fun _ => ())) := by
  rw [subscribeEvent, subscribeEventFor, setsockopt, callCvt, bind_assoc]
  apply congrArg
  funext reply
  cases hret : reply.ret with
  | ok v => rfl
  | error errno => rfl

/-- A subscription is added or removed, unless it stays as it is. -/
theorem polls_subscribeEvent {phase phase' : Phase} (on : Bool) (tail : UInt8)
    (hpoll : ∀ (s : ConnSt) reply, s.phase = phase → s.poll t keep reply (.ok 0) =
      if keep = true then some { s with phase := phase' }
      else some (s.proceed reply
        { s with subs := setEvent s.subs .assocChange on, phase := phase' })) :
    Polls N keep phase
      (if ¬ keep = true then subscribeEvent t N.serve N.fd .assocChange on tail else pure ())
      fun _ => phase' := by
  cases keep with
  | true => exact Polls.skip fun s hphase => hpoll s none hphase
  | false =>
    rw [if_pos (by decide), subscribeEvent_eq]
    apply Polls.call
    intro s k hsubs hqueue hphase
    cases hret : (N.serve k (.event t N.fd .assocChange on tail)).1.ret with
    | ok v =>
      obtain ⟨hsubs', hqueue'⟩ := N.event k .assocChange on tail v hret
      refine ⟨none, .ok 0, _, hpoll s none hphase, .lift ⟨?_, ?_, rfl⟩⟩
      · exact (congrArg (setEvent · .assocChange on) hsubs).trans hsubs'.symm
      · exact hqueue.trans hqueue'.symm
    | error errno => exact ⟨some (.os errno), .ok 0, _, hpoll s _ hphase, .lift rfl⟩

namespace SctpStream

/-- The first `await` is reached after three phases. -/
theorem polls_initiate (addrs : List SocketAddr) :
    Polls N keep .register (initiate t N.serve N.fd addrs) fun _ => .establish estStart := by
  have hregister : Polls N keep .register (register N.serve N.fd) fun _ => .connect :=
    Polls.of_steady (steady_register N.fd) fun s reply hphase => by rw [ConnSt.poll, hphase]
  apply hregister.bind
  intro _
  apply Polls.closing
  apply Polls.of_steady ((steady_connectx N.fd addrs).bind fun _ => .pure _)
  intro s reply hphase
  rw [ConnSt.poll, hphase]

theorem polls_connectx (addrs : List SocketAddr) (tail : UInt8) :
    Polls N keep .subscribe (connectx t N.serve N.fd keep addrs tail)
      fun _ => .establish estStart := by
  have hsubscribe : Polls N keep .subscribe
      (closing N.serve N.fd
        (if ¬ keep = true then subscribeEvent t N.serve N.fd .assocChange true tail else pure ()))
      fun _ => .register := by
    apply Polls.closing
    apply polls_subscribeEvent
    intro s reply hphase
    rw [ConnSt.poll, hphase]
  exact hsubscribe.bind fun _ => polls_initiate addrs

theorem polls_finish (tail : UInt8) :
    Polls N keep .unsubscribe (finish t N.serve N.fd keep tail) fun _ => .stream none := by
  apply Polls.closing
  apply polls_subscribeEvent
  intro s reply hphase
  rw [ConnSt.poll, hphase]

/-- Where a move of `established` leads. -/
def established : Step EstState Unit → Phase
  | .next st => .establish st
  | .done () => .unsubscribe

/-- The answer to `SO_ERROR`. -/
def soErrorOf (t : Target) (reply : Reply) : Except Errno Int32 :=
  reply.ret.map fun _ => Codec.i32.get t.endian (overlay (zeros Codec.i32.size) reply.out)

/-- The look at `SO_ERROR` is one call, and always ends in an error. -/
theorem establish_takeError (sys : Syscalls K) (fd : Int32) :
    establish t sys fd .takeError = (do
      let reply ← Io.call sys (.getsockopt fd Sys.solSocket Sys.soError (zeros Codec.i32.size)
        (UInt32.ofNat Codec.i32.size))
      Io.lift ((refusal (soErrorOf t reply)).map Step.done)) := by
  rw [establish, takeError, getsockopt, callCvt]
  simp only [bind_assoc]
  apply congrArg
  funext reply
  rw [soErrorOf]
  cases hret : reply.ret with
  | error errno => rfl
  | ok v =>
    have hlift : (Io.lift (.ok v) : Io K Int32) = pure v := rfl
    simp only [cvt, hlift, pure_bind]
    by_cases hv : Codec.i32.get t.endian (overlay (zeros Codec.i32.size) reply.out) = 0
    · simp only [Except.map, refusal, if_pos hv]
      rfl
    · simp only [Except.map, refusal, if_neg hv]
      rfl

/-- A move of `established` is a poll: a wake-up, a read of the queue or a look at `SO_ERROR`. -/
theorem polls_establish (st : EstState) :
    Polls N keep (.establish st) (establish t N.serve N.fd st) established := by
  match st with
  | .io (.waiting r) =>
    rw [establish, callCvt, bind_assoc]
    apply Polls.call
    intro s k hsubs hqueue hphase
    obtain ⟨hsubs', hqueue'⟩ := N.steady k (.readable N.fd) rfl
    obtain ⟨v, hv⟩ := N.readable k
    rw [hv]
    refine ⟨none, .ok 0, { s with phase := .establish (.io (.running r)) }, ?_, .lift ⟨?_, ?_, rfl⟩⟩
    · rw [ConnSt.poll, hphase]
      rfl
    · exact hsubs.trans hsubs'.symm
    · exact hqueue.trans hqueue'.symm
  | .io (.running r) =>
    apply Polls.call
    intro s k hsubs hqueue hphase
    obtain ⟨hreceived, hsubs', hqueue'⟩ := N.recvmsg k ((recvMsg t).request r)
    rw [← hqueue] at hreceived hqueue'
    refine ⟨none, .ok 0, ?_⟩
    rw [ConnSt.poll, hphase, hreceived]
    simp only [estStep, readStep, recvStep]
    generalize (recvMsg t).resume r _ = step
    cases tryRecv false step with
    | next a => exact ⟨_, rfl, .lift ⟨hsubs.trans hsubs'.symm, hqueue'.symm, rfl⟩⟩
    | done out =>
      dsimp only
      cases afterReceive out with
      | next st => exact ⟨_, rfl, .lift ⟨hsubs.trans hsubs'.symm, hqueue'.symm, rfl⟩⟩
      | done result =>
        cases result with
        | ok u => exact ⟨_, rfl, .lift ⟨hsubs.trans hsubs'.symm, hqueue'.symm, rfl⟩⟩
        | error fault => exact ⟨_, rfl, .lift rfl⟩
  | .takeError =>
    rw [establish_takeError]
    apply Polls.call
    intro s k hsubs hqueue hphase
    generalize (N.serve k _).1 = reply
    obtain ⟨error, herror⟩ := refusal_fails (soErrorOf t reply)
    refine ⟨none, soErrorOf t reply, { s with phase := .failed (.err error) }, ?_, ?_⟩
    · rw [ConnSt.poll, hphase]
      simp only [estStep, herror]
      rfl
    · rw [herror]
      exact .lift rfl

/-- Where a move of a connect leads. -/
def proceeded : Option EstState → Phase
  | some st => .establish st
  | none => .stream none

/-- From its first `await` on, every move of a connect is made of polls. -/
theorem polls_proceed (st : EstState) (tail : UInt8) :
    Polls N keep (.establish st) (proceed t N.serve N.fd keep st tail) proceeded := by
  apply (Polls.closing N.fd (polls_establish st)).bind
  intro step
  cases step with
  | next st => exact Polls.pure
  | done u =>
    apply (polls_finish tail).bind
    exact fun _ => Polls.pure

/-- A connect that has been moved at most `n` times. -/
def moves (t : Target) (sys : Syscalls K) (fd : Int32) (keep : Bool) (tail : UInt8) :
    Nat → EstState → Io K (Option EstState)
  | 0, st => pure (some st)
  | n + 1, st => do
    match ← proceed t sys fd keep st tail with
    | some st => moves t sys fd keep tail n st
    | none => pure none

theorem polls_moves (tail : UInt8) (n : Nat) (st : EstState) :
    Polls N keep (.establish st) (moves t N.serve N.fd keep tail n st) proceeded := by
  induction n generalizing st with
  | zero => exact Polls.pure
  | succ n ih =>
    apply (polls_proceed st tail).bind
    intro next
    cases next with
    | some st => exact ih st
    | none => exact Polls.pure

/-- However often a connect has been moved, it has made a run of `connSystem`. -/
theorem connectx_follows (addrs : List SocketAddr) (tail : UInt8) (n : Nat) :
    Polls N keep .subscribe (do
      connectx t N.serve N.fd keep addrs tail
      moves t N.serve N.fd keep tail n estStart) proceeded :=
  (polls_connectx addrs tail).bind fun _ => polls_moves tail n estStart

def stillSocket : SocketKernel ⟨.little, .w64⟩ (Finset EventType × List Item) := .still _ 3

/-- A wake-up and a read take a connect to `CommUp`. -/
example :
    ((do
      connectx ⟨.little, .w64⟩ stillSocket.serve stillSocket.fd false [.loopback 5000] 0
      moves ⟨.little, .w64⟩ stillSocket.serve stillSocket.fd false 0 2 estStart).exec
        (∅, [.notification (commUp.encode .little) (.loopback 5000)])).1 = .ok none := by
  decide +kernel

/-- The subscription, with the kernel's reply to it. -/
theorem subscribeEvent_wp (tail : UInt8) (k : K) :
    ∃ reply : Option IoError,
      Io.wp (subscribeEvent t N.serve N.fd .assocChange true tail) (fun r k' =>
        match reply with
        | some error => r = Res.err error
        | none => r = .ok () ∧ N.subs k' = setEvent (N.subs k) .assocChange true ∧
            N.queue k' = N.queue k ++ N.arrivals k (.event t N.fd .assocChange true tail)) k := by
  rw [subscribeEvent_eq]
  simp only [Io.wp, Io.exec_bind, Io.exec_call]
  cases hret : (N.serve k (.event t N.fd .assocChange true tail)).1.ret with
  | error errno => exact ⟨some (.os errno), rfl⟩
  | ok v => exact ⟨none, rfl, N.event k .assocChange true tail v hret⟩

/-- What `connectx_from_socket` does before it registers the socket, with what arrives
    meanwhile. -/
theorem connectxFromSocket_start (tail : UInt8) (k : K) :
    ∃ (reply : Option IoError) (items : List Item),
      (∀ item ∈ items, Arrives t.endian (N.subs k) item) ∧
      Io.wp (do
        if (← style t N.serve N.fd) ≠ .oneToOne then Io.err notOneToOne
        else subscribeEvent t N.serve N.fd .assocChange true tail) (fun r k' =>
        match Net.connectxFromSocket ((style t N.serve N.fd).exec k).1 reply (N.subs k)
          (N.queue k ++ items) with
        | .error fault => r = .error fault
        | .ok s₀ => r = .ok () ∧ At N .register s₀ k') k := by
  have hstyle := steady_style (N := N) N.fd k
  unfold Io.wp at hstyle ⊢
  rw [Io.exec_bind]
  generalize (style t N.serve N.fd).exec k = out at hstyle ⊢
  obtain ⟨r, k₁⟩ := out
  match r with
  | .error fault => exact ⟨none, [], nofun, rfl⟩
  | .ok .oneToMany => exact ⟨none, [], nofun, rfl⟩
  | .ok .oneToOne =>
    obtain ⟨hsubs, more, hmore, hqueue⟩ := hstyle
    dsimp only at hsubs hqueue
    have hitems : ∀ item ∈ more ++ N.arrivals k₁ (.event t N.fd .assocChange true tail),
        Arrives t.endian (N.subs k) item := by
      intro item hitem
      obtain hitem | hitem := List.mem_append.mp hitem
      · exact hmore item hitem
      · exact hsubs ▸ N.arrives k₁ _ item hitem
    obtain ⟨reply, hsubscribe⟩ := subscribeEvent_wp (N := N) tail k₁
    refine ⟨reply, _, hitems, ?_⟩
    cases reply with
    | some error => exact hsubscribe
    | none =>
      obtain ⟨hok, hsubs', hqueue'⟩ := hsubscribe
      rw [hsubs] at hsubs'
      rw [hqueue, List.append_assoc] at hqueue'
      exact ⟨hok, hsubs'.symm, hqueue'.symm, rfl⟩

/-- `connectx_from_socket` looks at the style of the socket, and goes on as `connSystem` does from
    its start. -/
theorem polls_connectxFromSocket (addrs : List SocketAddr) (tail : UInt8) (k : K) :
    ∃ (reply : Option IoError) (items : List Item),
      (∀ item ∈ items, Arrives t.endian (N.subs k) item) ∧
      Io.wp (connectxFromSocket t N.serve N.fd addrs tail) (fun r k' =>
        match Net.connectxFromSocket ((style t N.serve N.fd).exec k).1 reply (N.subs k)
          (N.queue k ++ items) with
        | .error fault => r = .error fault
        | .ok s₀ => ∃ as s', (∀ a ∈ as, ConnAct.ofConnect a = true) ∧
            (connSystem t true).run s₀ as = some s' ∧
            Ended N (fun _ => .establish estStart) r s' k') k := by
  obtain ⟨reply, items, hitems, hstart⟩ := connectxFromSocket_start (N := N) tail k
  refine ⟨reply, items, hitems, ?_⟩
  generalize Net.connectxFromSocket _ reply _ _ = start at hstart ⊢
  cases start with
  | error fault =>
    have hclosing : Io.wp (closing N.serve N.fd _) (fun r _ => r = .error fault) k :=
      hstart.dropOnFault (fun _ _ h => h) fun _ _ h => h
    apply hclosing.bind
    · exact fun _ _ h => nomatch h
    · exact fun _ _ h => Except.error.inj h ▸ rfl
  | ok s₀ =>
    have hclosing :
        Io.wp (closing N.serve N.fd _) (fun r k' => r = .ok () ∧ At N .register s₀ k') k :=
      hstart.dropOnFault (fun _ _ h => h) fun _ _ h => nomatch h.1
    apply hclosing.bind
    · rintro _ k' ⟨-, hat⟩
      have hpolls : Polls N true .register _ fun _ => .establish estStart := polls_initiate addrs
      obtain ⟨as, s', has, hrun, hinitiate⟩ := hpolls s₀ k' hat
      exact hinitiate.mono fun r k'' hr => ⟨as, s', has, hrun, hr⟩
    · exact fun _ _ h => nomatch h.1

end SctpStream

/-! ## The end of accept -/

/-- A name that the kernel has written as a whole is read as it is. -/
theorem readName_whole (t : Target) {name : Reply} (bad : IoError)
    (hlen : name.len.toNat = name.out.length) (hle : name.out.length ≤ 128) :
    readName t name bad = (do
      let addr ← readAddress t.endian name.out
      Res.okOr addr bad) := by
  have hslice : sliceTo (overlay (zeros 128) name.out) name.len.toNat = .ok name.out := by
    have hbuf : overlay (zeros 128) name.out = name.out ++ (zeros 128).drop name.out.length := by
      rw [overlay, length_zeros, List.take_of_length_le hle]
    rw [hbuf, hlen, sliceTo, slice_head rfl]
  rw [readName, hslice]
  rfl

/-- `accept_with_flags` makes of its two calls what an asynchronous accept returns. -/
theorem acceptWithFlags_exec {sys : Syscalls K} {fd flags sd : Int32} {name : Reply} {k k₁ k₂ : K}
    (haccept : sys k (.accept4 fd 128 flags) = (name, k₁)) (hret : name.ret = .ok sd)
    (hsd : sd ≠ -1) (hlen : name.len.toNat = name.out.length) (hle : name.out.length ≤ 128)
    (hrcvinfo : (enableRcvinfo t sys sd).exec k₁ = (.ok (), k₂)) :
    ((acceptWithFlags t sys fd flags).exec k).1 = acceptResult t sd name.out := by
  have howned : ownedFd sd = .ok sd := if_neg hsd
  have hclosing : ((closing sys sd (do
      enableRcvinfo t sys sd
      let peer ← Io.lift (readName t name badPeerSockaddr)
      pure (sd, peer))).exec k₁).1 = acceptResult t sd name.out := by
    rw [closing, Io.dropOnFault, Io.exec_of, Io.exec_bind, hrcvinfo, readName_whole t _ hlen hle,
      acceptResult, readAddress]
    cases Addr.readSockaddr t.endian name.out with
    | error fault => rfl
    | ok read =>
      cases read with
      | none => rfl
      | some read => rfl
  rw [acceptWithFlags, callCvt, bind_assoc, Io.exec_bind, Io.exec_call, haccept]
  simp only [hret, cvt, Io.exec_bind, Io.exec_lift]
  have hpure : Io.exec (pure (sd, name)) k₁ = (.ok (sd, name), k₁) := rfl
  rw [hpure]
  simp only [howned]
  exact hclosing

end Net

end Lksctp
