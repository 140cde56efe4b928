-- SUMMARY: Every open descriptor has exactly one owner, and is as its owner needs it: the invariant of the world of API objects.
import Lksctp.Machine.Ledger
import Lksctp.Net.Objects
import Lksctp.Socket.Hostile
import Lksctp.Socket.LifecycleSpec

/-!
# Ownership of descriptors

The world of API objects is kept in order by every action: the open descriptors are
those of the objects, no two objects have the same one, and a descriptor is as its
object needs it. A listener listens, an endpoint is a one-to-many socket, and what
is registered with the reactor does not block.

The last part is about descriptions. Where the application has brought descriptors
along that share one, a call on the one changes what the other needs, so it is only
asked for when there are none.
-/

namespace Lksctp

open Rust Machine Kernel Socket

namespace Net

/-! ## What an object needs -/

def Kind.Ok : Kind → Desc → Prop
  | .raw, _ | .socket, _ => True
  | .streamBuilder _, d | .listenerBuilder, d => d.soType = Sys.sockStream
  | .endpointBuilder, d => d.soType = Sys.sockSeqpacket
  | .connecting .., d => d.isNonblocking = true ∧ d.soType = Sys.sockStream
  | .stream, d => d.isNonblocking = true
  | .listener, d => d.isNonblocking = true ∧ d.soType = Sys.sockStream ∧ d.listening = true
  | .endpoint, d => d.isNonblocking = true ∧ d.soType = Sys.sockSeqpacket

/-- What holds of the descriptor of an object and its description. Of one that has come from
    the application nothing is known at first. -/
structure Object.Ok (alone : Prop) (o : Object) (cloexec : Bool) (d : Desc) : Prop where
  made : o.adopted = false → cloexec = true ∧ d.rcvinfo = true
  kind : alone → o.kind.Ok d

variable {K : Type} {t : Target} {M : FdKernel t.endian K} {p : Policy} {fd : Int32} {d d' : Desc}

theorem Kind.Ok.of_keeps {kind : Kind} (h : kind.Ok d) (hkeeps : d.Keeps d') : kind.Ok d' := by
  cases kind with
  | raw | socket => trivial
  | streamBuilder | listenerBuilder | endpointBuilder => exact hkeeps.soType.trans h
  | connecting | endpoint => exact ⟨hkeeps.nonblocking.trans h.1, hkeeps.soType.trans h.2⟩
  | stream => exact hkeeps.nonblocking.trans h
  | listener =>
    exact ⟨hkeeps.nonblocking.trans h.1, hkeeps.soType.trans h.2.1, hkeeps.listening.trans h.2.2⟩

/-- What an object needs in any case survives whatever is done with its description. -/
theorem Object.Ok.of_retains {alone : Prop} {o o' : Object} {cloexec : Bool}
    (h : o.Ok alone cloexec d) (hretains : d.Retains d') (hadopted : o'.adopted = false → o.adopted = false)
    (hkind : alone → o'.kind.Ok d') : o'.Ok alone cloexec d' where
  made ho' := ⟨(h.made (hadopted ho')).1, hretains.rcvinfo (h.made (hadopted ho')).2⟩
  kind := hkind

/-! ## Registration -/

/-- What registering with the reactor changes. -/
structure Registered (d d' : Desc) : Prop where
  nonblocking : d'.isNonblocking = true
  soType : d'.soType = d.soType
  listening : d'.listening = d.listening

/-- Code that registers may panic, but only where there is no runtime. -/
theorem On.asyncFd (hmay : p.may fd) (hreg : p.registers) :
    On M p fd d (asyncFd M.traced.serve fd) fun _ d' => d' = d := by
  apply On.call
  · intro T i _ fd' hfd'
    cases hfd'
  · intro T i k T' hopen hdoes
    have hT' : T' = T := by
      cases hdoes with
      | failed | currentRuntime => rfl
      | inert _ hc => cases hc
    rw [hT']
    apply hopen.worked
    split
    · apply On.inert rfl
      · intro T i
        exact good_of_plain hmay rfl rfl fun _ => nofun
      · exact fun _ _ => On.pure rfl
      · exact fun _ => rfl
    · next errno hnone =>
      refine On.lift ⟨rfl, hreg, ?_⟩ rfl
      intro hruntime
      obtain ⟨v, hv⟩ := hruntime k
      cases hnone.symm.trans hv

theorem Takes.register (hmay : p.may fd) (hreg : p.registers) :
    Takes M p fd d (register M.traced.serve fd) fun _ d' => Registered d d' := by
  apply Takes.closing hmay
  apply (On.setNonblocking hmay true).bind
  · rintro _ d' ⟨⟨flags, rfl⟩, hnonblock⟩
    apply (On.asyncFd hmay hreg).mono
    rintro r d'' rfl _ _
    exact ⟨hnonblock rfl, rfl, rfl⟩
  · intro fault d' _ a h
    cases h

theorem Takes.registerNonblocking (hmay : p.may fd) (hreg : p.registers) :
    Takes M p fd d (registerNonblocking M.traced.serve fd) fun _ d' => d' = d := by
  apply Takes.closing hmay
  apply (On.asyncFd hmay hreg).mono
  rintro r d' rfl _ _
  rfl

/-- A new socket that does not block is registered. -/
theorem Makes.registered {T : Table} {α : Type} {m : Io (K × FdKernel.Trace) α} {g : α → Int32}
    (hmay : ∀ fd, T.entries fd = none → p.may fd) (hreg : p.registers)
    (hm : Makes M p T m g fun _ d => d.rcvinfo = true ∧ d.isNonblocking = true) :
    Makes M p T (do let a ← m; registerNonblocking M.traced.serve (g a); pure (g a)) id fun _ d =>
      d.rcvinfo = true ∧ d.isNonblocking = true := by
  apply hm.bind
  intro a i d hfresh hd
  apply (Takes.registerNonblocking (hmay _ hfresh.free) hreg).bind
  rintro _ d' rfl
  exact Takes.pure ⟨rfl, fun _ => hd⟩

/-! ## Conversions -/

theorem SctpListener.takes_fromSocket (hmay : p.may fd) (hreg : p.registers) :
    Takes M p fd d (SctpListener.fromSocket t M.traced.serve fd) fun _ d' => Kind.Ok .listener d' := by
  apply Takes.bind (R := fun _ d' => d' = d ∧ d.soType = Sys.sockStream ∧ d.listening = true)
  · apply Takes.closing hmay
    apply (On.style hmay).bind
    · rintro style d' ⟨rfl, hstream, -⟩
      cases style with
      | oneToMany => exact On.err (fun _ => by decide) fun _ => nofun
      | oneToOne =>
      apply (On.isListening hmay).bind
      · rintro listening d'' ⟨rfl, hlistening⟩
        cases listening with
        | false => exact On.err (fun _ => by decide) fun _ => nofun
        | true => exact On.pure fun _ _ => ⟨rfl, hstream rfl, hlistening rfl⟩
      · intro fault d'' _ a h
        cases h
    · intro fault d' _ a h
      cases h
  · rintro _ d' ⟨rfl, hstream, hlistening⟩
    apply (Takes.register hmay hreg).mono
    intro _ d'' h
    exact ⟨h.nonblocking, h.soType.trans hstream, h.listening.trans hlistening⟩

theorem SctpEndpoint.takes_fromSocket (hmay : p.may fd) (hreg : p.registers) :
    Takes M p fd d (SctpEndpoint.fromSocket t M.traced.serve fd) fun _ d' => Kind.Ok .endpoint d' := by
  apply Takes.bind (R := fun _ d' => d' = d ∧ d.soType = Sys.sockSeqpacket)
  · apply Takes.closing hmay
    apply (On.style hmay).bind
    · rintro style d' ⟨rfl, -, hseq⟩
      cases style with
      | oneToOne => exact On.err (fun _ => by decide) fun _ => nofun
      | oneToMany => exact On.pure fun _ _ => ⟨rfl, hseq rfl⟩
    · intro fault d' _ a h
      cases h
  · rintro _ d' ⟨rfl, hseq⟩
    apply (Takes.register hmay hreg).mono
    intro _ d'' h
    exact ⟨h.nonblocking, h.soType.trans hseq⟩

/-- Listening first changes nothing that the check behind it does not see. -/
theorem Takes.listenThen {kind : Kind} {m : Io (K × FdKernel.Trace) Unit} (hmay : p.may fd)
    (backlog : Int32) (hm : ∀ d, Takes M p fd d m fun _ d' => kind.Ok d') :
    Takes M p fd d (do closing M.traced.serve fd (Socket.listen M.traced.serve fd backlog); m)
      fun _ d' => kind.Ok d' := by
  apply Takes.bind (R := fun _ _ => True)
  · apply Takes.closing hmay
    apply (On.listen hmay backlog).mono
    intro r d' _ _ _
    trivial
  · intro _ d' _
    exact hm d'

theorem SctpListener.takes_listen (hmay : p.may fd) (hreg : p.registers) (backlog : Int32) :
    Takes M p fd d (SctpListener.listen t M.traced.serve fd backlog) fun _ d' =>
      Kind.Ok .listener d' :=
  Takes.listenThen hmay backlog fun _ => SctpListener.takes_fromSocket hmay hreg

theorem SctpEndpoint.takes_listen (hmay : p.may fd) (hreg : p.registers) (backlog : Int32) :
    Takes M p fd d (SctpEndpoint.listen t M.traced.serve fd backlog) fun _ d' =>
      Kind.Ok .endpoint d' :=
  Takes.listenThen hmay backlog fun _ => SctpEndpoint.takes_fromSocket hmay hreg

/-- A scope that owns its descriptor and keeps it as it is. -/
theorem Takes.borrowing {α : Type} {m : Io (K × FdKernel.Trace) α} (hmay : p.may fd)
    (h : Borrows M p fd d m) :
    Takes M p fd d (closing M.traced.serve fd m) fun _ d' => d.Keeps d' := by
  apply Takes.closing hmay
  apply h.mono
  intro r d' hd' _ _
  exact hd'

/-! ## Connecting -/

theorem borrows_subscribeEvent (hmay : p.may fd) (event : EventType) (on : Bool) (tail : UInt8) :
    Borrows M p fd d (subscribeEvent t M.traced.serve fd event on tail) :=
  Borrows.setsockopt hmay _ _ (by decide) (by decide)

/-- What a connect changes, up to its first `await`. -/
structure Initiated (d d' : Desc) : Prop where
  nonblocking : d'.isNonblocking = true
  soType : d'.soType = d.soType

theorem Initiated.ok (h : Initiated d d') (keep : Bool) (hstream : d.soType = Sys.sockStream) :
    (Kind.connected keep).Ok d' := ⟨h.nonblocking, h.soType.trans hstream⟩

theorem SctpStream.takes_initiate (hmay : p.may fd) (hreg : p.registers) (addrs : List SocketAddr) :
    Takes M p fd d (SctpStream.initiate t M.traced.serve fd addrs) fun _ d' => Initiated d d' := by
  apply (Takes.register hmay hreg).bind
  intro _ d' h
  apply Takes.closing hmay
  -- The socket does not block any more, so the connect cannot wait.
  apply (On.connectx hmay (fun _ => h.nonblocking) addrs).bind
  · rintro _ d'' rfl
    exact On.pure fun _ _ => ⟨h.nonblocking, h.soType⟩
  · intro fault d'' _ a h
    cases h

theorem SctpStream.takes_connectx (hmay : p.may fd) (hreg : p.registers) (subscribed : Bool)
    (addrs : List SocketAddr) (tail : UInt8) :
    Takes M p fd d (SctpStream.connectx t M.traced.serve fd subscribed addrs tail) fun _ d' =>
      Initiated d d' := by
  have hscope : Borrows M p fd d (if ¬ subscribed = true then
      subscribeEvent t M.traced.serve fd .assocChange true tail else pure ()) := by
    split
    · exact borrows_subscribeEvent hmay _ _ _
    · exact Borrows.pure _
  apply (Takes.borrowing hmay hscope).bind
  intro _ d' hkeeps
  apply (SctpStream.takes_initiate hmay hreg addrs).mono
  intro _ d'' h
  exact ⟨h.nonblocking, h.soType.trans hkeeps.soType⟩

theorem SctpStream.takes_connectxFromSocket (hmay : p.may fd) (hreg : p.registers)
    (addrs : List SocketAddr) (tail : UInt8) (keep : Bool) :
    Takes M p fd d (SctpStream.connectxFromSocket t M.traced.serve fd addrs tail) fun _ d' =>
      (Kind.connected keep).Ok d' := by
  apply Takes.bind (R := fun _ d' => d'.soType = Sys.sockStream)
  · apply Takes.closing hmay
    apply (On.style hmay).bind
    · rintro style d' ⟨rfl, hstream, -⟩
      cases style with
      | oneToMany => exact On.err (fun _ => by decide) fun _ => nofun
      | oneToOne =>
      apply (borrows_subscribeEvent hmay .assocChange true tail).mono
      intro r d'' hkeeps _ _
      exact hkeeps.soType.trans (hstream rfl)
    · intro fault d' _ a h
      cases h
  · intro _ d' hstream
    apply (SctpStream.takes_initiate hmay hreg addrs).mono
    intro _ d'' h
    exact h.ok keep hstream

theorem SctpStream.takes_finish (hmay : p.may fd) (keep : Bool) (tail : UInt8) :
    Takes M p fd d (SctpStream.finish t M.traced.serve fd keep tail) fun _ d' => d.Keeps d' := by
  apply Takes.borrowing hmay
  split
  · exact borrows_subscribeEvent hmay _ _ _
  · exact Borrows.pure _

/-! ## Waiting for the outcome -/

/-- No reply is reported as a panic, or as a timeout. -/
theorem ends_of_passes {α β : Type} {reply : Except Errno α} {r : Res β} (h : Passes reply r) :
    Ends M p r := by
  cases r with
  | ok b => trivial
  | error fault =>
    cases reply with
    | error errno =>
      obtain rfl := Except.error.inj h
      exact fun _ => nofun
    | ok a =>
      obtain ⟨msg, rfl⟩ := h fault rfl
      exact fun _ => nofun

theorem ends_afterReceive {out : Received} {r : Res Unit} (h : Ends M p out.result)
    (hr : afterReceive out = .done r) : Ends M p r := by
  unfold afterReceive at hr
  split at hr
  · next fault hout =>
    cases hr
    rw [hout] at h
    exact h.error
  · split at hr
    · cases hr
      trivial
    · cases hr
    · cases hr
    · cases hr
  · cases hr
  · cases hr
    exact fun _ => by decide
  · cases hr
    exact fun _ => by decide

/-- The end of a `recv_msg` in `established`. -/
theorem borrows_received {reply : Except Errno RecvOut} {s : RecvState}
    (hwithin : ∀ out, reply = .ok out → out.Within ((recvMsg t).request s)) :
    Borrows M p fd d (match tryRecv false ((recvMsg t).resume s reply) with
      | .next a => (pure (.next (.io a)) : Io (K × FdKernel.Trace) (Step EstState Unit))
      | .done out =>
        match afterReceive out with
        | .next st => pure (.next st)
        | .done r => do
          Io.lift r
          pure (.done ())) := by
  cases hresume : (recvMsg t).resume s reply with
  | next s' => exact Borrows.pure _
  | done out =>
    cases hblock : out.result.isWouldBlock with
    | true =>
      rw [tryRecv_wouldBlock hblock]
      exact Borrows.pure _
    | false =>
      rw [tryRecv_done hblock]
      dsimp only
      cases hafter : afterReceive out with
      | next st => exact Borrows.pure _
      | done r =>
        have hout : Ends M p out.result := ends_of_passes (passes_resume t hwithin hresume)
        have hends : Ends M p r := ends_afterReceive hout hafter
        apply (Borrows.lift hends).bind
        intro _ d' _
        exact Borrows.pure _

theorem borrows_establish (hmay : p.may fd) (hwait : p.async → d.isNonblocking = true)
    (st : EstState) : Borrows M p fd d (SctpStream.establish t M.traced.serve fd st) := by
  cases st with
  | io a =>
    cases a with
    | waiting s =>
      apply On.inert rfl
      · intro T i
        exact good_of_plain hmay rfl rfl fun _ => nofun
      · exact fun _ _ => Borrows.pure _
      · exact fun _ => .refl d
    | running s =>
      apply On.call
      · intro T i
        exact good_of_wait hmay rfl (fun _ => nofun) hwait
      · intro T i k T' hopen hdoes
        rw [hdoes.of_inert rfl]
        exact hopen.worked (borrows_received fun out hout => hdoes.within hout)
  | takeError =>
    rw [SctpStream.establish, takeError, bind_assoc]
    apply (Borrows.getsockopt hmay _ (by decide)).bind
    intro v d' _
    rw [pure_bind]
    split
    · next error herror =>
      refine Borrows.err fun _ => ?_
      rintro rfl
      split at herror <;> cases herror
    · exact Borrows.err fun _ => by decide

/-- A connect that goes on is still one, and one that is done is a stream. -/
theorem SctpStream.takes_proceed (hmay : p.may fd) (hwait : p.async → d.isNonblocking = true)
    (keep : Bool) (st : EstState) (tail : UInt8) :
    Takes M p fd d (SctpStream.proceed t M.traced.serve fd keep st tail) fun _ d' => d.Keeps d' := by
  apply (Takes.borrowing hmay (borrows_establish hmay hwait st)).bind
  rintro (st' | _) d' hkeeps
  · exact Takes.pure hkeeps
  · apply (takes_finish hmay keep tail).bind
    intro _ d'' hkeeps'
    exact Takes.pure (hkeeps.trans hkeeps')

/-! ## Objects made in one go -/

theorem borrows_bindxAdd (hmay : p.may fd) (addrs : List SocketAddr) :
    Borrows M p fd d (bindxAddOn t M.traced.serve fd addrs) :=
  Borrows.bindx hmay addrs (by decide)

variable {T : Table} {i : Nat}

/-- A new socket that is bound and then settled. -/
theorem Makes.bound {kind : Kind} {style : Style} {m : Int32 → Io (K × FdKernel.Trace) Unit}
    (hmay : ∀ fd, T.entries fd = none → p.may fd) (addr : SocketAddr)
    (hm : ∀ fd d, p.may fd → Takes M p fd d (m fd) fun _ d' => kind.Ok d') :
    Makes M p T (do
      let fd ← Socket.new t M.traced.serve (familyOf addr) style
      closing M.traced.serve fd (bindxAddOn t M.traced.serve fd [addr])
      m fd
      pure fd) id fun _ d => d.rcvinfo = true ∧ kind.Ok d := by
  apply (Makes.new hmay (familyOf addr) style).bind
  rintro fd i d hfresh ⟨hrcvinfo, -⟩
  have hfd : p.may fd := hmay fd hfresh.free
  apply (Takes.borrowing hfd (borrows_bindxAdd hfd [addr])).bind
  intro _ d' _
  apply (hm fd d' hfd).bind
  intro _ d'' hok
  exact Takes.pure ⟨rfl, fun hretains => ⟨hretains.rcvinfo hrcvinfo, hok⟩⟩

theorem SctpListener.makes_bind (hmay : ∀ fd, T.entries fd = none → p.may fd) (hreg : p.registers)
    (addr : SocketAddr) :
    Makes M p T (SctpListener.bind t M.traced.serve addr) id fun _ d =>
      d.rcvinfo = true ∧ Kind.Ok .listener d :=
  Makes.bound hmay addr fun _ _ hfd => SctpListener.takes_listen hfd hreg 128

theorem SctpEndpoint.makes_bind (hmay : ∀ fd, T.entries fd = none → p.may fd) (hreg : p.registers)
    (addr : SocketAddr) :
    Makes M p T (SctpEndpoint.bind t M.traced.serve addr) id fun _ d =>
      d.rcvinfo = true ∧ Kind.Ok .endpoint d :=
  Makes.bound hmay addr fun _ _ hfd => SctpEndpoint.takes_listen hfd hreg 128

theorem SctpStream.makes_connect (hmay : ∀ fd, T.entries fd = none → p.may fd) (hreg : p.registers)
    (addr : SocketAddr) (tail : UInt8) (keep : Bool) :
    Makes M p T (SctpStream.connect t M.traced.serve addr tail) id fun _ d =>
      d.rcvinfo = true ∧ (Kind.connected keep).Ok d := by
  apply (Makes.new hmay (familyOf addr) .oneToOne).bind
  rintro fd i d hfresh ⟨hrcvinfo, hstream⟩
  apply (SctpStream.takes_connectx (hmay fd hfresh.free) hreg false [addr] tail).bind
  intro _ d' h
  exact Takes.pure ⟨rfl, fun hretains => ⟨hretains.rcvinfo hrcvinfo, h.ok keep hstream⟩⟩

theorem SctpListener.makes_accept (hopen : T.Has fd i d) (hfd : p.may fd)
    (hmay : ∀ fd, T.entries fd = none → p.may fd) (hreg : p.registers)
    (hwait : p.async → d.isNonblocking = true) :
    Makes M p T (SctpListener.accept t M.traced.serve fd) id fun _ d =>
      d.rcvinfo = true ∧ Kind.Ok .stream d := by
  apply Makes.registered hmay hreg
  apply (Makes.acceptWithFlags hopen hfd hmay hwait (by decide)).mono
  rintro _ d' ⟨hrcvinfo, hflags⟩
  exact ⟨hrcvinfo, hflags (by decide)⟩

theorem SctpEndpoint.makes_peeloff (hopen : T.Has fd i d) (hfd : p.may fd)
    (hmay : ∀ fd, T.entries fd = none → p.may fd) (hreg : p.registers) (assocId : AssocId) :
    Makes M p T (SctpEndpoint.peeloff t M.traced.serve fd assocId) id fun _ d =>
      d.rcvinfo = true ∧ Kind.Ok .stream d := by
  apply Makes.registered (g := id) hmay hreg
  apply (Makes.peeloffWithFlags hopen hfd hmay assocId (by decide)).mono
  rintro _ d' ⟨hrcvinfo, hflags⟩
  exact ⟨hrcvinfo, hflags (by decide)⟩

/-! ## Borrowed objects -/

theorem borrows_subscribeAll (hmay : p.may fd) (events : List (EventType × UInt8)) :
    Borrows M p fd d (subscribeAll t M.traced.serve fd events) := by
  induction events generalizing d with
  | nil => exact Borrows.pure _
  | cons event events ih =>
    apply (borrows_subscribeEvent hmay event.1 true event.2).bind
    intro _ d' _
    exact ih

/-- The operations that could wait for the peer. -/
def Use.waits : Use → Bool
  | .connect _ | .connectx _ | .recv _ | .send => true
  | _ => false

/-- The operations that change what the table has of a socket. -/
def Use.changes : Use → Bool
  | .listen _ | .setNonblocking _ => true
  | _ => false

/-- One call that could wait, and whose reply is ignored here. -/
theorem borrows_wait {c : Syscall} (hmay : p.may fd) (hinert : c.inert = true)
    (hfd : c.fd? = some fd) (hshut : ∀ how, c ≠ .shutdown fd how)
    (hwait : p.async → d.isNonblocking = true) :
    Borrows M p fd d (do let _ ← callCvt M.traced.serve c; pure ()) := by
  apply On.inert hinert
  · intro T i
    exact good_of_wait hmay hfd hshut hwait
  · exact fun _ _ => Borrows.pure _
  · exact fun _ => .refl d

theorem Borrows.discard {α : Type} {m : Io (K × FdKernel.Trace) α} (h : Borrows M p fd d m) :
    Borrows M p fd d (do let _ ← m; pure ()) := by
  apply h.bind
  intro _ d' _
  exact Borrows.pure _

theorem borrows_queryAddrs (hmay : p.may fd) {opt : Int32} (h : opt ≠ Sys.sctpSockoptPeeloffFlags)
    (assocId : AssocId) (query : AddrsQuery) :
    Borrows M p fd d (Use.run.queryAddrs t M.traced.serve fd opt assocId query) := by
  apply On.getsockopt hmay fun hopt => h hopt.2
  · exact fun _ _ _ => Borrows.pure _
  · exact fun _ => .refl d

theorem Use.borrows (hmay : p.may fd) (abi : Abi) {op : Use} (hop : op.changes = false)
    (hwait : p.async → op.waits = true → d.isNonblocking = true) :
    Borrows M p fd d (op.run t abi M.traced.serve fd) := by
  cases op with
  | set o => exact SetOption.borrows hmay abi o
  | get q => exact Borrows.discard (GetOption.borrows hmay abi q)
  | subscribeEvents events => exact borrows_subscribeAll hmay events
  | bind addr => exact Borrows.bind_ hmay addr
  | bindxAdd addrs => exact borrows_bindxAdd hmay addrs
  | bindxRemove addrs => exact Borrows.bindx hmay addrs (by decide)
  | listen | setNonblocking => cases hop
  | connect addr => exact Borrows.connect hmay (fun hasync => hwait hasync rfl) addr
  | connectx addrs =>
    apply Borrows.discard
    apply (On.connectx hmay (fun hasync => hwait hasync rfl) addrs).mono
    rintro r d' rfl
    exact .refl d'
  | recv | send => exact borrows_wait hmay rfl rfl (fun _ => nofun) fun hasync => hwait hasync rfl
  | localAddr => exact Borrows.discard (Borrows.localAddr hmay)
  | peerAddr => exact Borrows.discard (Borrows.peerAddr hmay)
  | localAddrs assocId query => exact borrows_queryAddrs hmay (by decide) assocId query
  | peerAddrs assocId query => exact borrows_queryAddrs hmay (by decide) assocId query
  | shutdown how => exact Borrows.shutdown hmay how

/-- Only sockets can be listened on or change their mode. -/
theorem Kind.socket_of_lends {kind : Kind} {op : Use} (h : kind.lends op = true)
    (hop : op.changes = true) : kind = .socket := by
  cases op with
  | listen | setNonblocking => cases kind <;> first | rfl | cases h
  | _ => cases hop

/-- What can be borrowed and is not a socket does not block. -/
theorem Kind.Ok.nonblocking {kind : Kind} {op : Use} (h : kind.Ok d) (hlends : kind.lends op = true)
    (hkind : kind ≠ .socket) : d.isNonblocking = true := by
  cases kind with
  | raw | streamBuilder | listenerBuilder | endpointBuilder | connecting => cases hlends
  | socket => exact absurd rfl hkind
  | listener | endpoint => exact h.1
  | stream => exact h

/-- A method borrows its object, and the object is as it needs to be after it. -/
theorem Use.on_object {alone : Prop} {o : Object} (hmay : p.may o.fd) (abi : Abi) {op : Use}
    (h : alone → o.kind.Ok d) (hlends : o.kind.lends op = true)
    (hasync : p.async → alone ∧ o.kind ≠ .socket) :
    On M p o.fd d (op.run t abi M.traced.serve o.fd) fun _ d' => alone → o.kind.Ok d' := by
  by_cases hop : op.changes = true
  · -- A socket needs nothing of its mode, nor that it listens.
    have hkind : o.kind = .socket := Kind.socket_of_lends hlends hop
    cases op with
    | listen backlog =>
      apply (On.listen hmay backlog).mono
      intro r d' _ _
      rw [hkind]
      trivial
    | setNonblocking nonblocking =>
      apply (On.setNonblocking hmay nonblocking).mono
      intro r d' _ _
      rw [hkind]
      trivial
    | _ => cases hop
  · apply (Use.borrows hmay abi (Bool.eq_false_iff.mpr hop) _).mono
    · intro r d' hkeeps halone
      exact (h halone).of_keeps hkeeps
    · intro has _
      obtain ⟨halone, hkind⟩ := hasync has
      exact (h halone).nonblocking hlends hkind

/-! ## Accounting for every descriptor -/

/-- The descriptor of an object is in order, with the descriptions in `files`. -/
def Object.InOrder (alone : Prop) (files : Nat → Desc) (o : Object) (entry : Entry) : Prop :=
  o.Ok alone entry.cloexec (files entry.file)

/-- The open descriptors are those of the objects, each with one owner and in order. In a
    process where no two of them refer to the same description, `alone`, they stay apart. -/
structure Owned (alone : Prop) (T : Table) (objects : List Object) : Prop where
  accounts : Accounts Object.fd (Object.InOrder alone T.files) T.entries objects
  unshared : alone → T.Unshared

/-- The objects that code hands to its caller. -/
def handed : Res (List Object) → List Object
  | .ok made => made
  | .error _ => []

/-- What an action of `actor` leaves of the descriptors that were there: those of other objects
    as they were, and their descriptions too, unless the actor shares them. -/
structure Framed (actor : Option Object) (T T' : Table) : Prop where
  entries : ∀ fd, T.entries fd ≠ none → (∀ o ∈ actor, o.fd ≠ fd) → T'.entries fd = T.entries fd
  files : ∀ fd i, (T.entries fd).map Entry.file = some i →
    (∀ o ∈ actor, (T.entries o.fd).map Entry.file ≠ some i) → T'.files i = T.files i
  retains : ∀ fd i, (T.entries fd).map Entry.file = some i → (T.files i).Retains (T'.files i)

/-- The world after an action of `actor` that leaves the objects `kept` where they are. -/
structure After (alone : Prop) (actor : Option Object) (T : Table) (kept : List Object)
    (r : Res (List Object)) (T' : Table) : Prop where
  owned : Owned alone T' (handed r ++ kept)
  frame : Framed actor T T'

variable {alone : Prop} {α : Type} {actor : Option Object} {objects rest : List Object} {o o' : Object}

theorem Framed.of_same {T' : Table} (h : T.Same T') : Framed actor T T' where
  entries fd _ _ := by rw [h.entries]
  files fd i hfd _ := h.files fd i hfd
  retains fd i hfd := by
    rw [h.files fd i hfd]
    exact .refl _

theorem Framed.opened (h : T.Fresh fd i) (cloexec : Bool) :
    Framed actor T (T.opened fd ⟨i, cloexec⟩ d) := by
  have hfiles : ∀ fd' i', (T.entries fd').map Entry.file = some i' →
      (T.opened fd ⟨i, cloexec⟩ d).files i' = T.files i' := by
    intro fd' i' hfd'
    have hne : i' ≠ i := by
      rintro rfl
      exact h.unused fd' hfd'
    exact Function.update_of_ne hne ..
  refine ⟨?_, fun fd' i' hfd' _ => hfiles fd' i' hfd', ?_⟩
  · intro fd' hfd' _
    have hne : fd' ≠ fd := by
      rintro rfl
      exact hfd' h.free
    exact Function.update_of_ne hne ..
  · intro fd' i' hfd'
    rw [hfiles fd' i' hfd']
    exact .refl _

/-- Work on the description of the actor, whether its descriptor is closed after that or not. -/
theorem Framed.worked (h : T.Has o.fd i d) (hretains : d.Retains d') {T' : Table}
    (hfiles : T'.files = (T.setFile i d').files)
    (hentries : ∀ fd, fd ≠ o.fd → T'.entries fd = T.entries fd) : Framed (some o) T T' where
  entries fd _ hne := hentries fd (hne o rfl).symm
  files fd i' _ hne := by
    have hi : i' ≠ i := by
      rintro rfl
      exact hne o rfl h.entry
    rw [hfiles]
    exact Function.update_of_ne hi ..
  retains fd i' _ := by
    rw [hfiles]
    by_cases hi : i' = i
    · rw [hi, Table.files_setFile, Function.update_self, h.file]
      exact hretains
    · rw [Table.files_setFile, Function.update_of_ne hi]
      exact .refl _

namespace Owned

theorem perm (h : Owned alone T objects) {objects' : List Object} (hp : objects.Perm objects') :
    Owned alone T objects' :=
  ⟨h.accounts.perm hp, h.unshared⟩

theorem has (h : Owned alone T objects) (ho : o ∈ objects) :
    ∃ i d, T.Has o.fd i d ∧ (alone → o.kind.Ok d) := by
  obtain ⟨entry, hentry, hok⟩ := h.accounts.ok o ho
  exact ⟨_, _, Table.has_of_entry hentry, hok.kind⟩

/-- Descriptions that no object refers to do not matter. -/
theorem accounts_congr {entries : Int32 → Option Entry} {files files' : Nat → Desc}
    (h : Accounts Object.fd (Object.InOrder alone files) entries objects)
    (hfiles : ∀ fd entry, entries fd = some entry → files' entry.file = files entry.file) :
    Accounts Object.fd (Object.InOrder alone files') entries objects := by
  apply h.imp
  intro o _ entry hentry hok
  rw [Object.InOrder, hfiles o.fd entry hentry]
  exact hok

theorem of_same {T' : Table} (h : Owned alone T objects) (hsame : T.Same T') :
    Owned alone T' objects := by
  obtain ⟨entries, files⟩ := T'
  obtain rfl : entries = T.entries := hsame.entries
  refine ⟨accounts_congr h.accounts ?_, h.unshared⟩
  intro fd entry hentry
  exact hsame.files fd entry.file (by rw [hentry]; rfl)

theorem opened (h : Owned alone T rest) (hfresh : T.Fresh o.fd i) (hok : o.Ok alone true d) :
    Owned alone (T.opened o.fd ⟨i, true⟩ d) (o :: rest) where
  accounts := by
    have hrest : Accounts Object.fd (Object.InOrder alone (Function.update T.files i d)) T.entries rest := by
      apply accounts_congr h.accounts
      intro fd entry hentry
      have hne : entry.file ≠ i := by
        rintro rfl
        exact hfresh.unused fd (by rw [hentry]; rfl)
      exact Function.update_of_ne hne ..
    apply hrest.insert hfresh.free
    rw [Object.InOrder, Function.update_self]
    exact hok
  unshared halone := (h.unshared halone).opened hfresh true

/-- The other objects, when the description of the first has been worked on. -/
theorem others (h : Owned alone T (o :: rest)) (hopen : T.Has o.fd i d) (hretains : d.Retains d') :
    Accounts Object.fd (Object.InOrder alone (Function.update T.files i d'))
      (Function.update T.entries o.fd none) rest := by
  apply h.accounts.remove.imp
  intro o' ho' entry hentry hok
  have hne : o'.fd ≠ o.fd := h.accounts.ne_head ho'
  rw [Function.update_of_ne hne] at hentry
  by_cases hfile : entry.file = i
  · -- It shares the description, so the process has descriptors that do.
    have hd : T.files entry.file = d := by rw [hfile, hopen.file]
    rw [Object.InOrder, hfile, Function.update_self]
    rw [Object.InOrder, hd] at hok
    apply hok.of_retains hretains id
    intro halone
    have hshared : o'.fd = o.fd :=
      h.unshared halone _ _ i (by rw [hentry, ← hfile]; rfl) hopen.entry
    exact absurd hshared hne
  · rw [Object.InOrder, Function.update_of_ne hfile]
    exact hok

/-- An object works on its description, and is handed on. -/
theorem worked (h : Owned alone T (o :: rest)) (hopen : T.Has o.fd i d) (hretains : d.Retains d')
    (hfd : o'.fd = o.fd) (hadopted : o'.adopted = false → o.adopted = false)
    (hkind : alone → o'.kind.Ok d') : Owned alone (T.setFile i d') (o' :: rest) where
  accounts := by
    obtain ⟨entry, hentry, hok⟩ := h.accounts.ok o List.mem_cons_self
    obtain ⟨rfl, hd⟩ := (Table.has_of_entry hentry).unique hopen
    rw [Object.InOrder, hd] at hok
    have hok' : Object.InOrder alone (Function.update T.files entry.file d') o' entry := by
      rw [Object.InOrder, Function.update_self]
      exact hok.of_retains hretains hadopted hkind
    have hmade := (h.others hopen hretains).insert (o := o') (by rw [hfd, Function.update_self]) hok'
    rwa [hfd, Function.update_idem, ← hentry, Function.update_eq_self] at hmade
  unshared := h.unshared

/-- An object works on its description, and is gone. -/
theorem closed (h : Owned alone T (o :: rest)) (hopen : T.Has o.fd i d) (hretains : d.Retains d') :
    Owned alone ((T.setFile i d').closed o.fd) rest :=
  ⟨h.others hopen hretains, fun halone => (h.unshared halone : (T.setFile i d').Unshared).closed o.fd⟩

/-! ## Shapes of code -/

/-- Code that makes an object. -/
theorem made {m : Io (K × FdKernel.Trace) α} {g : α → Int32} {kind : Kind}
    (h : Owned alone T objects) (hm : Makes M p T m g fun _ d => d.rcvinfo = true ∧ kind.Ok d) :
    Safe M p (do let a ← m; pure [⟨kind, g a, false⟩]) T (After alone actor T objects) := by
  apply Safe.bind hm
  · rintro a T' ⟨i, d, hfresh, rfl, hrcvinfo, hok⟩
    refine Safe.pure ⟨?_, .opened hfresh true⟩
    exact h.opened (o := ⟨kind, g a, false⟩) hfresh ⟨fun _ => ⟨rfl, hrcvinfo⟩, fun _ => hok⟩
  · intro fault T' hsame
    exact ⟨h.of_same hsame, .of_same hsame⟩

/-- Code that borrows an object. -/
theorem lent {m : Io (K × FdKernel.Trace) Unit} (h : Owned alone T objects) (ho : o ∈ objects)
    (hm : ∀ d, (alone → o.kind.Ok d) → On M p o.fd d m fun _ d' => alone → o.kind.Ok d') :
    Safe M p (do m; pure []) T (After alone (some o) T objects) := by
  have hp : objects.Perm (o :: objects.erase o) := List.perm_cons_erase ho
  obtain ⟨i, d, hopen, hok⟩ := h.has ho
  have hafter : ∀ (r : Res Unit) (T' : Table),
      (T.Worked i d T' fun d' => alone → o.kind.Ok d') →
      Owned alone T' objects ∧ Framed (some o) T T' := by
    rintro r T' ⟨d', rfl, hretains, hok'⟩
    exact ⟨((h.perm hp).worked hopen hretains rfl id hok').perm hp.symm,
      .worked hopen hretains rfl fun _ _ => rfl⟩
  apply (hm d hok T i hopen).bind
  · intro _ T' hT'
    obtain ⟨howned, hframe⟩ := hafter (.ok ()) T' hT'
    exact Safe.pure ⟨howned, hframe⟩
  · intro fault T' hT'
    obtain ⟨howned, hframe⟩ := hafter (.error fault) T' hT'
    exact ⟨howned, hframe⟩

/-- Code that takes an object and hands it on as another type. -/
theorem settled {m : Io (K × FdKernel.Trace) α} {kind : α → Kind} (h : Owned alone T objects)
    (ho : o ∈ objects)
    (hm : ∀ d, (alone → o.kind.Ok d) →
      Takes M p o.fd d m fun a d' => alone → (kind a).Ok d') :
    Safe M p (do let a ← m; pure [{ o with kind := kind a }]) T
      (After alone (some o) T (objects.erase o)) := by
  have hp : objects.Perm (o :: objects.erase o) := List.perm_cons_erase ho
  obtain ⟨i, d, hopen, hok⟩ := h.has ho
  apply (hm d hok T i hopen).bind
  · rintro a T' ⟨d', rfl, hretains, hkind⟩
    have howned : Owned alone (T.setFile i d') ({ o with kind := kind a } :: objects.erase o) :=
      (h.perm hp).worked hopen hretains rfl id hkind
    exact Safe.pure ⟨howned, .worked hopen hretains rfl fun _ _ => rfl⟩
  · rintro fault T' ⟨d', rfl, hretains⟩
    refine ⟨(h.perm hp).closed hopen hretains, .worked hopen hretains rfl ?_⟩
    intro fd hne
    exact Function.update_of_ne hne ..

/-- An object becomes another without a call. -/
theorem relabelled (h : Owned alone T objects) (ho : o ∈ objects) (hfd : o'.fd = o.fd)
    (hadopted : o'.adopted = true) (hkind : ∀ d, o'.kind.Ok d) :
    Safe M p (pure [o']) T (After alone (some o) T (objects.erase o)) := by
  obtain ⟨i, d, hopen, -⟩ := h.has ho
  have howned : Owned alone (T.setFile i d) (o' :: objects.erase o) := by
    apply (h.perm (List.perm_cons_erase ho)).worked hopen (.refl d) hfd
    · rw [hadopted]
      exact nofun
    · exact fun _ => hkind d
  rw [hopen.setFile_self] at howned
  exact Safe.pure ⟨howned, .of_same (.refl T)⟩

end Owned

/-- Code that ends by closing a descriptor. -/
theorem safe_close {Q : Res (List Object) → Table → Prop} (hmay : p.may fd) (hopen : T.Has fd i d)
    (h : Q (.ok []) (T.closed fd)) :
    Safe M p (do close M.traced.serve fd; pure []) T Q := by
  have hgood : Good p (T, .close fd) := good_of_plain hmay rfl rfl (fun _ => nofun) hopen
  rw [close, bind_assoc]
  apply (Safe.call (Q := fun r T' => (∃ reply, r = .ok reply) ∧ T' = T.closed fd) hgood _).bind
  · rintro reply T' ⟨-, rfl⟩
    exact Safe.pure h
  · rintro fault T' ⟨⟨reply, hreply⟩, -⟩
    cases hreply
  · intro k T' hdoes
    exact ⟨⟨_, rfl⟩, hdoes.eq_of_close⟩

namespace Owned

/-- What is left of a description that its object has worked on and closed. -/
theorem after_closed (h : Owned alone T objects) (ho : o ∈ objects) (hopen : T.Has o.fd i d)
    (hretains : d.Retains d') {r : Res (List Object)} (hr : handed r = []) :
    After alone (some o) T (objects.erase o) r ((T.setFile i d').closed o.fd) := by
  refine ⟨?_, .worked hopen hretains rfl fun fd hne => Function.update_of_ne hne ..⟩
  rw [hr]
  exact (h.perm (List.perm_cons_erase ho)).closed hopen hretains

theorem dropped (h : Owned alone T objects) (ho : o ∈ objects) (hmay : p.may o.fd) :
    Safe M p (do close M.traced.serve o.fd; pure []) T
      (After alone (some o) T (objects.erase o)) := by
  obtain ⟨i, d, hopen, -⟩ := h.has ho
  have hafter := h.after_closed ho hopen (.refl d) (r := .ok []) rfl
  rw [hopen.setFile_self] at hafter
  exact safe_close hmay hopen hafter

/-- `abort` closes the descriptor whether the option was set or not. -/
theorem aborted (h : Owned alone T objects) (ho : o ∈ objects) (hmay : p.may o.fd) :
    Safe M p (do SctpStream.abort t M.traced.serve o.fd; pure []) T
      (After alone (some o) T (objects.erase o)) := by
  obtain ⟨i, d, hopen, -⟩ := h.has ho
  have hset : Borrows M p o.fd d (setAbortOnClose t M.traced.serve o.fd) :=
    (On.setAbortOnClose hmay).mono fun _ _ hd' => hd'.1
  rw [SctpStream.abort, bind_assoc]
  apply (Takes.borrowing hmay hset T i hopen).bind
  · rintro _ T' ⟨d', rfl, hretains, -⟩
    exact safe_close hmay (hopen.setFile d') (h.after_closed ho hopen hretains rfl)
  · rintro fault T' ⟨d', rfl, hretains⟩
    exact h.after_closed ho hopen hretains rfl

/-- A descriptor that comes from the application has a number that can be owned. -/
theorem adopted (h : Owned alone T objects) (ho : o ∈ objects) (hfd : 0 ≤ o.fd) :
    Safe M p (do
      let fd ← Io.lift (ownedFd o.fd)
      pure [({ kind := .socket, fd, adopted := true } : Object)]) T
      (After alone (some o) T (objects.erase o)) := by
  rw [lift_ownedFd_bind hfd]
  exact h.relabelled ho rfl rfl fun _ => trivial

end Owned

/-! ## Actions -/

/-- An action makes calls on the descriptor of its object and on those it makes itself. Where
    descriptors share a description, their flags may be changed through another one. -/
def Action.policy (alone : Prop) (a : Action) (T : Table) : Policy where
  async := alone ∧ a.mayWait = false
  registers := a.registers = true
  may fd := (∃ o ∈ a.actor, o.fd = fd) ∨ T.entries fd = none

theorem Action.policy_actor {a : Action} (h : a.actor = some o) : (a.policy alone T).may o.fd :=
  .inl ⟨o, h, rfl⟩

theorem Action.policy_new (alone : Prop) (a : Action) :
    ∀ fd, T.entries fd = none → (a.policy alone T).may fd :=
  fun _ => .inr

theorem Action.policy_registers {a : Action} (h : a.registers = true) :
    (a.policy alone T).registers := h

theorem Kind.Ok.configured {kind : Kind} (h : kind.Ok d) (op : Use) : (kind.configured op).Ok d := by
  unfold Kind.configured
  split
  · exact h
  · exact h

theorem Kind.not_changes_of_configures {kind : Kind} {op : Use} (h : kind.configures op = true) :
    op.changes = false ∧ op.waits = false := by
  cases op with
  | listen | setNonblocking | connect | connectx | recv | send => cases kind <;> cases h
  | _ => exact ⟨rfl, rfl⟩

/-- An action that is typed correctly keeps the world in order. -/
theorem Action.safe (abi : Abi) {a : Action} (h : Owned alone T objects) (htyped : a.typed = true)
    (hactor : ∀ o ∈ a.actor, o ∈ objects) (hnonneg : ∀ fd, T.entries fd ≠ none → 0 ≤ fd) :
    Safe M (a.policy alone T) (a.code t abi M.traced.serve) T
      (After alone a.actor T (keptBy a objects)) := by
  cases a with
  | new family style =>
    apply h.made ((Makes.new (Action.policy_new _ _) family style).mono _)
    rintro _ d ⟨hrcvinfo, -⟩
    exact ⟨hrcvinfo, trivial⟩
  | streamBuilder family | listenerBuilder family | endpointBuilder family =>
    exact h.made (Makes.new (Action.policy_new _ _) family _)
  | listenerBind addr =>
    exact h.made (SctpListener.makes_bind (Action.policy_new _ _) (Action.policy_registers rfl) addr)
  | endpointBind addr =>
    exact h.made (SctpEndpoint.makes_bind (Action.policy_new _ _) (Action.policy_registers rfl) addr)
  | streamConnect addr tail =>
    exact h.made (SctpStream.makes_connect (Action.policy_new _ _) (Action.policy_registers rfl) addr
      tail false)
  | use o op =>
    apply h.lent (hactor o rfl)
    intro d hok
    apply Use.on_object (Action.policy_actor rfl) abi hok htyped
    rintro ⟨halone, hwait⟩
    exact ⟨halone, of_decide_eq_false hwait⟩
  | accept o =>
    obtain ⟨i, d, hopen, -⟩ := h.has (hactor o rfl)
    have hmade : Makes M (Action.policy alone (.accept o) T) T (Socket.accept t M.traced.serve o.fd)
        Prod.fst _ :=
      Makes.acceptWithFlags hopen (Action.policy_actor rfl) (Action.policy_new _ _)
        (fun hasync => nomatch hasync.2) (by decide)
    apply h.made (hmade.mono _)
    rintro _ d' ⟨hrcvinfo, -⟩
    exact ⟨hrcvinfo, trivial⟩
  | listenerAccept o =>
    obtain ⟨i, d, hopen, hok⟩ := h.has (hactor o rfl)
    have hkind : o.kind = .listener := of_decide_eq_true htyped
    rw [hkind] at hok
    exact h.made (SctpListener.makes_accept hopen (Action.policy_actor rfl) (Action.policy_new _ _)
      (Action.policy_registers rfl) fun hasync => (hok hasync.1).1)
  | peeloff o assocId =>
    obtain ⟨i, d, hopen, -⟩ := h.has (hactor o rfl)
    have hmade : Makes M (Action.policy alone (.peeloff o assocId) T) T
        (Socket.peeloff t M.traced.serve o.fd assocId) id _ :=
      Makes.peeloffWithFlags hopen (Action.policy_actor rfl) (Action.policy_new _ _) assocId (by decide)
    apply h.made (hmade.mono _)
    rintro _ d' ⟨hrcvinfo, -⟩
    exact ⟨hrcvinfo, trivial⟩
  | endpointPeeloff o assocId =>
    obtain ⟨i, d, hopen, -⟩ := h.has (hactor o rfl)
    exact h.made (SctpEndpoint.makes_peeloff hopen (Action.policy_actor rfl) (Action.policy_new _ _)
      (Action.policy_registers rfl) assocId)
  | configure o op =>
    obtain ⟨hchanges, hwaits⟩ := Kind.not_changes_of_configures htyped
    apply h.settled (hactor o rfl)
    intro d hok
    have hmay : (Action.policy alone (.configure o op) T).may o.fd := Action.policy_actor rfl
    apply (Takes.borrowing hmay (Use.borrows hmay abi hchanges _)).mono
    · intro _ d' hkeeps halone
      exact ((hok halone).of_keeps hkeeps).configured op
    · intro _ hop
      rw [hwaits] at hop
      cases hop
  | listenerFromSocket o =>
    apply h.settled (hactor o rfl)
    intro d _
    apply (SctpListener.takes_fromSocket (Action.policy_actor rfl) (Action.policy_registers rfl)).mono
    exact fun _ _ hok _ => hok
  | endpointFromSocket o | endpointBuild o =>
    apply h.settled (hactor o rfl)
    intro d _
    apply (SctpEndpoint.takes_fromSocket (Action.policy_actor rfl) (Action.policy_registers rfl)).mono
    exact fun _ _ hok _ => hok
  | connectxFromSocket o addrs tail =>
    apply h.settled (hactor o rfl)
    intro d _
    apply (SctpStream.takes_connectxFromSocket (Action.policy_actor rfl)
      (Action.policy_registers rfl) addrs tail true).mono
    exact fun _ _ hok _ => hok
  | listenerListen o backlog =>
    apply h.settled (hactor o rfl)
    intro d _
    apply (SctpListener.takes_listen (Action.policy_actor rfl) (Action.policy_registers rfl)
      backlog).mono
    exact fun _ _ hok _ => hok
  | endpointListen o backlog =>
    apply h.settled (hactor o rfl)
    intro d _
    apply (SctpEndpoint.takes_listen (Action.policy_actor rfl) (Action.policy_registers rfl)
      backlog).mono
    exact fun _ _ hok _ => hok
  | connectx o subscribed addrs tail =>
    have hkind : o.kind = .streamBuilder subscribed := of_decide_eq_true htyped
    apply h.settled (hactor o rfl)
    intro d hok
    rw [hkind] at hok
    apply (SctpStream.takes_connectx (Action.policy_actor rfl) (Action.policy_registers rfl) subscribed
      addrs tail).mono
    intro _ d' hd' halone
    exact hd'.ok subscribed (hok halone)
  | established o keep st tail =>
    have hkind : o.kind = .connecting keep st := of_decide_eq_true htyped
    apply h.settled (hactor o rfl)
    intro d hok
    rw [hkind] at hok
    apply (SctpStream.takes_proceed (Action.policy_actor rfl) (fun hasync => (hok hasync.1).1) keep st
      tail).mono
    intro next d' hkeeps halone
    have hconnecting : (Kind.connecting keep st).Ok d' := (hok halone).of_keeps hkeeps
    cases next with
    | some st' => exact hconnecting
    | none => exact hconnecting.1
  | abort o => exact h.aborted (hactor o rfl) (Action.policy_actor rfl)
  | drop o => exact h.dropped (hactor o rfl) (Action.policy_actor rfl)
  | intoRawFd o => exact h.relabelled (hactor o rfl) rfl rfl fun _ => trivial
  | fromRawFd o =>
    obtain ⟨i, d, hopen, -⟩ := h.has (hactor o rfl)
    exact h.adopted (hactor o rfl) (hnonneg o.fd hopen.ne_none)

end Net

end Lksctp
