-- SUMMARY: A program logic for code that works on descriptors: what it does to the ones it owns, and that it touches no others.
import Lksctp.Descriptors
import Lksctp.Socket.Bindx

/-!
# Code that owns descriptors

`Safe` is a Hoare triple over descriptor tables. The other judgements say what the
code is to one descriptor, and all of them leave the rest of the table alone: `On`
for code that borrows it, `Takes` for code that owns it and closes it on every
failure, `Makes` for code that returns a new one or leaves the table as it was.
What they do to the description of the descriptor is seen by every descriptor that
refers to it, so they also say what of it is never lost.
-/

namespace Lksctp

open Rust Machine

namespace Kernel

variable {e : Endian} {K α β : Type}

/-- How code ends: it panics only when it has nothing to register with, and code that must
    not wait never says that it has waited for too long. -/
def Ends (M : FdKernel e K) (p : Policy) : Res α → Prop
  | .ok _ => True
  | .error (.panic panic) => panic = .noRuntime ∧ p.registers ∧ ¬ M.InRuntime
  | .error (.err error) => p.async → error ≠ Socket.setupTimedOut

variable {M : FdKernel e K} {p : Policy} {m : Io (K × FdKernel.Trace) α} {T : Table} {fd : Int32}
  {i : Nat} {d : Desc}

theorem Ends.error {fault : Fault} (h : Ends M p (.error fault : Res α)) :
    Ends M p (.error fault : Res β) := by
  cases fault with
  | panic => exact h
  | err => exact h

/-- Started with the table `T`, the code makes good calls only, ends as it should, and
    its result and the table then meet `Q`. -/
def Safe (M : FdKernel e K) (p : Policy) (m : Io (K × FdKernel.Trace) α) (T : Table)
    (Q : Res α → Table → Prop) : Prop :=
  ∀ k trace, M.table k = T → (∀ ev ∈ trace, Good p ev) →
    Io.wp m (fun r s => (∀ ev ∈ s.2, Good p ev) ∧ Ends M p r ∧ Q r (M.table s.1)) (k, trace)

/-- Adding a good call to a trace. -/
theorem good_append {trace : FdKernel.Trace} {new : Table × Syscall}
    (htrace : ∀ ev ∈ trace, Good p ev) (hnew : Good p new) :
    ∀ ev ∈ trace ++ [new], Good p ev := by
  intro ev h
  obtain h | h := List.mem_append.mp h
  · exact htrace ev h
  · rw [List.mem_singleton.mp h]
    exact hnew

namespace Safe

variable {P Q : Res α → Table → Prop}

theorem mono (h : Safe M p m T P) (hpq : ∀ r T, Ends M p r → P r T → Q r T) : Safe M p m T Q := by
  intro k trace hT htrace
  apply (h k trace hT htrace).mono
  rintro r s ⟨htrace, hr, hp⟩
  exact ⟨htrace, hr, hpq r _ hr hp⟩

theorem lift {r : Res α} (hr : Ends M p r) (h : Q r T) : Safe M p (Io.lift r) T Q := by
  rintro k trace rfl htrace
  exact .lift ⟨htrace, hr, h⟩

theorem pure {a : α} (h : Q (.ok a) T) : Safe M p (Pure.pure a) T Q := Safe.lift trivial h

theorem err {error : IoError} (herror : p.async → error ≠ Socket.setupTimedOut)
    (h : Q (Res.err error) T) : Safe M p (Io.err error) T Q :=
  Safe.lift herror h

theorem bind {f : α → Io (K × FdKernel.Trace) β} {Q : Res β → Table → Prop} (h : Safe M p m T P)
    (hok : ∀ a T, P (.ok a) T → Safe M p (f a) T Q)
    (herr : ∀ fault T, P (.error fault) T → Q (.error fault) T) : Safe M p (m >>= f) T Q := by
  intro k trace hT htrace
  apply (h k trace hT htrace).bind
  · rintro a s ⟨htrace, -, hp⟩
    exact hok a _ hp s.1 s.2 rfl htrace
  · rintro fault s ⟨htrace, hr, hp⟩
    exact ⟨htrace, hr.error, herr fault _ hp⟩

/-- A call; its reply is one of the kernel, in some state. -/
theorem call {c : Syscall} {Q : Res Reply → Table → Prop} (hgood : Good p (T, c))
    (h : ∀ k T', Does e T c (M.serve k c).1 T' → Q (.ok (M.serve k c).1) T') :
    Safe M p (Io.call M.traced.serve c) T Q := by
  rintro k trace rfl htrace
  exact .call ⟨good_append htrace hgood, trivial, h _ _ (M.does k c)⟩

/-- A call whose failure is the error of the caller. -/
theorem callCvt {c : Syscall} {Q : Res (Int32 × Reply) → Table → Prop} (hgood : Good p (T, c))
    (hok : ∀ ret reply T', reply.ret = .ok ret → Does e T c reply T' → Q (.ok (ret, reply)) T')
    (herr : ∀ errno reply T', reply.ret = .error errno → Does e T c reply T' →
      Q (Res.err (.os errno)) T') :
    Safe M p (Socket.callCvt M.traced.serve c) T Q := by
  apply (call (Q := fun r T' => ∃ reply, r = .ok reply ∧ Does e T c reply T') hgood _).bind
  · rintro reply T' ⟨_, hreply, hdoes⟩
    obtain rfl := Except.ok.inj hreply
    cases hret : reply.ret with
    | ok ret => exact Safe.pure (hok ret reply T' hret hdoes)
    | error errno => exact Safe.err (fun _ => nofun) (herr errno reply T' hret hdoes)
  · rintro fault T' ⟨_, hreply, -⟩
    cases hreply
  · intro k T' hdoes
    exact ⟨_, rfl, hdoes⟩

end Safe

/-! ## What the calls do to their descriptor -/

variable {reply : Reply} {T' : Table}

theorem Does.eq_of_close (h : Does e T (.close fd) reply T') : T' = T.closed fd := by
  cases h with
  | failed _ h => exact absurd rfl (h fd)
  | inert _ hc => cases hc
  | close => rfl

/-- A failed call has done nothing. -/
theorem Does.eq_of_error {c : Syscall} {errno : Errno} (h : Does e T c reply T')
    (hret : reply.ret = .error errno) (hc : ∀ fd, c ≠ .close fd) : T' = T := by
  cases h with
  | failed | currentRuntime => rfl
  | close => exact absurd rfl (hc _)
  | _ hok => cases hret.symm.trans hok

theorem Does.of_inert {c : Syscall} (hc : c.inert = true) (h : Does e T c reply T') : T' = T := by
  cases h with
  | failed => rfl
  | inert => rfl
  | _ => cases hc

/-- What is received fits the buffers. -/
theorem Does.within {req : RecvReq} {out : RecvOut} (h : Does e T (.recvmsg fd req) reply T')
    (hout : reply.received = .ok out) : out.Within req := by
  unfold Reply.received at hout
  cases h with
  | failed hret =>
    rw [hret] at hout
    cases hout
  | inert hret _ hfd _ hmsg =>
    obtain rfl := Option.some.inj hfd
    rw [hret] at hout
    cases hout
    exact hmsg req rfl

/-! ## Borrowing a descriptor -/

/-- What is left of a description, whatever is done with a descriptor of it: the crate never
    takes back the option for receive metadata, nor an ABORT that was asked for. -/
structure Desc.Retains (d d' : Desc) : Prop where
  soType : d'.soType = d.soType
  rcvinfo : d.rcvinfo = true → d'.rcvinfo = true
  abortOnClose : d.abortOnClose = true → d'.abortOnClose = true

theorem Desc.Retains.refl (d : Desc) : d.Retains d := ⟨rfl, id, id⟩

theorem Desc.Retains.trans {d d' d'' : Desc} (h : d.Retains d') (h' : d'.Retains d'') :
    d.Retains d'' where
  soType := h'.soType.trans h.soType
  rcvinfo hd := h'.rcvinfo (h.rcvinfo hd)
  abortOnClose hd := h'.abortOnClose (h.abortOnClose hd)

/-- The table after work on the description `i`, which was `d`. -/
def Table.Worked (T : Table) (i : Nat) (d : Desc) (T' : Table) (R : Desc → Prop) : Prop :=
  ∃ d', T' = T.setFile i d' ∧ d.Retains d' ∧ R d'

theorem Table.Has.worked (h : T.Has fd i d) {R : Desc → Prop} (hd : R d) : T.Worked i d T R :=
  ⟨d, h.setFile_self.symm, .refl d, hd⟩

theorem Table.Worked.mono {R R' : Desc → Prop} (h : T.Worked i d T' R) (hr : ∀ d, R d → R' d) :
    T.Worked i d T' R' := by
  obtain ⟨d', hT', hretains, hd'⟩ := h
  exact ⟨d', hT', hretains, hr d' hd'⟩

/-- More work on the same description. -/
theorem Table.Worked.trans {d' : Desc} {R : Desc → Prop}
    (h : (T.setFile i d').Worked i d' T' R) (hretains : d.Retains d') : T.Worked i d T' R := by
  obtain ⟨d'', rfl, hretains', hd''⟩ := h
  exact ⟨d'', Table.setFile_setFile, hretains.trans hretains', hd''⟩

/-- Code that works on the open descriptor `fd` and leaves the rest of the table alone. -/
def On (M : FdKernel e K) (p : Policy) (fd : Int32) (d : Desc) (m : Io (K × FdKernel.Trace) α)
    (R : Res α → Desc → Prop) : Prop :=
  ∀ T i, T.Has fd i d → Safe M p m T fun r T' => T.Worked i d T' (R r)

namespace On

variable {R : Res α → Desc → Prop}

theorem mono {R' : Res α → Desc → Prop} (h : On M p fd d m R) (hr : ∀ r d, R r d → R' r d) :
    On M p fd d m R' := by
  intro T i hopen
  apply (h T i hopen).mono
  intro r T' _ hT'
  exact hT'.mono (hr r)

theorem lift {r : Res α} (hr : Ends M p r) (h : R r d) : On M p fd d (Io.lift r) R := by
  intro T i hopen
  exact Safe.lift hr (hopen.worked h)

theorem pure {a : α} (h : R (.ok a) d) : On M p fd d (Pure.pure a) R := On.lift trivial h

theorem err {error : IoError} (herror : p.async → error ≠ Socket.setupTimedOut)
    (h : R (Res.err error) d) : On M p fd d (Io.err error) R :=
  On.lift herror h

theorem returns {a : α} {R : α → Desc → Prop} (h : R a d) :
    On M p fd d (Pure.pure a) fun r d' => ∀ b, r = .ok b → R b d' := by
  apply On.pure
  intro b hb
  obtain rfl := Except.ok.inj hb
  exact h

theorem bind {f : α → Io (K × FdKernel.Trace) β} {R' : Res β → Desc → Prop}
    (h : On M p fd d m R) (hok : ∀ a d', R (.ok a) d' → On M p fd d' (f a) R')
    (herr : ∀ fault d', R (.error fault) d' → R' (.error fault) d') :
    On M p fd d (m >>= f) R' := by
  intro T i hopen
  apply (h T i hopen).bind
  · rintro a T' ⟨d', rfl, hretains, hd'⟩
    apply (hok a d' hd' _ i (hopen.setFile d')).mono
    intro r T'' _ hT''
    exact hT''.trans hretains
  · intro fault T' hT'
    exact hT'.mono (herr fault)

/-- A call on the descriptor, and the code after it. -/
theorem call {c : Syscall} {f : Reply → Io (K × FdKernel.Trace) β} {R : Res β → Desc → Prop}
    (hgood : ∀ T i, T.Has fd i d → Good p (T, c))
    (hf : ∀ T i k T', T.Has fd i d → Does e T c (M.serve k c).1 T' →
      T.Worked i d T' fun d' => On M p fd d' (f (M.serve k c).1) R) :
    On M p fd d (Io.call M.traced.serve c >>= f) R := by
  intro T i hopen
  have hcall := Safe.call (M := M) (hgood T i hopen)
    (Q := fun r T' => ∃ reply, r = .ok reply ∧ T.Worked i d T' fun d' => On M p fd d' (f reply) R)
    fun k T' hdoes => ⟨_, rfl, hf T i k T' hopen hdoes⟩
  apply hcall.bind
  · rintro reply T' ⟨_, hreply, d', rfl, hretains, hon⟩
    obtain rfl := Except.ok.inj hreply
    apply (hon _ i (hopen.setFile d')).mono
    intro r T'' _ hT''
    exact hT''.trans hretains
  · rintro fault T' ⟨_, hreply, -⟩
    cases hreply

/-- A call whose failure is the error of the caller. -/
theorem callCvt {c : Syscall} {f : Int32 × Reply → Io (K × FdKernel.Trace) β}
    {R : Res β → Desc → Prop} (hgood : ∀ T i, T.Has fd i d → Good p (T, c))
    (hclose : ∀ fd, c ≠ .close fd)
    (hok : ∀ T i ret reply T', T.Has fd i d → reply.ret = .ok ret → Does e T c reply T' →
      T.Worked i d T' fun d' => On M p fd d' (f (ret, reply)) R)
    (herr : ∀ errno, R (Res.err (.os errno)) d) :
    On M p fd d (Socket.callCvt M.traced.serve c >>= f) R := by
  rw [Socket.callCvt, bind_assoc]
  apply call hgood
  intro T i k T' hopen hdoes
  cases hret : (M.serve k c).1.ret with
  | ok ret => exact hok T i ret _ T' hopen hret hdoes
  | error errno =>
    rw [hdoes.eq_of_error hret hclose]
    exact hopen.worked (On.err (fun _ => nofun) (herr errno))

end On

/-- A call that neither waits nor shuts the socket down. -/
theorem good_of_plain {c : Syscall} (hmay : p.may fd) (hfd : c.fd? = some fd)
    (hblock : c.mayBlock = false) (hshut : ∀ how, c ≠ .shutdown fd how) (hopen : T.Has fd i d) :
    Good p (T, c) := by
  intro fd' hfd'
  obtain rfl := Option.some.inj (hfd.symm.trans hfd')
  refine ⟨hmay, i, d, hopen, ?_, ?_⟩
  · rintro ⟨how, hhow⟩
    exact absurd hhow (hshut how)
  · intro _ h
    rw [hblock] at h
    cases h

namespace On

/-- A call of this kind, and the code after it. -/
theorem plain {c : Syscall} {f : Int32 × Reply → Io (K × FdKernel.Trace) β}
    {R : Res β → Desc → Prop} (hmay : p.may fd) (hfd : c.fd? = some fd) (hplain : c.plain = true)
    (hok : ∀ T i ret reply T', T.Has fd i d → reply.ret = .ok ret → Does e T c reply T' →
      T.Worked i d T' fun d' => On M p fd d' (f (ret, reply)) R)
    (herr : ∀ errno, R (Res.err (.os errno)) d) :
    On M p fd d (Socket.callCvt M.traced.serve c >>= f) R := by
  apply callCvt _ _ hok herr
  · intro T i hopen
    apply good_of_plain hmay hfd _ _ hopen
    · cases c <;> first | rfl | cases hplain
    · rintro how rfl
      cases hplain
  · rintro fd rfl
    cases hplain

variable {level opt : Int32}

theorem setsockopt (c : Codec α) {v : α} {R : Res Unit → Desc → Prop} (hmay : p.may fd)
    (hretains : d.Retains (d.setsockopt e level opt (c.put e v)))
    (hok : R (.ok ()) (d.setsockopt e level opt (c.put e v)))
    (herr : ∀ errno, R (Res.err (.os errno)) d) :
    On M p fd d (Socket.setsockopt e M.traced.serve c fd level opt v) R := by
  apply plain hmay rfl rfl _ herr
  intro T i ret reply T' hopen hret hdoes
  cases hdoes with
  | failed herror => cases hret.symm.trans herror
  | inert _ hc => cases hc
  | setsockopt _ hopen' =>
    obtain ⟨rfl, rfl⟩ := hopen.unique hopen'
    exact ⟨_, rfl, hretains, On.pure hok⟩

/-- The kernel fills in a value, and the code goes on with what it reads there. -/
theorem getsockopt {optval : Bytes} {optlen : UInt32} {f : Int32 × Reply → Io (K × FdKernel.Trace) β}
    {R : Res β → Desc → Prop} (hmay : p.may fd)
    (hpeel : ¬ (level = Sys.solSctp ∧ opt = Sys.sctpSockoptPeeloffFlags))
    (hok : ∀ ret reply, ReadsBack e d level opt reply.out → On M p fd d (f (ret, reply)) R)
    (herr : ∀ errno, R (Res.err (.os errno)) d) :
    On M p fd d (Socket.callCvt M.traced.serve (.getsockopt fd level opt optval optlen) >>= f) R := by
  apply plain hmay rfl rfl _ herr
  intro T i ret reply T' hopen hret hdoes
  cases hdoes with
  | failed herror => cases hret.symm.trans herror
  | inert _ hc => cases hc
  | peeloff => exact absurd ⟨rfl, rfl⟩ hpeel
  | getsockopt _ hopen' hread =>
    obtain ⟨rfl, rfl⟩ := hopen.unique hopen'
    exact hopen.worked (hok ret reply hread)

/-- A call that changes nothing in the table. -/
theorem inert {c : Syscall} {f : Int32 × Reply → Io (K × FdKernel.Trace) β}
    {R : Res β → Desc → Prop} (hc : c.inert = true)
    (hgood : ∀ T i, T.Has fd i d → Good p (T, c))
    (hok : ∀ ret reply, On M p fd d (f (ret, reply)) R)
    (herr : ∀ errno, R (Res.err (.os errno)) d) :
    On M p fd d (Socket.callCvt M.traced.serve c >>= f) R := by
  apply callCvt hgood _ _ herr
  · rintro fd rfl
    cases hc
  · intro T i ret reply T' hopen _ hdoes
    rw [hdoes.of_inert hc]
    exact hopen.worked (hok ret reply)

end On

/-! ## Owning a descriptor -/

/-- Code that owns `fd`: it ends with the descriptor in order, or has closed it. -/
def Takes (M : FdKernel e K) (p : Policy) (fd : Int32) (d : Desc) (m : Io (K × FdKernel.Trace) α)
    (R : α → Desc → Prop) : Prop :=
  ∀ T i, T.Has fd i d → Safe M p m T fun r T' =>
    match r with
    | .ok a => T.Worked i d T' (R a)
    | .error _ => ∃ d', T' = (T.setFile i d').closed fd ∧ d.Retains d'

namespace Takes

variable {R : α → Desc → Prop}

/-- A scope that owns the descriptor, around code that borrows it. -/
theorem closing (hmay : p.may fd) (h : On M p fd d m fun r d' => ∀ a, r = .ok a → R a d') :
    Takes M p fd d (Socket.closing M.traced.serve fd m) R := by
  intro T i hopen k trace hT htrace
  apply (h T i hopen k trace hT htrace).dropOnFault
  · rintro a s ⟨htrace, hr, hworked⟩
    exact ⟨htrace, hr, hworked.mono fun d' hd' => hd' a rfl⟩
  · rintro fault s ⟨htrace, hr, d', hT', hretains, -⟩
    have hopen' : (M.table s.1).Has fd i d' := hT' ▸ hopen.setFile d'
    have hgood : Good p (M.table s.1, .close fd) :=
      good_of_plain hmay rfl rfl (fun _ => nofun) hopen'
    refine ⟨good_append htrace hgood, hr, d', ?_, hretains⟩
    change M.table (M.serve s.1 (.close fd)).2 = _
    rw [(M.does s.1 (.close fd)).eq_of_close, hT']

theorem mono {R' : α → Desc → Prop} (h : Takes M p fd d m R) (hr : ∀ a d, R a d → R' a d) :
    Takes M p fd d m R' := by
  intro T i hopen
  apply (h T i hopen).mono
  intro r T' _ hT'
  cases r with
  | ok a => exact Table.Worked.mono hT' (hr a)
  | error fault => exact hT'

theorem pure {a : α} (h : R a d) : Takes M p fd d (Pure.pure a) R := by
  intro T i hopen
  exact Safe.pure (hopen.worked h)

/-- One scope after another. -/
theorem bind {f : α → Io (K × FdKernel.Trace) β} {R' : β → Desc → Prop} (h : Takes M p fd d m R)
    (hf : ∀ a d', R a d' → Takes M p fd d' (f a) R') : Takes M p fd d (m >>= f) R' := by
  intro T i hopen
  apply (h T i hopen).bind
  · rintro a T' ⟨d', rfl, hretains, hd'⟩
    apply (hf a d' hd' _ i (hopen.setFile d')).mono
    intro r T'' _ hr
    cases r with
    | ok b => exact Table.Worked.trans hr hretains
    | error fault =>
      obtain ⟨d'', rfl, hretains'⟩ := hr
      exact ⟨d'', by rw [Table.setFile_setFile], hretains.trans hretains'⟩
  · intro fault T' hT'
    exact hT'

end Takes

/-! ## Making a descriptor -/

/-- Code that returns a new descriptor, which is closed on `exec`, or leaves the table as
    it was. -/
def Makes (M : FdKernel e K) (p : Policy) (T : Table) (m : Io (K × FdKernel.Trace) α)
    (fdOf : α → Int32) (R : α → Desc → Prop) : Prop :=
  Safe M p m T fun r T' =>
    match r with
    | .ok a => ∃ i d, T.Fresh (fdOf a) i ∧ T' = T.opened (fdOf a) ⟨i, true⟩ d ∧ R a d
    | .error _ => T.Same T'

namespace Makes

variable {g : α → Int32} {R : α → Desc → Prop}

theorem mono {R' : α → Desc → Prop} (h : Makes M p T m g R) (hr : ∀ a d, R a d → R' a d) :
    Makes M p T m g R' := by
  apply Safe.mono h
  intro r T' _ hT'
  cases r with
  | ok a =>
    obtain ⟨i, d, hfresh, rfl, hd⟩ := hT'
    exact ⟨i, d, hfresh, rfl, hr a d hd⟩
  | error fault => exact hT'

/-- What owns the new descriptor closes it on a failure. -/
theorem bind {f : α → Io (K × FdKernel.Trace) β} {g' : β → Int32} {R' : β → Desc → Prop}
    (h : Makes M p T m g R)
    (hf : ∀ a i d, T.Fresh (g a) i → R a d → Takes M p (g a) d (f a) fun b d' =>
      g' b = g a ∧ (d.Retains d' → R' b d')) :
    Makes M p T (m >>= f) g' R' := by
  apply Safe.bind h
  · rintro a T' ⟨i, d, hfresh, rfl, hd⟩
    apply (hf a i d hfresh hd _ i Table.has_opened).mono
    intro r T'' _ hr
    cases r with
    | ok b =>
      obtain ⟨d', rfl, hretains, hfd, hd'⟩ := hr
      exact ⟨i, d', hfd ▸ hfresh, hfd ▸ Table.setFile_opened, hd' hretains⟩
    | error fault =>
      obtain ⟨d', rfl, -⟩ := hr
      rw [Table.setFile_opened]
      exact hfresh.same_closed true
  · intro fault T' hT'
    exact hT'

/-- A call that makes a descriptor. -/
theorem callCvt {c : Syscall} {g : Int32 × Reply → Int32} {R : Int32 × Reply → Desc → Prop}
    (hgood : Good p (T, c)) (hclose : ∀ fd, c ≠ .close fd)
    (hok : ∀ ret reply T', reply.ret = .ok ret → Does e T c reply T' →
      ∃ i d, T.Fresh (g (ret, reply)) i ∧ T' = T.opened (g (ret, reply)) ⟨i, true⟩ d ∧
        R (ret, reply) d) :
    Makes M p T (Socket.callCvt M.traced.serve c) g R := by
  apply Safe.callCvt hgood hok
  intro errno reply T' hret hdoes
  rw [hdoes.eq_of_error hret hclose]
  exact .refl T

end Makes

end Kernel

end Lksctp
