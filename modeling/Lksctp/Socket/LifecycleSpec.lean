-- SUMMARY: What the functions of a socket do to descriptors: which they borrow, which they make, and which they close.
import Lksctp.FdLogic
import Lksctp.Socket.Lifecycle

/-!
# Sockets and their descriptors

One lemma for each function, in the judgements of `FdLogic`. Most functions borrow
the descriptor and keep what the table has of it; the exceptions are `listen`,
`set_nonblocking` and the option for receive metadata.
-/

namespace Lksctp

open Rust Machine Kernel

/-! ## Borrowed descriptors -/

namespace Kernel

/-- What no function but `listen` and `set_nonblocking` changes. -/
structure Desc.Keeps (d d' : Desc) : Prop extends d.Retains d' where
  nonblocking : d'.isNonblocking = d.isNonblocking
  listening : d'.listening = d.listening

theorem Desc.Keeps.refl (d : Desc) : d.Keeps d := ⟨.refl d, rfl, rfl⟩

theorem Desc.Keeps.trans {d d' d'' : Desc} (h : d.Keeps d') (h' : d'.Keeps d'') : d.Keeps d'' where
  toRetains := h.toRetains.trans h'.toRetains
  nonblocking := h'.nonblocking.trans h.nonblocking
  listening := h'.listening.trans h.listening

theorem Desc.keeps_setsockopt (e : Endian) (d : Desc) {level opt : Int32} (optval : Bytes)
    (h : ¬ (level = Sys.solSctp ∧ opt = Sys.sctpRecvrcvinfo))
    (hlinger : ¬ (level = Sys.solSocket ∧ opt = Sys.soLinger)) :
    d.Keeps (d.setsockopt e level opt optval) := by
  rw [Desc.setsockopt, if_neg h, if_neg hlinger]
  exact .refl d

end Kernel

namespace Socket

variable {K α β : Type} {t : Target} {M : FdKernel t.endian K} {p : Policy} {fd : Int32} {d : Desc}

/-- Code that borrows `fd` and keeps it as it is. -/
def Borrows (M : FdKernel t.endian K) (p : Policy) (fd : Int32) (d : Desc)
    (m : Io (K × FdKernel.Trace) α) : Prop :=
  On M p fd d m fun _ d' => d.Keeps d'

namespace Borrows

variable {m : Io (K × FdKernel.Trace) α} {level opt : Int32}

theorem lift {r : Res α} (hr : Ends M p r) : Borrows M p fd d (Io.lift r) := On.lift hr (.refl d)

theorem pure (a : α) : Borrows M p fd d (Pure.pure a) := On.pure (.refl d)

theorem err {error : IoError} (herror : p.async → error ≠ setupTimedOut) :
    Borrows M p fd d (Io.err error : Io _ α) := On.err herror (.refl d)

theorem bind {f : α → Io (K × FdKernel.Trace) β} (h : Borrows M p fd d m)
    (hf : ∀ a d', d.Keeps d' → Borrows M p fd d' (f a)) : Borrows M p fd d (m >>= f) := by
  apply On.bind h
  · intro a d' hd'
    exact (hf a d' hd').mono fun _ d'' hd'' => hd'.trans hd''
  · intro fault d' hd'
    exact hd'

theorem setsockopt (hmay : p.may fd) (c : Codec α) (v : α)
    (h : ¬ (level = Sys.solSctp ∧ opt = Sys.sctpRecvrcvinfo))
    (hlinger : ¬ (level = Sys.solSocket ∧ opt = Sys.soLinger)) :
    Borrows M p fd d (Socket.setsockopt t.endian M.traced.serve c fd level opt v) :=
  have hkeeps := Desc.keeps_setsockopt t.endian d (c.put t.endian v) h hlinger
  On.setsockopt c hmay hkeeps.toRetains hkeeps fun _ => .refl d

theorem getsockopt (hmay : p.may fd) (c : Codec α)
    (h : ¬ (level = Sys.solSctp ∧ opt = Sys.sctpSockoptPeeloffFlags)) :
    Borrows M p fd d (Socket.getsockopt t.endian M.traced.serve c fd level opt) := by
  apply On.getsockopt hmay h
  · intro ret reply _
    exact Borrows.pure _
  · exact fun _ => .refl d

theorem getsockoptInout (hmay : p.may fd) (c : Codec α) (v : α)
    (h : ¬ (level = Sys.solSctp ∧ opt = Sys.sctpSockoptPeeloffFlags)) :
    Borrows M p fd d (Socket.getsockoptInout t.endian M.traced.serve c fd level opt v) := by
  apply On.getsockopt hmay h
  · intro ret reply _
    exact Borrows.pure _
  · exact fun _ => .refl d

end Borrows

/-! ## Options -/

theorem ends_packAddress (addr : Option SocketAddr) : Ends M p (packAddress t addr) := by
  rw [packAddress_eq]
  exact trivial

theorem ends_checkedBufferSize (size : Nat) : Ends M p (checkedBufferSize size) := by
  unfold checkedBufferSize
  split
  · exact trivial
  · exact fun _ => by decide

theorem ends_timevalFor (c : Libc) (dur : Option Duration) : Ends M p (timevalFor c dur) := by
  by_cases hdur : dur = some .zero
  · rw [hdur, timevalFor_zero]
    exact fun _ => by decide
  · obtain ⟨tv, htv⟩ := timevalFor_ok c hdur
    rw [htv]
    exact trivial

theorem ends_durationOf {c : Libc} (tv : Timeval c) : Ends M p (durationOf tv) := by
  obtain ⟨dur, hdur⟩ := durationOf_total tv
  rw [hdur]
  exact trivial

theorem readAddress_total (e : Endian) (bytes : Bytes) : ∃ o, readAddress e bytes = .ok o := by
  obtain ⟨o, ho⟩ := Addr.readSockaddr_total e bytes
  exact ⟨o.map Prod.fst, by rw [readAddress, ho]; rfl⟩

theorem ends_assocStats (raw : Sys.SctpAssocStats) : Ends M p (AssocStats.fromSys t.endian raw) := by
  obtain ⟨o, ho⟩ := readAddress_total t.endian raw.sasObsRtoIpaddr.val
  rw [AssocStats.fromSys, ho]
  exact trivial

theorem peerAddrInfo_total (e : Endian) (raw : Sys.SctpPaddrinfo) :
    ∃ info, PeerAddrInfo.fromSys e raw = .ok info := by
  obtain ⟨o, ho⟩ := readAddress_total e raw.spinfoAddress.val
  exact ⟨_, by rw [PeerAddrInfo.fromSys, ho]; rfl⟩

theorem ends_peerAddrInfo (raw : Sys.SctpPaddrinfo) : Ends M p (PeerAddrInfo.fromSys t.endian raw) := by
  obtain ⟨info, hinfo⟩ := peerAddrInfo_total t.endian raw
  rw [hinfo]
  exact trivial

theorem ends_assocStatus (raw : Sys.SctpStatus) : Ends M p (AssocStatus.fromSys t.endian raw) := by
  obtain ⟨info, hinfo⟩ := peerAddrInfo_total t.endian raw.sstatPrimary
  rw [AssocStatus.fromSys, hinfo]
  exact trivial

/-- On success, closing the socket sends an ABORT. -/
theorem On.setAbortOnClose (hmay : p.may fd) :
    On M p fd d (Socket.setAbortOnClose t M.traced.serve fd) fun r d' =>
      d.Keeps d' ∧ (r = .ok () → d'.abortOnClose = true) := by
  have hset : d.setsockopt t.endian Sys.solSocket Sys.soLinger
      (Sys.Linger.codec.put t.endian { lOnoff := 1, lLinger := 0 }) =
        { d with abortOnClose := true } := by
    rw [Desc.setsockopt, if_neg (by decide), if_pos ⟨rfl, rfl⟩, Codec.get_put]
    rfl
  have hkeeps : d.Keeps { d with abortOnClose := true } := ⟨⟨rfl, id, fun _ => rfl⟩, rfl, rfl⟩
  rw [← hset] at hkeeps
  apply On.setsockopt _ hmay hkeeps.toRetains
  · refine ⟨hkeeps, fun _ => ?_⟩
    rw [hset]
  · exact fun _ => ⟨.refl d, nofun⟩

theorem Borrows.setTimeout (hmay : p.may fd) (abi : Abi) (opt : Int32) (h : opt ≠ Sys.soLinger)
    (dur : Option Duration) :
    Borrows M p fd d (Io.of
      (Socket.setTimeout abi.libc (setTimeval t abi M.traced.serve fd) opt dur)) := by
  rw [setTimeout_on]
  apply (Borrows.lift (ends_timevalFor _ dur)).bind
  intro tv d' _
  exact Borrows.setsockopt hmay _ _ (fun hopt => absurd hopt.1 (by decide)) fun hopt => h hopt.2

theorem Borrows.timeout (hmay : p.may fd) (abi : Abi) (opt : Int32) :
    Borrows M p fd d (Io.of (Socket.timeout abi.libc (getTimeval t abi M.traced.serve fd) opt)) := by
  rw [timeout_on]
  apply (Borrows.getsockopt hmay _ fun hopt => absurd hopt.1 (by decide)).bind
  intro tv d' _
  exact Borrows.lift (ends_durationOf tv)

/-- No setter changes what the table has of a socket, but that it is closed with an ABORT. -/
theorem SetOption.borrows (hmay : p.may fd) (abi : Abi) (o : SetOption) :
    Borrows M p fd d (o.set t abi M.traced.serve fd) := by
  cases o with
  | sendTimeout dur => exact Borrows.setTimeout hmay abi Sys.soSndtimeo (by decide) dur
  | recvTimeout dur => exact Borrows.setTimeout hmay abi Sys.soRcvtimeo (by decide) dur
  | sendBufferSize size | recvBufferSize size =>
    apply (Borrows.lift (ends_checkedBufferSize size)).bind
    intro v d' _
    exact Borrows.setsockopt hmay _ _ (by decide) (by decide)
  | peerAddrParams assocId addr params =>
    apply (Borrows.lift (ends_packAddress addr)).bind
    intro v d' _
    exact Borrows.setsockopt hmay _ _ (by decide) (by decide)
  | primary assocId addr =>
    apply (Borrows.lift (ends_packAddress (some addr))).bind
    intro v d' _
    exact Borrows.setsockopt hmay _ _ (by decide) (by decide)
  | abortOnClose =>
    apply (On.setAbortOnClose hmay).mono
    rintro r d' ⟨hkeeps, -⟩
    exact hkeeps
  | _ => exact Borrows.setsockopt hmay _ _ (by decide) (by decide)

theorem Borrows.style (hmay : p.may fd) : Borrows M p fd d (Socket.style t M.traced.serve fd) := by
  apply (Borrows.getsockopt hmay _ (by decide)).bind
  intro kind d' _
  split
  · exact Borrows.pure _
  · split
    · exact Borrows.pure _
    · exact Borrows.err fun _ => by decide

theorem GetOption.borrows (hmay : p.may fd) (abi : Abi) (q : GetOption) :
    Borrows M p fd d (q.get t abi M.traced.serve fd) := by
  cases q with
  | sendTimeout | recvTimeout => exact Borrows.timeout hmay abi _
  | style => exact Borrows.style hmay
  | rtoInfo | assocInfo | delayedSack =>
    apply (Borrows.getsockoptInout hmay _ _ (by decide)).bind
    intro raw d' _
    exact Borrows.pure _
  | assocStats =>
    apply (Borrows.getsockoptInout hmay _ _ (by decide)).bind
    intro raw d' _
    exact Borrows.lift (ends_assocStats raw)
  | status =>
    apply (Borrows.getsockoptInout hmay _ _ (by decide)).bind
    intro raw d' _
    exact Borrows.lift (ends_assocStatus raw)
  | peerAddrInfo assocId addr =>
    apply (Borrows.lift (ends_packAddress (some addr))).bind
    intro storage d' _
    apply (Borrows.getsockoptInout hmay _ _ (by decide)).bind
    intro raw d' _
    exact Borrows.lift (ends_peerAddrInfo raw)
  | peerAddrParams assocId addr =>
    apply (Borrows.lift (ends_packAddress addr)).bind
    intro storage d' _
    apply (Borrows.getsockoptInout hmay _ _ (by decide)).bind
    intro raw d' _
    exact Borrows.pure _
  | _ =>
    apply (Borrows.getsockopt hmay _ (by decide)).bind
    intro v d' _
    exact Borrows.pure _

/-! ## What is read off the table -/

theorem get_overlay_putI32 (e : Endian) (v : Int32) :
    Codec.i32.get e (overlay (zeros Codec.i32.size) (e.putI32 v)) = v := by
  have hlen : (e.putI32 v).length = (zeros Codec.i32.size).length := by
    rw [Endian.length_putI32, length_zeros]
    rfl
  rw [overlay_of_length_eq hlen]
  exact Codec.i32.get_put e v

/-- `style` tells what the socket is, and never takes one style for the other. -/
theorem On.style (hmay : p.may fd) :
    On M p fd d (Socket.style t M.traced.serve fd) fun r d' =>
      d' = d ∧ (r = .ok .oneToOne → d.soType = Sys.sockStream) ∧
        (r = .ok .oneToMany → d.soType = Sys.sockSeqpacket) := by
  unfold Socket.style Socket.getsockopt
  rw [bind_assoc]
  apply On.getsockopt hmay (by decide)
  · intro ret reply hread
    rw [pure_bind, hread.1 rfl rfl, get_overlay_putI32]
    split
    · next hstream => exact On.pure ⟨rfl, fun _ => hstream, nofun⟩
    · split
      · next hseq => exact On.pure ⟨rfl, nofun, fun _ => hseq⟩
      · exact On.err (fun _ => by decide) ⟨rfl, nofun, nofun⟩
  · intro errno
    exact ⟨rfl, nofun, nofun⟩

theorem On.isListening (hmay : p.may fd) :
    On M p fd d (Socket.isListening t M.traced.serve fd) fun r d' =>
      d' = d ∧ (r = .ok true → d.listening = true) := by
  unfold Socket.isListening Socket.flag Socket.getsockopt
  rw [bind_assoc]
  apply On.getsockopt hmay (by decide)
  · intro ret reply hread
    rw [pure_bind, hread.2 rfl rfl, get_overlay_putI32]
    refine On.pure ⟨rfl, ?_⟩
    cases d.listening with
    | true => exact fun _ => rfl
    | false => exact nofun
  · intro errno
    exact ⟨rfl, nofun⟩

/-! ## Non-blocking mode -/

theorem or_nonblock_and (flags : Int32) :
    (flags ||| Sys.oNonblock) &&& Sys.oNonblock = Sys.oNonblock := by
  apply Int32.toBitVec_inj.mp
  apply BitVec.eq_of_getLsbD_eq
  intro i _
  simp only [Int32.toBitVec_and, Int32.toBitVec_or, BitVec.getLsbD_and, BitVec.getLsbD_or]
  cases flags.toBitVec.getLsbD i <;> simp

theorem and_not_nonblock_and (flags : Int32) :
    flags &&& ~~~Sys.oNonblock &&& Sys.oNonblock = 0 := by
  rw [Int32.and_assoc, Int32.not_and_self, Int32.and_zero]

/-- The flags that `set_nonblocking` asks for. -/
theorem isNonblocking_of_flags {flags new : Int32} {nonblocking : Bool}
    (hnew : new = if nonblocking then flags ||| Sys.oNonblock else flags &&& ~~~Sys.oNonblock)
    {d : Desc} (hd : d.flags &&& Sys.oNonblock = new &&& Sys.oNonblock) :
    d.isNonblocking = nonblocking := by
  rw [Desc.isNonblocking, hd, hnew]
  cases nonblocking with
  | true =>
    rw [if_pos rfl, or_nonblock_and]
    rfl
  | false =>
    rw [if_neg (by decide), and_not_nonblock_and]
    rfl

/-- On success the mode is the one that was asked for; nothing else changes. -/
theorem On.setNonblocking (hmay : p.may fd) (nonblocking : Bool) :
    On M p fd d (Socket.setNonblocking M.traced.serve fd nonblocking) fun r d' =>
      (∃ flags, d' = { d with flags }) ∧ (r = .ok () → d'.isNonblocking = nonblocking) := by
  apply On.plain hmay rfl rfl
  · intro T i ret reply T' hopen hret hdoes
    cases hdoes with
    | failed herror => cases hret.symm.trans herror
    | inert _ hc => cases hc
    | getfl hflags hopen' =>
    obtain ⟨rfl, rfl⟩ := hopen.unique hopen'
    obtain rfl : d.flags = ret := Except.ok.inj (hflags.symm.trans hret)
    apply hopen.worked
    dsimp only
    generalize hnew : (if nonblocking = true then d.flags ||| Sys.oNonblock
      else d.flags &&& ~~~Sys.oNonblock) = new
    split
    · apply On.plain hmay rfl rfl
      · intro T i ret reply T' hopen hret hdoes
        cases hdoes with
        | failed herror => cases hret.symm.trans herror
        | inert _ hc => cases hc
        | setfl _ hopen' hflags =>
        obtain ⟨rfl, rfl⟩ := hopen.unique hopen'
        refine ⟨_, rfl, ⟨rfl, id, id⟩, On.pure ⟨⟨_, rfl⟩, fun _ => ?_⟩⟩
        exact isNonblocking_of_flags hnew.symm hflags
      · exact fun _ => ⟨⟨d.flags, rfl⟩, nofun⟩
    · next hsame =>
      refine On.pure ⟨⟨d.flags, rfl⟩, fun _ => isNonblocking_of_flags hnew.symm ?_⟩
      rw [not_not.mp hsame]
  · exact fun _ => ⟨⟨d.flags, rfl⟩, nofun⟩

theorem On.listen (hmay : p.may fd) (backlog : Int32) :
    On M p fd d (Socket.listen M.traced.serve fd backlog) fun _ d' =>
      ∃ listening, d' = { d with listening } := by
  apply On.plain hmay rfl rfl
  · intro T i ret reply T' hopen hret hdoes
    cases hdoes with
    | failed herror => cases hret.symm.trans herror
    | inert _ hc => cases hc
    | listen _ hopen' =>
    obtain ⟨rfl, rfl⟩ := hopen.unique hopen'
    exact ⟨_, rfl, ⟨rfl, id, id⟩, On.pure ⟨_, rfl⟩⟩
  · exact fun _ => ⟨d.listening, rfl⟩

/-! ## Connection setup -/

/-- A call that could wait, where waiting is allowed or cannot happen. -/
theorem good_of_wait {c : Syscall} {T : Table} {i : Nat} (hmay : p.may fd) (hfd : c.fd? = some fd)
    (hshut : ∀ how, c ≠ .shutdown fd how) (hwait : p.async → d.isNonblocking = true)
    (hopen : T.Has fd i d) : Good p (T, c) := by
  intro fd' hfd'
  obtain rfl := Option.some.inj (hfd.symm.trans hfd')
  refine ⟨hmay, i, d, hopen, ?_, fun hasync _ => hwait hasync⟩
  rintro ⟨how, hhow⟩
  exact absurd hhow (hshut how)

theorem ends_packName (addr : SocketAddr) : Ends M p (packName t addr) := by
  have hlen : addr.wireLen ≤ (zeros 128).length := by
    rw [length_zeros]
    exact addr.wireLen_le.trans (by decide)
  rw [packName, Addr.writeSockaddr_eq hlen]
  exact trivial

theorem Borrows.bind_ (hmay : p.may fd) (addr : SocketAddr) :
    Borrows M p fd d (Socket.bind t M.traced.serve fd addr) := by
  apply (Borrows.lift (ends_packName addr)).bind
  rintro ⟨storage, len⟩ d' _
  apply On.inert rfl
  · intro T i
    exact good_of_plain hmay rfl rfl fun _ => nofun
  · exact fun _ _ => Borrows.pure _
  · exact fun _ => .refl d'

theorem Borrows.connect (hmay : p.may fd) (hwait : p.async → d.isNonblocking = true)
    (addr : SocketAddr) : Borrows M p fd d (Socket.connect t M.traced.serve fd addr) := by
  apply (Borrows.lift (ends_packName addr)).bind
  rintro ⟨storage, len⟩ d' hd'
  apply On.inert rfl
  · intro T i
    exact good_of_wait hmay rfl (fun _ => nofun) fun hasync => hd'.nonblocking.trans (hwait hasync)
  · exact fun _ _ => Borrows.pure _
  · exact fun _ => .refl d'

/-- `bindx` in terms of system calls. -/
theorem bindx_on {K : Type} (sys : Syscalls K) (fd : Int32) (addrs : List SocketAddr) (opt : Int32) :
    Io.of (bindx t.endian (addrCalls t sys fd) addrs opt) = (do
      let _ ← callCvt sys (.setsockopt fd Sys.solSctp opt (Addr.layoutList t.endian addrs)
        (UInt32.ofNat (Addr.layoutList t.endian addrs).length))
      pure ()) := by
  funext k
  change bindx t.endian (addrCalls t sys fd) addrs opt k = Io.exec (_ >>= _) k
  rw [Io.exec_bind, callCvt, Io.exec_bind, Io.exec_call, bindx, Addr.packAddrList_eq]
  simp only [addrCalls]
  generalize sys k _ = out
  obtain ⟨⟨ret, bytes, len, msg⟩, k'⟩ := out
  cases ret with
  | ok v => rfl
  | error errno => rfl

/-- An option with a list of addresses, which is no option of the table. -/
theorem Borrows.bindx (hmay : p.may fd) (addrs : List SocketAddr) {opt : Int32}
    (h : opt ≠ Sys.sctpRecvrcvinfo) :
    Borrows M p fd d (Io.of (Socket.bindx t.endian (addrCalls t M.traced.serve fd) addrs opt)) := by
  rw [bindx_on]
  apply On.plain hmay rfl rfl
  · intro T i ret reply T' hopen hret hdoes
    cases hdoes with
    | failed herror => cases hret.symm.trans herror
    | inert _ hc => cases hc
    | setsockopt _ hopen' =>
    obtain ⟨rfl, rfl⟩ := hopen.unique hopen'
    have hkeeps : d.Keeps (d.setsockopt t.endian Sys.solSctp opt (Addr.layoutList t.endian addrs)) :=
      Desc.keeps_setsockopt _ _ _ (fun hopt => h hopt.2) fun hopt => absurd hopt.1 (by decide)
    exact ⟨_, rfl, hkeeps.toRetains, On.pure hkeeps⟩
  · exact fun _ => .refl d

/-- `connectx` with a list that is not empty, in terms of system calls. -/
theorem connectx_on {K : Type} (sys : Syscalls K) (fd : Int32) {addrs : List SocketAddr}
    (h : addrs ≠ []) :
    connectxOn t sys fd addrs = (do
      let reply ← Io.call sys (.getsockoptAddrs fd Sys.solSctp Sys.sctpSockoptConnectx3 0
        (Int32.ofNat (Addr.layoutList t.endian addrs).length) (Addr.layoutList t.endian addrs)
        (UInt32.ofNat (getaddrsOldSize t.ptr)))
      let assocId : AssocId := ⟨Codec.i32.get t.endian (overlay (zeros 4) reply.out)⟩
      match reply.ret with
      | .ok _ => pure assocId
      | .error errno =>
        if errno = Errno.einprogress then
          let (flags, _) ← callCvt sys (.fcntlGetfl fd)
          Io.lift ((classifyConnectxError (.os errno) flags).map fun _ => assocId)
        else Io.err (.os errno)) := by
  have hne : ¬ addrs.isEmpty = true := by simpa using h
  funext k
  change connectx t (addrCalls t sys fd) addrs k = Io.exec (_ >>= _) k
  rw [Io.exec_bind, Io.exec_call, connectx, if_neg hne, Addr.packAddrList_eq]
  simp only [addrCalls]
  generalize sys k _ = out
  obtain ⟨⟨ret, bytes, len, msg⟩, k'⟩ := out
  cases ret with
  | ok v => rfl
  | error errno =>
    change connectxFailed _ _ _ k' = Io.exec (if errno = Errno.einprogress then _ else _) k'
    unfold connectxFailed
    by_cases herrno : errno = Errno.einprogress
    · subst herrno
      have hraw : (IoError.os Errno.einprogress).rawOsError = some Errno.einprogress := rfl
      rw [if_pos hraw, if_pos rfl, Io.exec_bind, callCvt, Io.exec_bind, Io.exec_call]
      simp only [addrCalls]
      generalize sys k' _ = out
      obtain ⟨⟨ret, bytes', len', msg'⟩, k''⟩ := out
      cases ret with
      | ok flags => rfl
      | error errno => rfl
    · have hraw : (IoError.os errno).rawOsError ≠ some Errno.einprogress :=
        fun hraw => herrno (Option.some.inj hraw)
      rw [if_neg hraw, if_neg herrno, classifyConnectxError, if_pos hraw]
      rfl

theorem classifyConnectxError_einprogress (flags : Int32) :
    classifyConnectxError (.os Errno.einprogress) flags =
      if flags &&& Sys.oNonblock ≠ 0 then .ok () else Res.err setupTimedOut :=
  if_neg fun h => h rfl

/-- On a socket that does not block, an association that is being set up in the
    background is never taken for one that has timed out. -/
theorem On.connectx (hmay : p.may fd) (hwait : p.async → d.isNonblocking = true)
    (addrs : List SocketAddr) :
    On M p fd d (connectxOn t M.traced.serve fd addrs) fun _ d' => d' = d := by
  cases addrs with
  | nil => exact On.err (fun _ => by decide) rfl
  | cons addr addrs =>
  rw [connectx_on M.traced.serve fd (List.cons_ne_nil addr addrs)]
  apply On.call
  · intro T i
    exact good_of_wait hmay rfl (fun _ => nofun) hwait
  · intro T i k T' hopen hdoes
    rw [hdoes.of_inert rfl]
    apply hopen.worked
    dsimp only
    split
    · exact On.pure rfl
    · split
      · next hprogress =>
        apply On.plain hmay rfl rfl
        · intro T i ret reply T' hopen hret hdoes
          cases hdoes with
          | failed herror => cases hret.symm.trans herror
          | inert _ hc => cases hc
          | getfl hflags hopen' =>
          obtain ⟨rfl, rfl⟩ := hopen.unique hopen'
          obtain rfl : d.flags = ret := Except.ok.inj (hflags.symm.trans hret)
          apply hopen.worked
          rw [hprogress, classifyConnectxError_einprogress]
          split
          · exact On.pure rfl
          · next hblock =>
            refine On.err (fun hasync => ?_) rfl
            exact absurd (of_decide_eq_true (hwait hasync)) hblock
        · exact fun _ => rfl
      · exact On.err (fun _ => nofun) rfl

theorem ends_readName {name : Reply} (h : name.len ≤ 128) {bad : IoError}
    (hbad : bad ≠ setupTimedOut) :
    Ends M p (readName t name bad) := by
  have hlen : name.len.toNat ≤ (overlay (zeros 128) name.out).length := by
    rw [length_overlay, length_zeros]
    exact h
  obtain ⟨o, ho⟩ := readAddress_total t.endian
    (((overlay (zeros 128) name.out).drop 0).take (name.len.toNat - 0))
  rw [readName, sliceTo, slice_ok (Nat.zero_le _) hlen, Res.ok_bind, ho, Res.ok_bind]
  cases o with
  | none => exact fun _ => hbad
  | some addr => exact trivial

/-- A query for one of the names of the socket. -/
theorem Borrows.name {c : Syscall} (hmay : p.may fd)
    (hc : c = .getsockname fd 128 ∨ c = .getpeername fd 128) {bad : IoError}
    (hbad : bad ≠ setupTimedOut) :
    Borrows M p fd d (do
      let (_, name) ← callCvt M.traced.serve c
      Io.lift (readName t name bad)) := by
  apply On.plain hmay
  · rcases hc with rfl | rfl <;> rfl
  · rcases hc with rfl | rfl <;> rfl
  · intro T i ret reply T' hopen hret hdoes
    rcases hc with rfl | rfl
    · cases hdoes with
      | failed herror => cases hret.symm.trans herror
      | inert _ hc => cases hc
      | getsockname _ _ hlen => exact hopen.worked (Borrows.lift (ends_readName hlen hbad))
    · cases hdoes with
      | failed herror => cases hret.symm.trans herror
      | inert _ hc => cases hc
      | getpeername _ _ hlen => exact hopen.worked (Borrows.lift (ends_readName hlen hbad))
  · exact fun _ => .refl d

theorem Borrows.localAddr (hmay : p.may fd) :
    Borrows M p fd d (Socket.localAddr t M.traced.serve fd) :=
  Borrows.name hmay (.inl rfl) (by decide)

theorem Borrows.peerAddr (hmay : p.may fd) :
    Borrows M p fd d (Socket.peerAddr t M.traced.serve fd) :=
  Borrows.name hmay (.inr rfl) (by decide)

/-- `shutdown(2)` is called only after the style was found to be one-to-one. -/
theorem Borrows.shutdown (hmay : p.may fd) (how : Shutdown) :
    Borrows M p fd d (Socket.shutdown t M.traced.serve fd how) := by
  apply (On.style hmay).bind
  · rintro style d' ⟨rfl, hone, -⟩
    cases style with
    | oneToMany => exact Borrows.err fun _ => by decide
    | oneToOne =>
    have hstream : d'.soType = Sys.sockStream := hone rfl
    apply On.inert rfl
    · intro T i hopen fd' hfd'
      obtain rfl := Option.some.inj hfd'
      refine ⟨hmay, i, d', hopen, fun _ => ?_, fun _ => nofun⟩
      rw [hstream]
      decide
    · exact fun _ _ => Borrows.pure _
    · exact fun _ => .refl d'
  · rintro fault d' ⟨rfl, -⟩
    exact .refl d'

/-! ## New descriptors -/

/-- What the option for receive metadata changes. -/
theorem On.enableRcvinfo (hmay : p.may fd) :
    On M p fd d (Socket.enableRcvinfo t M.traced.serve fd) fun r d' =>
      d.Keeps d' ∧ (r = .ok () → d'.rcvinfo = true) := by
  have hset : d.setsockopt t.endian Sys.solSctp Sys.sctpRecvrcvinfo (Codec.i32.put t.endian 1) =
      { d with rcvinfo := true } := by
    rw [Desc.setsockopt, if_pos ⟨rfl, rfl⟩, Codec.get_put]
    rfl
  have hkeeps : d.Keeps { d with rcvinfo := true } := ⟨⟨rfl, fun _ => rfl, id⟩, rfl, rfl⟩
  rw [← hset] at hkeeps
  apply On.setsockopt _ hmay hkeeps.toRetains
  · refine ⟨hkeeps, fun _ => ?_⟩
    rw [hset]
  · exact fun _ => ⟨.refl d, nofun⟩

/-- The number of a new descriptor is one that can be owned. -/
theorem lift_ownedFd_bind {K : Type} (h : 0 ≤ fd) (f : Int32 → Io K α) :
    (Io.lift (ownedFd fd) >>= f) = f fd := by
  have hne : fd ≠ -1 := by
    rintro rfl
    exact absurd h (by decide)
  rw [ownedFd, if_neg hne]
  exact pure_bind fd f

/-- The scope that sets up a new socket: it ends with the option set, or the socket
    closed. -/
theorem Takes.setUp {f : Int32 → Io (K × FdKernel.Trace) α} {R : α → Desc → Prop}
    (hmay : p.may fd) (hfd : 0 ≤ fd)
    (hf : ∀ d', d.Keeps d' → d'.rcvinfo = true →
      On M p fd d' (f fd) fun r d'' => ∀ a, r = .ok a → R a d'') :
    Takes M p fd d (do
      let fd ← Io.lift (ownedFd fd)
      closing M.traced.serve fd (do Socket.enableRcvinfo t M.traced.serve fd; f fd)) R := by
  rw [lift_ownedFd_bind hfd]
  apply Takes.closing hmay
  apply (On.enableRcvinfo hmay).bind
  · rintro _ d' ⟨hkeeps, hrcvinfo⟩
    exact hf d' hkeeps (hrcvinfo rfl)
  · intro fault d' _ a h
    cases h

/-- A descriptor that is closed on `exec`. -/
theorem entry_created {flags : Int32} (file : Nat) (h : flags &&& Sys.sockCloexec ≠ 0) :
    Entry.created file flags = ⟨file, true⟩ := by
  rw [Entry.created, decide_eq_true h]

theorem Makes.new {T : Table} (hmay : ∀ fd, T.entries fd = none → p.may fd) (family : Family)
    (style : Style) :
    Makes M p T (Socket.new t M.traced.serve family style) id fun _ d =>
      d.rcvinfo = true ∧ d.soType = typeOf style := by
  apply Makes.bind (R := fun _ d => d.soType = typeOf style)
  · apply Makes.callCvt (g := Prod.fst)
    · exact fun _ => nofun
    · exact fun _ => nofun
    · intro ret reply T' hret hdoes
      cases hdoes with
      | failed herror => cases hret.symm.trans herror
      | inert _ hc => cases hc
      | socket hfd hfresh hd hty =>
      obtain rfl := Except.ok.inj (hret.symm.trans hfd)
      refine ⟨_, _, hfresh, ?_, hty.trans ?_⟩
      · rw [entry_created]
        cases style <;> decide
      · cases style <;> decide
  · rintro ⟨fd, reply⟩ i d hfresh hty
    apply Takes.setUp (hmay fd hfresh.free) hfresh.nonneg
    intro d' hkeeps hrcvinfo
    exact On.returns ⟨rfl, fun _ => ⟨hrcvinfo, hkeeps.soType.trans hty⟩⟩

theorem Makes.acceptWithFlags {T : Table} {i : Nat} {flags : Int32} (hopen : T.Has fd i d)
    (hfd : p.may fd) (hmay : ∀ fd, T.entries fd = none → p.may fd)
    (hwait : p.async → d.isNonblocking = true) (hflags : flags &&& Sys.sockCloexec ≠ 0) :
    Makes M p T (Socket.acceptWithFlags t M.traced.serve fd flags) Prod.fst fun _ d =>
      d.rcvinfo = true ∧ (flags &&& Sys.sockNonblock ≠ 0 → d.isNonblocking = true) := by
  apply Makes.bind (R := fun a d => a.2.len ≤ 128 ∧
    (flags &&& Sys.sockNonblock ≠ 0 → d.isNonblocking = true))
  · apply Makes.callCvt (g := Prod.fst)
    · exact good_of_wait hfd rfl (fun _ => nofun) hwait hopen
    · exact fun _ => nofun
    · intro ret reply T' hret hdoes
      cases hdoes with
      | failed herror => cases hret.symm.trans herror
      | inert _ hc => cases hc
      | accept4 hsd hopen' hfresh hd hty hlen =>
        obtain rfl := Except.ok.inj (hret.symm.trans hsd)
        exact ⟨_, _, hfresh, by rw [entry_created _ hflags], hlen, hd.1.mpr⟩
  · rintro ⟨sd, name⟩ i d hfresh ⟨hlen, hnonblock⟩
    apply Takes.setUp (f := fun sd => do
      let peer ← Io.lift (readName t name badPeerSockaddr)
      Pure.pure (sd, peer)) (hmay sd hfresh.free) hfresh.nonneg
    intro d' hkeeps hrcvinfo
    apply On.bind (R := fun r d'' => d'' = d') (On.lift (ends_readName hlen (by decide)) rfl)
    · rintro peer d'' rfl
      exact On.returns ⟨rfl, fun _ => ⟨hrcvinfo, fun h => hkeeps.nonblocking.trans (hnonblock h)⟩⟩
    · intro fault d'' _ a h
      cases h

theorem Makes.peeloffWithFlags {T : Table} {i : Nat} {flags : Int32} (hopen : T.Has fd i d)
    (hfd : p.may fd) (hmay : ∀ fd, T.entries fd = none → p.may fd) (assocId : AssocId)
    (hflags : flags &&& Sys.sockCloexec ≠ 0) :
    Makes M p T (Socket.peeloffWithFlags t M.traced.serve fd assocId flags) id fun _ d =>
      d.rcvinfo = true ∧ (flags &&& Sys.sockNonblock ≠ 0 → d.isNonblocking = true) := by
  rw [Socket.peeloffWithFlags, getsockoptInout, bind_assoc]
  apply Makes.bind (R := fun _ d => flags &&& Sys.sockNonblock ≠ 0 → d.isNonblocking = true)
  · apply Makes.callCvt
      (g := fun a => (Sys.SctpPeeloffFlagsArg.codec.get t.endian (overlay
        (Sys.SctpPeeloffFlagsArg.codec.put t.endian ⟨assocId.val, -1, flags.toUInt32⟩) a.2.out)).sd)
    · exact good_of_plain hfd rfl rfl (fun _ => nofun) hopen
    · exact fun _ => nofun
    · intro ret reply T' hret hdoes
      cases hdoes with
      | failed herror => cases hret.symm.trans herror
      | inert _ hc => cases hc
      | getsockopt _ _ _ hpeel => exact absurd ⟨rfl, rfl⟩ hpeel
      | peeloff _ hopen' hfresh hsd hd =>
        subst hsd
        rw [Codec.get_put] at hd ⊢
        have hcast : flags.toUInt32.toInt32 = flags := rfl
        simp only [hcast] at hd ⊢
        exact ⟨_, _, hfresh, by rw [entry_created _ hflags], hd.1.mpr⟩
  · rintro ⟨ret, reply⟩ i d hfresh hnonblock
    rw [pure_bind]
    apply Takes.setUp (hmay _ hfresh.free) hfresh.nonneg
    intro d' hkeeps hrcvinfo
    exact On.returns ⟨rfl, fun _ => ⟨hrcvinfo, fun h => hkeeps.nonblocking.trans (hnonblock h)⟩⟩

end Socket

end Lksctp
