-- SUMMARY: `recv_msg` and the address queries against a kernel of which nothing is known but that it keeps to the sizes of the buffers.
import Lksctp.AddrList
import Lksctp.CmsgWalk
import Lksctp.Syscall
import Lksctp.Socket.Metadata
import Lksctp.Socket.Addrs

/-!
# Against any kernel

The rest of the development takes a kernel that behaves: one whose queue holds
well-formed notifications and whose control data is well-formed. The parsers of
the crate do not rely on that. Here the kernel is arbitrary, but for the one thing
that unsafe code must rely on: it does not write more into a buffer than it was
told the buffer holds.
-/

namespace Lksctp

open Rust Machine Kernel

namespace Socket

/-- A failure that is reported: an error number of the kernel, or `InvalidData`. -/
def Reported : Fault → Prop
  | .panic _ => False
  | .err (.os _) => True
  | .err (.custom kind _) => kind = .invalidData

/-- The call returns a value, or a failure that is reported. -/
def Ordinary {α : Type} (r : Res α) : Prop := ∀ fault, r = .error fault → Reported fault

/-- The only failure is `InvalidData`. -/
def OnlyInvalid {α : Type} (r : Res α) : Prop :=
  ∀ fault, r = .error fault → ∃ msg, fault = .err (.custom .invalidData msg)

theorem OnlyInvalid.ok {α : Type} (a : α) : OnlyInvalid (.ok a : Res α) := nofun

theorem OnlyInvalid.err {α : Type} (msg : String) :
    OnlyInvalid (Res.err (.custom .invalidData msg) : Res α) := by
  intro fault h
  cases h
  exact ⟨msg, rfl⟩

theorem OnlyInvalid.ite {α : Type} {c : Prop} [Decidable c] {r r' : Res α} (h : OnlyInvalid r)
    (h' : OnlyInvalid r') : OnlyInvalid (if c then r else r') := by
  split
  · exact h
  · exact h'

theorem OnlyInvalid.parse (e : Endian) (b : Bytes) : OnlyInvalid (Notification.parse e b) := by
  intro fault h
  obtain ⟨msg, rfl⟩ := Notification.FailsInvalid.parse e b fault h
  exact ⟨_, rfl⟩

theorem OnlyInvalid.map {α β : Type} {r : Res α} (h : OnlyInvalid r) (f : α → β) :
    OnlyInvalid (r.map f) := by
  intro fault hfault
  cases r with
  | ok a => cases hfault
  | error fault' =>
    cases hfault
    exact h fault rfl

theorem OnlyInvalid.bind {α β : Type} {r : Res α} {f : α → Res β} (h : OnlyInvalid r)
    (hf : ∀ a, OnlyInvalid (f a)) : OnlyInvalid (r >>= f) := by
  cases r with
  | ok a => exact hf a
  | error fault =>
    intro fault' hfault
    cases hfault
    exact h fault rfl

/-- What becomes of a reply: the error number of a failed system call is passed on, and a
    reply that is not as it should be is `InvalidData`. -/
def Passes {α β : Type} (reply : Except Errno α) (r : Res β) : Prop :=
  match reply with
  | .error errno => r = Res.err (.os errno)
  | .ok _ => OnlyInvalid r

theorem Passes.ordinary {α β : Type} {reply : Except Errno α} {r : Res β} (h : Passes reply r) :
    Ordinary r := by
  intro fault hfault
  cases reply with
  | error errno =>
    obtain rfl := Except.error.inj (h.symm.trans hfault)
    trivial
  | ok a =>
    obtain ⟨msg, rfl⟩ := h fault hfault
    exact rfl

theorem Passes.map {α β γ : Type} {reply : Except Errno α} {r : Res β} (h : Passes reply r)
    (f : β → γ) : Passes reply (r.map f) := by
  cases reply with
  | error errno => exact congrArg (Except.map f) h
  | ok a => exact OnlyInvalid.map h f

theorem Passes.bind {α β γ : Type} {reply : Except Errno α} {r : Res β} {f : β → Res γ}
    (h : Passes reply r) (hf : ∀ b, OnlyInvalid (f b)) : Passes reply (r >>= f) := by
  cases reply with
  | error errno => exact congrArg (· >>= f) h
  | ok a => exact OnlyInvalid.bind h hf

/-! ## Receiving -/

/-- A kernel that stays in the buffers of a `msghdr`. What it puts there, and the
    flags it returns, are its own business. -/
def KeepsSizes {K : Type} (serve : Server K RecvReq (Except Errno RecvOut)) : Prop :=
  ∀ k req out, (serve k req).1 = .ok out → out.Within req

/-- The caller's buffer. -/
def RecvState.buf : RecvState → Bytes
  | .first buf _ => buf
  | .reassemble buf _ _ _ => buf

/-- What `reassemble_notification` has collected. -/
def RecvState.held : RecvState → Bytes
  | .first _ _ => []
  | .reassemble _ _ out _ => out

/-- A call that is under way, for a caller with a buffer of this length. -/
structure RecvState.Fits (len : Nat) (s : RecvState) : Prop where
  buf : s.buf.length = len
  held : s.held.length ≤ max len maxNotification

/-- What a call has returned is in the buffer of such a caller. -/
structure Received.Sized (len : Nat) (r : Received) : Prop where
  buf : r.buf.length = len
  data : ∀ n info eor sender, r.result = .ok (.data n info eor, sender) → n ≤ len

/-- A call that has returned to such a caller. -/
structure Received.Fits (len : Nat) (r : Received) : Prop extends r.Sized len where
  ordinary : Ordinary r.result

theorem senderOf_total (t : Target) (wantFrom : Bool) (name : Bytes) :
    ∃ sender, senderOf t wantFrom name = .ok sender := by
  unfold senderOf
  split
  · obtain ⟨o, ho⟩ := Addr.readSockaddr_total t.endian name
    rw [ho]
    exact ⟨_, rfl⟩
  · exact ⟨none, rfl⟩

/-- No control data makes the loop over it fail. -/
theorem rcvInfo_total (t : Target) {control : Bytes} (h : control.length ≤ rcvCmsgSpace) :
    ∃ info, rcvInfo t control = .ok info := by
  have hmax : control.length ≤ t.ptr.isizeMax :=
    h.trans (by cases t.ptr <;> decide)
  obtain ⟨m, -, hiter⟩ := Cmsg.iter_drop hmax 0
  rw [List.drop_zero] at hiter
  rw [rcvInfo, hiter, Res.ok_bind, foldlM_rcvInfoStep]
  exact ⟨_, rfl⟩

/-- The result of a call follows its last reply. -/
theorem passes_first (t : Target) {buf : Bytes} {wantFrom : Bool} {reply : Except Errno RecvOut}
    {r : Received}
    (hwithin : ∀ out, reply = .ok out → out.Within ((recvMsg t).request (.first buf wantFrom)))
    (h : firstStep t buf wantFrom reply = .done r) : Passes reply r.result := by
  cases reply with
  | error e =>
    cases h
    rfl
  | ok out =>
    obtain ⟨sender, hsender⟩ := senderOf_total t wantFrom out.name
    obtain ⟨info, hinfo⟩ := rcvInfo_total t (hwithin out rfl).control
    simp only [firstStep, hsender] at h
    split at h
    · cases h
      rw [hinfo]
      exact OnlyInvalid.ok _
    · split at h
      · cases h
      · cases h
        exact (OnlyInvalid.parse _ _).map _

theorem Received.Sized.notification {len : Nat} {buf : Bytes} {sender : Option SocketAddr}
    (hbuf : buf.length = len) (r : Res Notification) :
    Received.Sized len ⟨r.map fun p => (.notification p, sender), buf⟩ where
  buf := hbuf
  data n info eor sender h := by
    cases r with
    | error fault => cases h
    | ok p => cases h

/-- What a step of a call must keep. -/
def FitsStep (len : Nat) : Step RecvState Received → Prop
  | .next s => s.Fits len
  | .done r => r.Sized len

theorem fitsStep_first (t : Target) {buf : Bytes} {wantFrom : Bool} {reply : Except Errno RecvOut}
    (hwithin : ∀ out, reply = .ok out → out.Within ((recvMsg t).request (.first buf wantFrom))) :
    FitsStep buf.length (firstStep t buf wantFrom reply) := by
  cases reply with
  | error e =>
    refine ⟨rfl, ?_⟩
    intro n info eor sender h
    cases h
  | ok out =>
    have hle : out.bytes.length ≤ buf.length := (hwithin out rfl).bytes
    have hbuf : (out.bytes ++ buf.drop out.bytes.length).length = buf.length := by
      rw [List.length_append, List.length_drop]
      omega
    obtain ⟨sender, hsender⟩ := senderOf_total t wantFrom out.name
    obtain ⟨info, hinfo⟩ := rcvInfo_total t (hwithin out rfl).control
    simp only [firstStep, hsender]
    split
    · rw [hinfo]
      refine ⟨hbuf, ?_⟩
      intro n info eor sender h
      cases h
      exact hle
    · split
      · exact ⟨hbuf, hle.trans (le_max_left _ _)⟩
      · exact .notification hbuf _

/-- A round of the loop goes on with the bytes it had, or with at most 1 MiB. -/
theorem reassembleStep_next {out out' : Bytes} {oversized oversized' : Bool}
    {reply : Except Errno RecvOut} (h : reassembleStep out oversized reply = .next (out', oversized')) :
    out'.length ≤ max out.length maxNotification := by
  cases reply with
  | error e => cases h
  | ok msg =>
    by_cases hfull : out.length + msg.bytes.length > maxNotification
    · simp only [reassembleStep, hfull, if_true] at h
      split at h
      · cases h
      · split at h
        · cases h
          exact le_max_left _ _
        · cases h
    · simp only [reassembleStep, hfull, if_false] at h
      split at h
      · cases h
      · split at h
        · cases h
          rw [List.length_append]
          omega
        · cases h

theorem reassembleStep_done {out : Bytes} {oversized : Bool} {reply : Except Errno RecvOut}
    {r : Res Bytes} (h : reassembleStep out oversized reply = .done r) : Passes reply r := by
  cases reply with
  | error e =>
    cases h
    rfl
  | ok msg =>
    simp only [reassembleStep] at h
    split at h
    · cases h
      exact OnlyInvalid.err _
    · split at h
      · cases h
      · cases h
        exact OnlyInvalid.ite (.err _) (.ok _)

theorem fitsStep_reassemble (t : Target) {len : Nat} {buf out : Bytes}
    {sender : Option SocketAddr} {oversized : Bool}
    (h : RecvState.Fits len (.reassemble buf sender out oversized)) (reply : Except Errno RecvOut) :
    FitsStep len ((recvMsg t).resume (.reassemble buf sender out oversized) reply) := by
  have hheld : out.length ≤ max len maxNotification := h.held
  unfold recvMsg
  simp only
  cases hround : reassembleStep out oversized reply with
  | next state =>
    have hle := reassembleStep_next hround
    refine ⟨h.buf, hle.trans ?_⟩
    exact max_le hheld (le_max_right _ _)
  | done assembled => exact .notification h.buf _

/-- A call of `recv_msg` ends with what it makes of its last reply. -/
theorem passes_resume (t : Target) {s : RecvState} {reply : Except Errno RecvOut} {r : Received}
    (hwithin : ∀ out, reply = .ok out → out.Within ((recvMsg t).request s))
    (h : (recvMsg t).resume s reply = .done r) : Passes reply r.result := by
  cases s with
  | first buf wantFrom => exact passes_first t hwithin h
  | reassemble buf sender out oversized =>
    unfold recvMsg at h
    simp only at h
    cases hround : reassembleStep out oversized reply with
    | next state =>
      rw [hround] at h
      cases h
    | done assembled =>
      rw [hround] at h
      cases h
      exact ((reassembleStep_done hround).bind (.parse t.endian)).map _

section

variable {K : Type} {serve : Server K RecvReq (Except Errno RecvOut)}

/-- One step of a call, against any kernel that keeps to the sizes. -/
theorem KeepsSizes.step (hserve : KeepsSizes serve) (t : Target) {len : Nat} {s : RecvState} (k : K)
    (h : s.Fits len) :
    FitsStep len ((recvMsg t).resume s (serve k ((recvMsg t).request s)).1) := by
  cases s with
  | first buf wantFrom =>
    obtain rfl : buf.length = len := h.buf
    exact fitsStep_first t fun out hout => hserve k _ out hout
  | reassemble buf sender out oversized => exact fitsStep_reassemble t h _

theorem KeepsSizes.after (hserve : KeepsSizes serve) (t : Target) {buf : Bytes} {wantFrom : Bool}
    {n : Nat} {s : RecvState} {k k' : K}
    (h : (recvMsg t).after serve n (.first buf wantFrom) k = some (s, k')) : s.Fits buf.length := by
  refine Program.after_invariant (I := fun s _ => s.Fits buf.length) ?_ ⟨rfl, Nat.zero_le _⟩ h
  intro s k s' hs hnext
  have hstep := hserve.step t k hs
  rw [hnext] at hstep
  exact hstep

theorem KeepsSizes.recorded (hserve : KeepsSizes serve) : KeepsSizes serve.recorded :=
  fun k => hserve k.1

/-- Whatever the kernel answers, as long as it keeps to the sizes of the buffers: a
    call of `recv_msg` never panics, and it fails only with the error number of its last
    system call, when that has failed, or with `InvalidData`, when it has not. It returns
    no more bytes than the caller's buffer has. At no time has it collected more than
    1 MiB or than the first read brought. -/
theorem recvMsg_any_kernel (t : Target) (hserve : KeepsSizes serve) (buf : Bytes)
    (wantFrom : Bool) (k : K) :
    (∀ n s k', (recvMsg t).after serve n (.first buf wantFrom) k = some (s, k') →
      s.Fits buf.length) ∧
    (∀ r k', (recvMsg t).Returns serve (.first buf wantFrom) k r k' → r.Fits buf.length) ∧
    ∀ r k' log, (recvMsg t).Returns serve.recorded (.first buf wantFrom) (k, []) r (k', log) →
      ∃ req reply, log.getLast? = some (req, reply) ∧ Passes reply r.result := by
  refine ⟨fun n s k' h => hserve.after t h, ?_, ?_⟩
  · intro r k' h
    obtain ⟨n, s, k₁, hafter, hdone, -⟩ := h.last
    have hstep := hserve.step t k₁ (hserve.after t hafter)
    rw [hdone] at hstep
    exact ⟨hstep, (passes_resume t (hserve k₁ _) hdone).ordinary⟩
  · intro r k' log h
    obtain ⟨n, s, k₁, -, hdone, hk⟩ := h.last
    have hlog : k₁.2 ++ [((recvMsg t).request s, _)] = log := congrArg Prod.snd hk
    refine ⟨(recvMsg t).request s, _, ?_, passes_resume t (hserve.recorded k₁ _) hdone⟩
    rw [← hlog]
    exact List.getLast?_concat

end

/-- Every buffer full of ones. The first two reads are parts of a notification,
    the third is something else. -/
def garbage : Server Nat RecvReq (Except Errno RecvOut) := fun k req =>
  (.ok { bytes := List.replicate req.iovLen 255
         flags := if k < 2 then Sys.msgNotification else 0
         control := List.replicate req.controlLen 255
         name := List.replicate req.nameLen 255 }, k + 1)

theorem recvMsg_any_kernel_garbage :
    (recvMsg ⟨.little, .w64⟩).Returns garbage (.first (zeros 8) true) 0
        ⟨Res.err desynchronized, List.replicate 8 255⟩ 3 ∧
      Received.Fits 8 ⟨Res.err desynchronized, List.replicate 8 255⟩ := by
  have hgarbage : KeepsSizes garbage := by
    intro k req out h
    cases h
    constructor <;> simp
  have hrun : (recvMsg ⟨.little, .w64⟩).Returns garbage (.first (zeros 8) true) 0
      ⟨Res.err desynchronized, List.replicate 8 255⟩ 3 := ⟨3, by decide +kernel⟩
  exact ⟨hrun, (recvMsg_any_kernel _ hgarbage (zeros 8) true 0).2.1 _ _ hrun⟩

/-! ## Querying addresses -/

/-- The first buffer of `getaddrs`: room for 64 addresses. -/
def getaddrsCapacity : Nat := 8 + 64 * Addr.sockaddrIn6Len

/-- `getaddrs`, which `local_addrs` and `peer_addrs` call with their options. -/
def Getaddrs {K : Type} (t : Target) (assocId : AssocId) (opt : Int32)
    (serve : Server K AddrsReq (Except Errno Bytes)) (k : K) (r : Res (List SocketAddr))
    (k' : K) : Prop :=
  GetaddrsWithCapacity t assocId opt getaddrsCapacity serve k r k'

/-- A kernel that writes into the buffer of a `getsockopt(2)`. -/
def KeepsLength {K : Type} (serve : Server K AddrsReq (Except Errno Bytes)) : Prop :=
  ∀ k req buf, (serve k req).1 = .ok buf → buf.length = req.optval.length

/-- The count and the addresses are whatever they are: there is a list to return, and
    memory has room for it, since the buffer is small. -/
theorem readQuery_total (t : Target) {buf : Bytes} (h : 8 ≤ buf.length)
    (hmax : buf.length ≤ maxCapacity) : ∃ list, readQuery t buf = .ok list := by
  have hcount : slice buf 4 8 = _ := slice_ok (by decide) h
  have hrest : sliceFrom buf 8 = _ := sliceFrom_ok h
  rw [readQuery, hcount, Res.ok_bind, hrest, Res.ok_bind]
  generalize (t.endian.getU32 ((buf.drop (4 : Nat)).take (8 - 4))).toNat = count
  have hroom : min count ((buf.drop 8).length / Addr.sockaddrInLen) * Addr.sizeOfSocketAddr ≤
      t.ptr.isizeMax := by
    have hlen : (buf.drop 8).length ≤ maxCapacity := by
      rw [List.length_drop]
      omega
    have hentries : (buf.drop 8).length / Addr.sockaddrInLen ≤ maxCapacity / Addr.sockaddrInLen :=
      Nat.div_le_div_right hlen
    have hbound : maxCapacity / Addr.sockaddrInLen * Addr.sizeOfSocketAddr ≤ t.ptr.isizeMax := by
      cases t.ptr <;> decide
    exact (Nat.mul_le_mul_right _ ((min_le_right _ _).trans hentries)).trans hbound
  obtain ⟨r, hr⟩ := Addr.exists_readsList t.endian (buf.drop 8) count
  rw [Addr.readAddrList_eq _ _ hroom]
  exact ⟨_, hr.read _ le_rfl⟩

/-- The requests of a query are the expected ones, one for each attempt. -/
def Asked (t : Target) (assocId : AssocId) (opt : Int32) (log : List AddrsReq) : Prop :=
  log.map AddrsReq.view = (List.range log.length).map fun i =>
    expectedView t.endian assocId opt (attemptCapacity getaddrsCapacity i)

/-- What a query makes of its last reply: the list, or the error number of the kernel. -/
def Answered (reply : Except Errno Bytes) (r : Res (List SocketAddr)) : Prop :=
  match reply with
  | .ok _ => ∃ list, r = .ok list
  | .error errno => r = Res.err (.os errno)

/-- The log ends with a reply that was made this result of. -/
def EndsAnswered (log : List (AddrsReq × Except Errno Bytes)) (r : Res (List SocketAddr)) : Prop :=
  ∃ req reply, log.getLast? = some (req, reply) ∧ Answered reply r

/-- A query that is under way: every attempt so far was below the bound. -/
structure Asking (t : Target) (assocId : AssocId) (opt : Int32) (query : AddrsQuery)
    (log : List AddrsReq) : Prop where
  state : query = queryFor t.endian assocId (attemptCapacity getaddrsCapacity log.length)
  below : ∀ i < log.length, attemptCapacity getaddrsCapacity i < maxCapacity
  asked : Asked t assocId opt log

variable {t : Target} {assocId : AssocId} {opt : Int32} {query : AddrsQuery}
  {log : List AddrsReq}

theorem attemptCapacity_getaddrs_le (i : Nat) : attemptCapacity getaddrsCapacity i ≤ maxCapacity :=
  (attemptCapacity_le _ i).trans (by decide)

theorem Asking.asked_append (h : Asking t assocId opt query log) :
    Asked t assocId opt (log ++ [(addrsLoop t assocId opt).request query]) := by
  have hlt : maxCapacity < 2 ^ 32 := by decide
  have hview := view_queryFor t assocId opt (le_attemptCapacity getaddrsCapacity log.length)
    ((attemptCapacity_getaddrs_le _).trans_lt hlt)
  rw [← h.state] at hview
  have hasked : log.map AddrsReq.view = _ := h.asked
  simp [Asked, List.range_succ, hasked, hview]

/-- The thirteenth attempt is made with the largest capacity. -/
theorem Asking.length_le (h : Asking t assocId opt query log) : log.length ≤ 12 := by
  by_contra hlong
  have hbelow := h.below 12 (by omega)
  exact absurd hbelow (by decide)

theorem Asking.next (h : Asking t assocId opt query log)
    (hlt : attemptCapacity getaddrsCapacity log.length < maxCapacity) :
    Asking t assocId opt
      (queryFor t.endian assocId
        (min (attemptCapacity getaddrsCapacity log.length * 2) maxCapacity))
      (log ++ [(addrsLoop t assocId opt).request query]) where
  state := by rw [List.length_append, List.length_singleton, attemptCapacity_succ hlt]
  below i hi := by
    rw [List.length_append, List.length_singleton] at hi
    rcases Nat.lt_succ_iff_lt_or_eq.mp hi with hi | rfl
    · exact h.below i hi
    · exact hlt
  asked := h.asked_append

section

variable {K : Type} {serve : Server K AddrsReq (Except Errno Bytes)}

theorem EndsAnswered.concat {log : List (AddrsReq × Except Errno Bytes)} {req : AddrsReq}
    {reply : Except Errno Bytes} {r : Res (List SocketAddr)} (h : Answered reply r) :
    EndsAnswered (log ++ [(req, reply)]) r :=
  ⟨req, reply, List.getLast?_concat, h⟩

/-- One attempt, against any kernel that keeps to the length of the buffer. -/
theorem Asking.stepOk (t : Target) (assocId : AssocId) (opt : Int32) (hserve : KeepsLength serve)
    (query : AddrsQuery) (k : K × List (AddrsReq × Except Errno Bytes))
    (h : Asking t assocId opt query (k.2.map Prod.fst)) :
    Program.StepOk (addrsLoop t assocId opt) serve.recorded
      (fun query k => Asking t assocId opt query (k.2.map Prod.fst))
      (fun query _ => maxCapacity - query.capacity)
      (fun r k => k.2.length ≤ 13 ∧ Asked t assocId opt (k.2.map Prod.fst) ∧ EndsAnswered k.2 r)
      query k := by
  have h8 := le_attemptCapacity getaddrsCapacity k.2.length
  have hcapacity : query.capacity = attemptCapacity getaddrsCapacity k.2.length := by
    rw [← List.length_map Prod.fst]
    exact congrArg AddrsQuery.capacity h.state
  have hlength (last : AddrsReq × Except Errno Bytes) : (k.2 ++ [last]).length ≤ 13 := by
    have hle := h.length_le
    rw [List.length_map] at hle
    rw [List.length_append, List.length_singleton]
    omega
  have hasked (reply : Except Errno Bytes) :
      Asked t assocId opt ((k.2 ++ [((addrsLoop t assocId opt).request query, reply)]).map Prod.fst) := by
    rw [List.map_append]
    exact h.asked_append
  have hquery : query = queryFor t.endian assocId (attemptCapacity getaddrsCapacity k.2.length) := by
    rw [← List.length_map Prod.fst]
    exact h.state
  have hbuf : 8 ≤ query.buf.length := by
    rw [hquery, queryFor, List.length_append, Endian.length_putI32, length_zeros]
    omega
  have hmax : query.buf.length ≤ maxCapacity := by
    have hle := attemptCapacity_getaddrs_le k.2.length
    rw [hquery, queryFor, List.length_append, Endian.length_putI32, length_zeros]
    omega
  unfold Program.StepOk
  simp only [Server.recorded]
  cases hreply : (serve k.1 ((addrsLoop t assocId opt).request query)).1 with
  | ok buf =>
    have hlen : buf.length = query.buf.length := hserve _ _ buf hreply
    obtain ⟨list, hlist⟩ := readQuery_total t (hlen ▸ hbuf) (hlen ▸ hmax)
    simp only [addrsLoop, hlist]
    exact ⟨hlength _, hasked _, .concat ⟨list, rfl⟩⟩
  | error e =>
    by_cases hgrow : e = Errno.enomem ∧ query.capacity < maxCapacity
    · have hlt : attemptCapacity getaddrsCapacity (k.2.map Prod.fst).length < maxCapacity := by
        rw [List.length_map, ← hcapacity]
        exact hgrow.2
      have hgrown : growQuery t assocId _ = _ := growQuery_eq h8 (hcapacity ▸ hgrow.2)
      rw [← hcapacity] at hgrown
      simp only [addrsLoop, hgrow, and_self, if_true, hgrown]
      have hnext := h.next hlt
      rw [List.length_map, ← hcapacity] at hnext
      rw [List.map_append]
      refine ⟨hnext, ?_⟩
      simp only [queryFor]
      omega
    · simp only [addrsLoop, hgrow, if_false]
      exact ⟨hlength _, hasked _, .concat rfl⟩

/-- Whatever the kernel answers, as long as it keeps to the length of the buffer:
    `local_addrs` and `peer_addrs` return after at most thirteen system calls. Each
    call asks with twice the capacity of the one before, never with more than 4 MiB,
    and tells the kernel the length that the buffer has. They never panic: when the last
    call has succeeded they return a list, and otherwise its error number. -/
theorem getaddrs_any_kernel (t : Target) (assocId : AssocId) (opt : Int32)
    (hserve : KeepsLength serve) (k : K) :
    ∃ r k' log, Getaddrs t assocId opt serve.recorded (k, []) r (k', log) ∧ log.length ≤ 13 ∧
      Asked t assocId opt (log.map Prod.fst) ∧ EndsAnswered log r := by
  have hstart : newQuery t assocId (max getaddrsCapacity 8) =
      .ok (queryFor t.endian assocId (attemptCapacity getaddrsCapacity 0)) := by
    rw [attemptCapacity_zero]
    refine newQuery_eq (le_max_right _ _) (le_trans ?_ (maxCapacity_le_isizeMax t.ptr))
    decide
  obtain ⟨r, k', hret, hlength, hasked, hr⟩ :=
    Program.returns_of_variant (Asking.stepOk t assocId opt hserve)
      (s := queryFor t.endian assocId (attemptCapacity getaddrsCapacity 0)) (k := (k, []))
      ⟨rfl, by simp, by simp [Asked]⟩
  refine ⟨r, k'.1, k'.2, ?_, hlength, hasked, hr⟩
  rw [Getaddrs, GetaddrsWithCapacity, hstart]
  exact hret

end

/-- A kernel that never has enough room. -/
def insatiable : Server Unit AddrsReq (Except Errno Bytes) := fun k _ => (.error Errno.enomem, k)

theorem getaddrs_any_kernel_insatiable :
    KeepsLength insatiable ∧
      ∃ r k' log, Getaddrs ⟨.little, .w64⟩ ⟨1⟩ Sys.sctpGetPeerAddrs insatiable.recorded ((), [])
        r (k', log) ∧ log.length ≤ 13 ∧
        Asked ⟨.little, .w64⟩ ⟨1⟩ Sys.sctpGetPeerAddrs (log.map Prod.fst) ∧ EndsAnswered log r := by
  have hserve : KeepsLength insatiable := by
    intro k req buf h
    cases h
  exact ⟨hserve, getaddrs_any_kernel ⟨.little, .w64⟩ ⟨1⟩ Sys.sctpGetPeerAddrs hserve ()⟩

end Socket

end Lksctp
