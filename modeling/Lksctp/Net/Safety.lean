-- SUMMARY: What holds in every run of a program that uses the crate: descriptors have one owner, calls are made on open descriptors only, and nothing asynchronous waits.
import Lksctp.Files
import Lksctp.Net.Ownership

/-!
# Safety of every run

A run starts in a process whose open descriptors are all the application's own, and
takes any actions that the types allow, in any order. The kernel may let any call
fail.

The descriptors that the application brings along may be duplicates of one another.
What depends on the state of a description is only claimed of processes in which no
two of them are: the mode of a duplicate can be changed through the other one.
-/

namespace Lksctp

open Rust Machine Kernel Socket

namespace Net

variable {K : Type} {t : Target} {M : FdKernel t.endian K} {abi : Abi} {w w' : World K}
  {a : Action} {out : Performed K} {acts : List Action} {alone : Prop}

/-! ## One action -/

abbrev World.Owned (M : FdKernel t.endian K) (alone : Prop) (w : World K) : Prop :=
  Net.Owned alone (M.table w.kernel) w.objects

/-- What an action has done is in order. -/
structure Performed.Sound (M : FdKernel t.endian K) (alone : Prop) (w : World K) (a : Action)
    (out : Performed K) : Prop where
  owned : out.world.Owned M alone
  frame : Framed a.actor (M.table w.kernel) (M.table out.world.kernel)
  good : ∀ ev ∈ out.trace, Good (a.policy alone (M.table w.kernel)) ev
  ends : Ends M (a.policy alone (M.table w.kernel)) out.result
  failed : ∀ fault, out.result = .error fault → out.world.objects = keptBy a w.objects

theorem World.enabled_iff : w.enabled a = true ↔ a.typed = true ∧ ∀ o ∈ a.actor, o ∈ w.objects := by
  unfold World.enabled
  rw [Bool.and_eq_true]
  apply and_congr_right
  intro _
  cases a.actor with
  | none => simp
  | some o => simp

theorem World.perform_eq_some :
    w.perform M abi a = some out ↔ w.enabled a = true ∧ w.outcome M abi a = out := by
  unfold World.perform
  split
  · next h => simp [h]
  · next h => simp [h]

theorem World.Owned.perform (h : w.Owned M alone) (hout : w.perform M abi a = some out) :
    out.Sound M alone w a := by
  obtain ⟨henabled, rfl⟩ := World.perform_eq_some.mp hout
  obtain ⟨htyped, hactor⟩ := World.enabled_iff.mp henabled
  have hsafe := Action.safe abi h htyped hactor (M.nonneg w.kernel) w.kernel [] rfl nofun
  unfold World.outcome
  unfold Io.wp at hsafe
  rcases hrun : (a.code t abi M.traced.serve).exec (w.kernel, []) with ⟨r, k, trace⟩
  rw [hrun] at hsafe
  obtain ⟨hgood, hends, hafter⟩ := hsafe
  cases r with
  | ok made => exact ⟨hafter.owned, hafter.frame, hgood, trivial, nofun⟩
  | error fault => exact ⟨hafter.owned, hafter.frame, hgood, hends.error, fun _ _ => rfl⟩

/-! ## Runs -/

/-- The start of a program: every open descriptor is held by the application itself. -/
structure World.Start (M : FdKernel t.endian K) (w : World K) : Prop where
  raw : ∀ o ∈ w.objects, o.kind = .raw ∧ o.adopted = true
  nodup : (w.objects.map Object.fd).Nodup
  open_iff : ∀ fd, (M.table w.kernel).entries fd ≠ none ↔ ∃ o ∈ w.objects, o.fd = fd

theorem World.Start.owned (h : w.Start M) (hunshared : alone → (M.table w.kernel).Unshared) :
    w.Owned M alone where
  accounts :=
    { nodup := h.nodup
      owned := fun fd hfd => (h.open_iff fd).mp hfd
      ok := by
        intro o ho
        obtain ⟨hraw, hadopted⟩ := h.raw o ho
        obtain ⟨entry, hentry⟩ := Option.ne_none_iff_exists'.mp ((h.open_iff o.fd).mpr ⟨o, ho, rfl⟩)
        refine ⟨entry, hentry, ?_, ?_⟩
        · rw [hadopted]
          exact nofun
        · rw [hraw]
          exact fun _ => trivial }
  unshared := hunshared

theorem World.Owned.step (h : w.Owned M alone) (hstep : (world M abi).step w a = some w') :
    w'.Owned M alone := by
  obtain ⟨out, hout, rfl⟩ := Option.map_eq_some_iff.mp hstep
  exact (h.perform hout).owned

theorem World.Owned.run (h : w.Owned M alone) (hrun : (world M abi).run w acts = some w') :
    w'.Owned M alone :=
  System.run_invariant (fun _ _ _ howned hstep => World.Owned.step howned hstep) h hrun

/-- In every state that can be reached, the world is in order. -/
theorem World.Start.owned_of_run (h : w.Start M) (hrun : (world M abi).run w acts = some w') :
    w'.Owned M False :=
  World.Owned.run (h.owned False.elim) hrun

/-- Where no two descriptors share a description, also the descriptions are. -/
theorem World.Start.alone_of_run (h : w.Start M) (hunshared : (M.table w.kernel).Unshared)
    (hrun : (world M abi).run w acts = some w') : w'.Owned M True :=
  World.Owned.run (h.owned fun _ => hunshared) hrun

theorem World.Owned.ne_none_iff (h : w.Owned M alone) (fd : Int32) :
    (M.table w.kernel).entries fd ≠ none ↔ ∃ o ∈ w.objects, o.fd = fd := by
  refine ⟨h.accounts.owned fd, ?_⟩
  rintro ⟨o, ho, rfl⟩
  obtain ⟨i, d, hopen, -⟩ := Net.Owned.has h ho
  exact hopen.ne_none

theorem mem_keptBy {objects : List Object} {o : Object} (h : objects.Nodup) :
    o ∈ keptBy a objects ↔ o ∈ objects ∧ ¬ (a.takes = true ∧ a.actor = some o) := by
  unfold keptBy
  cases a.actor with
  | none => simp
  | some o' =>
    by_cases htakes : a.takes = true
    · simp only [htakes, if_true, h.mem_erase_iff, true_and, Option.some.injEq]
      exact ⟨fun ⟨hne, ho⟩ => ⟨ho, fun heq => hne heq.symm⟩,
        fun ⟨ho, hne⟩ => ⟨fun heq => hne heq.symm, ho⟩⟩
    · simp [htakes]

/-- Two objects with one descriptor are the same. -/
theorem World.Owned.eq_of_fd (h : w.Owned M alone) {o o' : Object} (ho : o ∈ w.objects)
    (ho' : o' ∈ w.objects) (hfd : o.fd = o'.fd) : o = o' :=
  List.inj_on_of_nodup_map h.accounts.nodup ho ho' hfd

/-! ## A run -/

namespace Serving

def target : Target where
  endian := .little
  ptr := .w64

def lp64 : Abi where
  alignU64 := 8
  time := .w64

def kernel : FdKernel target.endian Files := files .little true

/-- A process that has a one-to-many socket of its own. -/
def start : World Files where
  kernel :=
    { entries := [some ⟨0, false⟩]
      descs := [Files.created Sys.sockSeqpacket 0]
      valid := by decide }
  objects := [⟨.raw, 0, true⟩]

def listener : Object := ⟨.listener, 1, false⟩

def stream : Object := ⟨.stream, 2, false⟩

def endpoint : Object := ⟨.endpoint, 0, true⟩

/-- A listener accepts a stream, and the socket becomes an endpoint. -/
def actions : List Action :=
  [.listenerBind (.loopback 80), .listenerAccept listener, .fromRawFd ⟨.raw, 0, true⟩,
    .endpointFromSocket ⟨.socket, 0, true⟩]

/-- The description of a descriptor that was registered. -/
def registered (soType : Int32) (listening rcvinfo : Bool) : Desc where
  soType := soType
  flags := Sys.oNonblock
  listening := listening
  rcvinfo := rcvinfo
  abortOnClose := false

def served : World Files where
  kernel :=
    { entries := [some ⟨0, false⟩, some ⟨1, true⟩, some ⟨2, true⟩]
      descs := [registered Sys.sockSeqpacket false false, registered Sys.sockStream true true,
        registered Sys.sockStream false true]
      valid := by decide }
  objects := [endpoint, stream, listener]

/-- The world when the socket was adopted. -/
def adopting : World Files where
  kernel := start.kernel
  objects := [⟨.socket, 0, true⟩]

theorem run_actions : (world kernel lp64).run start actions = some served := by decide +kernel

theorem start_open_iff (fd : Int32) :
    start.kernel.table.entries fd ≠ none ↔ ∃ o ∈ start.objects, o.fd = fd := by
  constructor
  · intro hfd
    have hpos : 0 ≤ fd := start.kernel.nonneg fd hfd
    obtain ⟨entry, hentry⟩ := Option.ne_none_iff_exists'.mp hfd
    have hjoin : [some (Entry.mk 0 false)][fd.toNatClampNeg]?.join = some entry :=
      (if_pos hpos).symm.trans hentry
    have hzero : fd.toNatClampNeg = 0 := by
      by_contra hne
      rw [List.getElem?_eq_none (by simp; omega)] at hjoin
      cases hjoin
    exact ⟨⟨.raw, 0, true⟩, List.mem_singleton.mpr rfl,
      (Files.index_inj hpos (by decide) (hzero.trans rfl)).symm⟩
  · rintro ⟨o, ho, rfl⟩
    obtain rfl := List.mem_singleton.mp ho
    exact nofun

theorem starts : start.Start kernel where
  raw := by decide
  nodup := by decide
  open_iff := start_open_iff

theorem unshared : (kernel.table start.kernel).Unshared := by
  have hzero : ∀ fd i, ((kernel.table start.kernel).entries fd).map Entry.file = some i → fd = 0 := by
    intro fd i hfd
    obtain ⟨entry, hentry, -⟩ := Option.map_eq_some_iff.mp hfd
    obtain ⟨o, ho, rfl⟩ := (start_open_iff fd).mp (Option.ne_none_iff_exists'.mpr ⟨entry, hentry⟩)
    obtain rfl := List.mem_singleton.mp ho
    rfl
  intro fd fd' i hfd hfd'
  rw [hzero fd i hfd, hzero fd' i hfd']

end Serving

/-! ## Ownership -/

/-- No descriptor is leaked and none has two owners: the open descriptors are exactly those
    of the objects, at any point of any run. -/
theorem descriptors_have_one_owner (h : w.Start M) (hrun : (world M abi).run w acts = some w') :
    (w'.objects.map Object.fd).Nodup ∧
      ∀ fd, (M.table w'.kernel).entries fd ≠ none ↔ ∃ o ∈ w'.objects, o.fd = fd := by
  have howned := h.owned_of_run hrun
  exact ⟨howned.accounts.nodup, howned.ne_none_iff⟩

theorem descriptors_have_one_owner_serving :
    (Serving.served.objects.map Object.fd).Nodup ∧
      ∀ fd, (Serving.kernel.table Serving.served.kernel).entries fd ≠ none ↔
        ∃ o ∈ Serving.served.objects, o.fd = fd :=
  descriptors_have_one_owner Serving.starts Serving.run_actions

/-- An action makes calls only on descriptors that are open at that moment, and of those that
    were open before it only on that of its own object. The other descriptors stay what they
    are. Their descriptions do not change either, but where the object of the action shares
    one with them. -/
theorem calls_on_own_descriptor (h : w.Start M) (hrun : (world M abi).run w acts = some w')
    (hout : w'.perform M abi a = some out) :
    (∀ ev ∈ out.trace, ∀ fd ∈ ev.2.fd?,
      ev.1.entries fd ≠ none ∧ ∀ o ∈ w'.objects, o.fd = fd → a.actor = some o) ∧
    ∀ o ∈ w'.objects, a.actor ≠ some o →
      (M.table out.world.kernel).entries o.fd = (M.table w'.kernel).entries o.fd ∧
      ∀ i d, (M.table w'.kernel).Has o.fd i d →
        (∀ o' ∈ a.actor, ∀ d', ¬ (M.table w'.kernel).Has o'.fd i d') →
        (M.table out.world.kernel).Has o.fd i d := by
  have howned := h.owned_of_run hrun
  have hsound := howned.perform hout
  have hactor := (World.enabled_iff.mp (World.perform_eq_some.mp hout).1).2
  refine ⟨fun ev hev fd hfd => ?_, fun o ho hne => ?_⟩
  · obtain ⟨hmay, i, d, hopen, -⟩ := hsound.good ev hev fd hfd
    refine ⟨hopen.ne_none, ?_⟩
    rintro o ho rfl
    obtain ⟨o', ho', hfd'⟩ | hfree := hmay
    · rwa [← howned.eq_of_fd (hactor o' ho') ho hfd']
    · exact absurd rfl (howned.accounts.ne_of_none hfree ho)
  · have hentries : (M.table out.world.kernel).entries o.fd = (M.table w'.kernel).entries o.fd := by
      apply hsound.frame.entries o.fd ((howned.ne_none_iff o.fd).mpr ⟨o, ho, rfl⟩)
      intro o' ho' hfd
      have heq : o' = o := howned.eq_of_fd (hactor o' ho') ho hfd
      exact hne (heq ▸ ho')
    refine ⟨hentries, ?_⟩
    intro i d hopen hshared
    refine ⟨hentries ▸ hopen.entry, ?_⟩
    rw [hsound.frame.files o.fd i hopen.entry fun o' ho' hentry => hshared o' ho' _ ⟨hentry, rfl⟩]
    exact hopen.file

/-- The call that takes an association off an endpoint. -/
def Serving.peeloff : Action := .endpointPeeloff Serving.endpoint ⟨7⟩

theorem calls_on_own_descriptor_peeloff :
    (Serving.served.outcome Serving.kernel Serving.lp64 Serving.peeloff).trace.map
      (fun ev => ev.2.fd?) = [some 0, some 3, none, some 3] ∧
    (∀ ev ∈ (Serving.served.outcome Serving.kernel Serving.lp64 Serving.peeloff).trace,
      ∀ fd ∈ ev.2.fd?, ev.1.entries fd ≠ none ∧
        ∀ o ∈ Serving.served.objects, o.fd = fd → Serving.peeloff.actor = some o) :=
  ⟨by decide +kernel, (calls_on_own_descriptor Serving.starts Serving.run_actions
    (World.perform_eq_some.mpr ⟨by decide, rfl⟩)).1⟩

/-- An operation that fails leaves no descriptor behind: what was open stays open, but for the
    descriptor of an object that the operation has taken, which is closed. That includes the
    future of a connect, at whatever move it fails. -/
theorem failure_leaves_no_descriptor (h : w.Start M)
    (hrun : (world M abi).run w acts = some w') (hout : w'.perform M abi a = some out)
    (fault : Fault) (hfault : out.result = .error fault) :
    ∀ fd, (M.table out.world.kernel).entries fd ≠ none ↔
      (M.table w'.kernel).entries fd ≠ none ∧ ¬ (a.takes = true ∧ ∃ o ∈ a.actor, o.fd = fd) := by
  have hbefore := h.owned_of_run hrun
  have hsound := hbefore.perform hout
  have hactor := (World.enabled_iff.mp (World.perform_eq_some.mp hout).1).2
  have hkept : ∀ o, o ∈ out.world.objects ↔
      o ∈ w'.objects ∧ ¬ (a.takes = true ∧ a.actor = some o) := by
    intro o
    rw [hsound.failed fault hfault]
    exact mem_keptBy (List.Nodup.of_map _ hbefore.accounts.nodup)
  intro fd
  rw [World.Owned.ne_none_iff hsound.owned, hbefore.ne_none_iff]
  constructor
  · rintro ⟨o, ho, rfl⟩
    obtain ⟨ho, hne⟩ := (hkept o).mp ho
    refine ⟨⟨o, ho, rfl⟩, ?_⟩
    rintro ⟨htakes, o', ho', hfd⟩
    exact hne ⟨htakes, hbefore.eq_of_fd (hactor o' ho') ho hfd ▸ ho'⟩
  · rintro ⟨⟨o, ho, rfl⟩, hne⟩
    refine ⟨o, (hkept o).mpr ⟨ho, ?_⟩, rfl⟩
    rintro ⟨htakes, hactor⟩
    exact hne ⟨htakes, o, hactor, rfl⟩

namespace Serving

/-- Where `established` is after its first wake-up. -/
def reading : EstState := .io (.running (.first (zeros estBufLen) false))

/-- A connect, up to its first receive. -/
def connecting : List Action :=
  [.streamConnect (.loopback 9) 0, .established ⟨.connected false, 1, false⟩ false estStart 0]

def connected : World Files where
  kernel :=
    { entries := [some ⟨0, false⟩, some ⟨1, true⟩]
      descs := [Files.created Sys.sockSeqpacket 0, registered Sys.sockStream false true]
      valid := by decide }
  objects := [⟨.connecting false reading, 1, false⟩, ⟨.raw, 0, true⟩]

theorem run_connecting : (world kernel lp64).run start connecting = some connected := by decide +kernel

/-- There is nothing to be received but the end of the association. -/
def refused : Action := .established ⟨.connecting false reading, 1, false⟩ false reading 0

def associationClosed : IoError :=
  .custom .connectionReset "socket closed during association setup"

end Serving

theorem failure_leaves_no_descriptor_connect :
    (Serving.connected.outcome Serving.kernel Serving.lp64 Serving.refused).result =
      Res.err Serving.associationClosed ∧
    ∀ fd, (Serving.kernel.table (Serving.connected.outcome Serving.kernel Serving.lp64
        Serving.refused).world.kernel).entries fd ≠ none ↔
      (Serving.kernel.table Serving.connected.kernel).entries fd ≠ none ∧
        ¬ (Serving.refused.takes = true ∧ ∃ o ∈ Serving.refused.actor, o.fd = fd) :=
  ⟨by decide +kernel, failure_leaves_no_descriptor Serving.starts Serving.run_connecting
    (World.perform_eq_some.mpr ⟨by decide +kernel, rfl⟩) (.err Serving.associationClosed)
    (by decide +kernel)⟩

/-! ## Waiting -/

/-- Nothing but the methods of `SctpSocket` ever waits for the peer, in a process that has no
    duplicates: every other call that could wait is made on a descriptor that does not block. -/
theorem async_never_waits (h : w.Start M) (hunshared : (M.table w.kernel).Unshared)
    (hrun : (world M abi).run w acts = some w') (hout : w'.perform M abi a = some out)
    (hasync : a.mayWait = false) :
    ∀ ev ∈ out.trace, ev.2.mayBlock = true →
      ∃ fd i d, ev.2.fd? = some fd ∧ ev.1.Has fd i d ∧ d.isNonblocking = true := by
  intro ev hev hblock
  obtain ⟨fd, hfd⟩ : ∃ fd, ev.2.fd? = some fd := by
    cases hcall : ev.2 with
    | socket | currentRuntime => rw [hcall] at hblock; cases hblock
    | _ => exact ⟨_, rfl⟩
  have hsound := (h.alone_of_run hunshared hrun).perform hout
  obtain ⟨-, i, d, hopen, -, hwait⟩ := hsound.good ev hev fd hfd
  exact ⟨fd, i, d, hfd, hopen, hwait ⟨trivial, hasync⟩ hblock⟩

theorem async_never_waits_accept :
    (Serving.served.outcome Serving.kernel Serving.lp64 (.listenerAccept Serving.listener)).trace.map
      (fun ev => ev.2.mayBlock) = [true, false, false, false] ∧
    ∀ ev ∈ (Serving.served.outcome Serving.kernel Serving.lp64
        (.listenerAccept Serving.listener)).trace,
      ev.2.mayBlock = true →
        ∃ fd i d, ev.2.fd? = some fd ∧ ev.1.Has fd i d ∧ d.isNonblocking = true :=
  ⟨by decide +kernel, async_never_waits Serving.starts Serving.unshared Serving.run_actions
    (World.perform_eq_some.mpr ⟨by decide, rfl⟩) rfl⟩

/-- What does not wait never reports that the setup of an association has timed out, whatever
    send timeout its socket has. -/
theorem async_never_times_out (h : w.Start M) (hunshared : (M.table w.kernel).Unshared)
    (hrun : (world M abi).run w acts = some w') (hout : w'.perform M abi a = some out)
    (hasync : a.mayWait = false) : out.result ≠ Res.err setupTimedOut := by
  intro hresult
  have hends := ((h.alone_of_run hunshared hrun).perform hout).ends
  rw [hresult] at hends
  exact hends ⟨trivial, hasync⟩ rfl

theorem async_never_times_out_connectx :
    (Serving.served.outcome Serving.kernel Serving.lp64
      (.use Serving.endpoint (.connectx [.loopback 9]))).result ≠ Res.err setupTimedOut :=
  async_never_times_out Serving.starts Serving.unshared Serving.run_actions
    (World.perform_eq_some.mpr ⟨by decide, rfl⟩) rfl

/-! ## Types -/

/-- A type tells the truth about its socket, in a process that has no duplicates: a listener
    listens, an endpoint is one-to-many, and what is registered with the reactor does not
    block. -/
theorem types_tell_the_truth (h : w.Start M) (hunshared : (M.table w.kernel).Unshared)
    (hrun : (world M abi).run w acts = some w') :
    ∀ o ∈ w'.objects, ∃ i d, (M.table w'.kernel).Has o.fd i d ∧
      (o.kind = .listener → d.soType = Sys.sockStream ∧ d.listening = true) ∧
      (o.kind = .endpoint → d.soType = Sys.sockSeqpacket) ∧
      (o.kind = .listener ∨ o.kind = .endpoint ∨ o.kind = .stream → d.isNonblocking = true) := by
  intro o ho
  obtain ⟨i, d, hopen, hok⟩ := (h.alone_of_run hunshared hrun).has ho
  have hkind : o.kind.Ok d := hok trivial
  refine ⟨i, d, hopen, fun hlistener => ?_, fun hendpoint => ?_, fun hregistered => ?_⟩
  · rw [hlistener] at hkind
    exact hkind.2
  · rw [hendpoint] at hkind
    exact hkind.2
  · rcases hregistered with hk | hk | hk
    · rw [hk] at hkind
      exact hkind.1
    · rw [hk] at hkind
      exact hkind.1
    · rw [hk] at hkind
      exact hkind

theorem types_tell_the_truth_serving :
    Serving.listener ∈ Serving.served.objects ∧ Serving.endpoint ∈ Serving.served.objects ∧
    ∀ o ∈ Serving.served.objects, ∃ i d, (Serving.kernel.table Serving.served.kernel).Has o.fd i d ∧
      (o.kind = .listener → d.soType = Sys.sockStream ∧ d.listening = true) ∧
      (o.kind = .endpoint → d.soType = Sys.sockSeqpacket) ∧
      (o.kind = .listener ∨ o.kind = .endpoint ∨ o.kind = .stream → d.isNonblocking = true) :=
  ⟨by decide, by decide,
    types_tell_the_truth Serving.starts Serving.unshared Serving.run_actions⟩

/-- Every socket that the crate has made reports receive metadata and is closed on `exec`,
    whichever way it was made. -/
theorem made_sockets_are_set_up (h : w.Start M) (hrun : (world M abi).run w acts = some w') :
    ∀ o ∈ w'.objects, o.adopted = false →
      ∃ entry d, (M.table w'.kernel).entries o.fd = some entry ∧
        (M.table w'.kernel).Has o.fd entry.file d ∧ d.rcvinfo = true ∧ entry.cloexec = true := by
  intro o ho hmade
  obtain ⟨entry, hentry, hok⟩ := (h.owned_of_run hrun).accounts.ok o ho
  obtain ⟨hcloexec, hrcvinfo⟩ := hok.made hmade
  exact ⟨entry, _, hentry, Table.has_of_entry hentry, hrcvinfo, hcloexec⟩

theorem made_sockets_are_set_up_serving :
    Serving.stream ∈ Serving.served.objects ∧
    ∀ o ∈ Serving.served.objects, o.adopted = false →
      ∃ entry d, (Serving.kernel.table Serving.served.kernel).entries o.fd = some entry ∧
        (Serving.kernel.table Serving.served.kernel).Has o.fd entry.file d ∧ d.rcvinfo = true ∧
        entry.cloexec = true :=
  ⟨by decide, made_sockets_are_set_up Serving.starts Serving.run_actions⟩

/-- `shutdown(2)` is never called on a one-to-many socket, not even on one that the application
    has brought along. -/
theorem shutdown_never_one_to_many (h : w.Start M)
    (hrun : (world M abi).run w acts = some w') (hout : w'.perform M abi a = some out) :
    ∀ ev ∈ out.trace, ∀ fd how, ev.2 = .shutdown fd how →
      ∃ i d, ev.1.Has fd i d ∧ d.soType ≠ Sys.sockSeqpacket := by
  intro ev hev fd how hcall
  have hfd : ev.2.fd? = some fd := by rw [hcall]; rfl
  have hsound := (h.owned_of_run hrun).perform hout
  obtain ⟨-, i, d, hopen, hshut, -⟩ := hsound.good ev hev fd hfd
  exact ⟨i, d, hopen, hshut ⟨how, hcall⟩⟩

theorem shutdown_never_one_to_many_stream :
    (Serving.served.outcome Serving.kernel Serving.lp64
      (.use Serving.stream (.shutdown .both))).trace.map (fun ev => ev.2) =
        [.getsockopt 2 Sys.solSocket Sys.soType [0, 0, 0, 0] 4, .shutdown 2 Sys.shutRdwr] ∧
    ∀ ev ∈ (Serving.served.outcome Serving.kernel Serving.lp64
        (.use Serving.stream (.shutdown .both))).trace,
      ∀ fd how, ev.2 = .shutdown fd how →
        ∃ i d, ev.1.Has fd i d ∧ d.soType ≠ Sys.sockSeqpacket :=
  ⟨by decide +kernel, shutdown_never_one_to_many Serving.starts Serving.run_actions
    (World.perform_eq_some.mpr ⟨by decide, rfl⟩)⟩

/-! ## Panics -/

/-- No operation of any run panics, whatever the kernel replies within its contract, but for one
    case: those that register a descriptor with the reactor do, in a program that has no
    runtime. -/
theorem operations_never_panic (h : w.Start M) (hrun : (world M abi).run w acts = some w')
    (hout : w'.perform M abi a = some out) (panic : Panic)
    (hpanic : out.result = .error (.panic panic)) :
    panic = .noRuntime ∧ a.registers = true ∧ ¬ M.InRuntime := by
  have hends := ((h.owned_of_run hrun).perform hout).ends
  rw [hpanic] at hends
  exact hends

/-- The same process, in a program without a runtime. -/
def Serving.bareKernel : FdKernel Serving.target.endian Files := files .little false

def Serving.becomeEndpoint : Action := .endpointFromSocket ⟨.socket, 0, true⟩

theorem Serving.run_adopt_bare :
    (world Serving.bareKernel Serving.lp64).run Serving.start [.fromRawFd ⟨.raw, 0, true⟩] =
      some Serving.adopting := by
  decide +kernel

theorem operations_never_panic_bare :
    (Serving.adopting.outcome Serving.bareKernel Serving.lp64 Serving.becomeEndpoint).result =
      .error (.panic .noRuntime) ∧
    Panic.noRuntime = .noRuntime ∧ Serving.becomeEndpoint.registers = true ∧
      ¬ Serving.bareKernel.InRuntime := by
  have hresult : (Serving.adopting.outcome Serving.bareKernel Serving.lp64
      Serving.becomeEndpoint).result = .error (.panic .noRuntime) := by decide +kernel
  have hstart : Serving.start.Start Serving.bareKernel :=
    ⟨Serving.starts.raw, Serving.starts.nodup, Serving.starts.open_iff⟩
  exact ⟨hresult, operations_never_panic hstart Serving.run_adopt_bare
    (World.perform_eq_some.mpr ⟨by decide, rfl⟩) .noRuntime hresult⟩

end Net

end Lksctp
