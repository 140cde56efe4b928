-- SUMMARY: The descriptors of a process and the open file descriptions behind them, and what each system call may do to them.
import Mathlib.Logic.Function.Basic
import Lksctp.Params
import Lksctp.Syscall

/-!
# Descriptors

What the code relies on from the kernel about descriptors. A call on a descriptor
that is not open fails, a failed call leaves everything as it is, and a new descriptor
has a number that was not in use. `close(2)` frees the descriptor whatever it returns.

A descriptor refers to an open file description, which decides how later calls on it
behave: the type of the socket, its flags, and the options that concern its whole
life. Descriptors that were made of one another by `dup(2)` refer to the same one, so
a call on one of them is seen by the others. `FD_CLOEXEC` belongs to the descriptor.

Only the calls of the process change its descriptions: what other processes do to one
that they have inherited is not modelled. Everything else about a reply is left open.
-/

namespace Lksctp

open Rust Machine

namespace Kernel

/-- An open file description of a socket. -/
structure Desc where
  /-- `SO_TYPE`. -/
  soType : Int32
  /-- The file status flags of `F_GETFL`. -/
  flags : Int32
  /-- `SO_ACCEPTCONN`. -/
  listening : Bool
  /-- `SCTP_RECVRCVINFO`. -/
  rcvinfo : Bool
  /-- A linger time of zero: closing the socket sends an ABORT. -/
  abortOnClose : Bool
  deriving DecidableEq, Repr

namespace Desc

def isNonblocking (d : Desc) : Bool := d.flags &&& Sys.oNonblock ≠ 0

/-- A socket that was just created with `SOCK_NONBLOCK` as in `flags`. -/
def Created (d : Desc) (flags : Int32) : Prop :=
  (d.isNonblocking = true ↔ flags &&& Sys.sockNonblock ≠ 0) ∧ d.listening = false

/-- `setsockopt(2)` as far as the description goes. -/
def setsockopt (e : Endian) (d : Desc) (level opt : Int32) (optval : Bytes) : Desc :=
  if level = Sys.solSctp ∧ opt = Sys.sctpRecvrcvinfo then
    { d with rcvinfo := Codec.i32.get e optval ≠ 0 }
  else if level = Sys.solSocket ∧ opt = Sys.soLinger then
    { d with abortOnClose := Sys.Linger.codec.get e optval = { lOnoff := 1, lLinger := 0 } }
  else d

end Desc

/-- A descriptor: the description it refers to, and its own flag. -/
structure Entry where
  file : Nat
  cloexec : Bool
  deriving DecidableEq, Repr

/-- A descriptor of a socket that was just created with `SOCK_CLOEXEC` as in `flags`. -/
def Entry.created (file : Nat) (flags : Int32) : Entry where
  file := file
  cloexec := flags &&& Sys.sockCloexec ≠ 0

structure Table where
  entries : Int32 → Option Entry
  files : Nat → Desc

namespace Table

/-- The descriptor refers to the description `i`, which is `d`. -/
structure Has (T : Table) (fd : Int32) (i : Nat) (d : Desc) : Prop where
  entry : (T.entries fd).map Entry.file = some i
  file : T.files i = d

/-- A number for a new descriptor, and a description for it that nothing refers to. -/
structure Fresh (T : Table) (fd : Int32) (i : Nat) : Prop where
  nonneg : 0 ≤ fd
  free : T.entries fd = none
  unused : ∀ fd', (T.entries fd').map Entry.file ≠ some i

/-- No two descriptors refer to the same description. -/
def Unshared (T : Table) : Prop :=
  ∀ fd fd' i, (T.entries fd).map Entry.file = some i → (T.entries fd').map Entry.file = some i →
    fd = fd'

def setFile (T : Table) (i : Nat) (d : Desc) : Table :=
  { T with files := Function.update T.files i d }

def opened (T : Table) (fd : Int32) (entry : Entry) (d : Desc) : Table where
  entries := Function.update T.entries fd (some entry)
  files := Function.update T.files entry.file d

def closed (T : Table) (fd : Int32) : Table :=
  { T with entries := Function.update T.entries fd none }

/-- Nothing that a descriptor refers to is different. -/
structure Same (T T' : Table) : Prop where
  entries : T'.entries = T.entries
  files : ∀ fd i, (T.entries fd).map Entry.file = some i → T'.files i = T.files i

variable {T : Table} {fd : Int32} {i : Nat} {d d' : Desc}

@[simp] theorem entries_setFile : (T.setFile i d).entries = T.entries := rfl

@[simp] theorem files_setFile : (T.setFile i d).files = Function.update T.files i d := rfl

@[simp] theorem entries_closed : (T.closed fd).entries = Function.update T.entries fd none := rfl

@[simp] theorem files_closed : (T.closed fd).files = T.files := rfl

@[simp] theorem entries_opened {entry : Entry} :
    (T.opened fd entry d).entries = Function.update T.entries fd (some entry) := rfl

@[simp] theorem files_opened {entry : Entry} :
    (T.opened fd entry d).files = Function.update T.files entry.file d := rfl

@[simp] theorem setFile_setFile : (T.setFile i d).setFile i d' = T.setFile i d' := by
  simp [setFile]

@[simp] theorem setFile_opened {entry : Entry} :
    (T.opened fd entry d).setFile entry.file d' = T.opened fd entry d' := by
  simp [setFile, opened]

theorem Has.unique {i' : Nat} (h : T.Has fd i d) (h' : T.Has fd i' d') : i = i' ∧ d = d' := by
  obtain rfl : i = i' := Option.some.inj (h.entry.symm.trans h'.entry)
  exact ⟨rfl, h.file.symm.trans h'.file⟩

theorem Has.ne_none (h : T.Has fd i d) : T.entries fd ≠ none := by
  intro hnone
  have hentry := h.entry
  rw [hnone] at hentry
  cases hentry

theorem has_of_entry {entry : Entry} (h : T.entries fd = some entry) :
    T.Has fd entry.file (T.files entry.file) :=
  ⟨by rw [h]; rfl, rfl⟩

theorem Has.setFile (h : T.Has fd i d) (d' : Desc) : (T.setFile i d').Has fd i d' :=
  ⟨h.entry, Function.update_self ..⟩

theorem Has.setFile_self (h : T.Has fd i d) : T.setFile i d = T := by
  rw [Table.setFile, ← h.file, Function.update_eq_self]

theorem has_opened {entry : Entry} : (T.opened fd entry d).Has fd entry.file d :=
  ⟨by simp [opened], Function.update_self ..⟩

theorem Same.refl (T : Table) : T.Same T := ⟨rfl, fun _ _ _ => rfl⟩

theorem Unshared.closed (h : T.Unshared) (fd : Int32) : (T.closed fd).Unshared := by
  have hopen : ∀ fd' i, ((T.closed fd).entries fd').map Entry.file = some i →
      (T.entries fd').map Entry.file = some i := by
    intro fd' i hfd'
    by_cases hne : fd' = fd
    · simp [hne] at hfd'
    · rwa [entries_closed, Function.update_of_ne hne] at hfd'
  intro fd₁ fd₂ i h₁ h₂
  exact h fd₁ fd₂ i (hopen fd₁ i h₁) (hopen fd₂ i h₂)

theorem Unshared.opened (h : T.Unshared) (hfresh : T.Fresh fd i) (cloexec : Bool) :
    (T.opened fd ⟨i, cloexec⟩ d).Unshared := by
  have hopen : ∀ fd' i', ((T.opened fd ⟨i, cloexec⟩ d).entries fd').map Entry.file = some i' →
      fd' = fd ∧ i' = i ∨ fd' ≠ fd ∧ i' ≠ i ∧ (T.entries fd').map Entry.file = some i' := by
    intro fd' i' hfd'
    by_cases hne : fd' = fd
    · rw [entries_opened, hne, Function.update_self] at hfd'
      exact .inl ⟨hne, (Option.some.inj hfd').symm⟩
    · rw [entries_opened, Function.update_of_ne hne] at hfd'
      refine .inr ⟨hne, ?_, hfd'⟩
      rintro rfl
      exact hfresh.unused fd' hfd'
  intro fd₁ fd₂ i' h₁ h₂
  obtain ⟨rfl, rfl⟩ | ⟨-, hi₁, h₁⟩ := hopen fd₁ i' h₁
  · obtain ⟨rfl, -⟩ | ⟨-, hi₂, -⟩ := hopen fd₂ i' h₂
    · rfl
    · exact absurd rfl hi₂
  · obtain ⟨-, rfl⟩ | ⟨-, -, h₂⟩ := hopen fd₂ i' h₂
    · exact absurd rfl hi₁
    · exact h fd₁ fd₂ i' h₁ h₂

/-- What is opened, changed and closed again is gone. -/
theorem Fresh.same_closed (h : T.Fresh fd i) (cloexec : Bool) :
    T.Same ((T.opened fd ⟨i, cloexec⟩ d).closed fd) where
  entries := by
    simp only [opened, closed, Function.update_idem]
    rw [← h.free, Function.update_eq_self]
  files fd' i' hused := by
    have hne : i' ≠ i := by
      rintro rfl
      exact h.unused fd' hused
    exact Function.update_of_ne hne ..

end Table

end Kernel

/-- The calls that change nothing in the table. -/
def Syscall.inert : Syscall → Bool
  | .bind .. | .connect .. | .getsockoptAddrs .. | .recvmsg .. | .sendmsg _ | .shutdown ..
  | .register _ | .readable _ => true
  | _ => false

namespace Kernel

/-- What the kernel writes for the options that are read off the description. -/
def ReadsBack (e : Endian) (d : Desc) (level opt : Int32) (out : Bytes) : Prop :=
  (level = Sys.solSocket → opt = Sys.soType → out = e.putI32 d.soType) ∧
  (level = Sys.solSocket → opt = Sys.soAcceptconn →
    out = e.putI32 (if d.listening then 1 else 0))

/-- A call, its reply and the table after it. -/
inductive Does (e : Endian) (T : Table) : Syscall → Reply → Table → Prop where
  | failed {c : Syscall} {reply : Reply} {errno : Errno} (hret : reply.ret = .error errno)
      (h : ∀ fd, c ≠ .close fd) : Does e T c reply T
  | socket {domain ty protocol fd : Int32} {i : Nat} {d : Desc} {reply : Reply}
      (hret : reply.ret = .ok fd) (hfresh : T.Fresh fd i) (hd : d.Created ty)
      (hty : d.soType = ty &&& Sys.sockTypeMask) :
      Does e T (.socket domain ty protocol) reply (T.opened fd (.created i ty) d)
  | setsockopt {fd level opt ret : Int32} {optval : Bytes} {optlen : UInt32} {i : Nat} {d : Desc}
      {reply : Reply} (hret : reply.ret = .ok ret) (hopen : T.Has fd i d) :
      Does e T (.setsockopt fd level opt optval optlen) reply
        (T.setFile i (d.setsockopt e level opt optval))
  | getsockopt {fd level opt ret : Int32} {optval : Bytes} {optlen : UInt32} {i : Nat} {d : Desc}
      {reply : Reply} (hret : reply.ret = .ok ret) (hopen : T.Has fd i d)
      (hread : ReadsBack e d level opt reply.out)
      (hpeel : ¬ (level = Sys.solSctp ∧ opt = Sys.sctpSockoptPeeloffFlags)) :
      Does e T (.getsockopt fd level opt optval optlen) reply T
  /-- An association is moved to a socket of its own. -/
  | peeloff {fd ret sd : Int32} {optval : Bytes} {optlen : UInt32} {i i' : Nat} {d d' : Desc}
      {reply : Reply} (hret : reply.ret = .ok ret) (hopen : T.Has fd i d) (hfresh : T.Fresh sd i')
      (hsd : (Sys.SctpPeeloffFlagsArg.codec.get e (overlay optval reply.out)).sd = sd)
      (hd : d'.Created (Sys.SctpPeeloffFlagsArg.codec.get e optval).flags.toInt32) :
      Does e T (.getsockopt fd Sys.solSctp Sys.sctpSockoptPeeloffFlags optval optlen) reply
        (T.opened sd (.created i' (Sys.SctpPeeloffFlagsArg.codec.get e optval).flags.toInt32) d')
  | accept4 {fd flags sd : Int32} {addrlen : UInt32} {i i' : Nat} {d d' : Desc} {reply : Reply}
      (hret : reply.ret = .ok sd) (hopen : T.Has fd i d) (hfresh : T.Fresh sd i')
      (hd : d'.Created flags) (hty : d'.soType = d.soType) (hlen : reply.len ≤ addrlen) :
      Does e T (.accept4 fd addrlen flags) reply (T.opened sd (.created i' flags) d')
  | listen {fd backlog ret : Int32} {i : Nat} {d : Desc} {listening : Bool} {reply : Reply}
      (hret : reply.ret = .ok ret) (hopen : T.Has fd i d) :
      Does e T (.listen fd backlog) reply (T.setFile i { d with listening })
  | getfl {fd : Int32} {i : Nat} {d : Desc} {reply : Reply} (hret : reply.ret = .ok d.flags)
      (hopen : T.Has fd i d) : Does e T (.fcntlGetfl fd) reply T
  | setfl {fd flags flags' ret : Int32} {i : Nat} {d : Desc} {reply : Reply}
      (hret : reply.ret = .ok ret) (hopen : T.Has fd i d)
      (h : flags' &&& Sys.oNonblock = flags &&& Sys.oNonblock) :
      Does e T (.fcntlSetfl fd flags) reply (T.setFile i { d with flags := flags' })
  | getsockname {fd ret : Int32} {addrlen : UInt32} {i : Nat} {d : Desc} {reply : Reply}
      (hret : reply.ret = .ok ret) (hopen : T.Has fd i d) (hlen : reply.len ≤ addrlen) :
      Does e T (.getsockname fd addrlen) reply T
  | getpeername {fd ret : Int32} {addrlen : UInt32} {i : Nat} {d : Desc} {reply : Reply}
      (hret : reply.ret = .ok ret) (hopen : T.Has fd i d) (hlen : reply.len ≤ addrlen) :
      Does e T (.getpeername fd addrlen) reply T
  | inert {c : Syscall} {fd ret : Int32} {i : Nat} {d : Desc} {reply : Reply}
      (hret : reply.ret = .ok ret) (hc : c.inert = true) (hfd : c.fd? = some fd)
      (hopen : T.Has fd i d) (hmsg : ∀ req, c = .recvmsg fd req → reply.msg.Within req) :
      Does e T c reply T
  | currentRuntime {reply : Reply} : Does e T .currentRuntime reply T
  | close {fd : Int32} {reply : Reply} : Does e T (.close fd) reply (T.closed fd)

end Kernel

/-- A kernel that keeps a descriptor table. -/
structure FdKernel (e : Endian) (K : Type) where
  serve : Syscalls K
  table : K → Kernel.Table
  nonneg : ∀ k fd, (table k).entries fd ≠ none → 0 ≤ fd
  does : ∀ k c, Kernel.Does e (table k) c (serve k c).1 (table (serve k c).2)

namespace FdKernel

open Kernel

variable {e : Endian} {K : Type}

/-- The system calls that were made, each with the table that it found. -/
abbrev Trace := List (Table × Syscall)

/-- The same kernel, with a trace of the calls. -/
def traced (M : FdKernel e K) : FdKernel e (K × Trace) where
  serve s c := ((M.serve s.1 c).1, (M.serve s.1 c).2, s.2 ++ [(M.table s.1, c)])
  table s := M.table s.1
  nonneg s := M.nonneg s.1
  does s c := M.does s.1 c

/-- The program runs in a Tokio runtime. -/
def InRuntime (M : FdKernel e K) : Prop := ∀ k, ∃ v, (M.serve k .currentRuntime).1.ret = .ok v

end FdKernel

/-! ## Calls that are made on the right descriptors -/

/-- Calls that wait for the peer on a descriptor that is not `O_NONBLOCK`. -/
def Syscall.mayBlock : Syscall → Bool
  | .recvmsg .. | .sendmsg _ | .accept4 .. | .connect .. | .getsockoptAddrs .. => true
  | _ => false

/-- Calls that neither wait nor end anything. -/
def Syscall.plain : Syscall → Bool
  | .shutdown .. | .close _ => false
  | c => !c.mayBlock

namespace Kernel

/-- What an operation has to keep to. -/
structure Policy where
  /-- It must not wait for the peer. -/
  async : Prop
  /-- It registers a descriptor with the reactor. -/
  registers : Prop
  /-- The descriptors it may make calls on. -/
  may : Int32 → Prop

/-- A call on an open descriptor of the policy. A one-to-many socket is never shut down,
    and code that must not wait makes no call that could. -/
def Good (p : Policy) (ev : Table × Syscall) : Prop :=
  ∀ fd ∈ ev.2.fd?, p.may fd ∧ ∃ i d, ev.1.Has fd i d ∧
    ((∃ how, ev.2 = .shutdown fd how) → d.soType ≠ Sys.sockSeqpacket) ∧
    (p.async → ev.2.mayBlock = true → d.isNonblocking = true)

end Kernel

end Lksctp
