-- SUMMARY: The system calls that the socket code makes, and its generic socket-option plumbing.
import Lksctp.Kernel
import Lksctp.Rust.Io
import Lksctp.Rust.Codec
import Lksctp.Types

/-!
# System calls

The calls of `kernel.rs` with their arguments. A call has a return value, and some
write into a buffer of the caller; `Reply` has both. What the code asks of the Tokio
runtime is a request to the environment like the others.

The numbers are those of Linux on most architectures.
-/

namespace Lksctp

open Rust Machine

namespace Sys

def solSocket : Int32 := 1

def soReuseaddr : Int32 := 2
def soType : Int32 := 3
def soError : Int32 := 4
def soSndbuf : Int32 := 7
def soRcvbuf : Int32 := 8
def soLinger : Int32 := 13
def soRcvtimeo : Int32 := 20
def soSndtimeo : Int32 := 21
def soAcceptconn : Int32 := 30

def sockStream : Int32 := 1
def sockSeqpacket : Int32 := 5
def sockNonblock : Int32 := 0x800
def sockCloexec : Int32 := 0x80000

/-- The bits of the argument of `socket(2)` that are the type. -/
def sockTypeMask : Int32 := 0xf

def shutRd : Int32 := 0
def shutWr : Int32 := 1
def shutRdwr : Int32 := 2

def sctpRtoinfo : Int32 := 0
def sctpAssocinfo : Int32 := 1
def sctpInitmsg : Int32 := 2
def sctpNodelay : Int32 := 3
def sctpAutoclose : Int32 := 4
def sctpPrimaryAddr : Int32 := 6
def sctpPeerAddrParams : Int32 := 9
def sctpStatus : Int32 := 14
def sctpGetPeerAddrInfo : Int32 := 15
def sctpDelayedSack : Int32 := 16
def sctpRecvrcvinfo : Int32 := 32
def sctpReusePort : Int32 := 36
def sctpGetPeerAddrs : Int32 := 108
def sctpGetLocalAddrs : Int32 := 109
def sctpGetAssocStats : Int32 := 112
def sctpSockoptPeeloffFlags : Int32 := 122
def sctpEvent : Int32 := 127

end Sys

/-! ## Calls -/

inductive Syscall where
  | socket (domain ty protocol : Int32)
  | setsockopt (fd level opt : Int32) (optval : Bytes) (optlen : UInt32)
  /-- `optval` is also read by the kernel. -/
  | getsockopt (fd level opt : Int32) (optval : Bytes) (optlen : UInt32)
  /-- `getsockopt(2)` with a `sctp_getaddrs_old`, whose pointer is to `addrs`. -/
  | getsockoptAddrs (fd level opt assocId addrNum : Int32) (addrs : Bytes) (optlen : UInt32)
  | bind (fd : Int32) (addr : Bytes) (addrlen : UInt32)
  | connect (fd : Int32) (addr : Bytes) (addrlen : UInt32)
  | listen (fd backlog : Int32)
  | accept4 (fd : Int32) (addrlen : UInt32) (flags : Int32)
  | getsockname (fd : Int32) (addrlen : UInt32)
  | getpeername (fd : Int32) (addrlen : UInt32)
  | fcntlGetfl (fd : Int32)
  | fcntlSetfl (fd flags : Int32)
  | recvmsg (fd : Int32) (req : Kernel.RecvReq)
  | sendmsg (fd : Int32)
  | shutdown (fd how : Int32)
  /-- `Handle::current`; fails outside of a Tokio runtime with I/O. -/
  | currentRuntime
  /-- The registration of a descriptor with the reactor. -/
  | register (fd : Int32)
  /-- The wait for the reactor to report the descriptor as readable. -/
  | readable (fd : Int32)
  | close (fd : Int32)
  deriving DecidableEq

/-- The descriptor that a call is about. -/
def Syscall.fd? : Syscall → Option Int32
  | .socket .. | .currentRuntime => none
  | .setsockopt fd .. | .getsockopt fd .. | .getsockoptAddrs fd .. | .bind fd .. | .connect fd ..
  | .listen fd _ | .accept4 fd .. | .getsockname fd _ | .getpeername fd _ | .fcntlGetfl fd
  | .fcntlSetfl fd _ | .recvmsg fd _ | .sendmsg fd | .shutdown fd _ | .register fd | .readable fd
  | .close fd => some fd

structure Reply where
  ret : Except Errno Int32
  /-- What the kernel has written to the buffer of the caller. -/
  out : Bytes := []
  /-- The length argument as the kernel has left it. -/
  len : UInt32 := 0
  /-- What `recvmsg(2)` has put into the `msghdr` and its buffers. -/
  msg : Kernel.RecvOut := .nothing

/-- What a `recvmsg(2)` has brought. -/
def Reply.received (reply : Reply) : Except Errno Kernel.RecvOut := reply.ret.map fun _ => reply.msg

abbrev Syscalls (K : Type) := Server K Syscall Reply

def cvt (ret : Except Errno Int32) : Res Int32 :=
  match ret with
  | .ok v => .ok v
  | .error e => Res.err (.os e)

/-- `OwnedFd::from_raw_fd`. -/
def ownedFd (fd : Int32) : Res Int32 :=
  if fd = -1 then Res.panic (.assertion "fd != -1") else .ok fd

namespace Socket

variable {K α : Type} (e : Endian) (sys : Syscalls K)

/-- A call whose failure is the error of the caller. -/
def callCvt (c : Syscall) : Io K (Int32 × Reply) := do
  let reply ← Io.call sys c
  let ret ← Io.lift (cvt reply.ret)
  pure (ret, reply)

/-! ## Generic socket options -/

def setsockopt (c : Codec α) (fd level opt : Int32) (val : α) : Io K Unit := do
  let _ ← callCvt sys (.setsockopt fd level opt (c.put e val) (UInt32.ofNat c.size))
  pure ()

/-- A zeroed value that the kernel fills in. -/
def getsockopt (c : Codec α) (fd level opt : Int32) : Io K α := do
  let (_, reply) ← callCvt sys (.getsockopt fd level opt (zeros c.size) (UInt32.ofNat c.size))
  pure (c.get e (overlay (zeros c.size) reply.out))

/-- A value with fields that the kernel reads before it fills it in. -/
def getsockoptInout (c : Codec α) (fd level opt : Int32) (val : α) : Io K α := do
  let (_, reply) ← callCvt sys (.getsockopt fd level opt (c.put e val) (UInt32.ofNat c.size))
  pure (c.get e (overlay (c.put e val) reply.out))

/-- The end of a scope that owns a descriptor, unless the scope has succeeded:
    `OwnedFd::drop` ignores what `close(2)` returns. -/
def closing (fd : Int32) (m : Io K α) : Io K α :=
  Io.dropOnFault (fun k => (sys k (.close fd)).2) m

def close (fd : Int32) : Io K Unit := do
  let _ ← Io.call sys (.close fd)
  pure ()

end Socket

end Lksctp
