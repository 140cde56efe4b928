-- SUMMARY: Sockets from creation to close: `new`, `accept`, `peeloff`, connection setup, non-blocking mode and `shutdown`.
import Lksctp.AddrList
import Lksctp.Socket.Bindx
import Lksctp.Socket.Options

/-!
# The life of a socket

A `Socket` owns its descriptor. The functions that create one own it before they have
finished setting it up, and must close it when they fail then: `closing` marks these
scopes. The other functions borrow the descriptor.
-/

namespace Lksctp

open Rust Machine

namespace Socket

variable {K : Type} (t : Target) (sys : Syscalls K)

/-! ## Creating a socket -/

def domainOf : Family → Int32
  | .ipv4 => Sys.afInet.toUInt32.toInt32
  | .ipv6 => Sys.afInet6.toUInt32.toInt32

def typeOf : Style → Int32
  | .oneToOne => Sys.sockStream
  | .oneToMany => Sys.sockSeqpacket

def new (family : Family) (style : Style) : Io K Int32 := do
  let (fd, _) ← callCvt sys
    (.socket (domainOf family) (typeOf style ||| Sys.sockCloexec) Sys.ipprotoSctp)
  let fd ← Io.lift (ownedFd fd)
  closing sys fd do
    enableRcvinfo t sys fd
    pure fd

/-- The address in a name that the kernel has written into 128 bytes. -/
def readName (name : Reply) (bad : IoError) : Res SocketAddr := do
  let bytes ← sliceTo (overlay (zeros 128) name.out) name.len.toNat
  let addr ← readAddress t.endian bytes
  Res.okOr addr bad

def badPeerSockaddr : IoError := .custom .invalidData "bad peer sockaddr"

def badLocalSockaddr : IoError := .custom .invalidData "bad local sockaddr"

def acceptWithFlags (fd flags : Int32) : Io K (Int32 × SocketAddr) := do
  let (sd, name) ← callCvt sys (.accept4 fd 128 flags)
  let sd ← Io.lift (ownedFd sd)
  closing sys sd do
    enableRcvinfo t sys sd
    let peer ← Io.lift (readName t name badPeerSockaddr)
    pure (sd, peer)

def accept (fd : Int32) : Io K (Int32 × SocketAddr) :=
  acceptWithFlags t sys fd Sys.sockCloexec

def acceptNonblocking (fd : Int32) : Io K (Int32 × SocketAddr) :=
  acceptWithFlags t sys fd (Sys.sockCloexec ||| Sys.sockNonblock)

def peeloffWithFlags (fd : Int32) (assocId : AssocId) (flags : Int32) : Io K Int32 := do
  let arg ← getsockoptInout t.endian sys Sys.SctpPeeloffFlagsArg.codec fd Sys.solSctp
    Sys.sctpSockoptPeeloffFlags { associd := assocId.val, sd := -1, flags := flags.toUInt32 }
  let sd ← Io.lift (ownedFd arg.sd)
  closing sys sd do
    enableRcvinfo t sys sd
    pure sd

def peeloff (fd : Int32) (assocId : AssocId) : Io K Int32 :=
  peeloffWithFlags t sys fd assocId Sys.sockCloexec

def peeloffNonblocking (fd : Int32) (assocId : AssocId) : Io K Int32 :=
  peeloffWithFlags t sys fd assocId (Sys.sockCloexec ||| Sys.sockNonblock)

/-! ## Setting up -/

/-- An address written into 128 zeroed bytes, with its length. -/
def packName (addr : SocketAddr) : Res (Bytes × UInt32) := do
  let (storage, n) ← Addr.writeSockaddr t.endian addr (zeros 128)
  pure (storage, UInt32.ofNat n)

def bind (fd : Int32) (addr : SocketAddr) : Io K Unit := do
  let (storage, len) ← Io.lift (packName t addr)
  let _ ← callCvt sys (.bind fd storage len)
  pure ()

def connect (fd : Int32) (addr : SocketAddr) : Io K Unit := do
  let (storage, len) ← Io.lift (packName t addr)
  let _ ← callCvt sys (.connect fd storage len)
  pure ()

def listen (fd backlog : Int32) : Io K Unit := do
  let _ ← callCvt sys (.listen fd backlog)
  pure ()

/-- The calls that `bindx` and `connectx` make, on the descriptor `fd`. -/
def addrCalls (fd : Int32) : Calls K := fun k call =>
  let (reply, k) := sys k (match call with
    | .setsockopt level opt optval optlen => .setsockopt fd level opt optval optlen
    | .getsockopt level opt assocId addrNum addrs optlen =>
      .getsockoptAddrs fd level opt assocId addrNum addrs optlen
    | .fcntlGetfl => .fcntlGetfl fd)
  ({ ret := reply.ret, assocId := Codec.i32.get t.endian (overlay (zeros 4) reply.out) }, k)

def bindxAddOn (fd : Int32) (addrs : List SocketAddr) : Io K Unit :=
  Io.of (bindxAdd t.endian (addrCalls t sys fd) addrs)

def bindxRemoveOn (fd : Int32) (addrs : List SocketAddr) : Io K Unit :=
  Io.of (bindxRemove t.endian (addrCalls t sys fd) addrs)

def connectxOn (fd : Int32) (addrs : List SocketAddr) : Io K AssocId :=
  Io.of (connectx t (addrCalls t sys fd) addrs)

def setNonblocking (fd : Int32) (nonblocking : Bool) : Io K Unit := do
  let (flags, _) ← callCvt sys (.fcntlGetfl fd)
  let new := if nonblocking then flags ||| Sys.oNonblock else flags &&& ~~~Sys.oNonblock
  if new ≠ flags then
    let _ ← callCvt sys (.fcntlSetfl fd new)
    pure ()
  else pure ()

/-! ## Names and shutdown -/

def localAddr (fd : Int32) : Io K SocketAddr := do
  let (_, name) ← callCvt sys (.getsockname fd 128)
  Io.lift (readName t name badLocalSockaddr)

def peerAddr (fd : Int32) : Io K SocketAddr := do
  let (_, name) ← callCvt sys (.getpeername fd 128)
  Io.lift (readName t name badPeerSockaddr)

def shutdownOneToMany : IoError :=
  .custom .unsupported
    "shutdown(2) does not close one-to-many SCTP associations; use SCTP_EOF or close the socket"

def howOf : Shutdown → Int32
  | .read => Sys.shutRd
  | .write => Sys.shutWr
  | .both => Sys.shutRdwr

def shutdown (fd : Int32) (how : Shutdown) : Io K Unit := do
  if (← style t sys fd) = .oneToMany then Io.err shutdownOneToMany
  else
    let _ ← callCvt sys (.shutdown fd (howOf how))
    pure ()

end Socket

end Lksctp
