-- SUMMARY: The public types that own a descriptor, the operations on them, and the world of a program that uses them.
import Lksctp.Descriptors
import Lksctp.Machine.System
import Lksctp.Net.Common
import Lksctp.Socket.Addrs
import Lksctp.Socket.Lifecycle

/-!
# API objects

Every public type owns one descriptor: sockets, builders, listeners, endpoints and
streams, and the future of a connect that is underway. An operation borrows its
object or takes it. A taken object is either handed back as another type or its
descriptor is closed, and where a function owns a descriptor only in a part of its
body, that part is a `closing` scope.

An operation that repeats a system call until it succeeds is one step per call
here, so that the steps of other objects may come in between. So is the wait of a
connect for its outcome, which is a state of its object.
-/

namespace Lksctp

open Rust Machine Kernel Socket

namespace Net

section Code

variable {K : Type} (t : Target) (sys : Syscalls K)

/-! ## Registration -/

/-- `AsyncFd::new`, which panics when there is no runtime to register with. -/
def asyncFd (fd : Int32) : Io K Unit := do
  let handle ← Io.call sys .currentRuntime
  match handle.ret with
  | .ok _ =>
    let _ ← callCvt sys (.register fd)
    pure ()
  | .error _ => Io.lift (Res.panic .noRuntime)

def register (fd : Int32) : Io K Unit :=
  closing sys fd do
    setNonblocking sys fd true
    asyncFd sys fd

/-- Registers a socket that was created with `SOCK_NONBLOCK`. -/
def registerNonblocking (fd : Int32) : Io K Unit :=
  closing sys fd (asyncFd sys fd)

def familyOf : SocketAddr → Family
  | .v4 .. => .ipv4
  | .v6 .. => .ipv6

/-- Each event comes with the byte of padding that its structure has on the stack. -/
def subscribeAll (fd : Int32) : List (EventType × UInt8) → Io K Unit
  | [] => pure ()
  | (event, tail) :: events => do
    subscribeEvent t sys fd event true tail
    subscribeAll fd events

/-! ## Listeners -/

namespace SctpListener

def notListening : IoError := .custom .invalidInput "socket is not listening"

def fromSocket (fd : Int32) : Io K Unit := do
  closing sys fd do
    if (← style t sys fd) ≠ .oneToOne then Io.err notListening
    else if ¬ (← isListening t sys fd) then Io.err notListening
    else pure ()
  register sys fd

/-- `ListenerBuilder::listen`. -/
def listen (fd backlog : Int32) : Io K Unit := do
  closing sys fd (Socket.listen sys fd backlog)
  fromSocket t sys fd

def bind (addr : SocketAddr) : Io K Int32 := do
  let fd ← Socket.new t sys (familyOf addr) .oneToOne
  closing sys fd (bindxAddOn t sys fd [addr])
  listen t sys fd 128
  pure fd

/-- One attempt of `accept`. -/
def accept (fd : Int32) : Io K Int32 := do
  let (sd, _) ← acceptNonblocking t sys fd
  registerNonblocking sys sd
  pure sd

end SctpListener

/-! ## Endpoints -/

namespace SctpEndpoint

def notOneToMany : IoError := .custom .invalidInput "socket is not one-to-many"

/-- Also `EndpointBuilder::build`. -/
def fromSocket (fd : Int32) : Io K Unit := do
  closing sys fd do
    if (← style t sys fd) ≠ .oneToMany then Io.err notOneToMany
    else pure ()
  register sys fd

/-- `EndpointBuilder::listen`. -/
def listen (fd backlog : Int32) : Io K Unit := do
  closing sys fd (Socket.listen sys fd backlog)
  fromSocket t sys fd

def bind (addr : SocketAddr) : Io K Int32 := do
  let fd ← Socket.new t sys (familyOf addr) .oneToMany
  closing sys fd (bindxAddOn t sys fd [addr])
  listen t sys fd 128
  pure fd

def peeloff (fd : Int32) (assocId : AssocId) : Io K Int32 := do
  let sd ← peeloffNonblocking t sys fd assocId
  registerNonblocking sys sd
  pure sd

end SctpEndpoint

/-! ## Streams -/

namespace SctpStream

def notOneToOne : IoError := .custom .invalidInput "socket is not one-to-one"

/-- A connect up to its first `await`: the rest of `connectx` after the subscription. -/
def initiate (fd : Int32) (addrs : List SocketAddr) : Io K Unit := do
  register sys fd
  closing sys fd do
    let _ ← connectxOn t sys fd addrs
    pure ()

/-- `StreamBuilder::connectx` up to `established`. -/
def connectx (fd : Int32) (assocChangeSubscribed : Bool) (addrs : List SocketAddr) (tail : UInt8) :
    Io K Unit := do
  closing sys fd do
    if ¬ assocChangeSubscribed then subscribeEvent t sys fd .assocChange true tail
    else pure ()
  initiate t sys fd addrs

/-- One move of `established`: a wait for readiness, or a system call. -/
def establish (fd : Int32) : EstState → Io K (Step EstState Unit)
  | .io (.waiting s) => do
    let _ ← callCvt sys (.readable fd)
    pure (.next (.io (.running s)))
  | .io (.running s) => do
    let reply ← Io.call sys (.recvmsg fd ((recvMsg t).request s))
    match tryRecv false ((recvMsg t).resume s reply.received) with
    | .next a => pure (.next (.io a))
    | .done out =>
      match afterReceive out with
      | .next st => pure (.next st)
      | .done r => do
        Io.lift r
        pure (.done ())
  | .takeError => do
    match ← takeError t sys fd with
    | some error => Io.err error
    | none => Io.err notEstablished

/-- `StreamBuilder::connectx` behind `established`. -/
def finish (fd : Int32) (assocChangeSubscribed : Bool) (tail : UInt8) : Io K Unit :=
  closing sys fd do
    if ¬ assocChangeSubscribed then subscribeEvent t sys fd .assocChange false tail
    else pure ()

/-- `connectx_from_socket` up to `established`; the subscription is kept. -/
def connectxFromSocket (fd : Int32) (addrs : List SocketAddr) (tail : UInt8) : Io K Unit := do
  closing sys fd do
    if (← style t sys fd) ≠ .oneToOne then Io.err notOneToOne
    else subscribeEvent t sys fd .assocChange true tail
  initiate t sys fd addrs

/-- One move of `connectx` from its first `await` on. The future owns the socket, and returns
    where it waits next, or nothing when there is a stream. -/
def proceed (fd : Int32) (keep : Bool) (st : EstState) (tail : UInt8) : Io K (Option EstState) := do
  match ← closing sys fd (establish t sys fd st) with
  | .next st => pure (some st)
  | .done () => do
    finish t sys fd keep tail
    pure none

def connect (addr : SocketAddr) (tail : UInt8) : Io K Int32 := do
  let fd ← Socket.new t sys (familyOf addr) .oneToOne
  connectx t sys fd false [addr] tail
  pure fd

def abort (fd : Int32) : Io K Unit := do
  closing sys fd (setAbortOnClose t sys fd)
  close sys fd

end SctpStream

end Code

/-! ## Objects -/

inductive Kind where
  /-- A descriptor that the application holds by itself. -/
  | raw
  | socket
  | streamBuilder (assocChangeSubscribed : Bool)
  | listenerBuilder
  | endpointBuilder
  /-- A connect that is in `established`; `keep` says that the subscription to `AssocChange`
      stays. -/
  | connecting (keep : Bool) (st : EstState)
  | stream
  | listener
  | endpoint
  deriving DecidableEq

structure Object where
  kind : Kind
  fd : Int32
  /-- The descriptor has come from the application. -/
  adopted : Bool
  deriving DecidableEq

/-- A connect behind its first system calls, before it has waited for anything. -/
def Kind.connected (keep : Bool) : Kind := .connecting keep estStart

/-- A connect after a move: where it is now, or the stream. -/
def Kind.proceeded (keep : Bool) : Option EstState → Kind
  | some st => .connecting keep st
  | none => .stream

/-- The operations that borrow an object. -/
inductive Use where
  | set (o : SetOption)
  | get (q : GetOption)
  | subscribeEvents (events : List (EventType × UInt8))
  | bind (addr : SocketAddr)
  | bindxAdd (addrs : List SocketAddr)
  | bindxRemove (addrs : List SocketAddr)
  | listen (backlog : Int32)
  | connect (addr : SocketAddr)
  | connectx (addrs : List SocketAddr)
  | setNonblocking (nonblocking : Bool)
  /-- One `recvmsg(2)` of a receive. -/
  | recv (req : RecvReq)
  /-- One `sendmsg(2)` of a send. -/
  | send
  | localAddr
  | peerAddr
  /-- One attempt of a query for all local or all peer addresses. -/
  | localAddrs (assocId : AssocId) (query : AddrsQuery)
  | peerAddrs (assocId : AssocId) (query : AddrsQuery)
  | shutdown (how : Shutdown)
  deriving DecidableEq

def Use.run {K : Type} (t : Target) (abi : Abi) (sys : Syscalls K) (fd : Int32) :
    Use → Io K Unit
  | .set o => o.set t abi sys fd
  | .get q => do
    let _ ← q.get t abi sys fd
    pure ()
  | .subscribeEvents events => subscribeAll t sys fd events
  | .bind addr => Socket.bind t sys fd addr
  | .bindxAdd addrs => bindxAddOn t sys fd addrs
  | .bindxRemove addrs => bindxRemoveOn t sys fd addrs
  | .listen backlog => Socket.listen sys fd backlog
  | .connect addr => Socket.connect t sys fd addr
  | .connectx addrs => do
    let _ ← connectxOn t sys fd addrs
    pure ()
  | .setNonblocking nonblocking => Socket.setNonblocking sys fd nonblocking
  | .recv req => do
    let _ ← callCvt sys (.recvmsg fd req)
    pure ()
  | .send => do
    let _ ← callCvt sys (.sendmsg fd)
    pure ()
  | .localAddr => do
    let _ ← Socket.localAddr t sys fd
    pure ()
  | .peerAddr => do
    let _ ← Socket.peerAddr t sys fd
    pure ()
  | .localAddrs assocId query => queryAddrs Sys.sctpGetLocalAddrs assocId query
  | .peerAddrs assocId query => queryAddrs Sys.sctpGetPeerAddrs assocId query
  | .shutdown how => Socket.shutdown t sys fd how
where
  queryAddrs (opt : Int32) (assocId : AssocId) (query : AddrsQuery) : Io K Unit := do
    let req := (addrsLoop t assocId opt).request query
    let _ ← callCvt sys (.getsockopt fd Sys.solSctp req.opt req.optval req.optlen)
    pure ()

/-! ## Who offers what -/

/-- The options of streams and endpoints. -/
def commonSet : SetOption → Bool
  | .initParams _ | .reusePort _ | .abortOnClose | .autoclose _ | .sendTimeout _
  | .recvTimeout _ => false
  | _ => true

def commonGet : GetOption → Bool
  | .initParams | .reusePort | .isListening | .style | .sendTimeout | .recvTimeout => false
  | _ => true

/-- The options of a listener are those of future associations. -/
def listenerSet : SetOption → Bool
  | .nodelay _ | .sendBufferSize _ | .recvBufferSize _ => true
  | .event assocId .. | .rtoInfo assocId _ | .assocInfo assocId _ | .delayedSack assocId _ =>
    assocId = .future
  | .peerAddrParams assocId addr _ => assocId = .future ∧ addr = none
  | _ => false

def listenerGet : GetOption → Bool
  | .nodelay | .sendBufferSize | .recvBufferSize | .reuseAddress | .reusePort => true
  | .rtoInfo assocId | .assocInfo assocId | .delayedSack assocId => assocId = .future
  | .peerAddrParams assocId addr => assocId = .future ∧ addr = none
  | _ => false

/-- The options of a builder. -/
def builderSet : SetOption → Bool
  | .initParams _ | .nodelay _ | .sendBufferSize _ | .recvBufferSize _ | .reuseAddress _
  | .reusePort _ => true
  | .rtoInfo assocId _ | .assocInfo assocId _ | .delayedSack assocId _ => assocId = .future
  | .peerAddrParams assocId addr _ => assocId = .future ∧ addr = none
  | _ => false

def endpointBuilderSet : SetOption → Bool
  | .initParams _ | .nodelay _ | .sendBufferSize _ | .recvBufferSize _ | .reuseAddress _ => true
  | _ => false

/-- The methods of a type that borrow their object. -/
def Kind.lends : Kind → Use → Bool
  | .raw, _ => false
  | .socket, .set .abortOnClose | .socket, .get .isListening | .socket, .get .style => false
  | .socket, _ => true
  | .streamBuilder _, _ | .listenerBuilder, _ | .endpointBuilder, _ | .connecting .., _ => false
  | .stream, .set .abortOnClose | .stream, .get .reusePort => true
  | .stream, .set o => commonSet o
  | .stream, .get q => commonGet q
  | .stream, .subscribeEvents _ | .stream, .recv _ | .stream, .send | .stream, .localAddr
  | .stream, .peerAddr | .stream, .localAddrs .. | .stream, .peerAddrs .. | .stream, .shutdown _ => true
  | .stream, _ => false
  | .listener, .set o => listenerSet o
  | .listener, .get q => listenerGet q
  | .listener, .subscribeEvents _ | .listener, .localAddr => true
  | .listener, .localAddrs assocId _ => assocId = .future
  | .listener, _ => false
  | .endpoint, .set (.autoclose _) => true
  | .endpoint, .set o => commonSet o
  | .endpoint, .get q => commonGet q
  | .endpoint, .subscribeEvents _ | .endpoint, .connectx _ | .endpoint, .recv _ | .endpoint, .send
  | .endpoint, .localAddr | .endpoint, .localAddrs .. | .endpoint, .peerAddrs .. => true
  | .endpoint, _ => false

/-- The methods of a builder, which take it and hand it back. -/
def Kind.configures : Kind → Use → Bool
  | .streamBuilder _, .set o | .listenerBuilder, .set o => builderSet o
  | .endpointBuilder, .set o => endpointBuilderSet o
  | .streamBuilder _, .bindxAdd _ | .listenerBuilder, .bindxAdd _ | .endpointBuilder, .bindxAdd _
  | .streamBuilder _, .subscribeEvents _ | .listenerBuilder, .subscribeEvents _
  | .endpointBuilder, .subscribeEvents _ => true
  | _, _ => false

/-- The builder after one of its methods has succeeded. -/
def Kind.configured : Kind → Use → Kind
  | .streamBuilder subscribed, .subscribeEvents events =>
    .streamBuilder (subscribed || (events.map Prod.fst).contains .assocChange)
  | kind, _ => kind

/-! ## Actions -/

inductive Action where
  | new (family : Family) (style : Style)
  | streamBuilder (family : Family)
  | listenerBuilder (family : Family)
  | endpointBuilder (family : Family)
  | listenerBind (addr : SocketAddr)
  | endpointBind (addr : SocketAddr)
  | streamConnect (addr : SocketAddr) (tail : UInt8)
  | use (o : Object) (op : Use)
  | accept (o : Object)
  | listenerAccept (o : Object)
  | peeloff (o : Object) (assocId : AssocId)
  | endpointPeeloff (o : Object) (assocId : AssocId)
  | configure (o : Object) (op : Use)
  | listenerFromSocket (o : Object)
  | endpointFromSocket (o : Object)
  | connectxFromSocket (o : Object) (addrs : List SocketAddr) (tail : UInt8)
  | listenerListen (o : Object) (backlog : Int32)
  | endpointListen (o : Object) (backlog : Int32)
  | endpointBuild (o : Object)
  | connectx (o : Object) (subscribed : Bool) (addrs : List SocketAddr) (tail : UInt8)
  /-- One move of a connect that is in `established`, and what follows its last one. -/
  | established (o : Object) (keep : Bool) (st : EstState) (tail : UInt8)
  | abort (o : Object)
  /-- Any value may be dropped at any time; dropping a future cancels it. -/
  | drop (o : Object)
  | intoRawFd (o : Object)
  | fromRawFd (o : Object)

namespace Action

/-- The object that an operation is a method of. -/
def actor : Action → Option Object
  | .new .. | .streamBuilder _ | .listenerBuilder _ | .endpointBuilder _ | .listenerBind _
  | .endpointBind _ | .streamConnect .. => none
  | .use o _ | .accept o | .listenerAccept o | .peeloff o _ | .endpointPeeloff o _ | .configure o _
  | .listenerFromSocket o | .endpointFromSocket o | .connectxFromSocket o .. | .listenerListen o _
  | .endpointListen o _ | .endpointBuild o | .connectx o .. | .established o .. | .abort o | .drop o
  | .intoRawFd o | .fromRawFd o => some o

/-- Whether it takes that object. -/
def takes : Action → Bool
  | .use .. | .accept _ | .listenerAccept _ | .peeloff .. | .endpointPeeloff .. => false
  | _ => true

/-- What the types demand. -/
def typed : Action → Bool
  | .new .. | .streamBuilder _ | .listenerBuilder _ | .endpointBuilder _ | .listenerBind _
  | .endpointBind _ | .streamConnect .. | .drop _ => true
  | .use o op => o.kind.lends op
  | .configure o op => o.kind.configures op
  | .accept o | .peeloff o _ | .listenerFromSocket o | .endpointFromSocket o
  | .connectxFromSocket o .. | .intoRawFd o => o.kind = .socket
  | .listenerAccept o => o.kind = .listener
  | .endpointPeeloff o _ => o.kind = .endpoint
  | .listenerListen o _ => o.kind = .listenerBuilder
  | .endpointListen o _ | .endpointBuild o => o.kind = .endpointBuilder
  | .connectx o subscribed .. => o.kind = .streamBuilder subscribed
  | .established o keep st _ => o.kind = .connecting keep st
  | .abort o => o.kind = .stream
  | .fromRawFd o => o.kind = .raw

/-- The methods of `SctpSocket` may wait for the peer; nothing else may. -/
def mayWait : Action → Bool
  | .use o _ => o.kind = .socket
  | .accept _ => true
  | _ => false

/-- The operations that register a descriptor with the reactor. -/
def registers : Action → Bool
  | .listenerBind _ | .endpointBind _ | .streamConnect .. | .listenerAccept _ | .endpointPeeloff ..
  | .listenerFromSocket _ | .endpointFromSocket _ | .connectxFromSocket .. | .listenerListen ..
  | .endpointListen .. | .endpointBuild _ | .connectx .. => true
  | _ => false

variable {K : Type} (t : Target) (abi : Abi) (sys : Syscalls K)

/-- The code of an action; its result is the objects that it hands to the caller. -/
def code : Action → Io K (List Object)
  | .new family style => do
    pure [⟨.socket, ← Socket.new t sys family style, false⟩]
  | .streamBuilder family => do
    pure [⟨.streamBuilder false, ← Socket.new t sys family .oneToOne, false⟩]
  | .listenerBuilder family => do
    pure [⟨.listenerBuilder, ← Socket.new t sys family .oneToOne, false⟩]
  | .endpointBuilder family => do
    pure [⟨.endpointBuilder, ← Socket.new t sys family .oneToMany, false⟩]
  | .listenerBind addr => do
    pure [⟨.listener, ← SctpListener.bind t sys addr, false⟩]
  | .endpointBind addr => do
    pure [⟨.endpoint, ← SctpEndpoint.bind t sys addr, false⟩]
  | .streamConnect addr tail => do
    pure [⟨.connected false, ← SctpStream.connect t sys addr tail, false⟩]
  | .use o op => do
    op.run t abi sys o.fd
    pure []
  | .accept o => do
    pure [⟨.socket, (← Socket.accept t sys o.fd).1, false⟩]
  | .listenerAccept o => do
    pure [⟨.stream, ← SctpListener.accept t sys o.fd, false⟩]
  | .peeloff o assocId => do
    pure [⟨.socket, ← Socket.peeloff t sys o.fd assocId, false⟩]
  | .endpointPeeloff o assocId => do
    pure [⟨.stream, ← SctpEndpoint.peeloff t sys o.fd assocId, false⟩]
  | .configure o op => do
    closing sys o.fd (op.run t abi sys o.fd)
    pure [{ o with kind := o.kind.configured op }]
  | .listenerFromSocket o => do
    SctpListener.fromSocket t sys o.fd
    pure [{ o with kind := .listener }]
  | .endpointFromSocket o | .endpointBuild o => do
    SctpEndpoint.fromSocket t sys o.fd
    pure [{ o with kind := .endpoint }]
  | .connectxFromSocket o addrs tail => do
    SctpStream.connectxFromSocket t sys o.fd addrs tail
    pure [{ o with kind := .connected true }]
  | .listenerListen o backlog => do
    SctpListener.listen t sys o.fd backlog
    pure [{ o with kind := .listener }]
  | .endpointListen o backlog => do
    SctpEndpoint.listen t sys o.fd backlog
    pure [{ o with kind := .endpoint }]
  | .connectx o subscribed addrs tail => do
    SctpStream.connectx t sys o.fd subscribed addrs tail
    pure [{ o with kind := .connected subscribed }]
  | .established o keep st tail => do
    let next ← SctpStream.proceed t sys o.fd keep st tail
    pure [{ o with kind := .proceeded keep next }]
  | .abort o => do
    SctpStream.abort t sys o.fd
    pure []
  | .drop o => do
    close sys o.fd
    pure []
  | .intoRawFd o => pure [{ o with kind := .raw, adopted := true }]
  | .fromRawFd o => do
    let fd ← Io.lift (ownedFd o.fd)
    pure [{ kind := .socket, fd, adopted := true }]

end Action

/-- The objects that an action leaves where they are. -/
def keptBy (a : Action) (objects : List Object) : List Object :=
  match a.actor with
  | some o => if a.takes then objects.erase o else objects
  | none => objects

/-! ## The world -/

structure World (K : Type) where
  kernel : K
  objects : List Object
  deriving DecidableEq

/-- What an action has done. -/
structure Performed (K : Type) where
  result : Res Unit
  world : World K
  trace : FdKernel.Trace

namespace World

variable {K : Type} {t : Target} (M : FdKernel t.endian K) (abi : Abi)

def enabled (w : World K) (a : Action) : Bool :=
  a.typed && match a.actor with
    | some o => w.objects.contains o
    | none => true

def outcome (w : World K) (a : Action) : Performed K :=
  match (a.code t abi M.traced.serve).exec (w.kernel, []) with
  | (.ok made, k, trace) =>
    { result := .ok (), world := { kernel := k, objects := made ++ keptBy a w.objects }, trace }
  | (.error fault, k, trace) =>
    { result := .error fault, world := { kernel := k, objects := keptBy a w.objects }, trace }

def perform (w : World K) (a : Action) : Option (Performed K) :=
  if w.enabled a then some (w.outcome M abi a) else none

end World

/-- A program that uses the crate in any way its types allow. -/
def world {K : Type} {t : Target} (M : FdKernel t.endian K) (abi : Abi) :
    System (World K) Action where
  step w a := (w.perform M abi a).map Performed.world

end Net

end Lksctp
