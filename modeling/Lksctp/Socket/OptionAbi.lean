-- SUMMARY: Option calls refine typed operations: a kernel that decodes the structures gets exactly what the caller meant, and its answers come back as they are.
import Lksctp.Socket.Options
import Lksctp.Uapi

/-!
# Options as typed operations

An `OptionKernel` is asked for options by name, with numbers and addresses. Behind
the byte interface it has to find out which option is meant from two numbers and a
size, decode the structure, and encode its answer. `OptionKernel.serve` is that
interface, on either byte order and pointer width, and it is written with the
layouts of the kernel's headers.

What the setters and getters do there is what the typed operations do, call by call
and so for every sequence of calls.
-/

namespace Lksctp

open Rust Machine Socket

namespace Kernel

open Uapi (OptName)

/-! ## Requests -/

/-- The timeout that a `timeval` sets; `none` when it is not normalised. -/
def timeoutSet (sec usec : Int) : Option (Option Duration) :=
  if 0 ≤ sec ∧ 0 ≤ usec ∧ usec < 1000000 then
    some (if sec = 0 ∧ usec = 0 then none
      else some (.ofNanos (sec.toNat * 1000000000 + usec.toNat * 1000)))
  else none

/-- What a structure asks to be set. -/
def decodeSet (time : CWidth) (e : Endian) (optval : Bytes) : OptName → Option SetOption
  | .rtoinfo =>
    some (.rtoInfo ⟨Codec.i32.field e optval 0⟩
      { initial := Codec.u32.field e optval 4
        max := Codec.u32.field e optval 8
        min := Codec.u32.field e optval 12 })
  | .associnfo =>
    -- The other fields can only be read.
    some (.assocInfo ⟨Codec.i32.field e optval 0⟩
      { asocmaxrxt := Codec.u16.field e optval 4
        numberPeerDestinations := 0
        peerRwnd := 0
        localRwnd := 0
        cookieLife := Codec.u32.field e optval 16 })
  | .initmsg =>
    some (.initParams
      { numOstreams := Codec.u16.field e optval 0
        maxInstreams := Codec.u16.field e optval 2
        maxAttempts := Codec.u16.field e optval 4
        maxInitTimeo := Codec.u16.field e optval 6 })
  | .nodelay => some (.nodelay (Codec.i32.field e optval 0 ≠ 0))
  | .autoclose => some (.autoclose (Codec.u32.field e optval 0))
  | .primaryAddr =>
    (Uapi.sockaddr e (optval.drop 4)).map (.primary ⟨Codec.i32.field e optval 0⟩)
  | .peerAddrParams =>
    some (.peerAddrParams ⟨Codec.i32.field e optval 0⟩ (Uapi.sockaddr e (optval.drop 4))
      { hbInterval := Codec.u32.field e optval 132
        pathMaxRxt := Codec.u16.field e optval 136
        pathMtu := Codec.u32.field e optval 138
        sackDelay := Codec.u32.field e optval 142
        flags := Codec.u32.field e optval 146
        ipv6Flowlabel := Codec.u32.field e optval 150
        dscp := Codec.u8.field e optval 154 })
  | .delayedSack =>
    some (.delayedSack ⟨Codec.i32.field e optval 0⟩
      { delayMs := Codec.u32.field e optval 4
        freq := Codec.u32.field e optval 8 })
  | .reusePort => some (.reusePort (Codec.i32.field e optval 0 ≠ 0))
  | .event =>
    (Uapi.events.lookup (Codec.u16.field e optval 4)).map fun event =>
      .event ⟨Codec.i32.field e optval 0⟩ event (Codec.u8.field e optval 6 ≠ 0) 0
  | .soReuseaddr => some (.reuseAddress (Codec.i32.field e optval 0 ≠ 0))
  | .soSndbuf => some (.sendBufferSize (Codec.i32.field e optval 0).toInt.toNat)
  | .soRcvbuf => some (.recvBufferSize (Codec.i32.field e optval 0).toInt.toNat)
  | .soLinger =>
    if Codec.i32.field e optval 0 ≠ 0 ∧ Codec.i32.field e optval 4 = 0 then some .abortOnClose
    else none
  | .soSndtimeo =>
    (timeoutSet (time.codec.field e optval 0).toInt
      (time.codec.field e optval (time.bits / 8)).toInt).map .sendTimeout
  | .soRcvtimeo =>
    (timeoutSet (time.codec.field e optval 0).toInt
      (time.codec.field e optval (time.bits / 8)).toInt).map .recvTimeout
  | _ => none

/-- What a structure asks for. The id of an association is the first field of all. -/
def decodeGet (e : Endian) (optval : Bytes) : OptName → Option GetOption
  | .rtoinfo => some (.rtoInfo ⟨Codec.i32.field e optval 0⟩)
  | .associnfo => some (.assocInfo ⟨Codec.i32.field e optval 0⟩)
  | .initmsg => some .initParams
  | .nodelay => some .nodelay
  | .peerAddrParams =>
    some (.peerAddrParams ⟨Codec.i32.field e optval 0⟩ (Uapi.sockaddr e (optval.drop 4)))
  | .status => some (.status ⟨Codec.i32.field e optval 0⟩)
  | .peerAddrInfo =>
    (Uapi.sockaddr e (optval.drop 4)).map (.peerAddrInfo ⟨Codec.i32.field e optval 0⟩)
  | .delayedSack => some (.delayedSack ⟨Codec.i32.field e optval 0⟩)
  | .reusePort => some .reusePort
  | .assocStats => some (.assocStats ⟨Codec.i32.field e optval 0⟩)
  | .soReuseaddr => some .reuseAddress
  | .soType => some .style
  | .soError => some .takeError
  | .soSndbuf => some .sendBufferSize
  | .soRcvbuf => some .recvBufferSize
  | .soSndtimeo => some .sendTimeout
  | .soRcvtimeo => some .recvTimeout
  | .soAcceptconn => some .isListening
  | _ => none

/-! ## Answers -/

/-- What the kernel answers to a question; the numbers are those of the ABI. -/
def Answer (time : CWidth) : GetOption → Type
  | .initParams => InitParams
  | .nodelay | .reuseAddress | .reusePort | .isListening => Bool
  | .style | .takeError | .sendBufferSize | .recvBufferSize => Int32
  | .sendTimeout | .recvTimeout => Uapi.Timeval time
  | .rtoInfo _ => RtoInfo
  | .assocInfo _ => AssocInfo
  | .delayedSack _ => SackInfo
  | .assocStats _ => AssocStats
  | .status _ => Uapi.StatusInfo
  | .peerAddrInfo .. => Uapi.PathInfo
  | .peerAddrParams .. => PeerAddrParams

/-- The answer in the structure of the question, field by field. -/
def encode (abi : Abi) (w : PtrWidth) (e : Endian) : (q : GetOption) → Answer abi.time q → Bytes
  | .initParams, (p : InitParams) =>
    Codec.u16.put e p.numOstreams ++ (Codec.u16.put e p.maxInstreams ++
      (Codec.u16.put e p.maxAttempts ++ Codec.u16.put e p.maxInitTimeo))
  | .nodelay, (on : Bool) | .reuseAddress, (on : Bool) | .reusePort, (on : Bool)
  | .isListening, (on : Bool) => Codec.i32.put e (if on then 1 else 0)
  | .style, (v : Int32) | .takeError, (v : Int32) | .sendBufferSize, (v : Int32)
  | .recvBufferSize, (v : Int32) => Codec.i32.put e v
  | .sendTimeout, (tv : Uapi.Timeval abi.time) | .recvTimeout, (tv : Uapi.Timeval abi.time) =>
    tv.bytes e
  | .rtoInfo assocId, (i : RtoInfo) =>
    Codec.i32.put e assocId.val ++ (Codec.u32.put e i.initial ++ (Codec.u32.put e i.max ++
      Codec.u32.put e i.min))
  | .assocInfo assocId, (i : AssocInfo) =>
    Codec.i32.put e assocId.val ++ (Codec.u16.put e i.asocmaxrxt ++
      (Codec.u16.put e i.numberPeerDestinations ++ (Codec.u32.put e i.peerRwnd ++
        (Codec.u32.put e i.localRwnd ++ Codec.u32.put e i.cookieLife))))
  | .delayedSack assocId, (i : SackInfo) =>
    Codec.i32.put e assocId.val ++ (Codec.u32.put e i.delayMs ++ Codec.u32.put e i.freq)
  | .assocStats _, (s : AssocStats) => Uapi.statsBytes w abi.alignU64 e s
  | .status _, (s : Uapi.StatusInfo) => s.bytes e
  | .peerAddrInfo .., (p : Uapi.PathInfo) => p.bytes e
  | .peerAddrParams assocId addr, (p : PeerAddrParams) =>
    -- The last byte aligns the packed structure.
    Codec.i32.put e assocId.val ++ (Uapi.storage e addr ++ (Codec.u32.put e p.hbInterval ++
      (Codec.u16.put e p.pathMaxRxt ++ (Codec.u32.put e p.pathMtu ++ (Codec.u32.put e p.sackDelay ++
        (Codec.u32.put e p.flags ++ (Codec.u32.put e p.ipv6Flowlabel ++ (Codec.u8.put e p.dscp ++
          Codec.u8.put e 0))))))))

/-! ## What the caller is told -/

def pathValue (p : Uapi.PathInfo) : PeerAddrInfo where
  assocId := ⟨p.assocId⟩
  address := p.address
  state := (Uapi.pathStates.lookup p.state).getD (.unknown p.state)
  cwnd := p.cwnd
  srtt := p.srtt
  rto := p.rto
  mtu := p.mtu

def statusValue (s : Uapi.StatusInfo) : AssocStatus where
  assocId := ⟨s.assocId⟩
  state := (Uapi.assocStates.lookup s.state).getD (.unknown s.state)
  rwnd := s.rwnd
  unackdata := s.unackdata
  penddata := s.penddata
  instrms := s.instrms
  outstrms := s.outstrms
  fragmentationPoint := s.fragmentationPoint
  primary := pathValue s.primary

/-- A size; a negative one wraps around. -/
def sizeValue (w : PtrWidth) (v : Int32) : Nat :=
  match v.toInt with
  | .ofNat n => n
  | .negSucc n => w.usizeRange - (n + 1)

/-- A timeout; its negative parts count as zero. -/
def timeoutValue {time : CWidth} (tv : Uapi.Timeval time) : Option Duration :=
  if tv.sec.toInt = 0 ∧ tv.usec.toInt = 0 then none
  else some (.ofNanos (tv.sec.toInt.toNat * 1000000000 + tv.usec.toInt.toNat * 1000))

def value (abi : Abi) (w : PtrWidth) : (q : GetOption) → Answer abi.time q → Res q.Value
  | .initParams, (p : InitParams) => .ok p
  | .nodelay, (on : Bool) | .reuseAddress, (on : Bool) | .reusePort, (on : Bool)
  | .isListening, (on : Bool) => .ok on
  | .style, (v : Int32) =>
    match Uapi.styles.lookup v with
    | some style => .ok style
    | none => Res.err neitherStyle
  | .takeError, (v : Int32) => .ok (if v = 0 then none else some (.os v))
  | .sendBufferSize, (v : Int32) | .recvBufferSize, (v : Int32) => .ok (sizeValue w v)
  | .sendTimeout, (tv : Uapi.Timeval abi.time) | .recvTimeout, (tv : Uapi.Timeval abi.time) =>
    .ok (timeoutValue tv)
  | .rtoInfo _, (i : RtoInfo) => .ok i
  | .assocInfo _, (i : AssocInfo) => .ok i
  | .delayedSack _, (i : SackInfo) => .ok i
  | .assocStats _, (s : AssocStats) => .ok s
  | .status _, (s : Uapi.StatusInfo) => .ok (statusValue s)
  | .peerAddrInfo .., (p : Uapi.PathInfo) => .ok (pathValue p)
  | .peerAddrParams .., (p : PeerAddrParams) => .ok p

/-! ## The byte interface -/

/-- A kernel with options that have values. -/
structure OptionKernel (time : CWidth) (K : Type) where
  set : K → Int32 → SetOption → Except Errno Unit × K
  get : K → Int32 → (q : GetOption) → Except Errno (Answer time q) × K

variable {K α β : Type}

/-- The option that a call is about, if its size is the right one. -/
def optionOf (abi : Abi) (w : PtrWidth) (level opt : Int32) (optlen : UInt32) : Option OptName :=
  (OptName.ofNumber level opt).filter fun n => optlen = UInt32.ofNat (n.size w abi.alignU64 abi.time)

/-- The system calls of such a kernel; other calls go to `other`. -/
def OptionKernel.serve (abi : Abi) (N : OptionKernel abi.time K) (t : Target) (other : Syscalls K) :
    Syscalls K := fun k c =>
  match c with
  | .setsockopt fd level opt optval optlen =>
    match (optionOf abi t.ptr level opt optlen).bind (decodeSet abi.time t.endian optval) with
    | none => ({ ret := .error Errno.einval }, k)
    | some o =>
      match N.set k fd o with
      | (.ok (), k) => ({ ret := .ok 0 }, k)
      | (.error errno, k) => ({ ret := .error errno }, k)
  | .getsockopt fd level opt optval optlen =>
    match (optionOf abi t.ptr level opt optlen).bind (decodeGet t.endian optval) with
    | none => ({ ret := .error Errno.einval }, k)
    | some q =>
      match N.get k fd q with
      | (.ok answer, k) =>
        ({ ret := .ok 0, out := encode abi t.ptr t.endian q answer, len := optlen }, k)
      | (.error errno, k) => ({ ret := .error errno }, k)
  | c => other k c

/-- The result of an operation, with what the caller makes of its value. -/
def replied (r : Except Errno α × K) (f : α → Res β) : Res β × K :=
  match r with
  | (.ok a, k) => (f a, k)
  | (.error errno, k) => (Res.err (.os errno), k)

/-! ## What reaches the kernel -/

/-- A timeout in the units of the kernel: whole microseconds, at least one of them, and no more
    seconds than the type has room for. -/
def timeoutSent (time : CWidth) (d : Duration) : Duration :=
  .ofNanos (min d.secs time.max * 1000000000 + max 1 (d.asNanos / 1000) % 1000000 * 1000)

def carriedTimeout (time : CWidth) : Option Duration → Except IoError (Option Duration)
  | none => .ok none
  | some d => if d.asNanos = 0 then .error zeroDuration else .ok (some (timeoutSent time d))

/-- What reaches the kernel of an option. Sizes that do not fit and timeouts of zero stop the
    call, and fields that cannot be set are not passed on. -/
def carried (time : CWidth) : SetOption → Except IoError SetOption
  | .sendBufferSize size =>
    if size < 2 ^ 31 then .ok (.sendBufferSize size) else .error bufferTooLarge
  | .recvBufferSize size =>
    if size < 2 ^ 31 then .ok (.recvBufferSize size) else .error bufferTooLarge
  | .sendTimeout dur => (carriedTimeout time dur).map .sendTimeout
  | .recvTimeout dur => (carriedTimeout time dur).map .recvTimeout
  | .event assocId event on _ => .ok (.event assocId event on 0)
  | .assocInfo assocId info => .ok (.assocInfo assocId ⟨info.asocmaxrxt, 0, 0, 0, info.cookieLife⟩)
  | o => .ok o

/-- What a setter returns: a refusal, or what the kernel says to the option. -/
def OptionKernel.setCarried {time : CWidth} (N : OptionKernel time K) (fd : Int32) (k : K) :
    Except IoError SetOption → Res Unit × K
  | .ok o => replied (N.set k fd o) .ok
  | .error error => (Res.err error, k)

theorem optionOf_number (abi : Abi) (w : PtrWidth) (n : OptName) :
    optionOf abi w n.number.1 n.number.2 (UInt32.ofNat (n.size w abi.alignU64 abi.time)) =
      some n := by
  rw [optionOf, OptName.ofNumber_number]
  exact Option.filter_some_pos (decide_eq_true rfl)

section Calls

variable (abi : Abi) (N : OptionKernel abi.time K) (t : Target) (other : Syscalls K) (fd : Int32)
  (k : K)

/-- A `setsockopt(2)` with a structure that decodes to `o`. -/
theorem exec_setsockopt (n : OptName) {c : Codec α}
    (hsize : c.size = n.size t.ptr abi.alignU64 abi.time) {v : α} {o : SetOption}
    (hdecode : decodeSet abi.time t.endian (c.put t.endian v) n = some o) :
    (Socket.setsockopt t.endian (N.serve abi t other) c fd n.number.1 n.number.2 v).exec k =
      replied (N.set k fd o) .ok := by
  rw [Socket.setsockopt, Io.exec_bind, callCvt, Io.exec_bind, Io.exec_call, hsize]
  simp only [OptionKernel.serve, optionOf_number, Option.bind_some, hdecode]
  rcases N.set k fd o with ⟨r, k'⟩
  cases r with
  | ok v => rfl
  | error errno => rfl

/-- A `getsockopt(2)` with a structure that decodes to `q`; the answer is read from the same
    structure. -/
theorem exec_getsockopt (n : OptName) (q : GetOption) {c : Codec α} (raw : Answer abi.time q → α)
    (hsize : c.size = n.size t.ptr abi.alignU64 abi.time) {optval : Bytes}
    (hlen : optval.length = c.size) (hdecode : decodeGet t.endian optval n = some q)
    (hencode : ∀ a, encode abi t.ptr t.endian q a = c.put t.endian (raw a)) :
    Io.exec (do
      let (_, reply) ← callCvt (N.serve abi t other)
        (.getsockopt fd n.number.1 n.number.2 optval (UInt32.ofNat c.size))
      pure (c.get t.endian (overlay optval reply.out))) k =
      replied (N.get k fd q) fun a => .ok (raw a) := by
  rw [Io.exec_bind, callCvt, Io.exec_bind, Io.exec_call, hsize]
  simp only [OptionKernel.serve, optionOf_number, Option.bind_some, hdecode]
  rcases N.get k fd q with ⟨r, k'⟩
  cases r with
  | error errno => rfl
  | ok a =>
    have hover : overlay optval (encode abi t.ptr t.endian q a) = c.put t.endian (raw a) := by
      rw [hencode, overlay_of_length_eq ((c.length_put _ _).trans hlen.symm)]
    have hget : c.get t.endian (overlay optval (encode abi t.ptr t.endian q a)) = raw a := by
      rw [hover, c.get_put]
    change (Except.ok (c.get t.endian (overlay optval (encode abi t.ptr t.endian q a))), k') = _
    rw [hget]
    rfl

/-! ## Setters -/

theorem boolAsI32_ne_zero (on : Bool) : decide (boolAsI32 on ≠ 0) = on := by
  cases on <;> rfl

theorem toNat_ofNat_i32 {size : Nat} (h : size < 2 ^ 31) : (Int32.ofNat size).toInt.toNat = size := by
  rw [Int32.toInt_ofNat_of_lt (by omega)]
  exact Int.toNat_natCast size

/-- An address is found in the storage of the crate. -/
theorem sockaddr_storageOf (e : Endian) (addr : Option SocketAddr) (post : Bytes) :
    Uapi.sockaddr e ((Codec.octets 128).put e (storageOf e addr) ++ post) = addr := by
  have hstorage : (Codec.octets 128).put e (storageOf e addr) = Uapi.storage e addr :=
    (Uapi.storage_eq e addr).symm
  rw [hstorage, Uapi.sockaddr_storage]

/-- A buffer size is passed on or refused. -/
theorem exec_setBufferSize (n : OptName) (opt : Int32) (size : Nat) {o : SetOption}
    (hopt : n.number = (Sys.solSocket, opt))
    (hsize : Codec.i32.size = n.size t.ptr abi.alignU64 abi.time)
    (hdecode : size < 2 ^ 31 →
      decodeSet abi.time t.endian (Codec.i32.put t.endian (Int32.ofNat size)) n = some o) :
    (setBufferSize t (N.serve abi t other) fd opt size).exec k =
      N.setCarried fd k (if size < 2 ^ 31 then .ok o else .error bufferTooLarge) := by
  rw [setBufferSize, Io.exec_bind, Io.exec_lift, checkedBufferSize]
  by_cases hlt : size < 2 ^ 31
  · simp only [if_pos hlt]
    have hcall := exec_setsockopt abi N t other fd k n hsize (hdecode hlt)
    rw [hopt] at hcall
    exact hcall
  · simp only [if_neg hlt]
    rfl

theorem timevalFor_sent (c : Libc) {d : Duration} (h : d ≠ .zero) :
    ∃ tv, timevalFor c (some d) = .ok tv ∧
      timeoutSet tv.tvSec.toInt tv.tvUsec.toInt = some (some (timeoutSent c.timeT d)) := by
  obtain ⟨tv, htv, hsec, husec⟩ := timevalFor_some c h
  obtain ⟨hsec0, -, husec0, hlt, hzero⟩ := isTimeout_of_toInt hsec husec
  refine ⟨tv, htv, ?_⟩
  have hne : ¬ (tv.tvSec.toInt = 0 ∧ tv.tvUsec.toInt = 0) := by
    rintro ⟨hs, hu⟩
    exact hzero ⟨BitVec.toInt_inj.mp (hs.trans BitVec.toInt_zero.symm),
      BitVec.toInt_inj.mp (hu.trans BitVec.toInt_zero.symm)⟩
  rw [timeoutSet, if_pos ⟨hsec0, husec0, hlt⟩, if_neg hne, timeoutSent]
  have hmicros : tv.tvUsec.toInt.toNat = max 1 (d.asNanos / 1000) % 1000000 := by
    have hnanos := d.nanos_lt
    rw [husec, Int.toNat_natCast, Duration.asNanos]
    split <;> omega
  rw [hmicros, hsec, Int.toNat_natCast]

theorem size_ctime (time : CWidth) : time.codec.size = time.bits / 8 := by
  cases time <;> rfl

theorem size_timeval : (Timeval.codec abi).size = 2 * (abi.time.bits / 8) := by
  change abi.time.codec.size + abi.time.codec.size = _
  rw [size_ctime, two_mul]

theorem field_ctimes (time : CWidth) (e : Endian) (sec usec : BitVec time.bits) :
    time.codec.field e (time.codec.put e sec ++ time.codec.put e usec) 0 = sec ∧
    time.codec.field e (time.codec.put e sec ++ time.codec.put e usec) (time.bits / 8) = usec := by
  rw [Codec.field_put_append, Codec.field_skip _ _ (size_ctime time).le, size_ctime, Nat.sub_self,
    Codec.field_put]
  exact ⟨rfl, rfl⟩

theorem toInt_field_timeval (e : Endian) (tv : Timeval abi.libc) :
    (abi.time.codec.field e ((Timeval.codec abi).put e tv) 0).toInt = tv.tvSec.toInt ∧
    (abi.time.codec.field e ((Timeval.codec abi).put e tv) (abi.time.bits / 8)).toInt =
      tv.tvUsec.toInt :=
  have hfields := field_ctimes abi.time e tv.tvSec tv.tvUsec
  ⟨congrArg BitVec.toInt hfields.1, congrArg BitVec.toInt hfields.2⟩

theorem asNanos_eq_zero {d : Duration} : d.asNanos = 0 ↔ d = .zero := by
  rw [Duration.ext_iff, Duration.asNanos]
  constructor
  · intro h
    exact ⟨show d.secs = 0 by omega, show d.nanos = 0 by omega⟩
  · rintro ⟨hsecs, hnanos⟩
    rw [hsecs, hnanos]
    rfl

/-- A timeout is passed on or refused. -/
theorem exec_setTimeout (n : OptName) (opt : Int32) (dur : Option Duration)
    {set : Option Duration → SetOption} (hopt : n.number = (Sys.solSocket, opt))
    (hsize : 2 * (abi.time.bits / 8) = n.size t.ptr abi.alignU64 abi.time)
    (hdecode : ∀ e optval, decodeSet abi.time e optval n =
      (timeoutSet (abi.time.codec.field e optval 0).toInt
        (abi.time.codec.field e optval (abi.time.bits / 8)).toInt).map set) :
    (Io.of (setTimeout abi.libc (setTimeval t abi (N.serve abi t other) fd) opt dur)).exec k =
      N.setCarried fd k ((carriedTimeout abi.time dur).map set) := by
  have hcall : ∀ (tv : Timeval abi.libc) dur', timevalFor abi.libc dur = .ok tv →
      timeoutSet tv.tvSec.toInt tv.tvUsec.toInt = some dur' →
      (Io.of (setTimeout abi.libc (setTimeval t abi (N.serve abi t other) fd) opt dur)).exec k =
        replied (N.set k fd (set dur')) .ok := by
    intro tv dur' htv hset
    obtain ⟨hsec, husec⟩ := toInt_field_timeval abi t.endian tv
    rw [setTimeout_on, htv, Io.exec_bind, Io.exec_lift]
    have hexec := exec_setsockopt abi N t other fd k n ((size_timeval abi).trans hsize) (v := tv)
      (o := set dur') (by rw [hdecode, hsec, husec, hset]; rfl)
    rw [hopt] at hexec
    exact hexec
  cases dur with
  | none => exact hcall _ none rfl (by simp [timeoutSet])
  | some d =>
    by_cases hzero : d = .zero
    · rw [carriedTimeout, if_pos (asNanos_eq_zero.mpr hzero), setTimeout_on, hzero, timevalFor_zero]
      rfl
    · obtain ⟨tv, htv, hset⟩ := timevalFor_sent abi.libc hzero
      rw [carriedTimeout, if_neg (mt asNanos_eq_zero.mp hzero)]
      exact hcall tv _ htv hset

theorem exec_set (o : SetOption) :
    (o.set t abi (N.serve abi t other) fd).exec k = N.setCarried fd k (carried abi.time o) := by
  cases o with
  | initParams params =>
    apply exec_setsockopt abi N t other fd k .initmsg rfl
    simp [decodeSet, Sys.SctpInitmsg.codec, InitParams.toSys, Codec.field_skip]
  | nodelay on =>
    apply exec_setsockopt abi N t other fd k .nodelay rfl
    simp only [decodeSet, Codec.field_put, boolAsI32_ne_zero]
  | reuseAddress on =>
    apply exec_setsockopt abi N t other fd k .soReuseaddr rfl
    simp only [decodeSet, Codec.field_put, boolAsI32_ne_zero]
  | reusePort on =>
    apply exec_setsockopt abi N t other fd k .reusePort rfl
    simp only [decodeSet, Codec.field_put, boolAsI32_ne_zero]
  | abortOnClose =>
    apply exec_setsockopt abi N t other fd k .soLinger rfl
    simp [decodeSet, Sys.Linger.codec, Codec.field_skip]
  | autoclose seconds =>
    apply exec_setsockopt (c := Codec.u32) abi N t other fd k .autoclose rfl
    simp only [decodeSet, Codec.field_put]
  | sendBufferSize size =>
    apply exec_setBufferSize abi N t other fd k .soSndbuf _ size rfl rfl
    intro hlt
    simp only [decodeSet, Codec.field_put, toNat_ofNat_i32 hlt]
  | recvBufferSize size =>
    apply exec_setBufferSize abi N t other fd k .soRcvbuf _ size rfl rfl
    intro hlt
    simp only [decodeSet, Codec.field_put, toNat_ofNat_i32 hlt]
  | sendTimeout dur =>
    exact exec_setTimeout abi N t other fd k .soSndtimeo _ dur rfl rfl fun _ _ => rfl
  | recvTimeout dur =>
    exact exec_setTimeout abi N t other fd k .soRcvtimeo _ dur rfl rfl fun _ _ => rfl
  | event assocId event on tail =>
    apply exec_setsockopt abi N t other fd k .event rfl
    cases on <;> simp [decodeSet, Sys.SctpEvent.codec, Codec.field_skip, Uapi.lookup_toRaw]
  | rtoInfo assocId info =>
    apply exec_setsockopt abi N t other fd k .rtoinfo rfl
    simp [decodeSet, Sys.SctpRtoinfo.codec, Codec.field_skip]
  | assocInfo assocId info =>
    apply exec_setsockopt abi N t other fd k .associnfo rfl
    simp [decodeSet, Sys.SctpAssocparams.codec, Codec.field_skip]
  | delayedSack assocId info =>
    apply exec_setsockopt abi N t other fd k .delayedSack rfl
    simp [decodeSet, Sys.SctpSackInfo.codec, Codec.field_skip]
  | peerAddrParams assocId addr params =>
    rw [SetOption.set, setPeerAddrParams, packAddress_eq, Io.exec_bind, Io.exec_lift]
    apply exec_setsockopt abi N t other fd k .peerAddrParams rfl
    simp [decodeSet, Sys.SctpPaddrparams.codec, Codec.field_skip, Codec.drop_put_append,
      sockaddr_storageOf]
  | primary assocId addr =>
    rw [SetOption.set, setPrimary, packAddress_eq, Io.exec_bind, Io.exec_lift]
    apply exec_setsockopt abi N t other fd k .primaryAddr rfl
    have hsockaddr := sockaddr_storageOf t.endian (some addr) []
    rw [List.append_nil] at hsockaddr
    simp [decodeSet, Sys.SctpPrim.codec, Codec.drop_put_append, hsockaddr]

/-! ## Getters -/

/-- A getter that makes something of the structure it got. -/
theorem exec_bind_replied {γ : Type} {m : Io K α} {g : α → Io K β} {r : Except Errno γ × K}
    {f : γ → α} {h : γ → Res β} (hm : m.exec k = replied r fun a => .ok (f a))
    (hg : ∀ a k, (g (f a)).exec k = (h a, k)) : (m >>= g).exec k = replied r h := by
  rw [Io.exec_bind, hm]
  rcases r with ⟨r, k'⟩
  cases r with
  | ok a => exact hg a k'
  | error errno => rfl

/-- An option that is a number. -/
theorem exec_getInt (n : OptName) (q : GetOption) (raw : Answer abi.time q → Int32)
    (hsize : Codec.i32.size = n.size t.ptr abi.alignU64 abi.time)
    (hdecode : decodeGet t.endian (zeros Codec.i32.size) n = some q)
    (hencode : ∀ a, encode abi t.ptr t.endian q a = Codec.i32.put t.endian (raw a)) :
    (Socket.getsockopt t.endian (N.serve abi t other) Codec.i32 fd n.number.1 n.number.2).exec k =
      replied (N.get k fd q) fun a => .ok (raw a) :=
  exec_getsockopt abi N t other fd k n q raw hsize (length_zeros _) hdecode hencode

/-- A structure that the kernel also reads. -/
theorem exec_getInout (n : OptName) (q : GetOption) {c : Codec α} (raw : Answer abi.time q → α)
    (hsize : c.size = n.size t.ptr abi.alignU64 abi.time) {v : α}
    (hdecode : decodeGet t.endian (c.put t.endian v) n = some q)
    (hencode : ∀ a, encode abi t.ptr t.endian q a = c.put t.endian (raw a)) :
    (getsockoptInout t.endian (N.serve abi t other) c fd n.number.1 n.number.2 v).exec k =
      replied (N.get k fd q) fun a => .ok (raw a) :=
  exec_getsockopt abi N t other fd k n q raw hsize (c.length_put _ _) hdecode hencode

/-- An option that is a flag. -/
theorem exec_flag (n : OptName) (q : GetOption) (raw : Answer abi.time q → Bool)
    (hsize : Codec.i32.size = n.size t.ptr abi.alignU64 abi.time)
    (hdecode : decodeGet t.endian (zeros Codec.i32.size) n = some q)
    (hencode : ∀ a, encode abi t.ptr t.endian q a =
      Codec.i32.put t.endian (if raw a then 1 else 0)) :
    (flag t (N.serve abi t other) fd n.number.1 n.number.2).exec k =
      replied (N.get k fd q) fun a => .ok (raw a) := by
  apply exec_bind_replied k (exec_getInt abi N t other fd k n q _ hsize hdecode hencode)
  intro a k
  cases raw a <;> rfl

theorem sizeValue_eq (w : PtrWidth) (v : Int32) : asUsize w v = sizeValue w v := by
  have hlo := v.le_toInt
  have hhi := v.toInt_lt
  rw [asUsize, sizeValue]
  cases hv : v.toInt with
  | ofNat n =>
    rw [hv, Int.ofNat_eq_natCast] at hhi
    cases w <;> simp <;> omega
  | negSucc n =>
    rw [hv] at hlo
    cases w <;> simp <;> omega

/-- A buffer size. -/
theorem exec_bufferSize (n : OptName) (q : GetOption) (raw : Answer abi.time q → Int32) (opt : Int32)
    (hopt : n.number = (Sys.solSocket, opt))
    (hsize : Codec.i32.size = n.size t.ptr abi.alignU64 abi.time)
    (hdecode : decodeGet t.endian (zeros Codec.i32.size) n = some q)
    (hencode : ∀ a, encode abi t.ptr t.endian q a = Codec.i32.put t.endian (raw a)) :
    (bufferSize t (N.serve abi t other) fd opt).exec k =
      replied (N.get k fd q) fun a => .ok (sizeValue t.ptr (raw a)) := by
  have hcall := exec_getInt abi N t other fd k n q raw hsize hdecode hencode
  rw [hopt] at hcall
  apply exec_bind_replied k hcall
  intro a k
  rw [sizeValue_eq]
  rfl

theorem exec_styleOf (kind : Int32) (k : K) :
    Io.exec (if kind = Sys.sockStream then pure .oneToOne
      else if kind = Sys.sockSeqpacket then pure .oneToMany
      else Io.err neitherStyle) k = (value abi t.ptr .style kind, k) := by
  by_cases hstream : kind = Sys.sockStream
  · subst hstream
    rfl
  by_cases hseq : kind = Sys.sockSeqpacket
  · subst hseq
    rfl
  have hnostream : (kind == 1) = false := beq_false_of_ne hstream
  have hnoseq : (kind == 5) = false := beq_false_of_ne hseq
  have hlookup : Uapi.styles.lookup kind = none := by
    simp [Uapi.styles, List.lookup_cons, hnostream, hnoseq]
  rw [if_neg hstream, if_neg hseq, value, hlookup]
  rfl

/-! ### Timeouts -/

theorem durationOf_eq (tv : Uapi.Timeval abi.time) :
    durationOf (c := abi.libc) ⟨tv.sec, tv.usec⟩ = .ok (timeoutValue tv) := by
  by_cases h : tv.sec = 0 ∧ tv.usec = 0
  · have hzero : tv.sec.toInt = 0 ∧ tv.usec.toInt = 0 := by
      rw [h.1, h.2]
      exact ⟨BitVec.toInt_zero, BitVec.toInt_zero⟩
    rw [timeoutValue, if_pos hzero]
    exact if_pos h
  · obtain ⟨d, hd, hnanos⟩ : ∃ d, durationOf (c := abi.libc) ⟨tv.sec, tv.usec⟩ = .ok (some d) ∧
        d.asNanos = tv.sec.toInt.toNat * 1000000000 + tv.usec.toInt.toNat * 1000 :=
      durationOf_some h
    have hne : ¬ (tv.sec.toInt = 0 ∧ tv.usec.toInt = 0) := by
      rintro ⟨hs, hu⟩
      exact h ⟨BitVec.toInt_inj.mp (hs.trans BitVec.toInt_zero.symm),
        BitVec.toInt_inj.mp (hu.trans BitVec.toInt_zero.symm)⟩
    have hd' : d = .ofNanos (tv.sec.toInt.toNat * 1000000000 + tv.usec.toInt.toNat * 1000) := by
      rw [← d.ofNanos_asNanos, hnanos]
    rw [hd, timeoutValue, if_neg hne, hd']

/-- A timeout. -/
theorem exec_timeout (n : OptName) (q : GetOption) (raw : Answer abi.time q → Uapi.Timeval abi.time)
    (opt : Int32) (hopt : n.number = (Sys.solSocket, opt))
    (hsize : 2 * (abi.time.bits / 8) = n.size t.ptr abi.alignU64 abi.time)
    (hdecode : decodeGet t.endian (zeros (Timeval.codec abi).size) n = some q)
    (hencode : ∀ a, encode abi t.ptr t.endian q a = (raw a).bytes t.endian) :
    (Io.of (timeout abi.libc (getTimeval t abi (N.serve abi t other) fd) opt)).exec k =
      replied (N.get k fd q) fun a => .ok (timeoutValue (raw a)) := by
  have hcall := exec_getsockopt abi N t other fd k n q
    (fun a => (⟨(raw a).sec, (raw a).usec⟩ : Timeval abi.libc)) ((size_timeval abi).trans hsize)
    (length_zeros _) hdecode hencode
  rw [hopt] at hcall
  rw [timeout_on]
  apply exec_bind_replied k hcall
  intro a k
  rw [durationOf_eq]
  rfl

/-! ### Structures -/

-- The answers in the structures of the crate.

def sysRtoInfo (assocId : AssocId) (i : RtoInfo) : Sys.SctpRtoinfo where
  srtoAssocId := assocId.val
  srtoInitial := i.initial
  srtoMax := i.max
  srtoMin := i.min

def sysAssocInfo (assocId : AssocId) (i : AssocInfo) : Sys.SctpAssocparams where
  sasocAssocId := assocId.val
  sasocAsocmaxrxt := i.asocmaxrxt
  sasocNumberPeerDestinations := i.numberPeerDestinations
  sasocPeerRwnd := i.peerRwnd
  sasocLocalRwnd := i.localRwnd
  sasocCookieLife := i.cookieLife

def sysSackInfo (assocId : AssocId) (i : SackInfo) : Sys.SctpSackInfo where
  sackAssocId := assocId.val
  sackDelay := i.delayMs
  sackFreq := i.freq

def sysPath (e : Endian) (p : Uapi.PathInfo) : Sys.SctpPaddrinfo where
  spinfoAssocId := p.assocId
  spinfoAddress := storageOf e p.address
  spinfoState := p.state
  spinfoCwnd := p.cwnd
  spinfoSrtt := p.srtt
  spinfoRto := p.rto
  spinfoMtu := p.mtu

theorem path_bytes (e : Endian) (p : Uapi.PathInfo) :
    p.bytes e = Sys.SctpPaddrinfo.codec.put e (sysPath e p) := by
  rw [Uapi.PathInfo.bytes, Uapi.storage_eq]
  rfl

def sysStatus (e : Endian) (s : Uapi.StatusInfo) : Sys.SctpStatus where
  sstatAssocId := s.assocId
  sstatState := s.state
  sstatRwnd := s.rwnd
  sstatUnackdata := s.unackdata
  sstatPenddata := s.penddata
  sstatInstrms := s.instrms
  sstatOutstrms := s.outstrms
  sstatFragmentationPoint := s.fragmentationPoint
  sstatPrimary := sysPath e s.primary

theorem status_bytes (e : Endian) (s : Uapi.StatusInfo) :
    s.bytes e = Sys.SctpStatus.codec.put e (sysStatus e s) := by
  rw [Uapi.StatusInfo.bytes, path_bytes]
  rfl

def sysStats (e : Endian) (s : AssocStats) : Sys.SctpAssocStats where
  sasAssocId := s.assocId.val
  sasObsRtoIpaddr := storageOf e s.maxRtoAddress
  sasMaxrto := s.maxRtoKernelTicks
  sasIsacks := s.sacksReceived
  sasOsacks := s.sacksSent
  sasOpackets := s.packetsSent
  sasIpackets := s.packetsReceived
  sasRtxchunks := s.retransmittedChunks
  sasOutofseqtsns := s.outOfSequenceTsns
  sasIdupchunks := s.duplicateChunksReceived
  sasGapcnt := s.gapAcks
  sasOuodchunks := s.unorderedDataChunksSent
  sasIuodchunks := s.unorderedDataChunksReceived
  sasOodchunks := s.orderedDataChunksSent
  sasIodchunks := s.orderedDataChunksReceived
  sasOctrlchunks := s.controlChunksSent
  sasIctrlchunks := s.controlChunksReceived

/-- The crate's padding is what the alignment of the fields asks for. -/
theorem statsPad_eq (w : PtrWidth) : Uapi.statsAddress w = 4 + Sys.statsPad w := by
  cases w <;> rfl

theorem statsCounters_eq (w : PtrWidth) (alignU64 : Nat) :
    Uapi.statsCounters w alignU64 =
      4 + Sys.statsPad w + 128 + Sys.statsGap w alignU64 := by
  rw [Uapi.statsCounters, Uapi.roundUp, statsPad_eq, Sys.statsGap]

theorem stats_bytes (w : PtrWidth) (alignU64 : Nat) (e : Endian) (s : AssocStats) :
    Uapi.statsBytes w alignU64 e s =
      (Sys.SctpAssocStats.codec w alignU64).put e (sysStats e s) := by
  rw [Uapi.statsBytes, Uapi.storage_eq, statsCounters_eq, statsPad_eq, Nat.add_sub_cancel_left,
    Nat.add_sub_cancel_left]
  rfl

theorem size_stats (w : PtrWidth) (alignU64 : Nat) :
    (Sys.SctpAssocStats.codec w alignU64).size = Uapi.statsCounters w alignU64 + 15 * 8 := by
  have hsize : (Sys.SctpAssocStats.codec w alignU64).size =
      4 + (Sys.statsPad w + (128 + (Sys.statsGap w alignU64 + 120))) := rfl
  rw [hsize, statsCounters_eq]
  omega

theorem readAddress_storageOf (e : Endian) (addr : Option SocketAddr) :
    readAddress e (storageOf e addr).val = .ok addr := by
  rw [← Addr.readSockaddr_storage e addr, readAddress, storageOf]
  cases Addr.readSockaddr e (Addr.storage e addr) with
  | ok o => rfl
  | error fault => rfl

theorem fromSys_sysPath (e : Endian) (p : Uapi.PathInfo) :
    PeerAddrInfo.fromSys e (sysPath e p) = .ok (pathValue p) := by
  rw [PeerAddrInfo.fromSys, sysPath, readAddress_storageOf, pathValue, Uapi.pathState_eq]
  rfl

theorem fromSys_sysStatus (e : Endian) (s : Uapi.StatusInfo) :
    AssocStatus.fromSys e (sysStatus e s) = .ok (statusValue s) := by
  rw [AssocStatus.fromSys, sysStatus, fromSys_sysPath, statusValue, Uapi.assocState_eq]
  rfl

theorem fromSys_sysStats (e : Endian) (s : AssocStats) :
    AssocStats.fromSys e (sysStats e s) = .ok s := by
  rw [AssocStats.fromSys, sysStats, readAddress_storageOf]
  rfl

theorem peerAddrInfo_eq (sys : Syscalls K) (assocId : AssocId) (addr : SocketAddr) :
    Socket.peerAddrInfo t sys fd assocId addr = (do
      let raw ← getsockoptInout t.endian sys Sys.SctpPaddrinfo.codec fd Sys.solSctp
        Sys.sctpGetPeerAddrInfo (.query assocId.val (storageOf t.endian (some addr)))
      Io.lift (PeerAddrInfo.fromSys t.endian raw)) := by
  rw [Socket.peerAddrInfo, packAddress_eq]
  rfl

theorem peerAddrParams_eq (sys : Syscalls K) (assocId : AssocId) (addr : Option SocketAddr) :
    Socket.peerAddrParams t sys fd assocId addr = (do
      let raw ← getsockoptInout t.endian sys Sys.SctpPaddrparams.codec fd Sys.solSctp
        Sys.sctpPeerAddrParams (.query assocId.val (storageOf t.endian addr))
      pure (.fromSys raw)) := by
  rw [Socket.peerAddrParams, packAddress_eq]
  rfl

theorem peerAddrParams_bytes (e : Endian) (assocId : AssocId) (addr : Option SocketAddr)
    (p : PeerAddrParams) :
    encode abi t.ptr e (.peerAddrParams assocId addr) p =
      Sys.SctpPaddrparams.codec.put e ⟨assocId.val, storageOf e addr, p.hbInterval, p.pathMaxRxt,
        p.pathMtu, p.sackDelay, p.flags, p.ipv6Flowlabel, p.dscp, 0⟩ := by
  rw [encode, Uapi.storage_eq]
  rfl

/-! ### All of them -/

theorem exec_get (q : GetOption) :
    (q.get t abi (N.serve abi t other) fd).exec k = replied (N.get k fd q) (value abi t.ptr q) := by
  cases q with
  | initParams =>
    apply exec_bind_replied k (exec_getsockopt abi N t other fd k .initmsg .initParams
      (fun (p : InitParams) => p.toSys) rfl (length_zeros _) rfl fun _ => rfl)
    intro a k
    rfl
  | nodelay => exact exec_flag abi N t other fd k .nodelay .nodelay id rfl rfl fun _ => rfl
  | reuseAddress =>
    exact exec_flag abi N t other fd k .soReuseaddr .reuseAddress id rfl rfl fun _ => rfl
  | reusePort => exact exec_flag abi N t other fd k .reusePort .reusePort id rfl rfl fun _ => rfl
  | isListening =>
    exact exec_flag abi N t other fd k .soAcceptconn .isListening id rfl rfl fun _ => rfl
  | style =>
    apply exec_bind_replied k
      (exec_getInt abi N t other fd k .soType .style id rfl rfl fun _ => rfl)
    exact exec_styleOf abi t
  | takeError =>
    apply exec_bind_replied k
      (exec_getInt abi N t other fd k .soError .takeError id rfl rfl fun _ => rfl)
    intro a k
    rfl
  | sendBufferSize =>
    exact exec_bufferSize abi N t other fd k .soSndbuf .sendBufferSize id _ rfl rfl rfl fun _ => rfl
  | recvBufferSize =>
    exact exec_bufferSize abi N t other fd k .soRcvbuf .recvBufferSize id _ rfl rfl rfl fun _ => rfl
  | sendTimeout =>
    exact exec_timeout abi N t other fd k .soSndtimeo .sendTimeout id _ rfl rfl rfl fun _ => rfl
  | recvTimeout =>
    exact exec_timeout abi N t other fd k .soRcvtimeo .recvTimeout id _ rfl rfl rfl fun _ => rfl
  | rtoInfo assocId =>
    apply exec_bind_replied k (exec_getInout abi N t other fd k .rtoinfo (.rtoInfo assocId)
      (sysRtoInfo assocId) rfl
      (by simp [decodeGet, Sys.SctpRtoinfo.codec]) fun _ => rfl)
    intro a k
    rfl
  | assocInfo assocId =>
    apply exec_bind_replied k (exec_getInout abi N t other fd k .associnfo (.assocInfo assocId)
      (sysAssocInfo assocId) rfl
      (by simp [decodeGet, Sys.SctpAssocparams.codec]) fun _ => rfl)
    intro a k
    rfl
  | delayedSack assocId =>
    apply exec_bind_replied k (exec_getInout abi N t other fd k .delayedSack (.delayedSack assocId)
      (sysSackInfo assocId) rfl
      (by simp [decodeGet, Sys.SctpSackInfo.codec]) fun _ => rfl)
    intro a k
    rfl
  | assocStats assocId =>
    apply exec_bind_replied k (exec_getInout abi N t other fd k .assocStats (.assocStats assocId)
      (sysStats t.endian) (size_stats t.ptr abi.alignU64)
      (by simp [decodeGet, Sys.SctpAssocStats.codec, Sys.SctpAssocStats.query])
      (stats_bytes t.ptr abi.alignU64 t.endian))
    intro a k
    exact congrArg (·, k) (fromSys_sysStats t.endian a)
  | status assocId =>
    apply exec_bind_replied k (exec_getInout abi N t other fd k .status (.status assocId)
      (sysStatus t.endian) rfl (by simp [decodeGet, Sys.SctpStatus.codec, Sys.SctpStatus.query])
      (status_bytes t.endian))
    intro a k
    exact congrArg (·, k) (fromSys_sysStatus t.endian a)
  | peerAddrInfo assocId addr =>
    rw [GetOption.get, peerAddrInfo_eq]
    apply exec_bind_replied k (exec_getInout abi N t other fd k .peerAddrInfo
      (.peerAddrInfo assocId addr) (sysPath t.endian) rfl
      (by simp [decodeGet, Sys.SctpPaddrinfo.codec, Sys.SctpPaddrinfo.query, Codec.drop_put_append,
        sockaddr_storageOf])
      (path_bytes t.endian))
    intro a k
    exact congrArg (·, k) (fromSys_sysPath t.endian a)
  | peerAddrParams assocId addr =>
    rw [GetOption.get, peerAddrParams_eq]
    apply exec_bind_replied k (exec_getInout abi N t other fd k .peerAddrParams
      (.peerAddrParams assocId addr) _ rfl
      (by simp [decodeGet, Sys.SctpPaddrparams.codec, Sys.SctpPaddrparams.query,
        Codec.drop_put_append, sockaddr_storageOf])
      (peerAddrParams_bytes abi t t.endian assocId addr))
    intro a k
    rfl

end Calls

/-! ## Sequences of calls -/

/-- A call of the option interface. -/
inductive OptionCall where
  | set (fd : Int32) (o : SetOption)
  | get (fd : Int32) (q : GetOption)

/-- What such a call returns. -/
inductive Returned where
  | set (r : Res Unit)
  | get (q : GetOption) (r : Res q.Value)

def callOption (t : Target) (abi : Abi) (sys : Syscalls K) (k : K) : OptionCall → Returned × K
  | .set fd o => ((o.set t abi sys fd).exec k).map .set id
  | .get fd q => ((q.get t abi sys fd).exec k).map (.get q) id

/-- The same call as an operation on values: no bytes, sizes or numbers of options. -/
def OptionKernel.call (abi : Abi) (N : OptionKernel abi.time K) (w : PtrWidth) (k : K) :
    OptionCall → Returned × K
  | .set fd o => (N.setCarried fd k (carried abi.time o)).map .set id
  | .get fd q => (replied (N.get k fd q) (value abi w q)).map (.get q) id

/-- A sequence of calls, with all their results. -/
def callAll (call : K → OptionCall → Returned × K) (k : K) : List OptionCall → List Returned × K
  | [] => ([], k)
  | c :: cs => (callAll call (call k c).2 cs).map ((call k c).1 :: ·) id

theorem callOption_eq (abi : Abi) (N : OptionKernel abi.time K) (t : Target) (other : Syscalls K)
    (k : K) (c : OptionCall) :
    callOption t abi (N.serve abi t other) k c = N.call abi t.ptr k c := by
  cases c with
  | get fd q => rw [callOption, exec_get, OptionKernel.call]
  | set fd o => rw [callOption, exec_set, OptionKernel.call]

/-- Through system calls, on any byte order and pointer width, the options have the results and
    the effects that they have as operations on values, in every sequence of calls. -/
theorem option_calls_refine (abi : Abi) (N : OptionKernel abi.time K) (t : Target)
    (other : Syscalls K) (calls : List OptionCall) (k : K) :
    callAll (callOption t abi (N.serve abi t other)) k calls =
      callAll (N.call abi t.ptr) k calls := by
  induction calls generalizing k with
  | nil => rfl
  | cons c cs ih =>
    simp only [callAll]
    rw [callOption_eq, ih]

end Kernel

end Lksctp
