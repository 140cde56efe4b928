-- SUMMARY: The kernel's receive queue: the items it holds and what `recvmsg(2)` returns for the head of it.
import Lksctp.Cmsg
import Lksctp.Addr

/-!
# The receive queue

What the code relies on from `recvmsg(2)` on an SCTP socket. A read takes at
most `iov_len` bytes of the head item and leaves the rest of it at the head of
the queue. `MSG_NOTIFICATION` tells the two kinds of item apart, and `MSG_EOR`
marks the read that completes a notification or the last piece of a message.

The end of the association is an item of its own, which no read takes off.
-/

namespace Lksctp

open Rust

namespace Kernel

inductive Item where
  /-- One of the structs of `union sctp_notification`, as bytes. -/
  | notification (bytes : Bytes) (peer : SocketAddr)
  /-- A piece of a user message; `last` is false while more of it is to come. -/
  | data (bytes : Bytes) (last : Bool) (info : Sys.SctpRcvinfo) (pad : Octets 2)
      (peer : SocketAddr)
  | eof
  deriving DecidableEq

/-- The sizes in the `msghdr` that the caller passes; zero for a null pointer. -/
structure RecvReq where
  iovLen : Nat
  nameLen : Nat
  controlLen : Nat
  deriving DecidableEq, Repr

/-- What the kernel has put into the `msghdr` and its buffers. -/
structure RecvOut where
  bytes : Bytes
  flags : Int32
  control : Bytes
  name : Bytes
  deriving DecidableEq, Repr

/-- The buffers are those of the caller, so nothing is written behind their ends. -/
structure RecvOut.Within (out : RecvOut) (req : RecvReq) : Prop where
  bytes : out.bytes.length ≤ req.iovLen
  name : out.name.length ≤ req.nameLen
  control : out.control.length ≤ req.controlLen

/-- Nothing was received. -/
def RecvOut.nothing : RecvOut where
  bytes := []
  flags := 0
  control := []
  name := []

def msgFlags (notification eor : Bool) : Int32 :=
  (if notification then Sys.msgNotification else 0) ||| (if eor then Sys.msgEor else 0)

/-- The `SCTP_RCVINFO` control message of a data read. -/
def rcvinfoMessage (e : Endian) (info : Sys.SctpRcvinfo) (pad : Octets 2) : Cmsg.Message where
  level := Sys.ipprotoSctp
  ty := Sys.sctpCmsgRcvinfo
  data := info.toBytes e pad

/-- Control data is written where the caller has room for it. -/
def controlFor (t : Target) (req : RecvReq) (m : Cmsg.Message) : Bytes :=
  if m.space t ≤ req.controlLen then m.layout t else []

def nameFor (t : Target) (req : RecvReq) (peer : SocketAddr) : Bytes :=
  if peer.wireLen ≤ req.nameLen then peer.layout t.endian else []

/-- The queue after `n` bytes of the head item have been read: the rest of the
    item, `mk` of the bytes that are left, stays at the head. -/
def keepRest (mk : Bytes → Item) (bytes : Bytes) (n : Nat) (rest : List Item) : List Item :=
  if bytes.length ≤ n then rest else mk (bytes.drop n) :: rest

/-- `recvmsg(2)` on a non-blocking socket. -/
def recvmsg (t : Target) (q : List Item) (req : RecvReq) : Except Errno RecvOut × List Item :=
  match q with
  | [] => (.error Errno.eagain, [])
  | .eof :: rest => (.ok .nothing, .eof :: rest)
  | .notification bytes peer :: rest =>
    (.ok
      { bytes := bytes.take req.iovLen
        flags := msgFlags true (bytes.length ≤ req.iovLen)
        control := []
        name := nameFor t req peer },
      keepRest (.notification · peer) bytes req.iovLen rest)
  | .data bytes last info pad peer :: rest =>
    (.ok
      { bytes := bytes.take req.iovLen
        flags := msgFlags false (last && bytes.length ≤ req.iovLen)
        control := controlFor t req (rcvinfoMessage t.endian info pad)
        name := nameFor t req peer },
      keepRest (.data · last info pad peer) bytes req.iovLen rest)

/-! ## Flags and the head of the queue -/

@[simp] theorem msgFlags_notification (notification eor : Bool) :
    (msgFlags notification eor &&& Sys.msgNotification = 0) = (notification = false) := by
  cases notification <;> cases eor <;> decide

@[simp] theorem msgFlags_eor (notification eor : Bool) :
    (msgFlags notification eor &&& Sys.msgEor = 0) = (eor = false) := by
  cases notification <;> cases eor <;> decide

theorem keepRest_of_le {mk : Bytes → Item} {bytes : Bytes} {n : Nat} {rest : List Item}
    (h : bytes.length ≤ n) : keepRest mk bytes n rest = rest := if_pos h

theorem keepRest_of_lt {mk : Bytes → Item} {bytes : Bytes} {n : Nat} {rest : List Item}
    (h : n < bytes.length) : keepRest mk bytes n rest = mk (bytes.drop n) :: rest :=
  if_neg (not_le.mpr h)

/-- Items that arrive behind the head are not touched by a read. -/
theorem keepRest_append (mk : Bytes → Item) (bytes : Bytes) (n : Nat) (rest more : List Item) :
    keepRest mk bytes n rest ++ more = keepRest mk bytes n (rest ++ more) := by
  by_cases h : bytes.length ≤ n
  · rw [keepRest_of_le h, keepRest_of_le h]
  · rw [keepRest_of_lt (not_le.mp h), keepRest_of_lt (not_le.mp h), List.cons_append]

end Kernel

end Lksctp
