-- SUMMARY: `Socket::reassemble_notification` against an arbitrary kernel: where it stops, what it returns, and how much it buffers.
import Lksctp.Socket.Recv

/-!
# The reassembly loop

`Recv` shows what the loop does for the reads of one notification. Here the
kernel may answer anything: an error, or a chunk with arbitrary flags, at every
call.

After a chunk was refused by the cap, a later and smaller one can still be
appended, so the buffer then holds neither all of the bytes nor a prefix of them.
`Buffered` is the invariant that makes this harmless: while the flag is clear the
buffer is everything that was seen, and once it is set, more than the cap was seen.
-/

namespace Lksctp

open Rust Machine Kernel

namespace Socket

/-- `reassemble_notification`, from the loop with the chunk `first` in `out`. -/
def reassembleNotification :
    Program RecvReq (Except Errno RecvOut) (Bytes × Bool) (Res Bytes) where
  request _ := { iovLen := scratchLen, nameLen := 0, controlLen := 0 }
  resume st reply := reassembleStep st.1 st.2 reply

/-- What `recv_msg` makes of the assembled notification. -/
def parseAssembled (t : Target) (buf : Bytes) (sender : Option SocketAddr) (assembled : Res Bytes) :
    Received :=
  ⟨(assembled >>= Notification.parse t.endian).map fun p => (.notification p, sender), buf⟩

theorem recvMsg_resume_reassemble (t : Target) (buf : Bytes) (sender : Option SocketAddr)
    (st : Bytes × Bool) (reply : Except Errno RecvOut) :
    (recvMsg t).resume (.reassemble buf sender st.1 st.2) reply =
      (reassembleNotification.resume st reply).map (fun st => .reassemble buf sender st.1 st.2)
        (parseAssembled t buf sender) := by
  simp only [recvMsg, reassembleNotification]
  cases reassembleStep st.1 st.2 reply with
  | next st' => rfl
  | done assembled => rfl

/-- The loop inside of `recv_msg` is this program: when it returns, `recv_msg`
    returns with what was assembled, parsed. -/
theorem recvMsg_of_reassembleNotification (t : Target) {K : Type}
    {serve : Server K RecvReq (Except Errno RecvOut)} {st : Bytes × Bool} {k k' : K}
    {assembled : Res Bytes} (h : reassembleNotification.Returns serve st k assembled k')
    (buf : Bytes) (sender : Option SocketAddr) :
    (recvMsg t).Returns serve (.reassemble buf sender st.1 st.2) k
      (parseAssembled t buf sender assembled) k' :=
  h.embed (f := fun st => RecvState.reassemble buf sender st.1 st.2) (fun _ => rfl)
    (recvMsg_resume_reassemble t buf sender)

/-! ## An arbitrary kernel -/

/-- What one `recvmsg(2)` of the loop comes back with. -/
inductive Outcome where
  | error (errno : Errno)
  | chunk (bytes : Bytes) (flags : Int32) (fits : bytes.length ≤ scratchLen)

namespace Outcome

def reply : Outcome → Except Errno RecvOut
  | .error errno => .error errno
  | .chunk bytes flags _ => .ok { bytes, flags, control := [], name := [] }

def bytes : Outcome → Bytes
  | .error _ => []
  | .chunk bytes _ _ => bytes

/-- An error, something that is not a notification, or the end of one. -/
def Stops : Outcome → Prop
  | .error _ => True
  | .chunk _ flags _ => flags &&& Sys.msgNotification = 0 ∨ flags &&& Sys.msgEor ≠ 0

/-- What the loop returns when it stops at this outcome with `total` seen. -/
def result (total : Bytes) : Outcome → Res Bytes
  | .error errno => Res.err (.os errno)
  | .chunk _ flags _ =>
    if flags &&& Sys.msgNotification = 0 then Res.err desynchronized
    else if total.length ≤ maxNotification then .ok total
    else Res.err oversizedNotification

end Outcome

/-- A kernel that answers with these outcomes one after another. Its state is the
    number of outcomes that were consumed. -/
def outcomeServer (outcomes : Nat → Outcome) : Server Nat RecvReq (Except Errno RecvOut) :=
  fun i _ => ((outcomes i).reply, i + 1)

/-- The first chunk and the chunks of the first `n` outcomes. -/
def seen (first : Bytes) (outcomes : Nat → Outcome) (n : Nat) : Bytes :=
  first ++ (List.range n).flatMap fun i => (outcomes i).bytes

variable {first : Bytes} {outcomes : Nat → Outcome} {out : Bytes} {oversized : Bool}

theorem seen_succ (first : Bytes) (outcomes : Nat → Outcome) (n : Nat) :
    seen first outcomes (n + 1) = seen first outcomes n ++ (outcomes n).bytes := by
  simp [seen, List.range_succ]

/-! ## The invariant -/

/-- What the buffer and the flag say about the bytes seen so far. -/
structure Buffered (first : Bytes) (outcomes : Nat → Outcome) (st : Bytes × Bool) (i : Nat) :
    Prop where
  flagged : st.2 = true → maxNotification < (seen first outcomes i).length
  complete : st.2 = false → st.1 = seen first outcomes i
  bounded : st.1.length ≤ max first.length maxNotification

theorem Buffered.start (first : Bytes) (outcomes : Nat → Outcome) :
    Buffered first outcomes (first, false) 0 where
  flagged h := by cases h
  complete _ := by simp [seen]
  bounded := le_max_left _ _

variable {i : Nat}

/-- A round that does not stop keeps the invariant. -/
theorem Buffered.step {st : Bytes × Bool} (h : Buffered first outcomes st i)
    (hgo : ¬ (outcomes i).Stops) :
    ∃ st', reassembleStep st.1 st.2 (outcomes i).reply = .next st' ∧
      Buffered first outcomes st' (i + 1) := by
  cases ho : outcomes i with
  | error errno =>
    rw [ho] at hgo
    exact absurd trivial hgo
  | chunk bytes flags fits =>
    rw [ho] at hgo
    obtain ⟨hnotif, heor⟩ := not_or.mp hgo
    have hseen : seen first outcomes (i + 1) = seen first outcomes i ++ bytes := by
      rw [seen_succ, ho]
      rfl
    refine ⟨_, by rw [Outcome.reply, reassembleStep_notification _ _ hnotif, if_pos (not_not.mp heor)],
      ?_, ?_, ?_⟩
    · rw [hseen]
      exact loop_oversized h.flagged h.complete
    · rw [hseen]
      exact loop_out h.complete
    · have hb := h.bounded
      by_cases hlong : maxNotification < st.1.length + bytes.length
      · simpa [hlong] using hb
      · simp [hlong]
        omega

/-- The round that stops returns what the outcome demands. -/
theorem Buffered.stop {st : Bytes × Bool} (h : Buffered first outcomes st i)
    (hstop : (outcomes i).Stops) :
    reassembleStep st.1 st.2 (outcomes i).reply =
      .done ((outcomes i).result (seen first outcomes (i + 1))) := by
  cases ho : outcomes i with
  | error errno => rfl
  | chunk bytes flags fits =>
    rw [ho] at hstop
    have hseen : seen first outcomes (i + 1) = seen first outcomes i ++ bytes := by
      rw [seen_succ, ho]
      rfl
    by_cases hnotif : flags &&& Sys.msgNotification = 0
    · simp [Outcome.reply, Outcome.result, reassembleStep, hnotif]
    · have heor : flags &&& Sys.msgEor ≠ 0 := hstop.resolve_left hnotif
      rw [Outcome.reply, reassembleStep_notification _ _ hnotif, if_neg heor, Outcome.result,
        if_neg hnotif, hseen]
      exact congrArg Step.done (loop_total h.flagged h.complete)

/-- A round that goes on keeps the invariant. -/
theorem Buffered.next {st st' : Bytes × Bool} (h : Buffered first outcomes st i)
    (hstep : reassembleStep st.1 st.2 (outcomes i).reply = .next st') :
    Buffered first outcomes st' (i + 1) := by
  by_cases hstop : (outcomes i).Stops
  · rw [h.stop hstop] at hstep
    cases hstep
  · obtain ⟨st₁, hstep₁, hinv⟩ := h.step hstop
    rw [hstep₁] at hstep
    cases hstep
    exact hinv

/-- The state of the loop after `n` rounds that did not stop. -/
theorem after_of_not_stops (first : Bytes) {n : Nat} (hgo : ∀ i < n, ¬ (outcomes i).Stops) :
    ∃ st, reassembleNotification.after (outcomeServer outcomes) n (first, false) 0 = some (st, n) ∧
      Buffered first outcomes st n := by
  induction n with
  | zero => exact ⟨(first, false), rfl, .start first outcomes⟩
  | succ n ih =>
    obtain ⟨st, hafter, hinv⟩ := ih fun i hi => hgo i (hi.trans (Nat.lt_succ_self n))
    obtain ⟨st', hstep, hinv'⟩ := hinv.step (hgo n (Nat.lt_succ_self n))
    exact ⟨st', Program.after_next hafter hstep, hinv'⟩

/-- The loop is exact, whatever the kernel answers. It consumes the outcomes up to
    the first one that stops it and returns what that one demands; while there is none
    it does not return; and it never buffers more than the first chunk and the cap. -/
theorem reassembleNotification_exact (first : Bytes) (outcomes : Nat → Outcome) :
    (∀ n, (∀ i < n, ¬ (outcomes i).Stops) → (outcomes n).Stops →
      reassembleNotification.Returns (outcomeServer outcomes) (first, false) 0
        ((outcomes n).result (seen first outcomes (n + 1))) (n + 1)) ∧
    ((∀ i, ¬ (outcomes i).Stops) → ∀ r k,
      ¬ reassembleNotification.Returns (outcomeServer outcomes) (first, false) 0 r k) ∧
    (∀ n out oversized k,
      reassembleNotification.after (outcomeServer outcomes) n (first, false) 0 =
        some ((out, oversized), k) →
      out.length ≤ max first.length maxNotification) := by
  refine ⟨?_, ?_, ?_⟩
  · intro n hgo hstop
    obtain ⟨st, hafter, hinv⟩ := after_of_not_stops first hgo
    exact .of_after hafter (hinv.stop hstop)
  · rintro hgo r k ⟨n, hrun⟩
    obtain ⟨st, hafter, -⟩ := after_of_not_stops first fun i (_ : i < n) => hgo i
    rw [Program.run_eq_none_of_after hafter] at hrun
    cases hrun
  · intro n out oversized k hafter
    have hinv : Buffered first outcomes (out, oversized) k :=
      Program.after_invariant (fun _ _ _ h hstep => h.next hstep) (.start first outcomes) hafter
    exact hinv.bounded

end Socket

end Lksctp
