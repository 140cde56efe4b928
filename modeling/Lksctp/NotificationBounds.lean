-- SUMMARY: Which buffers the notification parser accepts, and what more bytes behind an accepted buffer change.
import Lksctp.Notification
import Lksctp.Rust.Reader

/-!
# Complete notifications

The size that a notification must have is nowhere in the parser: it is the end of
the last field that the parser of its type touches. `fixedLen` is the table of
these sizes. Each parser is composed from reads at fixed offsets, so its entry of
the table follows from the demands of the reads.
-/

namespace Lksctp

open Rust

namespace Notification

/-- The size of the fixed part of a notification of this type. -/
def fixedLen (snType : UInt16) : Nat :=
  if snType = Sys.sctpAssocChange then 20
  else if snType = Sys.sctpPeerAddrChange then 148
  else if snType = Sys.sctpRemoteError then 16
  else if snType = Sys.sctpSendFailed then 48
  else if snType = Sys.sctpSendFailedEvent then 32
  else if snType = Sys.sctpShutdownEvent then 12
  else if snType = Sys.sctpPartialDeliveryEvent then 24
  else if snType = Sys.sctpAdaptationIndication then 16
  else if snType = Sys.sctpAuthenticationEvent then 20
  else if snType = Sys.sctpSenderDryEvent then 12
  else if snType = Sys.sctpStreamResetEvent then 12
  else if snType = Sys.sctpAssocResetEvent then 20
  else if snType = Sys.sctpStreamChangeEvent then 16
  else 4

/-! ## Fixed and variable parts -/

/-- The variant and the fixed fields: the notification without its variable part. -/
def fixed : Notification → Notification
  | .assocChange n => .assocChange { n with info := [] }
  | .remoteError n => .remoteError { n with data := [] }
  | .sendFailed n => .sendFailed { n with payload := [] }
  | .streamReset n => .streamReset { n with streams := [] }
  | .unknown n => .unknown { n with data := [] }
  | n => n

/-- The variable part of a notification that ends in bytes. -/
def trailingBytes : Notification → Bytes
  | .assocChange n => n.info
  | .remoteError n => n.data
  | .sendFailed n => n.payload
  | .unknown n => n.data
  | _ => []

/-- The variable part of a notification that ends in a list of streams. -/
def trailingStreams : Notification → List UInt16
  | .streamReset n => n.streams
  | _ => []

/-- `n'` is `n` with more at the end of its variable part. -/
def ExtendedBy (n n' : Notification) : Prop :=
  n'.fixed = n.fixed ∧ n.trailingBytes <+: n'.trailingBytes ∧
    n.trailingStreams <+: n'.trailingStreams

theorem ExtendedBy.refl (n : Notification) : n.ExtendedBy n :=
  ⟨rfl, List.prefix_rfl, List.prefix_rfl⟩

theorem tail_prefix (b s : Bytes) (off : Nat) : tail b off <+: tail (b ++ s) off := by
  rw [tail_eq_drop, tail_eq_drop, List.drop_append]
  exact List.prefix_append _ _

/-! ## Reads -/

/-- The error of a notification that is not well formed. -/
def IsInvalid (fault : Fault) : Prop := ∃ msg, fault = .err (err msg)

/-- A read at fixed offsets that demands `n` bytes. -/
abbrev ReadsAt {α : Type} (n : Nat) (f : Bytes → Res α) : Prop := Accepts n IsInvalid Eq f f

/-- A parser that demands `n` bytes. -/
abbrev ParsesAt (n : Nat) (f : Bytes → Res Notification) : Prop :=
  Accepts n IsInvalid ExtendedBy f f

theorem accepts_u16At (e : Endian) (off : Nat) : ReadsAt (off + 2) (u16At e · off) :=
  Accepts.getRange (Nat.le_add_right off 2) _ ⟨_, rfl⟩

theorem accepts_u32At (e : Endian) (off : Nat) : ReadsAt (off + 4) (u32At e · off) :=
  Accepts.getRange (Nat.le_add_right off 4) _ ⟨_, rfl⟩

theorem accepts_i32At (e : Endian) (off : Nat) : ReadsAt (off + 4) (i32At e · off) :=
  ((accepts_u32At e off).bind_eq fun _ => .pure fun _ _ => rfl).of_eq (max_eq_left (Nat.zero_le _))

theorem accepts_assocAt (e : Endian) (off : Nat) : ReadsAt (off + 4) (assocAt e · off) :=
  ((accepts_i32At e off).bind_eq fun _ => .pure fun _ _ => rfl).of_eq (max_eq_left (Nat.zero_le _))

theorem accepts_range {a b : Nat} (hab : a ≤ b) (msg : String) :
    ReadsAt b (fun buf => Res.okOr (getRange buf a b) (err msg)) := by
  have hread : ReadsAt b (fun buf => Res.okOr ((getRange buf a b).map id) (err msg)) :=
    Accepts.getRange hab id ⟨msg, rfl⟩
  simpa only [Option.map_id, id_eq] using hread

/-- Reading the address looks at its bytes, not at the buffer. -/
theorem accepts_readSockaddr (e : Endian) (addrBytes : Bytes) :
    ReadsAt 0 (fun _ => Addr.readSockaddr e addrBytes) := by
  obtain ⟨o, ho⟩ := Addr.readSockaddr_total e addrBytes
  rw [ho]
  exact .pure fun _ _ => rfl

theorem resetStreams_total (e : Endian) (b : Bytes) (off : Nat) :
    ∃ streams, resetStreams e b off = .ok streams := by
  fun_induction resetStreams e b off with
  | case1 off h ih =>
    obtain ⟨stream, hstream, -⟩ := (accepts_u16At e off b).2 h
    obtain ⟨streams, hstreams⟩ := ih
    exact ⟨stream :: streams, by simp [hstream, hstreams]⟩
  | case2 off h => exact ⟨[], rfl⟩

/-- The list of streams needs no bytes: it ends where the buffer does. -/
theorem resetStreams_append {e : Endian} {b : Bytes} {off : Nat} {streams : List UInt16}
    (h : resetStreams e b off = .ok streams) (s : Bytes) :
    ∃ streams', resetStreams e (b ++ s) off = .ok streams' ∧ streams <+: streams' := by
  fun_induction resetStreams e b off generalizing streams with
  | case1 off hlen ih =>
    obtain ⟨stream, hstream, h⟩ := Res.bind_eq_ok.mp h
    obtain ⟨rest, hrest, h⟩ := Res.bind_eq_ok.mp h
    obtain rfl : stream :: rest = streams := Except.ok.inj h
    obtain ⟨_, hstream', rfl⟩ := (accepts_u16At e off).append hstream s
    obtain ⟨rest', hrest', hprefix⟩ := ih hrest
    have hlen' : off + 2 ≤ (b ++ s).length := hlen.trans (by simp)
    refine ⟨stream :: rest', ?_, List.cons_prefix_cons.mpr ⟨rfl, hprefix⟩⟩
    rw [resetStreams, if_pos hlen']
    simp [hstream', hrest']
  | case2 off hlen =>
    obtain ⟨streams', hstreams'⟩ := resetStreams_total e (b ++ s) off
    obtain rfl : [] = streams := Except.ok.inj h
    exact ⟨streams', hstreams', List.nil_prefix⟩

theorem accepts_resetStreams (e : Endian) (off : Nat) :
    Accepts 0 IsInvalid (· <+: ·) (resetStreams e · off) (resetStreams e · off) := by
  intro b
  refine ⟨fun hlt => absurd hlt (Nat.not_lt_zero _), fun _ => ?_⟩
  obtain ⟨streams, hstreams⟩ := resetStreams_total e b off
  exact ⟨streams, hstreams, resetStreams_append hstreams⟩

/-! ## One parser per struct -/

theorem accepts_parseAssocChange (e : Endian) :
    ParsesAt 20 (parseAssocChange e) :=
  .of_eq ((accepts_u16At e 8).bind_eq fun _ => (accepts_u16At e 10).bind_eq fun _ =>
    (accepts_u16At e 12).bind_eq fun _ => (accepts_u16At e 14).bind_eq fun _ =>
    (accepts_assocAt e 16).bind_eq fun _ =>
      .pure fun b s => ⟨rfl, tail_prefix b s 20, List.prefix_rfl⟩) rfl

theorem accepts_parsePeerAddrChange (e : Endian) :
    ParsesAt 148 (parsePeerAddrChange e) :=
  .of_eq ((accepts_range (by decide) _).bind_eq fun addrBytes =>
    (accepts_readSockaddr e addrBytes).bind_eq fun _ => (accepts_i32At e 136).bind_eq fun _ =>
    (accepts_i32At e 140).bind_eq fun _ => (accepts_assocAt e 144).bind_eq fun _ =>
      .pure fun _ _ => .refl _) rfl

theorem accepts_parseRemoteError (e : Endian) :
    ParsesAt 16 (parseRemoteError e) :=
  .of_eq ((accepts_u16At e 8).bind_eq fun _ => (accepts_assocAt e 12).bind_eq fun _ =>
    .pure fun b s => ⟨rfl, tail_prefix b s 16, List.prefix_rfl⟩) rfl

theorem accepts_parseSendFailed (e : Endian) (snFlags : UInt16) :
    ParsesAt 48 (parseSendFailed e snFlags) :=
  .of_eq ((accepts_u32At e 8).bind_eq fun _ => (accepts_u16At e 12).bind_eq fun _ =>
    (accepts_u32At e 20).bind_eq fun _ => (accepts_u32At e 24).bind_eq fun _ =>
    (accepts_assocAt e 44).bind_eq fun _ =>
      .pure fun b s => ⟨rfl, tail_prefix b s 48, List.prefix_rfl⟩) rfl

theorem accepts_parseSendFailedEvent (e : Endian) (snFlags : UInt16) :
    ParsesAt 32 (parseSendFailedEvent e snFlags) :=
  .of_eq ((accepts_u32At e 8).bind_eq fun _ => (accepts_u16At e 12).bind_eq fun _ =>
    (accepts_u32At e 16).bind_eq fun _ => (accepts_u32At e 20).bind_eq fun _ =>
    (accepts_assocAt e 28).bind_eq fun _ =>
      .pure fun b s => ⟨rfl, tail_prefix b s 32, List.prefix_rfl⟩) rfl

theorem accepts_parseShutdown (e : Endian) :
    ParsesAt 12 (parseShutdown e) :=
  .of_eq ((accepts_assocAt e 8).bind_eq fun _ => .pure fun _ _ => .refl _) rfl

theorem accepts_parsePartialDelivery (e : Endian) :
    ParsesAt 24 (parsePartialDelivery e) :=
  .of_eq ((accepts_u32At e 8).bind_eq fun _ => (accepts_assocAt e 12).bind_eq fun _ =>
    (accepts_u32At e 16).bind_eq fun _ => (accepts_u32At e 20).bind_eq fun _ =>
      .pure fun _ _ => .refl _) rfl

theorem accepts_parseAdaptationIndication (e : Endian) :
    ParsesAt 16 (parseAdaptationIndication e) :=
  .of_eq ((accepts_u32At e 8).bind_eq fun _ => (accepts_assocAt e 12).bind_eq fun _ =>
    .pure fun _ _ => .refl _) rfl

theorem accepts_parseAuthentication (e : Endian) :
    ParsesAt 20 (parseAuthentication e) :=
  .of_eq ((accepts_u16At e 8).bind_eq fun _ => (accepts_u16At e 10).bind_eq fun _ =>
    (accepts_u32At e 12).bind_eq fun _ => (accepts_assocAt e 16).bind_eq fun _ =>
      .pure fun _ _ => .refl _) rfl

theorem accepts_parseSenderDry (e : Endian) :
    ParsesAt 12 (parseSenderDry e) :=
  .of_eq ((accepts_assocAt e 8).bind_eq fun _ => .pure fun _ _ => .refl _) rfl

/-- The loop over the streams comes before the read that can fail. -/
theorem accepts_parseStreamReset (e : Endian) (snFlags : UInt16) :
    ParsesAt 12 (parseStreamReset e snFlags) :=
  .of_eq ((accepts_resetStreams e 12).bind fun _ _ hprefix => (accepts_assocAt e 8).bind_eq fun _ =>
    .pure fun _ _ => ⟨rfl, List.prefix_rfl, hprefix⟩) rfl

theorem accepts_parseAssocReset (e : Endian) (snFlags : UInt16) :
    ParsesAt 20 (parseAssocReset e snFlags) :=
  .of_eq ((accepts_assocAt e 8).bind_eq fun _ => (accepts_u32At e 12).bind_eq fun _ =>
    (accepts_u32At e 16).bind_eq fun _ => .pure fun _ _ => .refl _) rfl

theorem accepts_parseStreamChange (e : Endian) (snFlags : UInt16) :
    ParsesAt 16 (parseStreamChange e snFlags) :=
  .of_eq ((accepts_assocAt e 8).bind_eq fun _ => (accepts_u16At e 12).bind_eq fun _ =>
    (accepts_u16At e 14).bind_eq fun _ => .pure fun _ _ => .refl _) rfl

/-! ## The dispatch -/

/-- `f` demands `n` bytes of a buffer that has the four bytes of type and flags. -/
def AcceptsBody (n : Nat) (f : Bytes → Res Notification) : Prop :=
  ∃ m, max 4 m = n ∧ ParsesAt m f

theorem AcceptsBody.of_accepts {n : Nat} {f : Bytes → Res Notification}
    (h : ParsesAt n f) (hn : 4 ≤ n) : AcceptsBody n f := ⟨n, max_eq_right hn, h⟩

theorem AcceptsBody.ite {n m : Nat} {f g : Bytes → Res Notification} {p : Prop} [Decidable p]
    (hf : AcceptsBody n f) (hg : AcceptsBody m g) :
    AcceptsBody (if p then n else m) (fun b => if p then f b else g b) := by
  by_cases h : p
  · simpa only [if_pos h] using hf
  · simpa only [if_neg h] using hg

theorem acceptsBody_unknown (snType snFlags : UInt16) :
    AcceptsBody 4 (fun b => pure (.unknown { snType, snFlags, data := b })) :=
  ⟨0, rfl, .pure fun b s => ⟨rfl, List.prefix_append b s, List.prefix_rfl⟩⟩

theorem acceptsBody_parseBody (e : Endian) (snType snFlags : UInt16) :
    AcceptsBody (fixedLen snType) (parseBody e snType snFlags) := by
  unfold fixedLen parseBody
  apply AcceptsBody.ite (.of_accepts (accepts_parseAssocChange e) (by decide))
  apply AcceptsBody.ite (.of_accepts (accepts_parsePeerAddrChange e) (by decide))
  apply AcceptsBody.ite (.of_accepts (accepts_parseRemoteError e) (by decide))
  apply AcceptsBody.ite (.of_accepts (accepts_parseSendFailed e snFlags) (by decide))
  apply AcceptsBody.ite (.of_accepts (accepts_parseSendFailedEvent e snFlags) (by decide))
  apply AcceptsBody.ite (.of_accepts (accepts_parseShutdown e) (by decide))
  apply AcceptsBody.ite (.of_accepts (accepts_parsePartialDelivery e) (by decide))
  apply AcceptsBody.ite (.of_accepts (accepts_parseAdaptationIndication e) (by decide))
  apply AcceptsBody.ite (.of_accepts (accepts_parseAuthentication e) (by decide))
  apply AcceptsBody.ite (.of_accepts (accepts_parseSenderDry e) (by decide))
  apply AcceptsBody.ite (.of_accepts (accepts_parseStreamReset e snFlags) (by decide))
  apply AcceptsBody.ite (.of_accepts (accepts_parseAssocReset e snFlags) (by decide))
  apply AcceptsBody.ite (.of_accepts (accepts_parseStreamChange e snFlags) (by decide))
  exact acceptsBody_unknown snType snFlags

/-! ## The whole parser -/

theorem u16At_zero (e : Endian) {b : Bytes} (h : 2 ≤ b.length) :
    u16At e b 0 = .ok (e.getU16 (b.take 2)) := by
  simp [u16At, getRange_eq_some (Nat.zero_le 2) h]

theorem parse_short {e : Endian} {b : Bytes} (h : b.length < 4) :
    ∃ fault, parse e b = .error fault ∧ IsInvalid fault := by
  by_cases htype : b.length < 2
  · obtain ⟨fault, hfault, hinvalid⟩ := (accepts_u16At e 0 b).1 htype
    exact ⟨fault, by simp [parse, hfault], hinvalid⟩
  · obtain ⟨fault, hfault, hinvalid⟩ := (accepts_u16At e 2 b).1 h
    exact ⟨fault, by simp [parse, u16At_zero e (not_lt.mp htype), hfault], hinvalid⟩

/-- Behind the header, the buffer and all its extensions go to the same parser. -/
theorem parse_eq_parseBody {e : Endian} {b : Bytes} (h : 4 ≤ b.length) :
    ∃ snFlags, parse e b = parseBody e (e.getU16 (b.take 2)) snFlags b ∧
      ∀ s, parse e (b ++ s) = parseBody e (e.getU16 (b.take 2)) snFlags (b ++ s) := by
  have hlen : 2 ≤ b.length := h.trans' (by decide)
  obtain ⟨snFlags, hflags, hext⟩ := (accepts_u16At e 2 b).2 h
  refine ⟨snFlags, by simp [parse, u16At_zero e hlen, hflags], ?_⟩
  intro s
  obtain ⟨_, htype, rfl⟩ := (accepts_u16At e 0).append (u16At_zero e hlen) s
  obtain ⟨_, hflags', rfl⟩ := hext s
  simp [parse, htype, hflags']

/-- The parser never panics, and its errors are all `InvalidData`. -/
theorem FailsInvalid.parse (e : Endian) (b : Bytes) : FailsInvalid (parse e b) := by
  intro fault hfault
  by_cases hshort : b.length < 4
  · obtain ⟨fault', hfault', hinvalid⟩ := parse_short (e := e) hshort
    rw [hfault'] at hfault
    cases hfault
    exact hinvalid
  · obtain ⟨snFlags, hparse, -⟩ := parse_eq_parseBody (e := e) (not_lt.mp hshort)
    obtain ⟨m, -, haccepts⟩ := acceptsBody_parseBody e (e.getU16 (b.take 2)) snFlags
    rw [hparse] at hfault
    exact haccepts.fault_of_error hfault

/-- The parser accepts the complete notifications. It fails on a buffer that is
    shorter than the header or than the fixed part of its type and on no other,
    always with `InvalidData`. More bytes behind an accepted buffer leave the variant
    and the fixed fields as they are and can only extend the variable part. -/
theorem parse_accepts_complete (e : Endian) (b : Bytes) :
    ((∃ fault, parse e b = .error fault) ↔
      b.length < 4 ∨ b.length < fixedLen (e.getU16 (b.take 2))) ∧
    (∀ fault, parse e b = .error fault → ∃ msg, fault = .err (.custom .invalidData msg)) ∧
    (∀ n, parse e b = .ok n → ∀ s, ∃ n', parse e (b ++ s) = .ok n' ∧ n.ExtendedBy n') := by
  refine ⟨?_, ?_, ?_⟩
  · by_cases hshort : b.length < 4
    · obtain ⟨fault, hfault, -⟩ := parse_short (e := e) hshort
      exact iff_of_true ⟨fault, hfault⟩ (.inl hshort)
    · obtain ⟨snFlags, hparse, -⟩ := parse_eq_parseBody (e := e) (not_lt.mp hshort)
      obtain ⟨m, hm, haccepts⟩ := acceptsBody_parseBody e (e.getU16 (b.take 2)) snFlags
      rw [hparse, ← hm, lt_max_iff, or_iff_right hshort, or_iff_right hshort]
      exact haccepts.error_iff b
  · intro fault hfault
    obtain ⟨msg, rfl⟩ := FailsInvalid.parse e b fault hfault
    exact ⟨_, rfl⟩
  · intro n hn s
    have hlong : 4 ≤ b.length := by
      by_contra hshort
      obtain ⟨fault, hfault, -⟩ := parse_short (e := e) (not_le.mp hshort)
      rw [hn] at hfault
      cases hfault
    obtain ⟨snFlags, hparse, hext⟩ := parse_eq_parseBody (e := e) hlong
    obtain ⟨m, -, haccepts⟩ := acceptsBody_parseBody e (e.getU16 (b.take 2)) snFlags
    rw [hparse] at hn
    rw [hext s]
    exact haccepts.append hn s

end Notification

end Lksctp
