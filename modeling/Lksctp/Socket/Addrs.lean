-- SUMMARY: `Socket::getaddrs_with_capacity`: the address query that doubles its buffer, and exactly when it returns the complete list.
import Lksctp.Types
import Lksctp.Addr
import Lksctp.Machine.Program

/-!
# Querying addresses

The kernel answers `SCTP_GET_LOCAL_ADDRS` and `SCTP_GET_PEER_ADDRS` into a buffer
of the caller's size and fails with `ENOMEM` when the list does not fit, so the
code doubles the buffer until it does, up to 4 MiB.

The kernel knows the size of the buffer only from a `socklen_t`. The code casts
the capacity to it, which keeps the low 32 bits. The list is then read into a vector,
whose size in memory is bounded too.
-/

namespace Lksctp

open Rust Machine

namespace Socket

/-! ## The code -/

def maxCapacity : Nat := 4 * 1024 * 1024

/-- The arguments of the `getsockopt(2)`. -/
structure AddrsReq where
  opt : Int32
  optval : Bytes
  optlen : UInt32
  deriving DecidableEq, Repr

/-- The variables of the loop: the capacity, and the buffer of this round. -/
structure AddrsQuery where
  capacity : Nat
  buf : Bytes
  deriving DecidableEq, Repr

/-- `vec![0u8; capacity]`, with the association in its first four bytes. -/
def newQuery (t : Target) (assocId : AssocId) (capacity : Nat) : Res AddrsQuery :=
  if capacity ≤ t.ptr.isizeMax then do
    let buf ← copyFromSlice (zeros capacity) 0 4 (t.endian.putI32 assocId.val)
    pure { capacity, buf }
  else Res.panic .capacity

/-- The addresses in a buffer that the kernel has filled. -/
def readQuery (t : Target) (buf : Bytes) : Res (List SocketAddr) := do
  let count := t.endian.getU32 (← slice buf 4 8)
  Addr.readAddrList t.ptr t.endian (← sliceFrom buf 8) count.toNat

def growQuery (t : Target) (assocId : AssocId) (capacity : Nat) : Res AddrsQuery := do
  let doubled ← t.ptr.mul capacity 2
  newQuery t assocId (min doubled maxCapacity)

/-- The loop. The cast to `socklen_t` wraps around. -/
def addrsLoop (t : Target) (assocId : AssocId) (opt : Int32) :
    Program AddrsReq (Except Errno Bytes) AddrsQuery (Res (List SocketAddr)) where
  request query := { opt, optval := query.buf, optlen := UInt32.ofNat query.capacity }
  resume query reply :=
    match reply with
    | .ok buf => .done (readQuery t buf)
    | .error e =>
      if e = Errno.enomem ∧ query.capacity < maxCapacity then
        match growQuery t assocId query.capacity with
        | .ok query => .next query
        | .error fault => .done (.error fault)
      else .done (Res.err (.os e))

/-- `getaddrs_with_capacity` as a whole: the loop from its first buffer on. -/
def GetaddrsWithCapacity {K : Type} (t : Target) (assocId : AssocId) (opt : Int32)
    (initialCapacity : Nat) (serve : Server K AddrsReq (Except Errno Bytes)) (k : K)
    (r : Res (List SocketAddr)) (k' : K) : Prop :=
  match newQuery t assocId (max initialCapacity 8) with
  | .ok query => (addrsLoop t assocId opt).Returns serve query k r k'
  | .error fault => r = .error fault ∧ k' = k

/-! ## The kernel -/

/-- What an attempt meets: the current list of addresses, or a failure that has
    nothing to do with the size of the buffer. -/
inductive AddrsAnswer where
  | addrs (list : List SocketAddr)
  | fails (errno : Errno) (other : errno ≠ Errno.enomem)

/-- The buffer behind the association id: the count, and the packed list. -/
def writeAddrs (e : Endian) (list : List SocketAddr) (optval : Bytes) : Bytes :=
  optval.take 4 ++ (e.putU32 (UInt32.ofNat list.length) ++
    (Addr.layoutList e list ++ optval.drop (8 + (Addr.layoutList e list).length)))

def getsockoptAddrs (e : Endian) (answer : AddrsAnswer) (req : AddrsReq) : Except Errno Bytes :=
  match answer with
  | .fails errno _ => .error errno
  | .addrs list =>
    if req.optlen.toNat < 8 then .error Errno.einval
    else if 8 + (Addr.layoutList e list).length ≤ req.optlen.toNat then
      .ok (writeAddrs e list req.optval)
    else .error Errno.enomem

/-- A kernel that remembers what it was asked; the list may differ from one
    attempt to the next. -/
def addrsServer (e : Endian) (answers : Nat → AddrsAnswer) :
    Server (List AddrsReq) AddrsReq (Except Errno Bytes) :=
  fun log req => (getsockoptAddrs e (answers log.length) req, log ++ [req])

/-! ## What the query is for -/

/-- The capacity of the `i`-th attempt. -/
def attemptCapacity (initialCapacity i : Nat) : Nat :=
  if maxCapacity ≤ max initialCapacity 8 then max initialCapacity 8
  else min (max initialCapacity 8 * 2 ^ i) maxCapacity

/-- The result of an attempt with this capacity; `none` when it is repeated. -/
def attemptResult (e : Endian) (capacity : Nat) : AddrsAnswer → Option (Res (List SocketAddr))
  | .fails errno _ => some (Res.err (.os errno))
  | .addrs list =>
    if 8 + (Addr.layoutList e list).length ≤ capacity then some (.ok list)
    else if maxCapacity ≤ capacity then some (Res.err (.os Errno.enomem))
    else none

/-- The option, the length the kernel is told, the length of the buffer, and the
    bytes of the association id. -/
def AddrsReq.view (req : AddrsReq) : Int32 × Nat × Nat × Bytes :=
  (req.opt, req.optlen.toNat, req.optval.length, req.optval.take 4)

def expectedView (e : Endian) (assocId : AssocId) (opt : Int32) (capacity : Nat) :
    Int32 × Nat × Nat × Bytes :=
  (opt, capacity, capacity, e.putI32 assocId.val)

/-- The query stops at the first attempt that has a result, with that result, and
    every attempt was made with its capacity and the same association. -/
def QueryComplete (t : Target) (assocId : AssocId) (opt : Int32) (initialCapacity : Nat)
    (answers : Nat → AddrsAnswer) : Prop :=
  ∃ n r log,
    (∀ i < n, attemptResult t.endian (attemptCapacity initialCapacity i) (answers i) = none) ∧
    attemptResult t.endian (attemptCapacity initialCapacity n) (answers n) = some r ∧
    GetaddrsWithCapacity t assocId opt initialCapacity (addrsServer t.endian answers) [] r log ∧
    log.map AddrsReq.view = (List.range (n + 1)).map fun i =>
      expectedView t.endian assocId opt (attemptCapacity initialCapacity i)

/-! ## One attempt -/

variable {t : Target} {assocId : AssocId} {opt : Int32} {initialCapacity : Nat}
  {answers : Nat → AddrsAnswer}

/-- The loop state of an attempt with this capacity. -/
def queryFor (e : Endian) (assocId : AssocId) (capacity : Nat) : AddrsQuery where
  capacity := capacity
  buf := e.putI32 assocId.val ++ zeros (capacity - 4)

theorem newQuery_eq {capacity : Nat} (h8 : 8 ≤ capacity) (hmax : capacity ≤ t.ptr.isizeMax) :
    newQuery t assocId capacity = .ok (queryFor t.endian assocId capacity) := by
  have hcopy : copyFromSlice (zeros capacity ++ []) 0 4 (t.endian.putI32 assocId.val) = _ :=
    copyFromSlice_head (Endian.length_putI32 t.endian assocId.val) (by omega)
  simp only [List.append_nil] at hcopy
  simp [newQuery, hmax, hcopy, queryFor]

theorem maxCapacity_le_isizeMax (w : PtrWidth) : maxCapacity ≤ w.isizeMax := by
  cases w <;> decide

theorem growQuery_eq {capacity : Nat} (h8 : 8 ≤ capacity) (hlt : capacity < maxCapacity) :
    growQuery t assocId capacity =
      .ok (queryFor t.endian assocId (min (capacity * 2) maxCapacity)) := by
  have hle := maxCapacity_le_isizeMax t.ptr
  have h8max : 8 ≤ maxCapacity := by decide
  have hmul : capacity * 2 < t.ptr.usizeRange := by
    have hrange : maxCapacity * 2 < t.ptr.usizeRange := by cases t.ptr <;> decide
    omega
  rw [growQuery, PtrWidth.mul_ok hmul, Res.ok_bind]
  exact newQuery_eq (by omega) (by omega)

theorem view_queryFor (t : Target) (assocId : AssocId) (opt : Int32) {capacity : Nat}
    (h8 : 8 ≤ capacity) (h32 : capacity < 2 ^ 32) :
    ((addrsLoop t assocId opt).request (queryFor t.endian assocId capacity)).view =
      expectedView t.endian assocId opt capacity := by
  have hlen : (UInt32.ofNat capacity).toNat = capacity := by
    rw [UInt32.toNat_ofNat']
    exact Nat.mod_eq_of_lt h32
  simp only [addrsLoop, queryFor, AddrsReq.view, expectedView, hlen, List.length_append,
    Endian.length_putI32, length_zeros, Prod.mk.injEq, true_and]
  exact ⟨by omega, List.take_left' (Endian.length_putI32 _ _)⟩

/-- A list as a vector in memory. -/
def inVec (w : PtrWidth) (list : List SocketAddr) : Res (List SocketAddr) :=
  if list.length * Addr.sizeOfSocketAddr ≤ w.isizeMax then .ok list else Res.panic .capacity

/-- The list that the kernel wrote is read back as a whole, if memory can hold it. -/
theorem readQuery_writeAddrs {list : List SocketAddr} {optval : Bytes} (hlen : 4 ≤ optval.length)
    (hlist : list.length < 2 ^ 32) :
    readQuery t (writeAddrs t.endian list optval) = inVec t.ptr list := by
  have hassoc : (optval.take 4).length = 4 := by simp [hlen]
  have hcount : slice (writeAddrs t.endian list optval) 4 8 =
      .ok (t.endian.putU32 (UInt32.ofNat list.length)) := by
    simp [writeAddrs, slice_skip, slice_head, hassoc]
  have hrest : sliceFrom (writeAddrs t.endian list optval) 8 =
      .ok (Addr.layoutList t.endian list ++
        optval.drop (8 + (Addr.layoutList t.endian list).length)) := by
    rw [writeAddrs, ← List.append_assoc]
    exact sliceFrom_append (by simp [hassoc])
  have hnat : (UInt32.ofNat list.length).toNat = list.length := by
    rw [UInt32.toNat_ofNat']
    exact Nat.mod_eq_of_lt hlist
  -- The entries that were written take at least 16 bytes each.
  have hroom : min list.length ((Addr.layoutList t.endian list ++
      optval.drop (8 + (Addr.layoutList t.endian list).length)).length / Addr.sockaddrInLen) =
        list.length := by
    have hentries := Addr.length_mul_le_length_layoutList t.endian list
    rw [min_eq_left_iff, Nat.le_div_iff_mul_le (by decide), List.length_append]
    exact hentries.trans (Nat.le_add_right _ _)
  simp only [readQuery, hcount, hrest, Res.ok_bind, Endian.getU32_putU32, hnat, Addr.readAddrList,
    hroom, inVec]
  rw [Addr.readAddrs_layoutList _ _ _ le_rfl, List.take_length]

/-- What comes of the expected result of an attempt in memory. -/
def resultInVec (w : PtrWidth) : Res (List SocketAddr) → Res (List SocketAddr)
  | .ok list => inVec w list
  | .error fault => .error fault

/-- An attempt whose capacity the kernel is told right has the expected result,
    or leads to the next attempt. -/
theorem attempt_step (t : Target) (assocId : AssocId) (opt : Int32) (answer : AddrsAnswer)
    {capacity : Nat} (h8 : 8 ≤ capacity) (h32 : capacity < 2 ^ 32) :
    (addrsLoop t assocId opt).resume (queryFor t.endian assocId capacity)
        (getsockoptAddrs t.endian answer
          ((addrsLoop t assocId opt).request (queryFor t.endian assocId capacity))) =
      match attemptResult t.endian capacity answer with
      | some r => .done (resultInVec t.ptr r)
      | none => .next (queryFor t.endian assocId (min (capacity * 2) maxCapacity)) := by
  have hview := view_queryFor t assocId opt h8 h32
  have htold : ((addrsLoop t assocId opt).request
      (queryFor t.endian assocId capacity)).optlen.toNat = capacity :=
    congrArg (·.2.1) hview
  have hbuf : 4 ≤ ((addrsLoop t assocId opt).request
      (queryFor t.endian assocId capacity)).optval.length := by
    have hlen := congrArg (·.2.2.1) hview
    simp only [AddrsReq.view, expectedView] at hlen
    omega
  cases answer with
  | fails errno other =>
    simp only [getsockoptAddrs, attemptResult, addrsLoop, other, false_and, if_false]
    rfl
  | addrs list =>
    have hcount := Addr.length_le_length_layoutList t.endian list
    simp only [getsockoptAddrs, htold, not_lt.mpr h8, if_false, attemptResult]
    by_cases hfits : 8 + (Addr.layoutList t.endian list).length ≤ capacity
    · rw [if_pos hfits, if_pos hfits]
      exact congrArg Step.done (readQuery_writeAddrs hbuf (by omega))
    · rw [if_neg hfits, if_neg hfits]
      by_cases hmax : maxCapacity ≤ capacity
      · simp [addrsLoop, queryFor, hmax, resultInVec, Res.err]
      · have hlt : capacity < maxCapacity := not_le.mp hmax
        rw [if_neg hmax]
        simp only [addrsLoop, queryFor, hlt, and_self, if_true]
        rw [growQuery_eq h8 hlt]
        rfl

/-! ## Whole queries -/

theorem attemptCapacity_zero (initialCapacity : Nat) :
    attemptCapacity initialCapacity 0 = max initialCapacity 8 := by
  unfold attemptCapacity
  split
  · rfl
  · rw [pow_zero, mul_one]
    omega

theorem le_attemptCapacity (initialCapacity i : Nat) : 8 ≤ attemptCapacity initialCapacity i := by
  unfold attemptCapacity
  split
  · exact le_max_right _ _
  · have hpow : 1 ≤ 2 ^ i := Nat.one_le_two_pow
    have hmul := Nat.le_mul_of_pos_right (max initialCapacity 8) hpow
    have h8max : 8 ≤ maxCapacity := by decide
    omega

theorem attemptCapacity_le (initialCapacity i : Nat) :
    attemptCapacity initialCapacity i ≤ max (max initialCapacity 8) maxCapacity := by
  unfold attemptCapacity
  split
  · exact le_max_left _ _
  · exact (min_le_right _ _).trans (le_max_right _ _)

/-- Below the bound, an attempt is followed by one of twice the capacity, clamped. -/
theorem attemptCapacity_succ {initialCapacity i : Nat}
    (h : attemptCapacity initialCapacity i < maxCapacity) :
    attemptCapacity initialCapacity (i + 1) =
      min (attemptCapacity initialCapacity i * 2) maxCapacity := by
  unfold attemptCapacity at h ⊢
  split at h
  · omega
  · next hinitial =>
    simp only [hinitial, if_false]
    rw [pow_succ, ← mul_assoc]
    omega

theorem capacity_lt_of_attemptResult {e : Endian} {capacity : Nat} {answer : AddrsAnswer}
    (h : attemptResult e capacity answer = none) : capacity < maxCapacity := by
  cases answer with
  | fails errno other => simp [attemptResult] at h
  | addrs list =>
    simp only [attemptResult] at h
    split at h
    · cases h
    · split at h
      · cases h
      · next hmax => exact not_le.mp hmax

/-- The loop before the attempt that the log's length says is next. -/
structure QueryInv (t : Target) (assocId : AssocId) (opt : Int32) (initialCapacity : Nat)
    (answers : Nat → AddrsAnswer) (query : AddrsQuery) (log : List AddrsReq) : Prop where
  state : query = queryFor t.endian assocId (attemptCapacity initialCapacity log.length)
  repeated : ∀ i < log.length,
    attemptResult t.endian (attemptCapacity initialCapacity i) (answers i) = none
  asked : log.map AddrsReq.view = (List.range log.length).map fun i =>
    expectedView t.endian assocId opt (attemptCapacity initialCapacity i)

/-- What the log looks like after one more attempt. -/
theorem QueryInv.asked_append {query : AddrsQuery} {log : List AddrsReq}
    (h : QueryInv t assocId opt initialCapacity answers query log)
    (h32 : attemptCapacity initialCapacity log.length < 2 ^ 32) :
    (log ++ [(addrsLoop t assocId opt).request query]).map AddrsReq.view =
      (List.range (log.length + 1)).map fun i =>
        expectedView t.endian assocId opt (attemptCapacity initialCapacity i) := by
  have hview := view_queryFor t assocId opt
    (le_attemptCapacity initialCapacity log.length) h32
  rw [← h.state] at hview
  simp [List.range_succ, h.asked, hview]

/-- The attempt that ends the query, with its result. -/
def EndsAt (e : Endian) (initialCapacity : Nat) (answers : Nat → AddrsAnswer) (n : Nat)
    (r : Res (List SocketAddr)) : Prop :=
  (∀ i < n, attemptResult e (attemptCapacity initialCapacity i) (answers i) = none) ∧
    attemptResult e (attemptCapacity initialCapacity n) (answers n) = some r

/-- No attempt but the first that has a result ends the query. -/
theorem EndsAt.unique {e : Endian} {n m : Nat} {r r' : Res (List SocketAddr)}
    (h : EndsAt e initialCapacity answers n r) (h' : EndsAt e initialCapacity answers m r') :
    n = m ∧ r = r' := by
  obtain hlt | rfl | hlt := lt_trichotomy n m
  · have hnone := h'.1 n hlt
    rw [h.2] at hnone
    cases hnone
  · exact ⟨rfl, Option.some.inj (h.2.symm.trans h'.2)⟩
  · have hnone := h.1 m hlt
    rw [h'.2] at hnone
    cases hnone

/-- The result and the log of a query that has stopped. -/
def QueryPost (t : Target) (assocId : AssocId) (opt : Int32) (initialCapacity : Nat)
    (answers : Nat → AddrsAnswer) (r : Res (List SocketAddr)) (log : List AddrsReq) : Prop :=
  ∃ n r', EndsAt t.endian initialCapacity answers n r' ∧ r = resultInVec t.ptr r' ∧
    log.map AddrsReq.view = (List.range (n + 1)).map fun i =>
      expectedView t.endian assocId opt (attemptCapacity initialCapacity i)

/-- An attempt that has no result leads to the invariant for the next one. -/
theorem QueryInv.next {query : AddrsQuery} {log : List AddrsReq}
    (h : QueryInv t assocId opt initialCapacity answers query log)
    (h32 : attemptCapacity initialCapacity log.length < 2 ^ 32)
    (hresult : attemptResult t.endian (attemptCapacity initialCapacity log.length)
      (answers log.length) = none) :
    QueryInv t assocId opt initialCapacity answers
      (queryFor t.endian assocId
        (min (attemptCapacity initialCapacity log.length * 2) maxCapacity))
      (log ++ [(addrsLoop t assocId opt).request query]) := by
  have hlt := capacity_lt_of_attemptResult hresult
  refine ⟨?_, ?_, ?_⟩
  · rw [List.length_append, List.length_singleton, attemptCapacity_succ hlt]
  · intro i hi
    rw [List.length_append, List.length_singleton] at hi
    obtain hi | rfl := Nat.lt_succ_iff_lt_or_eq.mp hi
    · exact h.repeated i hi
    · exact hresult
  · rw [h.asked_append h32, List.length_append, List.length_singleton]

/-- The capacity grows towards the bound until an attempt has a result. -/
theorem QueryInv.stepOk (h32 : ∀ i, attemptCapacity initialCapacity i < 2 ^ 32)
    (query : AddrsQuery) (log : List AddrsReq)
    (h : QueryInv t assocId opt initialCapacity answers query log) :
    Program.StepOk (addrsLoop t assocId opt) (addrsServer t.endian answers)
      (QueryInv t assocId opt initialCapacity answers) (fun query _ => maxCapacity - query.capacity)
      (QueryPost t assocId opt initialCapacity answers) query log := by
  have hattempt := attempt_step t assocId opt (answers log.length)
    (le_attemptCapacity initialCapacity log.length) (h32 log.length)
  rw [← h.state] at hattempt
  simp only [Program.StepOk, addrsServer, hattempt]
  cases hresult : attemptResult t.endian (attemptCapacity initialCapacity log.length)
      (answers log.length) with
  | some r => exact ⟨log.length, r, ⟨h.repeated, hresult⟩, rfl, h.asked_append (h32 log.length)⟩
  | none =>
    have hlt := capacity_lt_of_attemptResult hresult
    have h8 := le_attemptCapacity initialCapacity log.length
    refine ⟨h.next (h32 log.length) hresult, ?_⟩
    rw [h.state]
    simp only [queryFor]
    omega

/-- A query whose capacity can be allocated, and told to the kernel, stops. -/
theorem queryPost_of_capacity (assocId : AssocId) (opt : Int32) (h32 : initialCapacity < 2 ^ 32)
    (hmax : initialCapacity ≤ t.ptr.isizeMax) :
    ∃ r log, GetaddrsWithCapacity t assocId opt initialCapacity (addrsServer t.endian answers) []
        r log ∧
      QueryPost t assocId opt initialCapacity answers r log := by
  have hbound : ∀ i, attemptCapacity initialCapacity i < 2 ^ 32 := by
    intro i
    have hle := attemptCapacity_le initialCapacity i
    have hlimit : maxCapacity < 2 ^ 32 := by decide
    omega
  have h8max : 8 ≤ t.ptr.isizeMax := by cases t.ptr <;> decide
  have hstart : newQuery t assocId (max initialCapacity 8) =
      .ok (queryFor t.endian assocId (attemptCapacity initialCapacity 0)) := by
    rw [attemptCapacity_zero]
    exact newQuery_eq (le_max_right _ _) (max_le hmax h8max)
  obtain ⟨r, log, hret, hpost⟩ :=
    Program.returns_of_variant (QueryInv.stepOk hbound)
      (s := queryFor t.endian assocId (attemptCapacity initialCapacity 0)) (k := [])
      ⟨rfl, by simp, by simp⟩
  refine ⟨r, log, ?_, hpost⟩
  rw [GetaddrsWithCapacity, hstart]
  exact hret

/-- A query has one outcome. -/
theorem GetaddrsWithCapacity.unique {K : Type} {serve : Server K AddrsReq (Except Errno Bytes)}
    {k k₁ k₂ : K} {r₁ r₂ : Res (List SocketAddr)}
    (h₁ : GetaddrsWithCapacity t assocId opt initialCapacity serve k r₁ k₁)
    (h₂ : GetaddrsWithCapacity t assocId opt initialCapacity serve k r₂ k₂) : r₁ = r₂ := by
  unfold GetaddrsWithCapacity at h₁ h₂
  cases hquery : newQuery t assocId (max initialCapacity 8) with
  | ok query =>
    rw [hquery] at h₁ h₂
    exact (h₁.unique h₂).1
  | error fault =>
    rw [hquery] at h₁ h₂
    exact h₁.1.trans h₂.1.symm

/-- The list that ends the query fits into memory. -/
def ListFits (t : Target) (initialCapacity : Nat) (answers : Nat → AddrsAnswer) : Prop :=
  ∀ n list, EndsAt t.endian initialCapacity answers n (.ok list) →
    list.length * Addr.sizeOfSocketAddr ≤ t.ptr.isizeMax

theorem resultInVec_eq_self {w : PtrWidth} {r : Res (List SocketAddr)} :
    resultInVec w r = r ↔
      ∀ list, r = .ok list → list.length * Addr.sizeOfSocketAddr ≤ w.isizeMax := by
  cases r with
  | error fault => simp [resultInVec]
  | ok list =>
    by_cases hfits : list.length * Addr.sizeOfSocketAddr ≤ w.isizeMax
    · simp [resultInVec, inVec, hfits]
    · simp [resultInVec, inVec, hfits, Res.panic]

theorem queryComplete_of_capacity (h32 : initialCapacity < 2 ^ 32)
    (hmax : initialCapacity ≤ t.ptr.isizeMax) (hfits : ListFits t initialCapacity answers) :
    QueryComplete t assocId opt initialCapacity answers := by
  obtain ⟨r, log, hret, n, r', hends, hr, hasked⟩ :=
    queryPost_of_capacity assocId opt h32 hmax
  have hsame : resultInVec t.ptr r' = r' := by
    rw [resultInVec_eq_self]
    rintro list rfl
    exact hfits n list hends
  rw [hr, hsame] at hret
  exact ⟨n, r', log, hends.1, hends.2, hret, hasked⟩

/-- The kernel forgets nothing it was asked. -/
theorem log_prefix_of_run {e : Endian} {n : Nat} {query : AddrsQuery} {log log' : List AddrsReq}
    {r : Res (List SocketAddr)}
    (h : (addrsLoop t assocId opt).run (addrsServer e answers) n query log = some (r, log')) :
    log ++ [(addrsLoop t assocId opt).request query] <+: log' := by
  induction n generalizing query log with
  | zero => simp [Program.run] at h
  | succ n ih =>
    rw [Program.run] at h
    split at h
    · obtain ⟨-, rfl⟩ : _ ∧ log ++ [(addrsLoop t assocId opt).request query] = log' := by
        simpa [addrsServer] using h
      exact List.prefix_rfl
    · exact (List.prefix_append _ _).trans (ih h)

/-- A first buffer that cannot be allocated, or whose size the kernel is told
    wrong, breaks the query. -/
theorem capacity_of_queryComplete (h : QueryComplete t assocId opt initialCapacity answers) :
    initialCapacity < 2 ^ 32 ∧ initialCapacity ≤ t.ptr.isizeMax := by
  obtain ⟨n, r, log, -, -, hret, hasked⟩ := h
  have hhead : (log.map AddrsReq.view).head? =
      some (expectedView t.endian assocId opt (max initialCapacity 8)) := by
    rw [hasked, List.range_succ_eq_map, List.map_cons, List.head?_cons, attemptCapacity_zero]
  by_cases hmax : max initialCapacity 8 ≤ t.ptr.isizeMax
  · rw [GetaddrsWithCapacity, newQuery_eq (le_max_right _ _) hmax] at hret
    obtain ⟨m, hrun⟩ := hret
    obtain ⟨rest, rfl⟩ := log_prefix_of_run hrun
    -- The first request is in the log, so its `optlen` was the whole capacity.
    have htold : (UInt32.ofNat (max initialCapacity 8)).toNat = max initialCapacity 8 := by
      have hview := Option.some.inj hhead
      exact congrArg (·.2.1) hview
    have hlt := (UInt32.ofNat (max initialCapacity 8)).toNat_lt
    rw [htold] at hlt
    omega
  · rw [GetaddrsWithCapacity, newQuery, if_neg hmax] at hret
    obtain ⟨-, rfl⟩ := hret
    simp at hhead

/-- A list that does not fit into memory ends the query with a panic. -/
theorem listFits_of_queryComplete (h : QueryComplete t assocId opt initialCapacity answers) :
    ListFits t initialCapacity answers := by
  obtain ⟨h32, hmax⟩ := capacity_of_queryComplete h
  obtain ⟨n, r, log, hrepeated, hresult, hret, -⟩ := h
  obtain ⟨r₁, log₁, hret₁, n₁, r', hends, hr₁, -⟩ :=
    queryPost_of_capacity assocId opt h32 hmax
  obtain ⟨rfl, rfl⟩ := EndsAt.unique ⟨hrepeated, hresult⟩ hends
  intro m list hlist
  obtain ⟨-, rfl⟩ := hends.unique hlist
  exact resultInVec_eq_self.mp (hr₁.symm.trans (hret₁.unique hret)) list rfl

/-- The query returns the complete list, after the expected attempts and whatever
    the kernel answers, exactly for an initial capacity that can be allocated and
    that a `socklen_t` can hold, and for a list that can be held in memory. -/
theorem getaddrsWithCapacity_complete_iff (t : Target) (assocId : AssocId) (opt : Int32)
    (initialCapacity : Nat) (answers : Nat → AddrsAnswer) :
    QueryComplete t assocId opt initialCapacity answers ↔
      initialCapacity < 2 ^ 32 ∧ initialCapacity ≤ t.ptr.isizeMax ∧
        ListFits t initialCapacity answers := by
  constructor
  · intro h
    obtain ⟨h32, hmax⟩ := capacity_of_queryComplete h
    exact ⟨h32, hmax, listFits_of_queryComplete h⟩
  · rintro ⟨h32, hmax, hfits⟩
    exact queryComplete_of_capacity h32 hmax hfits

/-- A capacity of 2³² + 8 bytes has room for an address, but the kernel is told
    eight bytes, and the query ends with `ENOMEM`. -/
theorem getaddrsWithCapacity_wraps_around :
    8 + (Addr.layoutList .little [.loopback 5000]).length ≤
      attemptCapacity (2 ^ 32 + 8) 0 ∧
    (∃ log, GetaddrsWithCapacity ⟨.little, .w64⟩ ⟨0⟩ 108 (2 ^ 32 + 8)
      (addrsServer .little fun _ => .addrs [.loopback 5000]) []
      (Res.err (.os Errno.enomem)) log) ∧
    ¬ QueryComplete ⟨.little, .w64⟩ ⟨0⟩ 108 (2 ^ 32 + 8)
      fun _ => .addrs [.loopback 5000] := by
  refine ⟨by rw [attemptCapacity_zero]; decide, ?_, ?_⟩
  · refine ⟨[(addrsLoop ⟨.little, .w64⟩ ⟨0⟩ 108).request
      (queryFor .little ⟨0⟩ (max (2 ^ 32 + 8) 8))], ?_⟩
    rw [GetaddrsWithCapacity, newQuery_eq (by decide) (by decide)]
    exact .of_done rfl
  · intro h
    have hlt := (capacity_of_queryComplete h).1
    omega

end Socket

end Lksctp
