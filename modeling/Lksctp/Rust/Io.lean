-- SUMMARY: Code that makes system calls, as a state-and-exception monad, with weakest preconditions and resources that are dropped on a fault.
import Lksctp.Rust.Result
import Lksctp.Machine.Program

/-!
# Code that makes system calls

`Io K` is Rust code running against an environment whose states are `K`. The `?`
operator is its bind. A value with a destructor that is alive when a function ends
by an error or a panic is dropped there, which `dropOnFault` says of one resource.

The environment is a `Server`, and what is proved about code is proved by `wp`: the
rules below follow the structure of the code, one request at a time.
-/

namespace Rust

open Machine

abbrev Io (K α : Type) := ExceptT Fault (StateM K) α

namespace Io

variable {K Req Resp α β : Type}

def exec (m : Io K α) (k : K) : Res α × K := StateT.run (ExceptT.run m) k

/-- Code that is given as a function of the environment. -/
def of (f : K → Res α × K) : Io K α := ExceptT.mk f

/-- One request. -/
def call (serve : Server K Req Resp) (req : Req) : Io K Resp :=
  of fun k => (.ok (serve k req).1, (serve k req).2)

/-- A computation that makes no request. -/
def lift (r : Res α) : Io K α := of fun k => (r, k)

def err (e : IoError) : Io K α := lift (Res.err e)

/-- `m`, with a destructor that runs unless `m` succeeds. -/
def dropOnFault (drop : K → K) (m : Io K α) : Io K α :=
  of fun k =>
    match m.exec k with
    | (.ok a, k) => (.ok a, k)
    | (.error fault, k) => (.error fault, drop k)

@[simp] theorem exec_of (f : K → Res α × K) (k : K) : (of f).exec k = f k := rfl

@[simp] theorem exec_lift (r : Res α) (k : K) : (lift r : Io K α).exec k = (r, k) := rfl

@[simp] theorem exec_call (serve : Server K Req Resp) (req : Req) (k : K) :
    (call serve req).exec k = (.ok (serve k req).1, (serve k req).2) := rfl

theorem exec_bind (m : Io K α) (f : α → Io K β) (k : K) :
    (m >>= f).exec k =
      match m.exec k with
      | (.ok a, k) => (f a).exec k
      | (.error fault, k) => (.error fault, k) := by
  change StateT.run (StateT.bind (ExceptT.run m) (ExceptT.bindCont f)) k = _
  unfold exec
  rcases hm : StateT.run (ExceptT.run m) k with ⟨r, k'⟩
  have hm' : ExceptT.run m k = (r, k') := hm
  cases r with
  | ok a => simp only [StateT.run, StateT.bind, hm']; rfl
  | error fault => simp only [StateT.run, StateT.bind, hm']; rfl

/-! ## Weakest preconditions -/

/-- Run in `k`, the code ends with a result and an environment that meet `Q`. -/
def wp (m : Io K α) (Q : Res α → K → Prop) (k : K) : Prop := Q (m.exec k).1 (m.exec k).2

variable {m : Io K α} {P Q : Res α → K → Prop} {k : K}

theorem wp.mono (h : wp m P k) (hpq : ∀ r k, P r k → Q r k) : wp m Q k := hpq _ _ h

theorem wp.lift {r : Res α} (h : Q r k) : wp (Io.lift r) Q k := h

theorem wp.call {serve : Server K Req Resp} {req : Req} {Q : Res Resp → K → Prop}
    (h : Q (.ok (serve k req).1) (serve k req).2) : wp (Io.call serve req) Q k := h

/-- The rest of the code runs where the first part has succeeded. -/
theorem wp.bind {f : α → Io K β} {Q : Res β → K → Prop} (h : wp m P k)
    (hok : ∀ a k, P (.ok a) k → wp (f a) Q k)
    (herr : ∀ fault k, P (.error fault) k → Q (.error fault) k) : wp (m >>= f) Q k := by
  unfold wp at h ⊢
  rw [exec_bind]
  rcases hm : m.exec k with ⟨r, k'⟩
  rw [hm] at h
  cases r with
  | ok a => exact hok a k' h
  | error fault => exact herr fault k' h

theorem wp.dropOnFault {drop : K → K} (h : wp m P k) (hok : ∀ a k, P (.ok a) k → Q (.ok a) k)
    (herr : ∀ fault k, P (.error fault) k → Q (.error fault) (drop k)) :
    wp (Io.dropOnFault drop m) Q k := by
  unfold wp at h ⊢
  rw [Io.dropOnFault, exec_of]
  rcases hm : m.exec k with ⟨r, k'⟩
  rw [hm] at h
  cases r with
  | ok a => exact hok a k' h
  | error fault => exact herr fault k' h

end Io

end Rust
