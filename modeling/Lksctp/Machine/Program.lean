-- SUMMARY: Programs that interact with an environment by requests and responses, their runs, and a total-correctness rule.
import Mathlib.Tactic.Common

/-!
# Programs as request-response machines

A program that does system calls is a state machine: in each state it makes one
request, and the response moves it to another state or ends it with a result.
Splitting a program at its requests is what lets other programs, or the
environment, act in between.

`Program.Returns` is the run of a program that nothing interrupts.
-/

namespace Machine

/-- What a program does with a response: go on in another state, or stop. -/
inductive Step (S R : Type) where
  | next (s : S)
  | done (r : R)
  deriving DecidableEq, Repr

/-- The same step of a program around this one: its states and results are the
    images of these. -/
def Step.map {S R S' R' : Type} (f : S → S') (g : R → R') : Step S R → Step S' R'
  | .next s => .next (f s)
  | .done r => .done (g r)

structure Program (Req Resp S R : Type) where
  request : S → Req
  resume : S → Resp → Step S R

/-- An environment that answers one request at a time. -/
abbrev Server (K Req Resp : Type) := K → Req → Resp × K

/-- The same environment, with a list of the requests it got. -/
def Server.logged {K Req Resp : Type} (serve : Server K Req Resp) : Server (K × List Req) Req Resp :=
  fun k req => ((serve k.1 req).1, (serve k.1 req).2, k.2 ++ [req])

/-- The same environment, with a list of the requests it got and how it responded to them. -/
def Server.recorded {K Req Resp : Type} (serve : Server K Req Resp) :
    Server (K × List (Req × Resp)) Req Resp :=
  fun k req => ((serve k.1 req).1, (serve k.1 req).2, k.2 ++ [(req, (serve k.1 req).1)])

namespace Program

variable {Req Resp S R K : Type}

/-- Run for at most `n` requests; `none` when the program has not stopped by then. -/
def run (p : Program Req Resp S R) (serve : Server K Req Resp) : Nat → S → K → Option (R × K)
  | 0, _, _ => none
  | n + 1, s, k =>
    match p.resume s (serve k (p.request s)).1 with
    | .done r => some (r, (serve k (p.request s)).2)
    | .next s' => p.run serve n s' (serve k (p.request s)).2

/-- Started in `s` against the environment `k`, the program stops with `r` and
    leaves the environment in `k'`. -/
def Returns (p : Program Req Resp S R) (serve : Server K Req Resp) (s : S) (k : K) (r : R)
    (k' : K) : Prop :=
  ∃ n, p.run serve n s k = some (r, k')

variable {p : Program Req Resp S R} {serve : Server K Req Resp}

theorem Returns.of_done {s : S} {k : K} {r : R}
    (h : p.resume s (serve k (p.request s)).1 = .done r) :
    p.Returns serve s k r (serve k (p.request s)).2 :=
  ⟨1, by simp [run, h]⟩

theorem Returns.of_next {s s' : S} {k k' : K} {r : R}
    (h : p.resume s (serve k (p.request s)).1 = .next s')
    (hr : p.Returns serve s' (serve k (p.request s)).2 r k') : p.Returns serve s k r k' := by
  obtain ⟨n, hn⟩ := hr
  exact ⟨n + 1, by simp [run, h, hn]⟩

/-- A program that runs another one as its last part returns what it makes of the
    other's result. -/
theorem Returns.embed {S' R' : Type} {q : Program Req Resp S' R'} {f : S → S'} {g : R → R'}
    (hreq : ∀ s, q.request (f s) = p.request s)
    (hres : ∀ s resp, q.resume (f s) resp = (p.resume s resp).map f g)
    {s : S} {k k' : K} {r : R} (h : p.Returns serve s k r k') :
    q.Returns serve (f s) k (g r) k' := by
  obtain ⟨n, hn⟩ := h
  induction n generalizing s k with
  | zero => cases hn
  | succ n ih =>
    rw [run] at hn
    cases hstep : p.resume s (serve k (p.request s)).1 with
    | done r' =>
      have hdone : q.resume (f s) (serve k (q.request (f s))).1 = .done (g r') := by
        rw [hres, hreq, hstep]
        rfl
      obtain ⟨rfl, rfl⟩ : r' = r ∧ (serve k (p.request s)).2 = k' := by simpa [hstep] using hn
      rw [← hreq]
      exact .of_done hdone
    | next s' =>
      have hnext : q.resume (f s) (serve k (q.request (f s))).1 = .next (f s') := by
        rw [hres, hreq, hstep]
        rfl
      simp only [hstep] at hn
      refine .of_next hnext ?_
      rw [hreq]
      exact ih hn

theorem run_mono {n m : Nat} {s : S} {k : K} {o : R × K} (hnm : n ≤ m)
    (h : p.run serve n s k = some o) : p.run serve m s k = some o := by
  induction n generalizing m s k with
  | zero => simp [run] at h
  | succ n ih =>
    obtain ⟨m, rfl⟩ : ∃ m', m = m' + 1 := ⟨m - 1, by omega⟩
    simp only [run] at h ⊢
    cases hstep : p.resume s (serve k (p.request s)).1 with
    | done r => simpa [hstep] using h
    | next s' =>
      simp only [hstep] at h
      exact ih (by omega) h

/-- The environment answers by a function, so a run has one outcome. -/
theorem Returns.unique {s : S} {k k₁ k₂ : K} {r₁ r₂ : R} (h₁ : p.Returns serve s k r₁ k₁)
    (h₂ : p.Returns serve s k r₂ k₂) : r₁ = r₂ ∧ k₁ = k₂ := by
  obtain ⟨n, hn⟩ := h₁
  obtain ⟨m, hm⟩ := h₂
  have hn' := run_mono (Nat.le_max_left n m) hn
  rw [run_mono (Nat.le_max_right n m) hm] at hn'
  simpa [eq_comm] using hn'

/-! ## Between the requests -/

/-- The state after `n` requests, unless the program has stopped by then. -/
def after (p : Program Req Resp S R) (serve : Server K Req Resp) : Nat → S → K → Option (S × K)
  | 0, s, k => some (s, k)
  | n + 1, s, k =>
    match p.resume s (serve k (p.request s)).1 with
    | .done _ => none
    | .next s' => p.after serve n s' (serve k (p.request s)).2

theorem after_succ_eq_some {n : Nat} {s : S} {k : K} {o : S × K} :
    p.after serve (n + 1) s k = some o ↔
      ∃ s', p.resume s (serve k (p.request s)).1 = .next s' ∧
        p.after serve n s' (serve k (p.request s)).2 = some o := by
  rw [after]
  cases p.resume s (serve k (p.request s)).1 with
  | done r => simp
  | next s' => simp

/-- A program that is still running has not returned. -/
theorem run_eq_none_of_after {n : Nat} {s : S} {k : K} {o : S × K}
    (h : p.after serve n s k = some o) : p.run serve n s k = none := by
  induction n generalizing s k with
  | zero => rfl
  | succ n ih =>
    obtain ⟨s', hstep, hrest⟩ := after_succ_eq_some.mp h
    simp only [run, hstep]
    exact ih hrest

theorem after_next {n : Nat} {s s₁ s₂ : S} {k k₁ : K} (h : p.after serve n s k = some (s₁, k₁))
    (hstep : p.resume s₁ (serve k₁ (p.request s₁)).1 = .next s₂) :
    p.after serve (n + 1) s k = some (s₂, (serve k₁ (p.request s₁)).2) := by
  induction n generalizing s k with
  | zero =>
    cases h
    exact after_succ_eq_some.mpr ⟨s₂, hstep, rfl⟩
  | succ n ih =>
    obtain ⟨s', hfirst, hrest⟩ := after_succ_eq_some.mp h
    exact after_succ_eq_some.mpr ⟨s', hfirst, ih hrest⟩

theorem Returns.of_after {n : Nat} {s s₁ : S} {k k₁ : K} {r : R}
    (h : p.after serve n s k = some (s₁, k₁))
    (hdone : p.resume s₁ (serve k₁ (p.request s₁)).1 = .done r) :
    p.Returns serve s k r (serve k₁ (p.request s₁)).2 := by
  induction n generalizing s k with
  | zero =>
    cases h
    exact .of_done hdone
  | succ n ih =>
    obtain ⟨s', hfirst, hrest⟩ := after_succ_eq_some.mp h
    exact .of_next hfirst (ih hrest)

/-- A program that has returned was in a last state before. -/
theorem Returns.last {s : S} {k k' : K} {r : R} (h : p.Returns serve s k r k') :
    ∃ n s₁ k₁, p.after serve n s k = some (s₁, k₁) ∧
      p.resume s₁ (serve k₁ (p.request s₁)).1 = .done r ∧ (serve k₁ (p.request s₁)).2 = k' := by
  obtain ⟨n, hn⟩ := h
  induction n generalizing s k with
  | zero => cases hn
  | succ n ih =>
    rw [run] at hn
    cases hstep : p.resume s (serve k (p.request s)).1 with
    | done r' =>
      obtain ⟨rfl, hk⟩ : r' = r ∧ (serve k (p.request s)).2 = k' := by simpa [hstep] using hn
      exact ⟨0, s, k, rfl, hstep, hk⟩
    | next s' =>
      simp only [hstep] at hn
      obtain ⟨m, s₁, k₁, hafter, hdone, hk⟩ := ih hn
      exact ⟨m + 1, s₁, k₁, after_succ_eq_some.mpr ⟨s', hstep, hafter⟩, hdone, hk⟩

/-- What holds at the start and is kept by every request holds between them. -/
theorem after_invariant {I : S → K → Prop}
    (hstep : ∀ s k s', I s k → p.resume s (serve k (p.request s)).1 = .next s' →
      I s' (serve k (p.request s)).2)
    {n : Nat} {s s₁ : S} {k k₁ : K} (h : I s k) (hafter : p.after serve n s k = some (s₁, k₁)) :
    I s₁ k₁ := by
  induction n generalizing s k with
  | zero =>
    cases hafter
    exact h
  | succ n ih =>
    obtain ⟨s', hfirst, hrest⟩ := after_succ_eq_some.mp hafter
    exact ih (hstep s k s' h hfirst) hrest

/-! ## Total correctness -/

/-- What one step must do for the rule below: keep the invariant and decrease
    the variant, or stop with a result that meets the postcondition. -/
def StepOk (p : Program Req Resp S R) (serve : Server K Req Resp) (I : S → K → Prop)
    (variant : S → K → Nat) (Q : R → K → Prop) (s : S) (k : K) : Prop :=
  match p.resume s (serve k (p.request s)).1 with
  | .done r => Q r (serve k (p.request s)).2
  | .next s' =>
    I s' (serve k (p.request s)).2 ∧ variant s' (serve k (p.request s)).2 < variant s k

/-- Total correctness from an invariant and a variant. -/
theorem returns_of_variant {I : S → K → Prop} {variant : S → K → Nat} {Q : R → K → Prop}
    (hstep : ∀ s k, I s k → StepOk p serve I variant Q s k) {s : S} {k : K} (h : I s k) :
    ∃ r k', p.Returns serve s k r k' ∧ Q r k' := by
  induction hn : variant s k using Nat.strongRecOn generalizing s k with
  | _ n ih =>
    have hs := hstep s k h
    unfold StepOk at hs
    cases hres : p.resume s (serve k (p.request s)).1 with
    | done r =>
      simp only [hres] at hs
      exact ⟨r, _, .of_done hres, hs⟩
    | next s' =>
      simp only [hres] at hs
      obtain ⟨r, k', hr, hq⟩ := ih _ (hn ▸ hs.2) hs.1 rfl
      exact ⟨r, k', .of_next hres hr, hq⟩

end Program

end Machine
