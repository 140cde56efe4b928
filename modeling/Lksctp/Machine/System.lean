-- SUMMARY: Transition systems with labelled actions: runs, invariants, and runs whose steps all meet a condition.
import Mathlib.Tactic.Common

/-!
# Transition systems

A system with several parties is a partial step function on a joint state: an
action that is not enabled has no successor. A run is a list of actions, so that
quantifying over lists quantifies over every interleaving.
-/

namespace Machine

structure System (σ α : Type) where
  step : σ → α → Option σ

namespace System

variable {σ α : Type}

/-- The state after a list of actions, all of which must be enabled. -/
def run (S : System σ α) (s : σ) : List α → Option σ
  | [] => some s
  | a :: as => (S.step s a).bind fun s' => S.run s' as

variable {S : System σ α}

@[simp] theorem run_nil (s : σ) : S.run s [] = some s := rfl

theorem run_cons_eq_some {s s' : σ} {a : α} {as : List α} :
    S.run s (a :: as) = some s' ↔ ∃ m, S.step s a = some m ∧ S.run m as = some s' := by
  simp [run, Option.bind_eq_some_iff]

/-- What holds at the start and is kept by every step holds after every run. -/
theorem run_invariant {Inv : σ → Prop} (hstep : ∀ s a s', Inv s → S.step s a = some s' → Inv s')
    {s s' : σ} {as : List α} (h : Inv s) (hrun : S.run s as = some s') : Inv s' := by
  induction as generalizing s with
  | nil =>
    obtain rfl : s = s' := by simpa using hrun
    exact h
  | cons a as ih =>
    obtain ⟨m, hm, hrest⟩ := run_cons_eq_some.mp hrun
    exact ih (hstep s a m h hm) hrest

/-- Every step of the run meets the condition `ok` in the state before it. -/
def AllSteps (S : System σ α) (ok : σ → α → Prop) (s : σ) : List α → Prop
  | [] => True
  | a :: as => ok s a ∧ ∀ s' ∈ S.step s a, S.AllSteps ok s' as

instance decidableAllSteps (S : System σ α) (ok : σ → α → Prop) [∀ s a, Decidable (ok s a)] :
    ∀ (as : List α) (s : σ), Decidable (S.AllSteps ok s as)
  | [], _ => isTrue trivial
  | a :: as, s =>
    have := fun s' => decidableAllSteps S ok as s'
    inferInstanceAs (Decidable (ok s a ∧ ∀ s' ∈ S.step s a, S.AllSteps ok s' as))

/-- The invariant rule for runs whose steps all meet a condition. -/
theorem run_invariant_of_allSteps {Inv : σ → Prop} {ok : σ → α → Prop}
    (hstep : ∀ s a s', Inv s → ok s a → S.step s a = some s' → Inv s')
    {s s' : σ} {as : List α} (h : Inv s) (hok : S.AllSteps ok s as)
    (hrun : S.run s as = some s') : Inv s' := by
  induction as generalizing s with
  | nil =>
    obtain rfl : s = s' := by simpa using hrun
    exact h
  | cons a as ih =>
    obtain ⟨m, hm, hrest⟩ := run_cons_eq_some.mp hrun
    exact ih (hstep s a m h hok.1 hm) (hok.2 m hm) hrest

end System

end Machine
