-- SUMMARY: Code whose every run is matched by a run of a transition system, with rules that follow the structure of the code.
import Lksctp.Machine.System
import Lksctp.Rust.Io

/-!
# Code that follows a system

The same behaviour may be written as code that makes requests, or as a transition
system that others can interleave with. `Follows` says that wherever the code takes
its environment, some actions of the system take its state. As the actions of two
pieces of code come one after the other, it can be proved piece by piece.
-/

namespace Machine

open Rust

variable {σ A K α β : Type}

namespace System

variable {S : System σ A}

theorem run_append {s s' s'' : σ} {as as' : List A} (h : S.run s as = some s')
    (h' : S.run s' as' = some s'') : S.run s (as ++ as') = some s'' := by
  induction as generalizing s with
  | nil =>
    obtain rfl : s = s' := by simpa using h
    exact h'
  | cons a as ih =>
    obtain ⟨m, hm, hrest⟩ := run_cons_eq_some.mp h
    exact run_cons_eq_some.mpr ⟨m, hm, ih hrest⟩

end System

/-- From a state and an environment that meet `P`, actions with `ok` lead to a state that meets
    `Q` with what the code returns and the environment it leaves. -/
def Follows (S : System σ A) (ok : A → Prop) (m : Io K α) (P : σ → K → Prop)
    (Q : Res α → σ → K → Prop) : Prop :=
  ∀ s k, P s k → ∃ as s', (∀ a ∈ as, ok a) ∧ S.run s as = some s' ∧ Io.wp m (fun r k => Q r s' k) k

namespace Follows

variable {S : System σ A} {ok : A → Prop} {m : Io K α} {P : σ → K → Prop} {Q : Res α → σ → K → Prop}

/-- Code that the system takes no action for. -/
theorem idle (h : ∀ s k, P s k → Io.wp m (fun r k => Q r s k) k) : Follows S ok m P Q :=
  fun s k hp => ⟨[], s, nofun, rfl, h s k hp⟩

theorem pure {a : α} (h : ∀ s k, P s k → Q (.ok a) s k) : Follows S ok (Pure.pure a) P Q :=
  idle fun s k hp => .lift (h s k hp)

/-- Code that is a single action. -/
theorem action (h : ∀ s k, P s k → ∃ a s', ok a ∧ S.step s a = some s' ∧
    Io.wp m (fun r k => Q r s' k) k) : Follows S ok m P Q := by
  intro s k hp
  obtain ⟨a, s', ha, hstep, hm⟩ := h s k hp
  refine ⟨[a], s', ?_, System.run_cons_eq_some.mpr ⟨s', hstep, rfl⟩, hm⟩
  intro a' ha'
  rwa [List.mem_singleton.mp ha']

/-- One piece of code after another. -/
theorem bind {f : α → Io K β} {R : Res β → σ → K → Prop} (h : Follows S ok m P Q)
    (hok : ∀ a, Follows S ok (f a) (Q (.ok a)) R)
    (herr : ∀ fault s k, Q (.error fault) s k → R (.error fault) s k) :
    Follows S ok (m >>= f) P R := by
  intro s k hp
  obtain ⟨as, s', has, hrun, hm⟩ := h s k hp
  unfold Io.wp at hm
  simp only [Io.wp, Io.exec_bind]
  rcases hexec : m.exec k with ⟨r, k'⟩
  rw [hexec] at hm
  cases r with
  | error fault => exact ⟨as, s', has, hrun, herr fault s' k' hm⟩
  | ok a =>
    obtain ⟨as', s'', has', hrun', hf⟩ := hok a s' k' hm
    refine ⟨as ++ as', s'', ?_, System.run_append hrun hrun', hf⟩
    intro b hb
    exact (List.mem_append.mp hb).elim (has b) (has' b)

/-- A destructor at the end does not matter to an outcome that is not about the environment. -/
theorem dropOnFault {drop : K → K} (h : Follows S ok m P Q)
    (hdrop : ∀ fault s k, Q (.error fault) s k → Q (.error fault) s (drop k)) :
    Follows S ok (Io.dropOnFault drop m) P Q := by
  intro s k hp
  obtain ⟨as, s', has, hrun, hm⟩ := h s k hp
  exact ⟨as, s', has, hrun, hm.dropOnFault (fun _ _ hq => hq) fun fault k hq => hdrop fault s' k hq⟩

end Follows

end Machine
