-- SUMMARY: Readers of a buffer that need a fixed number of bytes: when they fail, and what they return on a longer buffer.
import Lksctp.Rust.Slice

/-!
# Readers with a fixed demand

A reader at fixed offsets fails on a buffer that is too short, in a known way,
and succeeds on every other, and more bytes behind those it needs do not change
what it has read. `Accepts` says all of this at once, so that the demand of a
reader built with `bind` is the larger of the demands of its parts.

The result may still depend on the whole buffer, for a reader that also keeps the
tail. Then the two results are not equal but related.
-/

namespace Rust

variable {α β γ : Type} {n m : Nat}

/-- `f` fails with a fault of `F` on buffers of fewer than `n` elements and succeeds on
    all others, and then `f'` succeeds on every extension of the buffer, with a related
    result. -/
def Accepts (n : Nat) (F : Fault → Prop) (R : β → β → Prop) (f f' : List α → Res β) : Prop :=
  ∀ b : List α,
    (b.length < n → ∃ fault, f b = .error fault ∧ F fault) ∧
    (n ≤ b.length → ∃ r, f b = .ok r ∧ ∀ s, ∃ r', f' (b ++ s) = .ok r' ∧ R r r')

namespace Accepts

variable {F : Fault → Prop} {R : β → β → Prop} {Q : γ → γ → Prop}

theorem of_eq {f f' : List α → Res β} (h : Accepts n F R f f') (hnm : n = m) : Accepts m F R f f' :=
  hnm ▸ h

theorem error_iff {f f' : List α → Res β} (h : Accepts n F R f f') (b : List α) :
    (∃ fault, f b = .error fault) ↔ b.length < n := by
  constructor
  · rintro ⟨fault, hfault⟩
    by_contra hlong
    obtain ⟨r, hr, -⟩ := (h b).2 (not_lt.mp hlong)
    rw [hr] at hfault
    cases hfault
  · intro hlt
    obtain ⟨fault, hfault, -⟩ := (h b).1 hlt
    exact ⟨fault, hfault⟩

theorem fault_of_error {f f' : List α → Res β} (h : Accepts n F R f f') {b : List α} {fault : Fault}
    (hfault : f b = .error fault) : F fault := by
  obtain ⟨fault', hfault', hF⟩ := (h b).1 ((h.error_iff b).mp ⟨fault, hfault⟩)
  rw [hfault'] at hfault
  cases hfault
  exact hF

theorem append {f f' : List α → Res β} (h : Accepts n F R f f') {b : List α} {r : β}
    (hr : f b = .ok r) (s : List α) : ∃ r', f' (b ++ s) = .ok r' ∧ R r r' := by
  have hlong : n ≤ b.length := by
    by_contra hshort
    obtain ⟨fault, hfault⟩ := (h.error_iff b).mpr (not_le.mp hshort)
    rw [hr] at hfault
    cases hfault
  obtain ⟨r₁, hr₁, hext⟩ := (h b).2 hlong
  obtain rfl : r₁ = r := Except.ok.inj (hr₁.symm.trans hr)
  exact hext s

/-- A result that needs no bytes. -/
theorem pure {r r' : List α → β} (h : ∀ b s, R (r b) (r' (b ++ s))) :
    Accepts 0 F R (fun b => .ok (r b)) (fun b => .ok (r' b)) := by
  intro b
  refine ⟨fun hlt => absurd hlt (Nat.not_lt_zero _), fun _ => ⟨r b, rfl, ?_⟩⟩
  intro s
  exact ⟨r' (b ++ s), rfl, h b s⟩

/-- The demand of two reads, the second depending on what the first returned. -/
theorem bind {f f' : List α → Res β} {g g' : β → List α → Res γ} (hf : Accepts n F R f f')
    (hg : ∀ r r', R r r' → Accepts m F Q (g r) (g' r')) :
    Accepts (max n m) F Q (fun b => f b >>= fun r => g r b) (fun b => f' b >>= fun r => g' r b) := by
  intro b
  obtain ⟨hshort, hlong⟩ := hf b
  by_cases hn : b.length < n
  · obtain ⟨fault, hfault, hF⟩ := hshort hn
    refine ⟨fun _ => ⟨fault, by simp [hfault], hF⟩, fun hle => ?_⟩
    exact absurd ((le_max_left n m).trans hle) (not_le.mpr hn)
  · obtain ⟨r, hr, hext⟩ := hlong (not_lt.mp hn)
    -- The relation is not reflexive, so the first result is related to one on an extension.
    obtain ⟨r₀, -, hr₀⟩ := hext []
    constructor
    · intro hlt
      have hm : b.length < m := (lt_max_iff.mp hlt).resolve_left hn
      obtain ⟨fault, hfault, hF⟩ := (hg r r₀ hr₀ b).1 hm
      exact ⟨fault, by simp [hr, hfault], hF⟩
    · intro hle
      have hm : m ≤ b.length := (le_max_right n m).trans hle
      obtain ⟨c, hc, -⟩ := (hg r r₀ hr₀ b).2 hm
      refine ⟨c, by simp [hr, hc], ?_⟩
      intro s
      obtain ⟨r', hr', hrel⟩ := hext s
      obtain ⟨c₁, hc₁, hext₁⟩ := (hg r r' hrel b).2 hm
      obtain rfl : c₁ = c := Except.ok.inj (hc₁.symm.trans hc)
      obtain ⟨c', hc', hq⟩ := hext₁ s
      exact ⟨c', by simp [hr', hc'], hq⟩

/-- A read whose result is the same on every extension. -/
theorem bind_eq {f : List α → Res β} {g g' : β → List α → Res γ} (hf : Accepts n F Eq f f)
    (hg : ∀ r, Accepts m F Q (g r) (g' r)) :
    Accepts (max n m) F Q (fun b => f b >>= fun r => g r b) (fun b => f b >>= fun r => g' r b) :=
  hf.bind fun r _ hr => hr ▸ hg r

/-- A range of the buffer, with an error when it is not there. -/
theorem getRange {a b : Nat} (hab : a ≤ b) (r : List α → β) {e : IoError} (hF : F (.err e)) :
    Accepts b F Eq (fun buf => Res.okOr ((Rust.getRange buf a b).map r) e)
      (fun buf => Res.okOr ((Rust.getRange buf a b).map r) e) := by
  intro buf
  constructor
  · intro hlt
    refine ⟨.err e, ?_, hF⟩
    simp only [getRange_eq_none hlt, Option.map_none]
    rfl
  · intro hle
    refine ⟨r ((buf.drop a).take (b - a)), by simp [getRange_eq_some hab hle], ?_⟩
    intro s
    exact ⟨_, by simp only [getRange_append hab hle s, getRange_eq_some hab hle]; rfl, rfl⟩

end Accepts

end Rust
