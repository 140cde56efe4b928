-- SUMMARY: Exclusive ownership of the entries of a table: every entry has one owner, and the entry is as its owner needs it.
import Mathlib.Data.List.Nodup
import Mathlib.Logic.Function.Basic

/-!
# Ownership

A table of entries under names, and a list of owners, each with one name. The
owners account for the table when no two of them have the same name, every entry
belongs to one of them, and each finds its entry in order. Entries are then made and
removed with their owners only; an entry that is changed is removed and made anew.
-/

namespace Machine

variable {ν δ ο : Type}

structure Accounts (name : ο → ν) (Ok : ο → δ → Prop) (T : ν → Option δ) (owners : List ο) :
    Prop where
  nodup : (owners.map name).Nodup
  owned : ∀ n, T n ≠ none → ∃ o ∈ owners, name o = n
  ok : ∀ o ∈ owners, ∃ d, T (name o) = some d ∧ Ok o d

namespace Accounts

variable {name : ο → ν} {Ok Ok' : ο → δ → Prop} {T : ν → Option δ} {owners rest : List ο} {o : ο}
  {d : δ}

theorem perm {owners' : List ο} (h : Accounts name Ok T owners) (hp : owners.Perm owners') :
    Accounts name Ok T owners' where
  nodup := (hp.map name).nodup_iff.mp h.nodup
  owned n hn := by
    obtain ⟨o, ho, hname⟩ := h.owned n hn
    exact ⟨o, hp.mem_iff.mp ho, hname⟩
  ok o ho := h.ok o (hp.mem_iff.mpr ho)

/-- The same owners, each with its entry in order in another way. -/
theorem imp (h : Accounts name Ok T owners)
    (himp : ∀ o ∈ owners, ∀ d, T (name o) = some d → Ok o d → Ok' o d) :
    Accounts name Ok' T owners where
  nodup := h.nodup
  owned := h.owned
  ok o ho := by
    obtain ⟨d, hd, hok⟩ := h.ok o ho
    exact ⟨d, hd, himp o ho d hd hok⟩

/-- What an entry is missing for is not owned. -/
theorem ne_of_none (h : Accounts name Ok T owners) {n : ν} (hn : T n = none) (ho : o ∈ owners) :
    name o ≠ n := by
  intro hname
  obtain ⟨d, hd, -⟩ := h.ok o ho
  rw [hname, hn] at hd
  cases hd

/-- No other owner has the name of the first. -/
theorem ne_head (h : Accounts name Ok T (o :: rest)) {o' : ο} (ho' : o' ∈ rest) :
    name o' ≠ name o := by
  intro hname
  have hnodup := h.nodup
  rw [List.map_cons, List.nodup_cons] at hnodup
  exact hnodup.1 (hname ▸ List.mem_map_of_mem ho')

variable [DecidableEq ν]

/-- A new entry gets its owner. -/
theorem insert (h : Accounts name Ok T rest) (hfree : T (name o) = none) (hok : Ok o d) :
    Accounts name Ok (Function.update T (name o) (some d)) (o :: rest) where
  nodup := by
    rw [List.map_cons, List.nodup_cons]
    refine ⟨?_, h.nodup⟩
    intro hmem
    obtain ⟨o', ho', hname⟩ := List.mem_map.mp hmem
    exact h.ne_of_none hfree ho' hname
  owned n hn := by
    by_cases hno : n = name o
    · exact ⟨o, List.mem_cons_self, hno.symm⟩
    · rw [Function.update_of_ne hno] at hn
      obtain ⟨o', ho', hname⟩ := h.owned n hn
      exact ⟨o', List.mem_cons_of_mem o ho', hname⟩
  ok o' ho' := by
    obtain rfl | ho' := List.mem_cons.mp ho'
    · exact ⟨d, Function.update_self .., hok⟩
    · obtain ⟨d', hd', hok'⟩ := h.ok o' ho'
      exact ⟨d', (Function.update_of_ne (h.ne_of_none hfree ho') ..).trans hd', hok'⟩

/-- An entry is removed with its owner. -/
theorem remove (h : Accounts name Ok T (o :: rest)) :
    Accounts name Ok (Function.update T (name o) none) rest where
  nodup := (List.nodup_cons.mp h.nodup).2
  owned n hn := by
    by_cases hno : n = name o
    · rw [hno, Function.update_self] at hn
      exact absurd rfl hn
    · rw [Function.update_of_ne hno] at hn
      obtain ⟨o', ho', hname⟩ := h.owned n hn
      obtain rfl | ho' := List.mem_cons.mp ho'
      · exact absurd hname.symm hno
      · exact ⟨o', ho', hname⟩
  ok o' ho' := by
    obtain ⟨d, hd, hok⟩ := h.ok o' (List.mem_cons_of_mem o ho')
    exact ⟨d, (Function.update_of_ne (h.ne_head ho') ..).trans hd, hok⟩

end Accounts

end Machine
