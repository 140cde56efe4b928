-- SUMMARY: Relays: items that are handed on once each, and in order within their class.
import Mathlib.Data.List.Perm.Basic

/-!
# Relays

Items travel from a sender to a receiver. None is lost or repeated. Some may overtake
others, but the ordered items of one class stay in order among themselves.

`sent` is what has been sent so far, and `handed` the same items in the order in which
they are on their way, those that have arrived first.
-/

namespace Machine

variable {α β : Type} [DecidableEq β] {cls : α → β} {ordered : α → Prop}

/-- Nothing is promised for a class in which something is not ordered. -/
structure Relayed (cls : α → β) (ordered : α → Prop) (sent handed : List α) : Prop where
  perm : sent.Perm handed
  classes : ∀ c, (∀ a ∈ sent, cls a = c → ordered a) →
    handed.filter (cls · = c) = sent.filter (cls · = c)

/-- What an item may leave behind that was in front of it. -/
def MayPass (cls : α → β) (ordered : α → Prop) (a : α) (before : List α) : Prop :=
  ordered a → ∀ b ∈ before, cls b = cls a → ¬ ordered b

instance [DecidablePred ordered] (a : α) (before : List α) :
    Decidable (MayPass cls ordered a before) :=
  inferInstanceAs (Decidable (ordered a → ∀ b ∈ before, cls b = cls a → ¬ ordered b))

namespace Relayed

variable {sent done before behind : List α} {a : α}

theorem nil : Relayed cls ordered [] [] := ⟨.nil, fun _ _ => rfl⟩

theorem send {handed : List α} (h : Relayed cls ordered sent handed) (a : α) :
    Relayed cls ordered (sent ++ [a]) (handed ++ [a]) where
  perm := h.perm.append_right [a]
  classes c hc := by
    rw [List.filter_append, List.filter_append]
    rw [h.classes c fun b hb => hc b (List.mem_append_left _ hb)]

theorem overtake (h : Relayed cls ordered sent (done ++ (before ++ a :: behind)))
    (hpass : MayPass cls ordered a before) :
    Relayed cls ordered sent (done ++ a :: (before ++ behind)) where
  perm := h.perm.trans (List.Perm.append_left done List.perm_middle)
  classes c hc := by
    rw [← h.classes c hc]
    simp only [List.filter_append, List.filter_cons]
    congr 1
    by_cases ha : cls a = c
    · have hsent : ∀ b ∈ done ++ (before ++ a :: behind), cls b = c → ordered b :=
        fun b hb => hc b (h.perm.mem_iff.mpr hb)
      have horder : ordered a := hsent a (by simp) ha
      -- What the item has passed is of another class.
      have hnone : before.filter (cls · = c) = [] := by
        rw [List.filter_eq_nil_iff]
        intro b hb hbc
        have hbc : cls b = c := of_decide_eq_true hbc
        exact hpass horder b hb (hbc.trans ha.symm) (hsent b (by simp [hb]) hbc)
      rw [hnone]
      rfl
    · simp [ha]

end Relayed

end Machine
