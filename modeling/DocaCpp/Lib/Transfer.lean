/-
# Transfers whose items move one at a time

A copy of one list to the front of another is not made at once: its items move one by one, in any
order and any number of times.  `Transfer` says how far it has come.  Once every item has moved it
is the copy that was asked for (`Transfer.complete`); where it is broken off, each place has its old
item or the one that was to come there (`Transfer.mixed`).
-/
import Mathlib.Data.Finset.Insert

namespace DocaCpp

variable {α : Type*}

/-- The target with the source in front. -/
def overlay (source target : List α) : List α := source ++ target.drop source.length

/-- Every place has its old item or the one that was to come there. -/
def Mixed (source target now : List α) : Prop :=
  now.length = target.length ∧ ∀ k < target.length, now[k]? = target[k]? ∨ now[k]? = source[k]?

instance [DecidableEq α] (source target now : List α) : Decidable (Mixed source target now) :=
  inferInstanceAs (Decidable (_ ∧ _))

/-- How far a transfer has come. -/
structure Transfer (source target : List α) (moved : Finset ℕ) (now : List α) : Prop where
  length : now.length = target.length
  fits : ∀ k ∈ moved, k < source.length ∧ k < target.length
  item : ∀ k < target.length, now[k]? = if k ∈ moved then source[k]? else target[k]?

namespace Transfer

variable {source target now : List α} {moved : Finset ℕ} {k : ℕ} {item : α}

theorem start : Transfer source target ∅ target where
  length := rfl
  fits := fun k hk => absurd hk (Finset.notMem_empty k)
  item := fun k _ => (if_neg (Finset.notMem_empty k)).symm

/-- One more item. -/
theorem move (h : Transfer source target moved now) (hs : source[k]? = some item)
    (ht : k < now.length) : Transfer source target (insert k moved) (now.set k item) where
  length := (List.length_set ..).trans h.length
  fits := by
    intro j hj
    rcases Finset.mem_insert.mp hj with rfl | hj
    · exact ⟨(List.getElem?_eq_some_iff.mp hs).1, h.length ▸ ht⟩
    · exact h.fits j hj
  item := by
    intro j hj
    by_cases hjk : j = k
    · subst hjk
      rw [List.getElem?_set_self ht, if_pos (Finset.mem_insert_self ..), hs]
    · rw [List.getElem?_set_ne (Ne.symm hjk), h.item j hj]
      simp only [Finset.mem_insert, hjk, false_or]

/-- **A transfer that is broken off** leaves a mixture. -/
theorem mixed (h : Transfer source target moved now) : Mixed source target now := by
  refine ⟨h.length, fun k hk => ?_⟩
  rw [h.item k hk]
  split
  · exact .inr rfl
  · exact .inl rfl

/-- What has moved completely had room. -/
theorem room (h : Transfer source target moved now) (hall : ∀ k < source.length, k ∈ moved) :
    source.length ≤ target.length := by
  by_contra hlt
  exact Nat.lt_irrefl _ (h.fits _ (hall _ (Nat.not_le.mp hlt))).2

/-- **A transfer that is over** is the copy. -/
theorem complete (h : Transfer source target moved now) (hall : ∀ k < source.length, k ∈ moved) :
    now = overlay source target := by
  have hroom := h.room hall
  refine List.ext_getElem? fun k => ?_
  by_cases hk : k < target.length
  · rw [h.item k hk, overlay]
    by_cases hks : k < source.length
    · rw [if_pos (hall k hks), List.getElem?_append_left hks]
    · have hnot : k ∉ moved := fun hm => hks (h.fits k hm).1
      rw [if_neg hnot, List.getElem?_append_right (Nat.not_lt.mp hks), List.getElem?_drop,
        Nat.add_sub_cancel' (Nat.not_lt.mp hks)]
  · have hlength : (overlay source target).length = target.length := by
      rw [overlay, List.length_append, List.length_drop, Nat.add_sub_cancel' hroom]
    rw [List.getElem?_eq_none (h.length ▸ Nat.not_lt.mp hk),
      List.getElem?_eq_none (hlength ▸ Nat.not_lt.mp hk)]

end Transfer

end DocaCpp
