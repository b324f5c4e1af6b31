/-
# Who owns a handle

A handle is made once, used through its owner, and destroyed.  `Accounts` says of the calls so far
that every handle that was made is owned by someone or has been destroyed, and that nobody used a
handle behind its destruction.  A use and a destruction by the owner keep the accounts, and once
nothing is owned every handle has been destroyed exactly once (`Accounts.settled`).
-/
import DocaCpp.Lib.Destruction

namespace DocaCpp

/-! ## 1. Calls on handles -/

/-- A call on a handle. -/
inductive Act (H U : Type*)
  | used (handle : H) (use : U)
  | destroyed (handle : H)
  deriving DecidableEq

section Act

variable {H U : Type*}

namespace Act

/-- The handle a call is made on. -/
def handle : Act H U → H
  | used handle _ => handle
  | destroyed handle => handle

variable [DecidableEq H]

/-- The call destroys this handle. -/
def destroys (handle : H) : Act H U → Bool
  | used _ _ => false
  | destroyed handle' => decide (handle' = handle)

theorem destroys_iff {handle : H} {act : Act H U} :
    act.destroys handle = true ↔ act = destroyed handle := by
  cases act with
  | used handle' use => simp [destroys]
  | destroyed handle' => simp [destroys]

end Act

variable {acts : List (Act H U)} {handle : H}

/-- No call on a handle is made once it has been destroyed. -/
abbrev Retired (handle : H) (acts : List (Act H U)) : Prop :=
  NeverAfter (fun act => act.handle = handle) (.destroyed handle) acts

/-- **A retired handle has been destroyed at most once.** -/
theorem Retired.countP [DecidableEq H] (h : Retired handle acts) :
    acts.countP (Act.destroys handle) = 0 ∨ acts.countP (Act.destroys handle) = 1 := by
  induction acts using List.reverseRecOn with
  | nil => exact .inl rfl
  | append_singleton acts act ih =>
    obtain ⟨hacts, hact⟩ := atEvery_concat.mp h
    rw [List.countP_append, List.countP_singleton]
    by_cases hd : act.destroys handle = true
    · obtain rfl := Act.destroys_iff.mp hd
      have hnone : acts.countP (Act.destroys handle) = 0 := by
        rw [List.countP_eq_zero]
        intro act' hmem hd'
        obtain rfl := Act.destroys_iff.mp hd'
        exact hact rfl hmem
      rw [hnone, if_pos hd]
      exact .inr rfl
    · rw [if_neg hd]
      exact ih hacts

end Act

/-! ## 2. The accounts -/

/-- **The accounts of the handles that were made**, between their owners and the calls so far. -/
structure Accounts {H U : Type*} (made owned : List H) (acts : List (Act H U)) : Prop where
  /-- a handle has one owner -/
  nodup : owned.Nodup
  /-- what is owned was made and is not destroyed -/
  sound : ∀ handle ∈ owned, handle ∈ made ∧ .destroyed handle ∉ acts
  /-- what was made is owned or destroyed -/
  complete : ∀ handle ∈ made, handle ∈ owned ∨ .destroyed handle ∈ acts
  /-- only what was made is called -/
  known : ∀ act ∈ acts, act.handle ∈ made
  /-- nothing is called behind its destruction -/
  retired : ∀ handle, Retired handle acts

namespace Accounts

variable {H U : Type*} {made owned : List H} {acts : List (Act H U)} {handle : H}

theorem start (h : made.Nodup) : Accounts made made ([] : List (Act H U)) where
  nodup := h
  sound _ hh := ⟨hh, List.not_mem_nil⟩
  complete _ hh := .inl hh
  known _ hact := absurd hact List.not_mem_nil
  retired _ := atEvery_nil

/-- **The owner uses its handle.** -/
theorem used (h : Accounts made owned acts) (howned : handle ∈ owned) (use : U) :
    Accounts made owned (acts ++ [.used handle use]) where
  nodup := h.nodup
  sound handle' hh := by
    refine ⟨(h.sound handle' hh).1, fun hmem => ?_⟩
    rcases List.mem_append.mp hmem with hmem | hmem
    · exact (h.sound handle' hh).2 hmem
    · cases List.mem_singleton.mp hmem
  complete handle' hh := (h.complete handle' hh).imp id (List.mem_append_left _)
  known act hact := by
    rcases List.mem_append.mp hact with hact | hact
    · exact h.known act hact
    · rw [List.mem_singleton.mp hact]
      exact (h.sound handle howned).1
  retired handle' := by
    refine atEvery_concat.mpr ⟨h.retired handle', ?_⟩
    rintro rfl
    exact (h.sound handle howned).2

/-- **The owner destroys its handle** and owns it no more. -/
theorem destroyed (h : Accounts made (handle :: owned) acts) :
    Accounts made owned (acts ++ [.destroyed handle]) where
  nodup := (List.nodup_cons.mp h.nodup).2
  sound handle' hh := by
    have hne : handle' ≠ handle := fun heq => (List.nodup_cons.mp h.nodup).1 (heq ▸ hh)
    refine ⟨(h.sound handle' (List.mem_cons_of_mem _ hh)).1, fun hmem => ?_⟩
    rcases List.mem_append.mp hmem with hmem | hmem
    · exact (h.sound handle' (List.mem_cons_of_mem _ hh)).2 hmem
    · cases List.mem_singleton.mp hmem
      exact hne rfl
  complete handle' hh := by
    rcases h.complete handle' hh with howned | hdestroyed
    · rcases List.mem_cons.mp howned with rfl | howned
      · exact .inr (List.mem_append_right _ (List.mem_singleton_self _))
      · exact .inl howned
    · exact .inr (List.mem_append_left _ hdestroyed)
  known act hact := by
    rcases List.mem_append.mp hact with hact | hact
    · exact h.known act hact
    · rw [List.mem_singleton.mp hact]
      exact (h.sound handle List.mem_cons_self).1
  retired handle' := by
    refine atEvery_concat.mpr ⟨h.retired handle', ?_⟩
    rintro rfl
    exact (h.sound handle List.mem_cons_self).2

/-- An owner destroys all it owns. -/
theorem destroyedAll {handles : List H} (h : Accounts made (handles ++ owned) acts) :
    Accounts made owned (acts ++ handles.map .destroyed) := by
  induction handles generalizing acts with
  | nil =>
    rw [List.map_nil, List.append_nil]
    exact h
  | cons handle handles ih =>
    rw [List.map_cons, List.append_cons]
    exact ih h.destroyed

/-- The owners are the same in another order. -/
theorem perm (h : Accounts made owned acts) {owned' : List H} (hperm : owned.Perm owned') :
    Accounts made owned' acts where
  nodup := hperm.nodup h.nodup
  sound handle hh := h.sound handle (hperm.mem_iff.mpr hh)
  complete handle hh := (h.complete handle hh).imp hperm.mem_iff.mp id
  known := h.known
  retired := h.retired

/-- **Once nothing is owned, everything made has been destroyed exactly once.** -/
theorem settled [DecidableEq H] (h : Accounts made [] acts) (hmade : handle ∈ made) :
    acts.countP (Act.destroys handle) = 1 := by
  rcases (h.retired handle).countP with hnone | hone
  · rcases h.complete handle hmade with howned | hdestroyed
    · exact absurd howned List.not_mem_nil
    · exact absurd (Act.destroys_iff.mpr rfl) (List.countP_eq_zero.mp hnone _ hdestroyed)
  · exact hone

end Accounts

end DocaCpp
