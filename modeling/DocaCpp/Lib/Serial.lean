/-
# Serial traces

Several owners access one object.  A trace of their accesses is `Serial` if no owner comes back
after another has had a turn; it is then nothing but the accesses of one owner, then all those of a
second, and so on (`Serial.blocks`).

`RunWith.serial` is the rule for machines that guard the object by a lease: at most one owner holds
it, only a holder accesses it, and an owner that has accessed it and given it up does not get it
again.  Then the trace of every run is serial, whatever the machine does in between.
-/
import DocaCpp.Lib.Machine
import Mathlib.Data.List.Nodup

namespace DocaCpp

variable {ι α : Type*} [DecidableEq ι]

/-! ## 1. Turns -/

/-- The owners of a trace, one for each turn. -/
def turns (xs : List (ι × α)) : List ι :=
  xs.foldl (fun owners x => if owners.getLast? = some x.1 then owners else owners ++ [x.1]) []

@[simp] theorem turns_nil : turns ([] : List (ι × α)) = [] := rfl

theorem turns_snoc (xs : List (ι × α)) (x : ι × α) :
    turns (xs ++ [x]) =
      if (turns xs).getLast? = some x.1 then turns xs else turns xs ++ [x.1] := by
  unfold turns
  rw [List.foldl_append]
  rfl

/-- Everyone who has accessed the object has had a turn, and nobody else. -/
theorem mem_turns {xs : List (ι × α)} {i : ι} : i ∈ turns xs ↔ ∃ x ∈ xs, x.1 = i := by
  induction xs using List.reverseRecOn with
  | nil => simp
  | append_singleton xs x ih =>
    rw [turns_snoc]
    by_cases hlast : (turns xs).getLast? = some x.1
    · rw [if_pos hlast, ih]
      constructor
      · rintro ⟨y, hy, rfl⟩
        exact ⟨y, List.mem_append_left _ hy, rfl⟩
      · rintro ⟨y, hy, rfl⟩
        rcases List.mem_append.mp hy with hy | hy
        · exact ⟨y, hy, rfl⟩
        · obtain rfl := List.mem_singleton.mp hy
          exact ih.mp (List.mem_of_getLast? hlast)
    · rw [if_neg hlast, List.mem_append, ih, List.mem_singleton]
      constructor
      · rintro (⟨y, hy, rfl⟩ | rfl)
        · exact ⟨y, List.mem_append_left _ hy, rfl⟩
        · exact ⟨x, List.mem_append_right _ (List.mem_singleton_self x), rfl⟩
      · rintro ⟨y, hy, rfl⟩
        rcases List.mem_append.mp hy with hy | hy
        · exact Or.inl ⟨y, hy, rfl⟩
        · exact Or.inr (congrArg Prod.fst (List.mem_singleton.mp hy))

/-- No owner has two turns. -/
def Serial (xs : List (ι × α)) : Prop := (turns xs).Nodup

instance (xs : List (ι × α)) : Decidable (Serial xs) := inferInstanceAs (Decidable (turns xs).Nodup)

/-- The accesses of one owner. -/
def accessesOf (i : ι) (xs : List (ι × α)) : List (ι × α) := xs.filter fun x => x.1 = i

theorem accessesOf_snoc_same (xs : List (ι × α)) (x : ι × α) :
    accessesOf x.1 (xs ++ [x]) = accessesOf x.1 xs ++ [x] := by
  simp [accessesOf]

theorem accessesOf_snoc_other {i : ι} {x : ι × α} (h : x.1 ≠ i) (xs : List (ι × α)) :
    accessesOf i (xs ++ [x]) = accessesOf i xs := by
  simp [accessesOf, h]

/-- Owners that do not make the next access keep their accesses. -/
theorem flatMap_accessesOf_snoc {owners : List ι} {x : ι × α} (h : x.1 ∉ owners)
    (xs : List (ι × α)) :
    (owners.flatMap fun i => accessesOf i (xs ++ [x])) =
      owners.flatMap fun i => accessesOf i xs := by
  refine List.flatMap_congr fun i hi => accessesOf_snoc_other ?_ xs
  rintro rfl
  exact h hi

/-- **A serial trace is made of one block for each owner.** -/
theorem Serial.blocks {xs : List (ι × α)} (h : Serial xs) :
    (turns xs).flatMap (fun i => accessesOf i xs) = xs := by
  induction xs using List.reverseRecOn with
  | nil => rfl
  | append_singleton xs x ih =>
    unfold Serial at h
    rw [turns_snoc] at h ⊢
    by_cases hlast : (turns xs).getLast? = some x.1
    · rw [if_pos hlast] at h ⊢
      obtain ⟨before, hturns⟩ := List.getLast?_eq_some_iff.mp hlast
      have hih := ih h
      rw [hturns] at h hih ⊢
      have hnew : x.1 ∉ before := fun hm => by
        have := List.disjoint_of_nodup_append h hm
        exact this (List.mem_singleton_self _)
      rw [List.flatMap_append, List.flatMap_singleton] at hih ⊢
      rw [flatMap_accessesOf_snoc hnew, accessesOf_snoc_same, ← List.append_assoc, hih]
    · rw [if_neg hlast] at h ⊢
      have hnew : x.1 ∉ turns xs := fun hm =>
        List.disjoint_of_nodup_append h hm (List.mem_singleton_self _)
      have hnone : accessesOf x.1 xs = [] := by
        refine List.filter_eq_nil_iff.mpr fun y hy heq => hnew ?_
        exact mem_turns.mpr ⟨y, hy, of_decide_eq_true heq⟩
      rw [List.flatMap_append, List.flatMap_singleton, flatMap_accessesOf_snoc hnew,
        accessesOf_snoc_same, hnone, ih h.of_append_left, List.nil_append]

/-! ## 2. Leases -/

namespace Machine

variable {σ Λ : Type*} {M : Machine σ Λ} {Good : List Λ → σ → Λ → Prop} {s t : σ} {ls : List Λ}

/-- **Leased accesses are serial**: at most one owner holds the object, an access is made by a
holder, and an owner that has accessed it and does not hold it will not hold it again. -/
theorem RunWith.serial (access : Λ → Option (ι × α)) (holds : List Λ → ι → Prop)
    (hexclusive : ∀ ls t, M.RunWith Good s ls t → ∀ i j, holds ls i → holds ls j → i = j)
    (haccess : ∀ ls t l u x, M.RunWith Good s ls t → Good ls t l → M.step t l = some u →
      access l = some x → holds ls x.1)
    (honce : ∀ ls t l u i, M.RunWith Good s ls t → Good ls t l → M.step t l = some u →
      i ∈ turns (ls.filterMap access) → holds (ls ++ [l]) i → holds ls i)
    (h : M.RunWith Good s ls t) : Serial (ls.filterMap access) := by
  refine (RunWith.invariant (I := fun ls _ => Serial (ls.filterMap access) ∧
    ∀ i ∈ turns (ls.filterMap access), holds ls i →
      (turns (ls.filterMap access)).getLast? = some i) ⟨List.nodup_nil, fun i hi => nomatch hi⟩
    ?_ h).1
  rintro ls t l u hrun ⟨hserial, hlast⟩ hgood hstep
  have hkept := fun i hi hu => hlast i hi (honce ls t l u i hrun hgood hstep hi hu)
  rw [List.filterMap_append, List.filterMap_cons, List.filterMap_nil]
  cases hl : access l with
  | none => exact ⟨by rwa [List.append_nil], by rwa [List.append_nil]⟩
  | some x =>
    have hx := haccess ls t l u x hrun hgood hstep hl
    unfold Serial
    dsimp only
    rw [turns_snoc]
    by_cases hsame : (turns (ls.filterMap access)).getLast? = some x.1
    · rw [if_pos hsame]
      exact ⟨hserial, hkept⟩
    · rw [if_neg hsame]
      constructor
      · refine hserial.append (List.nodup_singleton _) (List.disjoint_singleton.mpr ?_)
        exact fun hm => hsame (hlast x.1 hm hx)
      · intro i hi hu
        rw [List.getLast?_concat]
        rcases List.mem_append.mp hi with hi | hi
        · have hbefore := honce ls t l u i hrun hgood hstep hi hu
          rw [hexclusive ls t hrun i x.1 hbefore hx]
        · rw [List.mem_singleton.mp hi]

end Machine

end DocaCpp
