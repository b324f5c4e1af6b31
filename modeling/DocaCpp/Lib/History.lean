/-
# Histories, read from their end

A history is the list of what has happened, oldest first, and it grows at its end.  Three ways of
speaking about one recur: something has begun and has not been ended since (`Since`); everything
that happened was allowed when it happened (`AtEvery`); something is true now and was at every
earlier time (`Always`).  Each has its rule for one more event, which is what an induction over a
history needs.

The labels of a run are a history.  `Machine.AlwaysIn` and `Machine.EveryStep` speak about the
states and the steps of a machine that is driven through them, and `Machine.alwaysIn_iff` says when
a condition on the steps is exactly what a property of the states needs.
-/
import DocaCpp.Lib.Machine
import Mathlib.Data.List.Induction
import Mathlib.Data.List.Infix

namespace DocaCpp

variable {α : Type*} {history : List α} {a : α}

/-! ## 1. Begun and not ended since -/

/-- Something that `begins` has happened, and nothing behind it `ends` it. -/
def Since (begins : List α → α → Prop) (ends : α → Prop) (history : List α) : Prop :=
  ∃ pre a post, history = pre ++ a :: post ∧ begins pre a ∧ ∀ b ∈ post, ¬ ends b

section Since

variable {begins : List α → α → Prop} {ends : α → Prop}

theorem not_since_nil : ¬ Since begins ends [] := by
  rintro ⟨pre, a, post, h, -⟩
  simp at h

/-- **One more event** begins it, or leaves it begun. -/
theorem since_concat :
    Since begins ends (history ++ [a]) ↔
      begins history a ∨ (¬ ends a ∧ Since begins ends history) := by
  constructor
  · rintro ⟨pre, b, post, heq, hb, hpost⟩
    rcases List.eq_nil_or_concat post with rfl | ⟨post, d, rfl⟩
    · obtain ⟨rfl, hab⟩ := List.append_inj' heq rfl
      obtain rfl := List.singleton_inj.mp hab
      exact .inl hb
    · have heq' : history ++ [a] = (pre ++ b :: post) ++ [d] := by simpa using heq
      obtain ⟨rfl, had⟩ := List.append_inj' heq' rfl
      obtain rfl := List.singleton_inj.mp had
      refine .inr ⟨hpost a (by simp), pre, b, post, rfl, hb, fun e he => hpost e ?_⟩
      simp [he]
  · rintro (hb | ⟨ha, pre, b, post, rfl, hb, hpost⟩)
    · exact ⟨history, a, [], rfl, hb, by simp⟩
    · refine ⟨pre, b, post ++ [a], by simp, hb, fun e he => ?_⟩
      rcases List.mem_append.mp he with he | he
      · exact hpost e he
      · rwa [List.mem_singleton.mp he]

end Since

/-! ## 2. Allowed when it happened -/

/-- Every event was allowed by what had happened before it. -/
def AtEvery (allowed : List α → α → Prop) (history : List α) : Prop :=
  ∀ pre a, pre ++ [a] <+: history → allowed pre a

section AtEvery

variable {allowed : List α → α → Prop}

theorem atEvery_nil : AtEvery allowed [] := by
  intro pre a h
  simp at h

theorem atEvery_concat :
    AtEvery allowed (history ++ [a]) ↔ AtEvery allowed history ∧ allowed history a := by
  constructor
  · intro h
    exact ⟨fun pre b hpre => h pre b (hpre.trans (List.prefix_append _ _)),
      h history a (List.prefix_refl _)⟩
  · rintro ⟨h, ha⟩ pre b hpre
    rcases List.prefix_concat_iff.mp hpre with heq | hpre
    · obtain ⟨rfl, hab⟩ := List.append_inj' heq rfl
      obtain rfl := List.singleton_inj.mp hab
      exact ha
    · exact h pre b hpre

end AtEvery

/-! ## 3. True at every time -/

/-- It is true now, and was at every earlier time. -/
def Always (P : List α → Prop) (history : List α) : Prop := ∀ pre, pre <+: history → P pre

section Always

variable {P : List α → Prop}

theorem Always.now (h : Always P history) : P history := h history (List.prefix_refl _)

theorem always_nil : Always P [] ↔ P [] := by
  constructor
  · intro h
    exact h.now
  · intro h pre hpre
    rwa [List.prefix_nil.mp hpre]

theorem always_concat : Always P (history ++ [a]) ↔ Always P history ∧ P (history ++ [a]) := by
  constructor
  · intro h
    exact ⟨fun pre hpre => h pre (hpre.trans (List.prefix_append _ _)), h.now⟩
  · rintro ⟨h, ha⟩ pre hpre
    rcases List.prefix_concat_iff.mp hpre with rfl | hpre
    · exact ha
    · exact h pre hpre

/-- **When a property holds at every time**: as long as it holds, one more event keeps it exactly
if it is allowed. -/
theorem always_iff_atEvery {allowed : List α → α → Prop} (h0 : P [])
    (hstep : ∀ history a, Always P history → AtEvery allowed history →
      (P (history ++ [a]) ↔ allowed history a)) :
    Always P history ↔ AtEvery allowed history := by
  induction history using List.reverseRecOn with
  | nil => exact ⟨fun _ => atEvery_nil, fun _ => always_nil.mpr h0⟩
  | append_singleton history a ih =>
    rw [always_concat, atEvery_concat, ih]
    constructor
    · rintro ⟨hall, ha⟩
      exact ⟨hall, (hstep history a (ih.mpr hall) hall).mp ha⟩
    · rintro ⟨hall, ha⟩
      exact ⟨hall, (hstep history a (ih.mpr hall) hall).mpr ha⟩

end Always

/-! ## 4. Along the runs of a machine -/

namespace Machine

section Along

variable {σ Λ : Type*} (M : Machine σ Λ) (s : σ)

/-- Driven through the labels, the machine has the property in every state it reaches. -/
def AlwaysIn (P : List Λ → σ → Prop) (ls : List Λ) : Prop :=
  Always (fun ls => ∀ t, M.exec s ls = some t → P ls t) ls

/-- Driven through the labels, the machine takes no step that is not allowed. -/
def EveryStep (allowed : List Λ → σ → Λ → Prop) (ls : List Λ) : Prop :=
  AtEvery (fun ls l => ∀ t u, M.exec s ls = some t → M.step t l = some u → allowed ls t l) ls

variable {M s} {P : List Λ → σ → Prop} {allowed : List Λ → σ → Λ → Prop} {ls : List Λ}

theorem everyStep_nil : M.EveryStep s allowed [] := atEvery_nil

/-- **One more step** is allowed, or not, in the state it is taken from. -/
theorem everyStep_concat {t u : σ} {l : Λ} (ht : M.exec s ls = some t)
    (hu : M.step t l = some u) :
    M.EveryStep s allowed (ls ++ [l]) ↔ M.EveryStep s allowed ls ∧ allowed ls t l := by
  refine atEvery_concat.trans (and_congr_right fun _ => ⟨fun h => h t u ht hu, ?_⟩)
  intro h t' u' ht' _
  rw [ht] at ht'
  cases ht'
  exact h

/-- **A run is kept in order or it is spoilt for good**: where an allowed step keeps an invariant,
one that is not allowed spoils it, and what is spoilt stays so. -/
theorem everyStep_or {I J : List Λ → σ → Prop} {t : σ} (h0 : I [] s)
    (hkeeps : ∀ ls t l u, M.Run s ls t → I ls t → M.step t l = some u → allowed ls t l →
      I (ls ++ [l]) u)
    (hspoils : ∀ ls t l u, M.Run s ls t → I ls t → M.step t l = some u → ¬ allowed ls t l →
      J (ls ++ [l]) u)
    (hstays : ∀ ls t l u, M.Run s ls t → J ls t → M.step t l = some u → J (ls ++ [l]) u)
    (hrun : M.Run s ls t) :
    (M.EveryStep s allowed ls ∧ I ls t) ∨ (¬ M.EveryStep s allowed ls ∧ J ls t) := by
  induction hrun with
  | refl => exact .inl ⟨everyStep_nil, h0⟩
  | @tail t u ls l hrun _ hstep ih =>
    rw [everyStep_concat (run_exec hrun) hstep]
    rcases ih with ⟨hevery, hI⟩ | ⟨hevery, hspoilt⟩
    · by_cases hl : allowed ls t l
      · exact .inl ⟨⟨hevery, hl⟩, hkeeps ls t l u hrun hI hstep hl⟩
      · exact .inr ⟨fun h => hl h.2, hspoils ls t l u hrun hI hstep hl⟩
    · exact .inr ⟨fun h => hevery h.1, hstays ls t l u hrun hspoilt hstep⟩

/-- **When every state of a run has a property**: exactly if its steps are allowed, where one step
from a state that has it keeps it exactly if it is allowed. -/
theorem alwaysIn_iff (h0 : P [] s)
    (hstep : ∀ ls t l u, M.Run s ls t → P ls t → M.step t l = some u →
      (P (ls ++ [l]) u ↔ allowed ls t l)) :
    M.AlwaysIn s P ls ↔ M.EveryStep s allowed ls := by
  refine always_iff_atEvery ?_ fun ls l halways _ => ?_
  · intro t ht
    cases ht
    exact h0
  rw [exec_append]
  cases ht : M.exec s ls with
  | none => exact iff_of_true nofun nofun
  | some t =>
    have hP := halways.now t ht
    rw [Option.bind_some]
    constructor
    · intro h v u hv hu
      cases hv
      refine (hstep ls t l u (exec_run ht) hP hu).mp (h u ?_)
      rw [exec, hu]
      rfl
    · intro h v hv
      obtain ⟨u, hu, huv⟩ := Option.bind_eq_some_iff.mp hv
      obtain rfl := Option.some.inj huv
      exact (hstep ls t l u (exec_run ht) hP hu).mpr (h t u rfl hu)

end Along

end Machine

end DocaCpp
