/-
# Interleavings of independent calls

Two callers of one object each make a sequence of calls, and their calls are interleaved in some
order (`Interleaves`).  Where no call of the one sees a call of the other (`Independent`), the order
does not matter: every call gets the answer it would get if its caller were alone, and the object
ends as if one caller had gone first.
-/
import Mathlib.Data.List.Basic

namespace DocaCpp

/-! ## 1. Interleavings -/

/-- The third list is made of the first two, each in its own order. -/
inductive Interleaves {α : Type*} : List α → List α → List α → Prop
  | nil : Interleaves [] [] []
  | left {a : α} {as bs cs : List α} :
      Interleaves as bs cs → Interleaves (a :: as) bs (a :: cs)
  | right {b : α} {as bs cs : List α} :
      Interleaves as bs cs → Interleaves as (b :: bs) (b :: cs)

namespace Interleaves

variable {α : Type*} {as bs cs : List α}

theorem symm (h : Interleaves as bs cs) : Interleaves bs as cs := by
  induction h with
  | nil => exact .nil
  | left _ ih => exact .right ih
  | right _ ih => exact .left ih

/-- One list behind the other is an interleaving. -/
theorem append (as bs : List α) : Interleaves as bs (as ++ bs) := by
  induction as with
  | nil =>
    induction bs with
    | nil => exact .nil
    | cons b bs ih => exact .right ih
  | cons a as ih => exact .left ih

/-- With nothing to interleave it is the first list. -/
theorem eq_left (h : Interleaves as [] cs) : cs = as := by
  generalize hnil : [] = bs at h
  induction h with
  | nil => rfl
  | left _ ih => rw [ih hnil]
  | right _ _ => cases hnil

/-- What passes a test is interleaved too. -/
theorem filter (h : Interleaves as bs cs) (test : α → Bool) :
    Interleaves (as.filter test) (bs.filter test) (cs.filter test) := by
  induction h with
  | nil => exact .nil
  | @left a as bs cs _ ih =>
    by_cases ha : test a = true
    · rw [List.filter_cons_of_pos ha, List.filter_cons_of_pos ha]
      exact .left ih
    · rw [List.filter_cons_of_neg ha, List.filter_cons_of_neg ha]
      exact ih
  | @right b as bs cs _ ih =>
    by_cases hb : test b = true
    · rw [List.filter_cons_of_pos hb, List.filter_cons_of_pos hb]
      exact .right ih
    · rw [List.filter_cons_of_neg hb, List.filter_cons_of_neg hb]
      exact ih

end Interleaves

/-! ## 2. Calls -/

section Calls

variable {σ α β : Type*} (call : σ → α → β × σ)

/-- The object behind a sequence of calls. -/
def afterCalls (s : σ) (calls : List α) : σ := calls.foldl (fun s a => (call s a).2) s

/-- A sequence of calls with their answers. -/
def answeredCalls : σ → List α → List (α × β)
  | _, [] => []
  | s, a :: calls => (a, (call s a).1) :: answeredCalls (call s a).2 calls

@[simp] theorem afterCalls_cons (s : σ) (a : α) (calls : List α) :
    afterCalls call s (a :: calls) = afterCalls call (call s a).2 calls := rfl

theorem afterCalls_append (s : σ) (calls calls' : List α) :
    afterCalls call s (calls ++ calls') = afterCalls call (afterCalls call s calls) calls' :=
  List.foldl_append

theorem mem_answeredCalls {s : σ} {calls : List α} {r : α × β}
    (h : r ∈ answeredCalls call s calls) : r.1 ∈ calls := by
  induction calls generalizing s with
  | nil => cases h
  | cons a calls ih =>
    rcases List.mem_cons.mp h with rfl | h
    · exact List.mem_cons_self
    · exact List.mem_cons_of_mem a (ih h)

/-- **Neither call sees the other**: either way round they answer the same, and leave the same. -/
structure Independent (a b : α) : Prop where
  left : ∀ s, (call (call s b).2 a).1 = (call s a).1
  right : ∀ s, (call (call s a).2 b).1 = (call s b).1
  state : ∀ s, (call (call s b).2 a).2 = (call (call s a).2 b).2

variable {call} {a b : α} {as bs cs : List α}

theorem Independent.symm (h : Independent call a b) : Independent call b a where
  left := h.right
  right := h.left
  state := fun s => (h.state s).symm

/-- A sequence does not see a call in front of it. -/
theorem answeredCalls_behind (h : ∀ a ∈ as, Independent call a b) (s : σ) :
    answeredCalls call (call s b).2 as = answeredCalls call s as := by
  induction as generalizing s with
  | nil => rfl
  | cons a as ih =>
    obtain ⟨ha, has⟩ := List.forall_mem_cons.mp h
    rw [answeredCalls, answeredCalls, ha.left, ha.state, ih has]

/-- A sequence and a call change places. -/
theorem afterCalls_swap (h : ∀ a ∈ as, Independent call a b) (s : σ) :
    afterCalls call (call s b).2 as = (call (afterCalls call s as) b).2 := by
  induction as generalizing s with
  | nil => rfl
  | cons a as ih =>
    obtain ⟨ha, has⟩ := List.forall_mem_cons.mp h
    rw [afterCalls_cons, afterCalls_cons, ha.state, ih has]

/-- **Where interleaved callers end**: as if the first had gone before the second. -/
theorem Interleaves.after (h : Interleaves as bs cs)
    (hind : ∀ a ∈ as, ∀ b ∈ bs, Independent call a b) (s : σ) :
    afterCalls call s cs = afterCalls call s (as ++ bs) := by
  induction h generalizing s with
  | nil => rfl
  | left _ ih => exact ih (fun a ha => hind a (List.mem_cons_of_mem _ ha)) _
  | @right b as bs cs _ ih =>
    have hb : ∀ a ∈ as, Independent call a b := fun a ha => hind a ha b List.mem_cons_self
    have hbs : ∀ a ∈ as, ∀ b ∈ bs, Independent call a b :=
      fun a ha b hb => hind a ha b (List.mem_cons_of_mem _ hb)
    calc afterCalls call s (b :: cs)
        = afterCalls call (call s b).2 (as ++ bs) := ih hbs _
      _ = afterCalls call (afterCalls call (call s b).2 as) bs := afterCalls_append ..
      _ = afterCalls call (call (afterCalls call s as) b).2 bs := by rw [afterCalls_swap hb]
      _ = afterCalls call s (as ++ b :: bs) := by rw [afterCalls_append, afterCalls_cons]

/-- **What interleaved callers are answered**: what each is answered alone. -/
theorem Interleaves.answered (h : Interleaves as bs cs)
    (hind : ∀ a ∈ as, ∀ b ∈ bs, Independent call a b) (s : σ) :
    Interleaves (answeredCalls call s as) (answeredCalls call s bs) (answeredCalls call s cs) := by
  induction h generalizing s with
  | nil => exact .nil
  | @left a as bs cs _ ih =>
    have ha : ∀ b ∈ bs, Independent call b a :=
      fun b hb => (hind a List.mem_cons_self b hb).symm
    have hrest := ih (fun a ha => hind a (List.mem_cons_of_mem _ ha)) (call s a).2
    rw [answeredCalls_behind ha] at hrest
    exact .left hrest
  | @right b as bs cs _ ih =>
    have hb : ∀ a ∈ as, Independent call a b := fun a ha => hind a ha b List.mem_cons_self
    have hrest := ih (fun a ha b hb => hind a ha b (List.mem_cons_of_mem _ hb)) (call s b).2
    rw [answeredCalls_behind hb] at hrest
    exact .right hrest

end Calls

end DocaCpp
