/-
# Titles to handles

Objects are constructed on handles, move-constructed and move-assigned from one another, and
destroyed.  Whatever they do with the handles, the operations say who ought to have which: a move
passes the title on, and an object that is written over or destroyed was the last to hold its own.

* §1 -- the operations, by the addresses of the objects;
* §2 -- the titles, and what each operation does to them;
* §3 -- the accounts of the titles: each handle's has one holder or has ended once
  (`Accounted.settled`).
-/
import Mathlib.Logic.Function.Basic
import Mathlib.Data.List.Basic

namespace DocaCpp

/-! ## 1. Operations on objects -/

/-- What is done with objects, by their addresses. -/
inductive MoveOp (X A H : Type*)
  | construct (target : X) (args : A) (handle : H)
  | moveConstruct (target source : X)
  | moveAssign (target source : X)
  | destroy (target : X)
  deriving DecidableEq

namespace MoveOp

variable {X A H : Type*}

/-- Something is moved from one object to another. -/
def Moves : MoveOp X A H → Prop
  | construct _ _ _ => False
  | moveConstruct _ _ => True
  | moveAssign target source => target ≠ source
  | destroy _ => False

/-- The operation is a destruction. -/
def isDestroy : MoveOp X A H → Bool
  | destroy _ => true
  | _ => false

/-- The operation is a move construction. -/
def isMoveConstruct : MoveOp X A H → Bool
  | moveConstruct _ _ => true
  | _ => false

end MoveOp

/-! ## 2. Titles -/

/-- Which object has the title to which handle, and the titles that have ended, each with the object
that held it last. -/
structure Titles (X H : Type*) where
  title : X → Option H := fun _ => none
  ended : List (X × H) := []

namespace Titles

variable {X A H : Type*} [DecidableEq X] (t : Titles X H) (x y source target : X) (handle : H)

/-- A title to a new handle. -/
def make : Titles X H := { t with title := Function.update t.title x (some handle) }

/-- The title goes from one object to another. -/
def pass : Titles X H :=
  { t with title := Function.update (Function.update t.title source none) target (t.title source) }

/-- The title of an object ends. -/
def finish : Titles X H :=
  { title := Function.update t.title x none
    ended := t.ended ++ (t.title x).toList.map fun handle => (x, handle) }

/-- What an operation means for the titles. -/
def after : MoveOp X A H → Titles X H
  | .construct target _ handle => t.make target handle
  | .moveConstruct target source => t.pass source target
  | .moveAssign target source => if target = source then t else (t.finish target).pass source target
  | .destroy target => t.finish target

@[simp] theorem title_make :
    (t.make x handle).title y = if y = x then some handle else t.title y :=
  Function.update_apply ..

@[simp] theorem ended_make : (t.make x handle).ended = t.ended := rfl

@[simp] theorem title_pass :
    (t.pass source target).title y =
      if y = target then t.title source else if y = source then none else t.title y := by
  simp [pass, Function.update_apply]

@[simp] theorem ended_pass : (t.pass source target).ended = t.ended := rfl

@[simp] theorem title_finish : (t.finish x).title y = if y = x then none else t.title y :=
  Function.update_apply ..

@[simp] theorem ended_finish :
    (t.finish x).ended = t.ended ++ (t.title x).toList.map fun handle => (x, handle) := rfl

end Titles

section Titles

variable {X A H : Type*} [DecidableEq X]

/-- The titles after some operations. -/
def titles (ops : List (MoveOp X A H)) : Titles X H := ops.foldl Titles.after {}

@[simp] theorem titles_concat (ops : List (MoveOp X A H)) (op : MoveOp X A H) :
    titles (ops ++ [op]) = (titles ops).after op := by
  simp [titles]

/-- The object was the last to hold the title to the handle. -/
def LastOwner (ops : List (MoveOp X A H)) (x : X) (handle : H) : Prop :=
  (x, handle) ∈ (titles ops).ended

end Titles

/-! ## 3. The accounts -/

/-- The titles to the handles that were made: each has one holder, or has ended once. -/
structure Titles.Accounted {X H : Type*} [DecidableEq H] (made : List H) (t : Titles X H) :
    Prop where
  unique : ∀ {x y handle}, t.title x = some handle → t.title y = some handle → x = y
  sound : ∀ {x handle}, t.title x = some handle → handle ∈ made ∧ ∀ y, (y, handle) ∉ t.ended
  known : ∀ {x handle}, (x, handle) ∈ t.ended → handle ∈ made
  complete : ∀ handle ∈ made, (∃ x, t.title x = some handle) ∨
    ∃ x, t.ended.filter (fun release => release.2 = handle) = [(x, handle)]

namespace Titles.Accounted

variable {X H : Type*} [DecidableEq H] {made : List H} {t : Titles X H} {x source target : X}
  {handle : H}

theorem start : Accounted [] ({} : Titles X H) where
  unique h := by cases h
  sound h := by cases h
  known h := by cases h
  complete handle h := by cases h

/-- **Where no title is left, every handle's has ended once.** -/
theorem settled (h : t.Accounted made) (hnone : ∀ x, t.title x = none) (hmem : handle ∈ made) :
    ∃ x, t.ended.filter (fun release => release.2 = handle) = [(x, handle)] := by
  rcases h.complete handle hmem with ⟨x, hx⟩ | hended
  · rw [hnone x] at hx
    cases hx
  · exact hended

/-- A title that is held has not ended. -/
theorem filter_ended (h : t.Accounted made) (hx : t.title x = some handle) :
    t.ended.filter (fun release => release.2 = handle) = [] := by
  rw [List.filter_eq_nil_iff]
  rintro ⟨y, handle'⟩ hmem heq
  rw [decide_eq_true_eq] at heq
  exact (h.sound hx).2 y (heq ▸ hmem)

variable [DecidableEq X]

theorem make (h : t.Accounted made) (hx : t.title x = none) (hnew : handle ∉ made) :
    (t.make x handle).Accounted (made ++ [handle]) where
  unique {y z handle'} hy hz := by
    have hold : ∀ y, t.title y ≠ some handle := fun y hy => hnew (h.sound hy).1
    have huniq := @h.unique
    simp only [title_make] at hy hz
    grind
  sound {y handle'} hy := by
    have hsound := @h.sound
    have hknown := @h.known
    simp only [title_make, ended_make] at hy ⊢
    grind
  known hmem := List.mem_append_left _ (h.known hmem)
  complete handle' hmem := by
    simp only [title_make, ended_make]
    rcases List.mem_append.mp hmem with hmem | hmem
    · rcases h.complete handle' hmem with ⟨y, hy⟩ | hended
      · have hne : y ≠ x := by
          rintro rfl
          rw [hx] at hy
          cases hy
        exact .inl ⟨y, by rw [if_neg hne, hy]⟩
      · exact .inr hended
    · exact .inl ⟨x, by rw [if_pos rfl, List.mem_singleton.mp hmem]⟩

/-- Passing a title on is between objects: the accounts stay. -/
theorem pass (h : t.Accounted made) (htarget : t.title target = none) :
    (t.pass source target).Accounted made where
  unique {y z handle'} hy hz := by
    have huniq := @h.unique
    simp only [title_pass] at hy hz
    grind
  sound {y handle'} hy := by
    have hsound := @h.sound
    simp only [title_pass, ended_pass] at hy ⊢
    grind
  known hmem := h.known hmem
  complete handle' hmem := by
    rcases h.complete handle' hmem with ⟨y, hy⟩ | hended
    · simp only [title_pass]
      grind
    · exact .inr hended

/-- The title of an object ends, once. -/
theorem finish (h : t.Accounted made) : (t.finish x).Accounted made where
  unique {y z handle'} hy hz := by
    have huniq := @h.unique
    simp only [title_finish] at hy hz
    grind
  sound {y handle'} hy := by
    have hsound := @h.sound
    have huniq := @h.unique
    simp only [title_finish] at hy
    simp only [ended_finish, List.mem_append, List.mem_map, Option.mem_toList]
    grind
  known {y handle'} hmem := by
    have hsound := @h.sound
    have hknown := @h.known
    simp only [ended_finish, List.mem_append, List.mem_map, Option.mem_toList] at hmem
    grind
  complete handle' hmem := by
    simp only [title_finish, ended_finish, List.filter_append]
    rcases h.complete handle' hmem with ⟨y, hy⟩ | ⟨y, hended⟩
    · by_cases hyx : y = x
      · subst hyx
        exact .inr ⟨y, by simp [h.filter_ended hy, hy]⟩
      · exact .inl ⟨y, by rw [if_neg hyx, hy]⟩
    · -- the title that ends now is to another handle
      have hother : t.title x ≠ some handle' := by
        intro hx
        rw [h.filter_ended hx] at hended
        cases hended
      refine .inr ⟨y, ?_⟩
      rw [hended]
      cases hx : t.title x with
      | none => rfl
      | some g =>
        have hne : g ≠ handle' := fun heq => hother (hx.trans (congrArg some heq))
        simp [hne]

end Titles.Accounted

end DocaCpp
