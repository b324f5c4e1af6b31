/-
# Threads over shared variables

Threads take turns.  A turn reads and writes the shared variables, moves the thread that takes it
and, where it wakes others, moves these as well.  Any order of the turns is a run.

`Free.run` is the rule for what holds in all of them: each thread has an assertion about the shared
variables at its place, every two threads have one about their places, and no turn breaks that of
the thread that takes it, of another thread, or of two.
-/
import DocaCpp.Lib.Machine
import Mathlib.Logic.Pairwise

namespace DocaCpp

/-- Threads, by what a turn of one of them does: to the shared variables, to its own place and to
the places of the others. -/
structure Threads (ι S P A : Type*) where
  turn : ι → S → P → A → Option (S × P × (P → P))

namespace Threads

/-- The shared variables, and where every thread stands. -/
structure State (ι S P : Type*) where
  shared : S
  place : ι → P

variable {ι S P A : Type*} [DecidableEq ι] (T : Threads ι S P A)

/-- A thread takes a turn. -/
def step (x : State ι S P) (l : ι × A) : Option (State ι S P) :=
  (T.turn l.1 x.shared (x.place l.1) l.2).map fun r =>
    ⟨r.1, Function.update (fun j => r.2.2 (x.place j)) l.1 r.2.1⟩

/-- The threads, as a machine. -/
def machine : Machine (State ι S P) (ι × A) := ⟨T.step⟩

variable {T} {x y : State ι S P} {i : ι} {a : A}

/-- A step is a turn of one thread. -/
theorem step_inv (h : T.step x (i, a) = some y) :
    ∃ f, T.turn i x.shared (x.place i) a = some (y.shared, y.place i, f) ∧
      ∀ j, j ≠ i → y.place j = f (x.place j) := by
  obtain ⟨⟨s, p, f⟩, hturn, rfl⟩ := Option.map_eq_some_iff.mp h
  have hself : Function.update (fun k => f (x.place k)) i p i = p := by rw [Function.update_self]
  refine ⟨f, hturn.trans (congrArg (fun q => some (s, q, f)) hself.symm), fun j hj => ?_⟩
  have hother : Function.update (fun k => f (x.place k)) i p j = f (x.place j) := by
    rw [Function.update_of_ne hj]
  exact hother

variable (T) in
/-- No turn breaks the assertion of a thread, or that of two. -/
structure Free (Own : ι → S → P → Prop) (Apart : P → P → Prop) : Prop where
  symm : ∀ p q, Apart p q → Apart q p
  own : ∀ i s p a s' p' f, Own i s p → T.turn i s p a = some (s', p', f) → Own i s' p'
  others : ∀ i j s p q a s' p' f, i ≠ j → Own i s p → Own j s q → Apart p q →
    T.turn i s p a = some (s', p', f) → Own j s' (f q) ∧ Apart p' (f q)
  moved : ∀ i s p a s' p' f q r, T.turn i s p a = some (s', p', f) → Apart q r → Apart (f q) (f r)

/-- **Freedom from interference**: what holds of every thread and of every two at the start holds
in every run. -/
theorem Free.run {Own : ι → S → P → Prop} {Apart : P → P → Prop} (hfree : T.Free Own Apart)
    {Good : List (ι × A) → State ι S P → ι × A → Prop} {ls : List (ι × A)}
    (hown : ∀ i, Own i x.shared (x.place i))
    (hapart : Pairwise fun i j => Apart (x.place i) (x.place j))
    (h : T.machine.RunWith Good x ls y) :
    (∀ i, Own i y.shared (y.place i)) ∧ Pairwise fun i j => Apart (y.place i) (y.place j) := by
  refine Machine.RunWith.invariant (I := fun _ y => (∀ i, Own i y.shared (y.place i)) ∧
    Pairwise fun i j => Apart (y.place i) (y.place j)) ⟨hown, hapart⟩ ?_ h
  rintro ls x ⟨i, a⟩ y - ⟨hown, hapart⟩ - hstep
  obtain ⟨f, hturn, hplace⟩ := step_inv hstep
  have hother : ∀ j, j ≠ i → Own j y.shared (y.place j) ∧ Apart (y.place i) (y.place j) := by
    intro j hj
    rw [hplace j hj]
    exact hfree.others i j _ _ _ a _ _ f hj.symm (hown i) (hown j) (hapart hj.symm) hturn
  constructor
  · intro j
    by_cases hj : j = i
    · subst hj
      exact hfree.own j _ _ a _ _ f (hown j) hturn
    · exact (hother j hj).1
  · intro j k hjk
    by_cases hj : j = i
    · subst hj
      exact (hother k hjk.symm).2
    · by_cases hk : k = i
      · subst hk
        exact hfree.symm _ _ (hother j hj).2
      · rw [hplace j hj, hplace k hk]
        exact hfree.moved i _ _ a _ _ f _ _ hturn (hapart hjk)

end Threads

end DocaCpp
