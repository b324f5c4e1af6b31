/-
# Coroutines as programs of calls

A coroutine is modelled by the tree of what it does: it ends with a value, or it makes a call and
continues with the answer.  `Prog R α` is that tree, for a type `E` of calls and the type `R e` of
the answers to `e`; its monad lets a coroutine be written in the order of its source.  A call whose
answer type is empty is one from which the coroutine does not come back.

`Loop` adds the `while` around a body: the body says after each pass whether to go around again or
to leave with a value.  `Loop.resume` is one call answered, so a coroutine is a `Machine` whose
labels are calls with their answers, and whoever composes coroutines decides which answers are
possible.  `Prog.interpret` is the other use of a program: running it to its end against a state
that answers its calls.

The last section is the rule the proofs use: a `Refines` gives every point at which a coroutine can
stand a name, and `Refines.run` says that along any run the coroutine is where the names say.
-/
import DocaCpp.Lib.Machine

namespace DocaCpp

/-! ## 1. Programs -/

/-- A program of calls. -/
inductive Prog {E : Type} (R : E → Type) (α : Type) : Type
  | ret (a : α)
  | op (e : E) (k : R e → Prog R α)

namespace Prog

variable {E : Type} {R : E → Type} {α β : Type}

/-- Sequencing. -/
def bind : Prog R α → (α → Prog R β) → Prog R β
  | ret a, f => f a
  | op e k, f => op e fun r => bind (k r) f

/-- A finished program hands its value on. -/
theorem ret_bind (a : α) (f : α → Prog R β) : (ret a : Prog R α).bind f = f a := by
  rw [bind]

instance : Monad (Prog R) where
  pure := ret
  bind := bind

/-- The program that makes one call and ends with its answer. -/
def call (e : E) : Prog R (R e) := op e ret

/-- A call that is never answered. -/
def stuck (e : E) (h : R e → False) : Prog R α := op e fun r => (h r).elim

/-! ### Running a program against a state -/

section Interpret

variable {σ : Type} (answer : (e : E) → σ → Option (R e × σ))

/-- A program run against a state that answers its calls, up to a call it does not answer. -/
def interpret : Prog R α → σ → Option (α × σ)
  | ret a, s => some (a, s)
  | op e k, s => (answer e s).bind fun r => interpret (k r.1) r.2

@[simp] theorem interpret_pure (a : α) (s : σ) :
    interpret answer (pure a : Prog R α) s = some (a, s) := rfl

@[simp] theorem interpret_call (e : E) (s : σ) :
    interpret answer (call e : Prog R (R e)) s = answer e s := by
  cases h : answer e s with
  | none => simp [call, interpret, h]
  | some r => simp [call, interpret, h]

/-- **Sequencing**: the second program starts from the state the first one leaves. -/
@[simp] theorem interpret_bind (p : Prog R α) (f : α → Prog R β) (s : σ) :
    interpret answer (p >>= f) s
      = (interpret answer p s).bind fun r => interpret answer (f r.1) r.2 := by
  change interpret answer (bind p f) s = _
  induction p generalizing s with
  | ret a => rfl
  | op e k ih =>
    simp only [bind, interpret, Option.bind_assoc]
    exact congrArg _ (funext fun r => ih r.1 r.2)

end Interpret

end Prog

/-! ## 2. Loops -/

/-- How a pass over the body of a loop ends. -/
inductive Exit (ε : Type)
  | again
  | leave (value : ε)

/-- Where a looping coroutine stands. -/
inductive Loop {E : Type} (R : E → Type) (ε : Type) : Type
  | head
  | inside (p : Prog R (Exit ε))
  | ended (value : ε)

/-- A call with its answer. -/
structure Event {E : Type} (R : E → Type) where
  op : E
  answer : R op

namespace Loop

variable {E : Type} {R : E → Type} {ε : Type}

/-- The end of a pass takes the loop back to its head or out of it. -/
def settle : Prog R (Exit ε) → Loop R ε
  | .ret .again => head
  | .ret (.leave v) => ended v
  | .op e k => inside (.op e k)

/-- What remains to be done, for the loop whose pass is `body`. -/
def todo (body : Prog R (Exit ε)) : Loop R ε → Prog R (Exit ε)
  | head => body
  | inside p => p
  | ended v => .ret (.leave v)

/-- The call the coroutine is waiting for. -/
def pending (body : Prog R (Exit ε)) (c : Loop R ε) : Option E :=
  match c.todo body with
  | .ret _ => none
  | .op e _ => some e

variable [DecidableEq E]

/-- The coroutine after an answered call. -/
def resume (body : Prog R (Exit ε)) (c : Loop R ε) (ev : Event R) : Option (Loop R ε) :=
  match c.todo body with
  | .ret _ => none
  | .op e k => if h : ev.op = e then some (settle (k (h ▸ ev.answer))) else none

/-- The coroutine as a machine. -/
def machine (body : Prog R (Exit ε)) : Machine (Loop R ε) (Event R) where
  step := resume body

theorem resume_op {body : Prog R (Exit ε)} {c : Loop R ε} {e : E} {k : R e → Prog R (Exit ε)}
    (h : c.todo body = .op e k) (r : R e) :
    c.resume body ⟨e, r⟩ = some (settle (k r)) := by
  simp [resume, h]

/-- **An answered call** is the pending one, and the rest follows its continuation. -/
theorem resume_inv {body : Prog R (Exit ε)} {c c' : Loop R ε} {ev : Event R} {e : E}
    {k : R e → Prog R (Exit ε)} (ht : c.todo body = .op e k) (h : c.resume body ev = some c') :
    ∃ r, ev = ⟨e, r⟩ ∧ c' = settle (k r) := by
  obtain ⟨e', r⟩ := ev
  rw [resume, ht] at h
  by_cases he : e' = e
  · subst he
    simp only [dite_true, Option.some.injEq] at h
    exact ⟨r, rfl, h.symm⟩
  · simp [he] at h

theorem pending_of_resume {body : Prog R (Exit ε)} {c c' : Loop R ε} {ev : Event R}
    (h : c.resume body ev = some c') : c.pending body = some ev.op := by
  cases ht : c.todo body with
  | ret v => simp [resume, ht] at h
  | op e k =>
    obtain ⟨r, rfl, -⟩ := resume_inv ht h
    simp [pending, ht]

/-- The pending call can be answered in any way. -/
theorem resume_of_pending {body : Prog R (Exit ε)} {c : Loop R ε} {ev : Event R}
    (h : c.pending body = some ev.op) : ∃ c', c.resume body ev = some c' := by
  unfold pending at h
  cases ht : c.todo body with
  | ret v => rw [ht] at h; cases h
  | op e k =>
    rw [ht] at h
    cases h
    exact ⟨_, resume_op ht ev.answer⟩

end Loop

/-! ## 3. Naming the points of a coroutine -/

section Refines

variable {E : Type} {R : E → Type} {ε φ : Type} [DecidableEq E]

/-- `at_` names points of the loop by `φ`, and `next` is the step on names: every call answered at
a named point leads to a named point that `next` allows. -/
structure Refines (body : Prog R (Exit ε)) (at_ : φ → Loop R ε)
    (next : φ → Event R → φ → Prop) : Prop where
  step : ∀ f ev c', (at_ f).resume body ev = some c' → ∃ f', c' = at_ f' ∧ next f ev f'

variable {body : Prog R (Exit ε)} {at_ : φ → Loop R ε} {next : φ → Event R → φ → Prop}

/-- A point whose call and continuation are known, with the names of what follows. -/
theorem Refines.of_op {f : φ} {e : E} {k : R e → Prog R (Exit ε)}
    (ht : (at_ f).todo body = .op e k)
    (hk : ∀ r, ∃ f', Loop.settle (k r) = at_ f' ∧ next f ⟨e, r⟩ f') {ev : Event R} {c' : Loop R ε}
    (h : (at_ f).resume body ev = some c') :
    ∃ f', c' = at_ f' ∧ next f ev f' := by
  obtain ⟨r, rfl, rfl⟩ := Loop.resume_inv ht h
  exact hk r

/-- The call made at a named point, with any answer, is a step on names. -/
theorem Refines.of_pending (href : Refines body at_ next) {f : φ} {e : E}
    (h : (at_ f).pending body = some e) (r : R e) : ∃ f', next f ⟨e, r⟩ f' := by
  obtain ⟨c, hc⟩ : ∃ c, (at_ f).resume body ⟨e, r⟩ = some c := Loop.resume_of_pending h
  obtain ⟨f', -, hs⟩ := href.step f ⟨e, r⟩ c hc
  exact ⟨f', hs⟩

/-- Where the call and its answer determine the next point, a step on names is one the coroutine
takes. -/
theorem Refines.resume (href : Refines body at_ next) {f f' : φ} {ev : Event R}
    (hpending : (at_ f).pending body = some ev.op) (hdet : ∀ f'', next f ev f'' → f'' = f') :
    (at_ f).resume body ev = some (at_ f') := by
  obtain ⟨c, hc⟩ := Loop.resume_of_pending hpending
  obtain ⟨f'', rfl, hs⟩ := href.step f ev c hc
  rw [hc, hdet f'' hs]

/-- **The rule for runs**: what holds of the first point with no event behind it, and of the next
point whenever it holds of the point before, holds of the point the coroutine has reached. -/
theorem Refines.run (href : Refines body at_ next) (f₀ : φ)
    {Good : List (Event R) → Loop R ε → Event R → Prop} {I : List (Event R) → φ → Prop}
    (h0 : I [] f₀)
    (hstep : ∀ evs f ev f', I evs f → Good evs (at_ f) ev → next f ev f' → I (evs ++ [ev]) f')
    {evs : List (Event R)} {c : Loop R ε} (h : (Loop.machine body).RunWith Good (at_ f₀) evs c) :
    ∃ f, c = at_ f ∧ I evs f := by
  refine Machine.RunWith.invariant (I := fun evs c => ∃ f, c = at_ f ∧ I evs f) ⟨f₀, rfl, h0⟩ ?_ h
  rintro evs c ev c' - ⟨f, rfl, hI⟩ hgood hs
  obtain ⟨f', rfl, hnext⟩ := href.step f ev c' hs
  exact ⟨f', rfl, hstep _ _ _ _ hI hgood hnext⟩

end Refines

end DocaCpp
