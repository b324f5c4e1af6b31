/-
# Labelled machines and their runs

A machine is a partial step function on states, driven by labels: `step s l = none` says that `l`
cannot happen in `s`.  This file fixes what a run is, in two forms: the relation `RunWith Good`,
whose steps all meet a condition on the labels so far and the state they are taken from, which
proofs use, and the function `exec`, which evaluates a list of labels.  `exec_run` takes the second
to the first.

The induction every safety result is an instance of is `RunWith.invariant`.  `RunWith.project` is
for machines made of parts: what the whole does, each part does by itself.  `Endless` is for the
question whether a machine has to stop.
-/
import Mathlib.Data.List.Induction
import Mathlib.Logic.Function.Iterate
import Mathlib.Tactic.Choose

namespace DocaCpp

/-- A labelled machine. -/
structure Machine (σ Λ : Type*) where
  step : σ → Λ → Option σ

namespace Machine

variable {σ Λ : Type*} {M : Machine σ Λ} {Good : List Λ → σ → Λ → Prop} {s t u : σ}
  {ls ms : List Λ} {l : Λ}

/-- A run whose every step meets `Good`, given the labels before it and the state it is taken
from. -/
inductive RunWith (M : Machine σ Λ) (Good : List Λ → σ → Λ → Prop) : σ → List Λ → σ → Prop
  | refl (s : σ) : RunWith M Good s [] s
  | tail {s t u : σ} {ls : List Λ} {l : Λ} :
      RunWith M Good s ls t → Good ls t l → M.step t l = some u → RunWith M Good s (ls ++ [l]) u

/-- A run, with no condition on its steps. -/
abbrev Run (M : Machine σ Λ) : σ → List Λ → σ → Prop := M.RunWith fun _ _ _ => True

/-- Dropping the condition. -/
theorem RunWith.run (h : M.RunWith Good s ls t) : M.Run s ls t := by
  induction h with
  | refl => exact .refl _
  | tail _ _ hstep ih => exact .tail ih trivial hstep

/-- One condition in place of a stronger one. -/
theorem RunWith.mono {Good' : List Λ → σ → Λ → Prop} (h : M.RunWith Good s ls t)
    (hg : ∀ ls s l, Good ls s l → Good' ls s l) : M.RunWith Good' s ls t := by
  induction h with
  | refl => exact .refl _
  | tail _ hgood hstep ih => exact .tail ih (hg _ _ _ hgood) hstep

/-- Runs compose. -/
theorem Run.append (h : M.Run s ls t) (h' : M.Run t ms u) : M.Run s (ls ++ ms) u := by
  induction h' with
  | refl => rw [List.append_nil]; exact h
  | tail _ _ hstep ih => rw [← List.append_assoc]; exact .tail ih trivial hstep

/-- A step in front of a run. -/
theorem Run.head (hs : M.step s l = some t) (h : M.Run t ls u) : M.Run s (l :: ls) u :=
  Run.append (.tail (.refl s) trivial hs) h

/-- **The invariant rule**, with the labels so far at hand: what holds at the start and is
preserved by every step that meets the condition holds at the end of every run. -/
theorem RunWith.invariant {I : List Λ → σ → Prop} (h0 : I [] s)
    (hstep : ∀ ls t l u, M.RunWith Good s ls t → I ls t → Good ls t l → M.step t l = some u →
      I (ls ++ [l]) u) (h : M.RunWith Good s ls t) : I ls t := by
  induction h with
  | refl => exact h0
  | tail hrun hgood hs ih => exact hstep _ _ _ _ hrun ih hgood hs

/-- A run that has taken a step splits at its last one. -/
theorem RunWith.last (h : M.RunWith Good s (ls ++ [l]) u) :
    ∃ t, M.RunWith Good s ls t ∧ Good ls t l ∧ M.step t l = some u := by
  generalize hm : ls ++ [l] = ms at h
  cases h with
  | refl => simp at hm
  | tail hrun hgood hstep =>
    obtain ⟨rfl, h1⟩ := List.append_inj' hm rfl
    cases h1
    exact ⟨_, hrun, hgood, hstep⟩

/-- A run splits where its labels do. -/
theorem RunWith.split (h : M.RunWith Good s (ls ++ ms) u) :
    ∃ t, M.RunWith Good s ls t ∧ M.Run t ms u := by
  induction ms using List.reverseRecOn generalizing u with
  | nil => exact ⟨u, by rwa [List.append_nil] at h, .refl u⟩
  | append_singleton ms l ih =>
    rw [← List.append_assoc] at h
    obtain ⟨v, hrun, -, hstep⟩ := h.last
    obtain ⟨t, h1, h2⟩ := ih hrun
    exact ⟨t, h1, .tail h2 trivial hstep⟩

/-- **The rank rule**: where no step of a run raises a rank and every step a test singles out lowers
it or leaves it at nothing, the rank has gone to nothing or down by the number of those steps. -/
theorem Run.rank_le (P : σ → Prop) (works : Λ → Bool) (rank : σ → ℕ)
    (hstep : ∀ t l u, P t → M.step t l = some u →
      P u ∧ rank u ≤ rank t ∧ (works l = true → rank u = 0 ∨ rank u < rank t))
    (h : M.Run s ls t) (h0 : P s) : P t ∧ (rank t = 0 ∨ rank t + ls.countP works ≤ rank s) := by
  induction h with
  | refl => exact ⟨h0, .inr (by simp)⟩
  | @tail t u ls l _ _ hs ih =>
    obtain ⟨hP, hrank⟩ := ih
    obtain ⟨hP', hle, hwork⟩ := hstep t l u hP hs
    refine ⟨hP', ?_⟩
    rw [List.countP_append, List.countP_singleton]
    split
    next hl =>
      have := hwork hl
      omega
    next => omega

/-- **The rank rule**, where every such step lowers the rank: a run takes at most as many of them as
the rank says. -/
theorem Run.countP_le (P : σ → Prop) (works : Λ → Bool) (rank : σ → ℕ)
    (hstep : ∀ t l u, P t → M.step t l = some u →
      P u ∧ rank u ≤ rank t ∧ (works l = true → rank u < rank t))
    (h : M.Run s ls t) (h0 : P s) : ls.countP works ≤ rank s := by
  have hrank := Run.rank_le P works (fun t => rank t + 1) (fun t l u hP hs => ?_) h h0
  · omega
  · obtain ⟨hPu, hle, hworks⟩ := hstep t l u hP hs
    exact ⟨hPu, by omega, fun hl => .inr (by have := hworks hl; omega)⟩

/-! ## Parts of a machine -/

section Project

variable {τ Κ : Type*} {N : Machine τ Κ} {Good' : List Κ → τ → Κ → Prop}

/-- **Projection**: if every step of the whole is, for the part, a step of its own or nothing at
all, a run of the whole is a run of the part. -/
theorem RunWith.project (part : σ → τ) (label : Λ → Option Κ)
    (hstep : ∀ ls t l u, M.RunWith Good s ls t → Good ls t l → M.step t l = some u →
      match label l with
      | none => part u = part t
      | some k => Good' (ls.filterMap label) (part t) k ∧ N.step (part t) k = some (part u))
    (h : M.RunWith Good s ls t) : N.RunWith Good' (part s) (ls.filterMap label) (part t) := by
  induction h with
  | refl => exact .refl _
  | @tail t u ls l hrun hgood hs ih =>
    have := hstep ls t l u hrun hgood hs
    rw [List.filterMap_append, List.filterMap_cons, List.filterMap_nil]
    cases hl : label l with
    | none =>
      rw [hl] at this
      rw [List.append_nil, this]
      exact ih
    | some k =>
      rw [hl] at this
      exact .tail ih this.1 this.2

end Project

/-! ## Running for ever -/

/-- An infinite run through labels that are all allowed. -/
def Endless (M : Machine σ Λ) (Ok : Λ → Prop) (s : σ) : Prop :=
  ∃ (ss : ℕ → σ) (ls : ℕ → Λ), ss 0 = s ∧ ∀ n, Ok (ls n) ∧ M.step (ss n) (ls n) = some (ss (n + 1))

section Endless

variable {Ok : Λ → Prop}

/-- **A machine runs for ever from any state of a set it need not leave.** -/
theorem endless_of_progress (P : σ → Prop)
    (hstep : ∀ t, P t → ∃ l u, Ok l ∧ M.step t l = some u ∧ P u) (h0 : P s) : M.Endless Ok s := by
  choose label next hok hnext hP using hstep
  let walk : {t // P t} → {t // P t} := fun t => ⟨next t.1 t.2, hP t.1 t.2⟩
  refine ⟨fun n => (walk^[n] ⟨s, h0⟩).1, fun n => label _ (walk^[n] ⟨s, h0⟩).2, rfl, fun n => ?_⟩
  refine ⟨hok _ _, ?_⟩
  beta_reduce
  rw [Function.iterate_succ_apply']
  exact hnext _ _

/-- A machine that runs for ever runs for any number of steps. -/
theorem Endless.run (h : M.Endless Ok s) (n : ℕ) :
    ∃ ls t, M.Run s ls t ∧ ls.length = n ∧ ∀ l ∈ ls, Ok l := by
  obtain ⟨ss, ls, rfl, hstep⟩ := h
  have hrun : ∀ n, M.Run (ss 0) ((List.range n).map ls) (ss n) := by
    intro n
    induction n with
    | zero => exact .refl _
    | succ n ih =>
      rw [List.range_succ, List.map_append]
      exact .tail ih trivial (hstep n).2
  refine ⟨(List.range n).map ls, ss n, hrun n, by simp, fun l hl => ?_⟩
  obtain ⟨k, -, rfl⟩ := List.mem_map.mp hl
  exact (hstep k).1

/-- **A machine does not run for ever from a state with a bound on its steps** that every allowed
step lowers. -/
theorem not_endless_of_bound (P : ℕ → σ → Prop)
    (hstep : ∀ n t l u, P n t → Ok l → M.step t l = some u → ∃ m < n, P m u) :
    ∀ (n : ℕ) (s : σ), P n s → ¬ M.Endless Ok s := by
  intro n
  induction n using Nat.strongRecOn with
  | ind n ih =>
    rintro s hs ⟨ss, ls, rfl, h⟩
    obtain ⟨m, hm, hP⟩ := hstep n _ _ _ hs (h 0).1 (h 0).2
    exact ih m hm _ hP ⟨fun k => ss (k + 1), fun k => ls (k + 1), rfl, fun k => h (k + 1)⟩

end Endless

/-! ## Evaluating a run -/

/-- Driving the machine through a list of labels. -/
def exec (M : Machine σ Λ) : σ → List Λ → Option σ
  | s, [] => some s
  | s, l :: ls => (M.step s l).bind fun t => M.exec t ls

/-- What `exec` reaches, a run reaches. -/
theorem exec_run (h : M.exec s ls = some t) : M.Run s ls t := by
  induction ls generalizing s with
  | nil => cases h; exact .refl _
  | cons l ls ih =>
    obtain ⟨u, hs, hu⟩ := Option.bind_eq_some_iff.mp h
    exact Run.head hs (ih hu)

theorem exec_append (s : σ) (ls ms : List Λ) :
    M.exec s (ls ++ ms) = (M.exec s ls).bind fun t => M.exec t ms := by
  induction ls generalizing s with
  | nil => rfl
  | cons l ls ih =>
    simp only [List.cons_append, exec]
    cases M.step s l with
    | none => rfl
    | some t => exact ih t

theorem exec_trans (h : M.exec s ls = some t) (h' : M.exec t ms = some u) :
    M.exec s (ls ++ ms) = some u := by
  rw [exec_append, h]
  exact h'

/-- What a run reaches, `exec` reaches. -/
theorem run_exec (h : M.RunWith Good s ls t) : M.exec s ls = some t := by
  induction h with
  | refl => rfl
  | tail _ _ hstep ih =>
    rw [exec_append, ih]
    simp [exec, hstep]

/-- **Where steps are determined by what shows of their labels**, so is what a list of labels
reaches. -/
theorem exec_determined {Κ : Type*} (f : Λ → Κ) (Ok : Κ → Prop)
    (hstep : ∀ s l l' t t', Ok (f l) → f l = f l' → M.step s l = some t → M.step s l' = some t' →
      t = t') {ls' : List Λ} {t' : σ} (hok : ∀ k ∈ ls.map f, Ok k) (hf : ls.map f = ls'.map f)
    (h : M.exec s ls = some t) (h' : M.exec s ls' = some t') : t = t' := by
  induction ls generalizing s ls' with
  | nil =>
    obtain rfl := List.map_eq_nil_iff.mp hf.symm
    exact Option.some.inj (h.symm.trans h')
  | cons l ls ih =>
    cases ls' with
    | nil => cases hf
    | cons l' ls' =>
      obtain ⟨hl, hls⟩ := List.cons.inj hf
      obtain ⟨hokl, hokls⟩ := List.forall_mem_cons.mp hok
      obtain ⟨u, hs, hu⟩ := Option.bind_eq_some_iff.mp h
      obtain ⟨u', hs', hu'⟩ := Option.bind_eq_some_iff.mp h'
      obtain rfl := hstep s l l' u u' hokl hl hs hs'
      exact ih hokls hls hu hu'

/-- What `exec` reaches through labels that all pass a test. -/
theorem exec_runWith {ok : Λ → Bool} (h : M.exec s ls = some t) (hok : ls.all ok = true) :
    M.RunWith (fun _ _ l => ok l = true) s ls t := by
  induction ls using List.reverseRecOn generalizing t with
  | nil => cases h; exact .refl _
  | append_singleton ls l ih =>
    obtain ⟨u, hrun, -, hstep⟩ := (exec_run h).last
    rw [List.all_append, Bool.and_eq_true, List.all_cons, List.all_nil, Bool.and_true] at hok
    exact .tail (ih (run_exec hrun) hok.1) hok.2 hstep

end Machine

end DocaCpp
