/-
# What a machine can still do

A machine that is not stuck need not be able to get anywhere.  `M.Can ok P s` says that it can:
from `s` some labels, all of them allowed, lead to a state in which `P` holds.  Such a statement is
put together from its parts: nothing (`Can.here`), one step and the rest (`Can.step`), one goal
after another (`Can.andThen`), and a step that is repeated until a number has run down
(`Can.countdown`).  A machine that can follow each step of another can do what the other can
(`Can.follow`).

Where one and the same label is all that is left, how often it can come is part of the question:
`exec_replicate` is the rule for a machine that is driven by it until it is done.
-/
import DocaCpp.Lib.Machine

namespace DocaCpp

namespace Machine

variable {σ Λ : Type*} {M : Machine σ Λ} {ok : Λ → Prop} {P Q : σ → Prop} {s t : σ} {l : Λ}

/-- From `s` the machine can get to `P`, through labels that are all allowed. -/
def Can (M : Machine σ Λ) (ok : Λ → Prop) (P : σ → Prop) (s : σ) : Prop :=
  ∃ ls t, M.exec s ls = some t ∧ (∀ l ∈ ls, ok l) ∧ P t

theorem Can.here (h : P s) : M.Can ok P s :=
  ⟨[], s, rfl, fun _ hm => (nomatch hm), h⟩

theorem Can.step (hl : ok l) (hs : M.step s l = some t) (h : M.Can ok P t) : M.Can ok P s := by
  obtain ⟨ls, u, hexec, hok, hu⟩ := h
  exact ⟨l :: ls, u, Option.bind_eq_some_iff.mpr ⟨t, hs, hexec⟩, List.forall_mem_cons.mpr ⟨hl, hok⟩,
    hu⟩

/-- One goal after another. -/
theorem Can.andThen (h : M.Can ok Q s) (hrest : ∀ t, Q t → M.Can ok P t) : M.Can ok P s := by
  obtain ⟨ls, t, hexec, hok, ht⟩ := h
  obtain ⟨ms, u, hexec', hok', hu⟩ := hrest t ht
  exact ⟨ls ++ ms, u, exec_trans hexec hexec', List.forall_mem_append.mpr ⟨hok, hok'⟩, hu⟩

theorem Can.mono (h : M.Can ok Q s) (hQ : ∀ t, Q t → P t) : M.Can ok P s :=
  h.andThen fun t ht => .here (hQ t ht)

/-- **A step that is repeated** until a number has run down. -/
theorem Can.countdown {Q : ℕ → σ → Prop}
    (hstep : ∀ n t, Q (n + 1) t → ∃ l u, ok l ∧ M.step t l = some u ∧ Q n u) :
    ∀ (n : ℕ) (s : σ), Q n s → M.Can ok (Q 0) s := by
  intro n
  induction n with
  | zero => exact fun s h => .here h
  | succ n ih =>
    intro s h
    obtain ⟨l, u, hl, hs, hu⟩ := hstep n s h
    exact .step hl hs (ih u hu)

/-- **A machine that only one label drives on** is done after no more steps than a rank says, where
each of them lowers the rank. -/
theorem exec_replicate (rank : σ → ℕ)
    (hstep : ∀ s, P s → Q s ∨ ∃ t, M.step s l = some t ∧ P t ∧ rank t < rank s) (h : P s) :
    ∃ n ≤ rank s, ∃ t, M.exec s (List.replicate n l) = some t ∧ P t ∧ Q t := by
  generalize hk : rank s = k
  induction k using Nat.strongRecOn generalizing s with
  | ind k ih =>
    subst hk
    rcases hstep s h with hdone | ⟨t, hs, ht, hlt⟩
    · exact ⟨0, Nat.zero_le _, s, rfl, h, hdone⟩
    · obtain ⟨n, hn, u, hexec, hu⟩ := ih (rank t) hlt ht rfl
      refine ⟨n + 1, by omega, u, ?_, hu⟩
      exact Option.bind_eq_some_iff.mpr ⟨t, hs, hexec⟩

section Follow

variable {τ Κ : Type*} {N : Machine τ Κ} {ok' : Κ → Prop} {R : σ → τ → Prop} {v : τ}

/-- **A machine that can follow every step** can do what the other can. -/
theorem Can.follow (label : Λ → Κ)
    (hstep : ∀ s v l t, R s v → ok l → M.step s l = some t →
      ok' (label l) ∧ ∃ w, N.step v (label l) = some w ∧ R t w)
    (h : M.Can ok P s) (hR : R s v) : N.Can ok' (fun w => ∃ t, R t w ∧ P t) v := by
  obtain ⟨ls, t, hexec, hok, ht⟩ := h
  induction ls generalizing s v with
  | nil =>
    cases hexec
    exact .here ⟨_, hR, ht⟩
  | cons l ls ih =>
    obtain ⟨u, hs, hexec⟩ := Option.bind_eq_some_iff.mp hexec
    obtain ⟨hl, hls⟩ := List.forall_mem_cons.mp hok
    obtain ⟨hl', w, hw, hRw⟩ := hstep s v l u hR hl hs
    exact .step hl' hw (ih hRw hexec hls)

end Follow

end Machine

end DocaCpp
