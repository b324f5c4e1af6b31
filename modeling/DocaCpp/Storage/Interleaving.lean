/-
# Several threads in `TryLockEndpointsByPath`

`TryLockEndpointsByPath` takes `endpointMutex` for one endpoint at a time, so what is atomic is one
visit, not the call.  Here any number of callers scan one map, each at its own speed.  A caller that
is left alone does what the sequential scan does (`Visits.outcome_step`); callers that overtake each
other between two endpoints of the path can both come back with `true`.

`exclusive_lock_iff` says that this happens as soon as there are two endpoints under the path and
two callers.
-/
import DocaCpp.Endpoint
import DocaCpp.Lib.Machine
import Mathlib.Data.Fintype.EquivFin

namespace DocaCpp

/-! ## 1. Callers and their visits -/

/-- The local variables of a call: how many entries of the map it has visited, `wasLocked` and
`pathFound`. -/
structure TryLockCall where
  visited : ℕ := 0
  wasLocked : Bool := false
  pathFound : Bool := false

/-- The map, and the calls in progress. -/
structure Visits (ι : Type) where
  entries : List StorageEntry
  calls : ι → TryLockCall

namespace Visits

variable {ι : Type} [DecidableEq ι]

/-- Every caller in front of the first entry. -/
def start (ι : Type) (storage : RdmaEndpointStorage) : Visits ι :=
  ⟨storage.endpointsMap, fun _ => {}⟩

/-- The local variables of one caller, overwritten. -/
def setCall (s : Visits ι) (i : ι) (call : TryLockCall) : Visits ι :=
  { s with calls := Function.update s.calls i call }

@[simp] theorem setCall_entries (s : Visits ι) (i : ι) (call : TryLockCall) :
    (s.setCall i call).entries = s.entries := rfl

@[simp] theorem setCall_same (s : Visits ι) (i : ι) (call : TryLockCall) :
    (s.setCall i call).calls i = call := Function.update_self ..

theorem setCall_other (s : Visits ι) {i j : ι} (h : j ≠ i) (call : TryLockCall) :
    (s.setCall i call).calls j = s.calls j := Function.update_of_ne h ..

/-- One visit of a caller: one pass of the loop of `TryLockEndpointsByPath`. -/
def visit (path : RdmaEndpointPath) (s : Visits ι) (i : ι) : Option (Visits ι) :=
  let call := s.calls i
  match s.entries[call.visited]? with
  | none => none
  | some x =>
    if x.2.endpoint.path = path then
      -- under `endpointMutex`
      if !x.2.endpointLocked then
        let entry := (x.1, { x.2 with endpointLocked := true })
        some ({ s with entries := s.entries.set call.visited entry }.setCall i
          { call with visited := call.visited + 1, wasLocked := true, pathFound := true })
      else
        some (s.setCall i { call with visited := call.visited + 1, pathFound := true })
    else
      some (s.setCall i { call with visited := call.visited + 1 })

/-- The callers as a machine: a label says whose turn it is. -/
def machine (path : RdmaEndpointPath) : Machine (Visits ι) ι where
  step := visit path

/-- The caller has left the loop. -/
def Completed (s : Visits ι) (i : ι) : Prop := s.entries.length ≤ (s.calls i).visited

/-- What a call returns. -/
def answer (s : Visits ι) (i : ι) : Bool × error :=
  ((s.calls i).wasLocked,
    if !(s.calls i).pathFound then some (.new "No endpoints with specified path found") else none)

/-! ## 2. What one visit does -/

section Visit

variable {path : RdmaEndpointPath} {s t : Visits ι} {i j : ι}

/-- **What a visit does**: it passes an entry of another path, passes a locked one, or locks a free
one. -/
theorem visit_cases (h : visit path s i = some t) :
    ∃ x, s.entries[(s.calls i).visited]? = some x ∧
      ((x.2.endpoint.path ≠ path ∧
          t = s.setCall i { s.calls i with visited := (s.calls i).visited + 1 }) ∨
        (x.2.endpoint.path = path ∧ x.2.endpointLocked = true ∧
          t = s.setCall i
            { s.calls i with visited := (s.calls i).visited + 1, pathFound := true }) ∨
        (x.2.endpoint.path = path ∧ x.2.endpointLocked = false ∧
          t = { s with
              entries := s.entries.set (s.calls i).visited
                (x.1, { x.2 with endpointLocked := true }) }.setCall i
            { visited := (s.calls i).visited + 1, wasLocked := true, pathFound := true })) := by
  simp only [visit] at h
  split at h
  · cases h
  · rename_i x hx
    refine ⟨x, hx, ?_⟩
    split at h
    · rename_i hp
      split at h
      · rename_i hl
        exact .inr (.inr ⟨hp, by simpa using hl, (Option.some.inj h).symm⟩)
      · rename_i hl
        exact .inr (.inl ⟨hp, by simpa using hl, (Option.some.inj h).symm⟩)
    · rename_i hp
      exact .inl ⟨hp, (Option.some.inj h).symm⟩

/-- A caller that has not left the loop can take its turn. -/
theorem exists_visit (path : RdmaEndpointPath) (h : ¬ s.Completed i) :
    ∃ t, visit path s i = some t := by
  obtain ⟨x, hx⟩ : ∃ x, s.entries[(s.calls i).visited]? = some x :=
    ⟨_, List.getElem?_eq_getElem (Nat.lt_of_not_le h)⟩
  simp only [visit, hx]
  split
  · split <;> exact ⟨_, rfl⟩
  · exact ⟨_, rfl⟩

theorem visit_other (h : visit path s i = some t) (hj : j ≠ i) : t.calls j = s.calls j := by
  obtain ⟨x, -, ⟨-, rfl⟩ | ⟨-, -, rfl⟩ | ⟨-, -, rfl⟩⟩ := visit_cases h <;>
    exact setCall_other _ hj _

theorem visit_visited (h : visit path s i = some t) :
    (t.calls i).visited = (s.calls i).visited + 1 := by
  obtain ⟨x, -, ⟨-, rfl⟩ | ⟨-, -, rfl⟩ | ⟨-, -, rfl⟩⟩ := visit_cases h <;> rw [setCall_same]

theorem visit_length (h : visit path s i = some t) : t.entries.length = s.entries.length := by
  obtain ⟨x, -, ⟨-, rfl⟩ | ⟨-, -, rfl⟩ | ⟨-, -, rfl⟩⟩ := visit_cases h <;>
    simp only [setCall_entries, List.length_set]

/-- What the sequential scan makes of the rest of the map, from where a caller stands: its answer
and the map it leaves. -/
def outcome (path : RdmaEndpointPath) (s : Visits ι) (i : ι) :
    Bool × Bool × List StorageEntry :=
  let call := s.calls i
  let r := RdmaEndpointStorage.tryLockLoop path (s.entries.drop call.visited) call.wasLocked
    call.pathFound
  (r.1, r.2.1, s.entries.take call.visited ++ r.2.2)

/-- **A visit is a pass of the sequential scan.** -/
theorem outcome_step (h : visit path s i = some t) : outcome path t i = outcome path s i := by
  obtain ⟨x, hx, hcase⟩ := visit_cases h
  obtain ⟨hlt, hget⟩ := List.getElem?_eq_some_iff.mp hx
  have hdrop : s.entries.drop (s.calls i).visited
      = x :: s.entries.drop ((s.calls i).visited + 1) := by
    rw [← hget]
    exact List.drop_eq_getElem_cons hlt
  have htake : s.entries.take ((s.calls i).visited + 1)
      = s.entries.take (s.calls i).visited ++ [x] := by
    rw [List.take_succ_eq_append_getElem hlt, hget]
  obtain ⟨id, endpoint, locked⟩ := x
  rcases hcase with ⟨hp, rfl⟩ | ⟨hp, hl, rfl⟩ | ⟨hp, hl, rfl⟩
  · simp only [outcome, setCall_entries, setCall_same, hdrop, htake,
      RdmaEndpointStorage.tryLockLoop, if_neg hp, List.append_assoc, List.singleton_append]
  · dsimp only at hl hp
    simp [outcome, hdrop, htake, RdmaEndpointStorage.tryLockLoop, hp, hl]
  · dsimp only at hl hp
    simp [outcome, hdrop, RdmaEndpointStorage.tryLockLoop, hp, hl, hlt,
      List.take_succ_eq_append_getElem, List.take_set_of_le, List.drop_set_of_lt]

omit [DecidableEq ι] in
/-- Behind the last entry nothing is left of the scan. -/
theorem outcome_completed (h : s.Completed i) :
    outcome path s i = ((s.calls i).wasLocked, (s.calls i).pathFound, s.entries) := by
  simp only [outcome, List.drop_eq_nil_of_le h, RdmaEndpointStorage.tryLockLoop,
    List.append_nil, List.take_of_length_le h]

end Visit

/-! ## 3. Taking turns -/

section Turns

variable {path : RdmaEndpointPath} {s t : Visits ι} {i j : ι} {ls : List ι}

theorem length_run (h : (machine path).Run s ls t) : t.entries.length = s.entries.length := by
  induction h with
  | refl => rfl
  | tail _ _ hs ih => exact (visit_length hs).trans ih

/-- A caller stays where it is while the others take turns. -/
theorem run_other (h : (machine path).Run s ls t) (hls : j ∉ ls) : t.calls j = s.calls j := by
  induction h with
  | refl => rfl
  | tail _ _ hs ih =>
    rw [List.mem_append, not_or] at hls
    rw [visit_other hs (fun he => hls.2 (by simp [he])), ih hls.1]

/-- Turns of one caller are passes of one scan. -/
theorem outcome_run (h : (machine path).Run s ls t) (hls : ∀ l ∈ ls, l = i) :
    outcome path t i = outcome path s i := by
  induction h with
  | refl => rfl
  | @tail t u ls l _ _ hs ih =>
    have hl : l = i := hls l (by simp)
    subst hl
    rw [outcome_step hs]
    exact ih fun k hk => hls k (by simp [hk])

/-- **A caller that is alone is `TryLockEndpointsByPath`.** -/
theorem alone_refines {storage : RdmaEndpointStorage}
    (h : (machine path).Run (start ι storage) ls t) (hls : ∀ l ∈ ls, l = i)
    (hc : t.Completed i) :
    t.answer i = (storage.tryLockEndpointsByPath path).1 ∧
      t.entries = (storage.tryLockEndpointsByPath path).2.endpointsMap := by
  have hout : outcome path t i = RdmaEndpointStorage.tryLockLoop path storage.endpointsMap
      false false := by
    rw [outcome_run h hls]
    simp [outcome, start]
  rw [outcome_completed hc] at hout
  simp only [answer, RdmaEndpointStorage.tryLockEndpointsByPath, ← hout]
  exact ⟨trivial, trivial⟩

/-- A caller that keeps taking turns leaves the loop. -/
theorem exists_finish (path : RdmaEndpointPath) (s : Visits ι) (i : ι) :
    ∃ ls t, (machine path).Run s ls t ∧ (∀ l ∈ ls, l = i) ∧ t.Completed i := by
  induction hn : s.entries.length - (s.calls i).visited generalizing s with
  | zero => exact ⟨[], s, .refl s, by simp, by unfold Completed; omega⟩
  | succ n ih =>
    obtain ⟨t, ht⟩ := exists_visit path (s := s) (i := i) (by unfold Completed; omega)
    obtain ⟨ls, u, hrun, hls, hu⟩ := ih t (by rw [visit_length ht, visit_visited ht]; omega)
    refine ⟨i :: ls, u, Machine.Run.head ht hrun, ?_, hu⟩
    intro l hl
    rcases List.mem_cons.mp hl with rfl | hl
    · rfl
    · exact hls l hl

omit [DecidableEq ι] in
/-- A caller that has locked something returns true in the end. -/
theorem wasLocked_outcome (h : (s.calls i).wasLocked = true) : (outcome path s i).1 = true := by
  simp [outcome, (RdmaEndpointStorage.tryLockLoop_answer path _ _ _).1, h]

omit [DecidableEq ι] in
/-- The answer of a caller that has left the loop is the one its scan was bound for. -/
theorem wasLocked_completed (path : RdmaEndpointPath) (h : s.Completed i) :
    (s.calls i).wasLocked = (outcome path s i).1 := by
  rw [outcome_completed h]

/-- The callers can all leave the loop, and who has locked something by then returns true. -/
theorem exists_all_completed (path : RdmaEndpointPath) (s : Visits ι) (is : List ι) :
    ∃ ls t, (machine path).Run s ls t ∧ (∀ i ∈ is, t.Completed i) ∧
      ∀ i, (s.calls i).wasLocked = true → (t.calls i).wasLocked = true := by
  induction is with
  | nil => exact ⟨[], s, .refl s, by simp, fun _ h => h⟩
  | cons i is ih =>
    obtain ⟨ls, t, hrun, hdone, hkept⟩ := ih
    obtain ⟨ms, u, hrun', hms, hu⟩ := exists_finish path t i
    have hother : ∀ j, j ≠ i → u.calls j = t.calls j := fun j hj =>
      run_other hrun' fun hmem => hj (hms j hmem)
    refine ⟨ls ++ ms, u, hrun.append hrun', fun j hj => ?_, fun j hj => ?_⟩
    · rcases eq_or_ne j i with rfl | hne
      · exact hu
      · have hmem := (List.mem_cons.mp hj).resolve_left hne
        unfold Completed
        rw [hother j hne, length_run hrun']
        exact hdone j hmem
    · rcases eq_or_ne j i with rfl | hne
      · rw [wasLocked_completed path hu, outcome_run hrun' hms]
        exact wasLocked_outcome (hkept j hj)
      · rw [hother j hne]
        exact hkept j hj

end Turns

/-! ## 4. Who returns true -/

section Winners

variable {path : RdmaEndpointPath} {s t : Visits ι} {i j : ι} {ls : List ι} {k l : ℕ}

/-- The entry at `k` is one of the path. -/
def OfPath (path : RdmaEndpointPath) (s : Visits ι) (k : ℕ) : Prop :=
  ∃ x, s.entries[k]? = some x ∧ x.2.endpoint.path = path

/-- The entry at `k` is locked. -/
def LockedAt (s : Visits ι) (k : ℕ) : Prop :=
  ∃ x, s.entries[k]? = some x ∧ x.2.endpointLocked = true

/-- **What a visit does, entry by entry**: no endpoint moves, and the only flag that may change is
the one in front of the caller, if it is of the path. -/
theorem visit_entries (h : visit path s i = some t) (k : ℕ) :
    (OfPath path t k ↔ OfPath path s k) ∧
      (LockedAt t k ↔ LockedAt s k ∨ k = (s.calls i).visited ∧ OfPath path s k) := by
  obtain ⟨x, hx, hcase⟩ := visit_cases h
  have hlt := (List.getElem?_eq_some_iff.mp hx).1
  rcases hcase with ⟨hp, rfl⟩ | ⟨hp, hl, rfl⟩ | ⟨hp, hl, rfl⟩
  · refine ⟨Iff.rfl, (or_iff_left ?_).symm⟩
    rintro ⟨rfl, y, hy, hpy⟩
    rw [hx] at hy
    cases hy
    exact hp hpy
  · refine ⟨Iff.rfl, (or_iff_left_of_imp ?_).symm⟩
    rintro ⟨rfl, -⟩
    exact ⟨x, hx, hl⟩
  · unfold OfPath LockedAt
    simp only [setCall_entries]
    rcases eq_or_ne k (s.calls i).visited with rfl | hne
    · simp [List.getElem?_set_self hlt, hx, hp]
    · simp [List.getElem?_set_ne hne.symm, hne]

/-- **What a visit does to the answer**: it becomes true where a free entry of the path is met. -/
theorem visit_wasLocked (h : visit path s i = some t) :
    (t.calls i).wasLocked = true ↔ (s.calls i).wasLocked = true ∨
      OfPath path s (s.calls i).visited ∧ ¬ LockedAt s (s.calls i).visited := by
  obtain ⟨x, hx, hcase⟩ := visit_cases h
  have hpath : OfPath path s (s.calls i).visited ↔ x.2.endpoint.path = path := by
    simp [OfPath, hx]
  have hlocked : LockedAt s (s.calls i).visited ↔ x.2.endpointLocked = true := by
    simp [LockedAt, hx]
  rw [hpath, hlocked]
  rcases hcase with ⟨hp, rfl⟩ | ⟨hp, hl, rfl⟩ | ⟨hp, hl, rfl⟩ <;> rw [setCall_same] <;>
    simp [*]

/-- What holds of the callers, however they take turns. -/
structure Scanned (path : RdmaEndpointPath) (s : Visits ι) : Prop where
  /-- what a caller has passed is locked -/
  passed : ∀ i k, k < (s.calls i).visited → OfPath path s k → LockedAt s k
  /-- what is locked, somebody has locked -/
  won : ∀ k, OfPath path s k → LockedAt s k → ∃ i, (s.calls i).wasLocked = true

/-- Nobody's answer goes back to false. -/
theorem visit_keeps (h : visit path s i = some t) (hj : (s.calls j).wasLocked = true) :
    (t.calls j).wasLocked = true := by
  rcases eq_or_ne j i with rfl | hne
  · exact (visit_wasLocked h).mpr (.inl hj)
  · rwa [visit_other h hne]

theorem Scanned.visit (h : Scanned path s) (hs : visit path s i = some t) : Scanned path t := by
  constructor
  · intro j k hk hp
    obtain ⟨hpath, hlocked⟩ := visit_entries hs k
    rw [hlocked]
    rw [hpath] at hp
    rcases eq_or_ne j i with rfl | hne
    · rw [visit_visited hs] at hk
      rcases Nat.lt_succ_iff_lt_or_eq.mp hk with hk | rfl
      · exact .inl (h.passed j k hk hp)
      · exact .inr ⟨rfl, hp⟩
    · rw [visit_other hs hne] at hk
      exact .inl (h.passed j k hk hp)
  · intro k hp hl
    obtain ⟨hpath, hlocked⟩ := visit_entries hs k
    rw [hpath] at hp
    by_cases hls : LockedAt s k
    · obtain ⟨j, hj⟩ := h.won k hp hls
      exact ⟨j, visit_keeps hs hj⟩
    · obtain ⟨rfl, -⟩ := (hlocked.mp hl).resolve_left hls
      exact ⟨i, (visit_wasLocked hs).mpr (.inr ⟨hp, hls⟩)⟩

omit [DecidableEq ι] in
/-- A scan that has not begun. -/
theorem scanned_start {storage : RdmaEndpointStorage} (h : storage.Flagged path false) :
    Scanned path (start ι storage) := by
  constructor
  · intro i k hk
    exact absurd hk (Nat.not_lt_zero k)
  · rintro k ⟨x, hx, hp⟩ ⟨y, hy, hl⟩
    rw [hx] at hy
    cases hy
    exact absurd (hl.symm.trans (h x (List.mem_of_getElem? hx) hp)) Bool.false_ne_true.symm

theorem Scanned.run (h : Scanned path s) (hr : (machine path).Run s ls t) : Scanned path t := by
  induction hr with
  | refl => exact h
  | tail _ _ hs ih => exact ih.visit hs

theorem ofPath_run (hr : (machine path).Run s ls t) (k : ℕ) :
    OfPath path t k ↔ OfPath path s k := by
  induction hr with
  | refl => exact Iff.rfl
  | tail _ _ hs ih => exact (visit_entries hs k).1.trans ih

omit [DecidableEq ι] in
/-- **Somebody returns true**, as long as there is an endpoint to lock. -/
theorem exists_winner [Nonempty ι] (h : Scanned path s) (hp : OfPath path s k)
    (hc : ∀ i, s.Completed i) : ∃ i, (s.calls i).wasLocked = true := by
  obtain ⟨i⟩ := ‹Nonempty ι›
  have hk : k < (s.calls i).visited := by
    obtain ⟨x, hx, -⟩ := hp
    exact Nat.lt_of_lt_of_le (List.getElem?_eq_some_iff.mp hx).1 (hc i)
  exact h.won k hp (h.passed i k hk hp)

/-- What holds of the callers where only the entry at `k` is of the path. -/
structure SingleScanned (path : RdmaEndpointPath) (k : ℕ) (s : Visits ι) : Prop where
  single : ∀ l, OfPath path s l → l = k
  /-- who has locked something has locked it -/
  locked : ∀ i, (s.calls i).wasLocked = true → LockedAt s k
  unique : ∀ i j, (s.calls i).wasLocked = true → (s.calls j).wasLocked = true → i = j

theorem SingleScanned.visit (h : SingleScanned path k s) (hs : visit path s i = some t) :
    SingleScanned path k t := by
  have hlocked : ∀ {l}, LockedAt s l → LockedAt t l := fun {l} hl =>
    (visit_entries hs l).2.mpr (.inl hl)
  -- who has locked something had done so before, or has just locked the entry
  have hnew : ∀ j, (t.calls j).wasLocked = true →
      (s.calls j).wasLocked = true ∨ (j = i ∧ ¬ LockedAt s k ∧ LockedAt t k) := by
    intro j hj
    rcases eq_or_ne j i with rfl | hne
    · refine ((visit_wasLocked hs).mp hj).imp_right fun ⟨hp, hl⟩ => ?_
      obtain rfl := h.single _ hp
      exact ⟨rfl, hl, (visit_entries hs _).2.mpr (.inr ⟨rfl, hp⟩)⟩
    · rw [visit_other hs hne] at hj
      exact .inl hj
  refine ⟨fun l hl => ?_, fun j hj => ?_, fun a b ha hb => ?_⟩
  · exact h.single l ((visit_entries hs l).1.mp hl)
  · rcases hnew j hj with hj | ⟨-, -, hl⟩
    · exact hlocked (h.locked j hj)
    · exact hl
  · rcases hnew a ha with ha | ⟨rfl, hla, -⟩
    · rcases hnew b hb with hb | ⟨rfl, hlb, -⟩
      · exact h.unique a b ha hb
      · exact absurd (h.locked a ha) hlb
    · rcases hnew b hb with hb | ⟨rfl, -, -⟩
      · exact absurd (h.locked b hb) hla
      · rfl

theorem SingleScanned.run (h : SingleScanned path k s) (hr : (machine path).Run s ls t) :
    SingleScanned path k t := by
  induction hr with
  | refl => exact h
  | tail _ _ hs ih => exact ih.visit hs

/-- A caller can take turns up to any entry, and touches none from there on. -/
theorem exists_visited (path : RdmaEndpointPath) (hk : (s.calls i).visited ≤ k)
    (hle : k ≤ s.entries.length) :
    ∃ ls t, (machine path).Run s ls t ∧ (∀ l ∈ ls, l = i) ∧ (t.calls i).visited = k ∧
      ∀ m, k ≤ m → (LockedAt t m ↔ LockedAt s m) := by
  induction hn : k - (s.calls i).visited generalizing s with
  | zero => exact ⟨[], s, .refl s, by simp, by omega, fun _ _ => Iff.rfl⟩
  | succ n ih =>
    obtain ⟨t, ht⟩ := exists_visit path (s := s) (i := i) (by unfold Completed; omega)
    have hvisited := visit_visited ht
    obtain ⟨ls, u, hrun, hls, hu, hkept⟩ := ih (s := t) (by omega) (by rwa [visit_length ht])
      (by omega)
    refine ⟨i :: ls, u, Machine.Run.head ht hrun, ?_, hu, fun m hm => ?_⟩
    · intro l hl
      rcases List.mem_cons.mp hl with rfl | hl
      · rfl
      · exact hls l hl
    · rw [hkept m hm, (visit_entries ht m).2, or_iff_left]
      rintro ⟨rfl, -⟩
      omega

/-- **Two callers and two endpoints of the path**: the first caller locks the first of them and is
overtaken by the second caller, which locks the second. -/
theorem exists_two_winners [Fintype ι] {storage : RdmaEndpointStorage}
    (hfree : storage.Flagged path false) (hij : i ≠ j) (hkl : k < l)
    (hk : OfPath path (start ι storage) k) (hl : OfPath path (start ι storage) l) :
    ∃ ls t, (machine path).Run (start ι storage) ls t ∧ (∀ m, t.Completed m) ∧
      (t.calls i).wasLocked = true ∧ (t.calls j).wasLocked = true := by
  have hlen : l < (start ι storage).entries.length := by
    obtain ⟨x, hx, -⟩ := hl
    exact (List.getElem?_eq_some_iff.mp hx).1
  have hlfree : ¬ LockedAt (start ι storage) l := by
    intro hlocked
    obtain ⟨m, hm⟩ := (scanned_start hfree).won l hl hlocked
    exact absurd hm Bool.false_ne_true
  -- the first caller comes as far as the first endpoint
  obtain ⟨ls, t, hrun, hls, hvisited, hkept⟩ := exists_visited path (i := i)
    (s := start ι storage) (k := k + 1) (Nat.zero_le _) (by omega)
  have hjls : j ∉ ls := fun hmem => hij (hls j hmem).symm
  have hlocked : LockedAt t k := ((scanned_start hfree).run hrun).passed i k (by omega)
    ((ofPath_run hrun k).mpr hk)
  have hi : (t.calls i).wasLocked = true := by
    obtain ⟨m, hm⟩ := ((scanned_start hfree).run hrun).won k ((ofPath_run hrun k).mpr hk) hlocked
    rcases eq_or_ne m i with rfl | hne
    · exact hm
    · rw [run_other hrun fun hmem => hne (hls m hmem)] at hm
      exact absurd hm Bool.false_ne_true
  -- the second caller runs through, and the second endpoint is still free
  obtain ⟨ms, u, hrun', hms, hu⟩ := exists_finish path t j
  have hj : (u.calls j).wasLocked = true := by
    rw [wasLocked_completed path hu, outcome_run hrun' hms]
    obtain ⟨x, hx, hp⟩ := (ofPath_run hrun l).mpr hl
    have hxfree : x.2.endpointLocked = false := by
      by_contra hx'
      exact hlfree ((hkept l (by omega)).mp ⟨x, hx, by simpa using hx'⟩)
    simp only [outcome, (RdmaEndpointStorage.tryLockLoop_answer path _ _ _).1, run_other hrun hjls]
    simp only [start, List.drop_zero, Bool.false_or, List.any_eq_true]
    exact ⟨x, List.mem_of_getElem? hx, by simp [hp, hxfree]⟩
  -- everybody else may follow
  obtain ⟨ns, v, hrun'', hv, hkept'⟩ := exists_all_completed path u Finset.univ.toList
  refine ⟨ls ++ ms ++ ns, v, (hrun.append hrun').append hrun'', fun m => hv m (by simp), ?_, ?_⟩
  · refine hkept' i ?_
    rw [run_other hrun' fun hmem => hij (hms i hmem)]
    exact hi
  · exact hkept' j hj

end Winners

/-! ## 5. The lock under interleaving -/

section Exclusive

variable {ι : Type} [DecidableEq ι] [Fintype ι] [Nonempty ι]

/-- The endpoints of a path. -/
def endpointsOf (storage : RdmaEndpointStorage) (path : RdmaEndpointPath) : List StorageEntry :=
  storage.endpointsMap.filter fun x => x.2.endpoint.path = path

/-- Two different places of a path. -/
theorem exists_two_ofPath (ι : Type) {storage : RdmaEndpointStorage} {path : RdmaEndpointPath}
    (h : 1 < (endpointsOf storage path).length) :
    ∃ k l, k < l ∧ OfPath path (start ι storage) k ∧ OfPath path (start ι storage) l := by
  obtain ⟨x, y, rest, hxy⟩ : ∃ x y rest, endpointsOf storage path = x :: y :: rest := by
    match endpointsOf storage path, h with
    | x :: y :: rest, _ => exact ⟨x, y, rest, rfl⟩
  obtain ⟨l₁, l₂, hmap, -, hx, htail⟩ := List.filter_eq_cons_iff.mp hxy
  obtain ⟨m₁, m₂, rfl, -, hy, -⟩ := List.filter_eq_cons_iff.mp htail
  refine ⟨l₁.length, l₁.length + (m₁.length + 1), by omega, ⟨x, ?_, by simpa using hx⟩,
    ⟨y, ?_, by simpa using hy⟩⟩
  · simp [start, hmap]
  · simp [start, hmap]

/-- The only place of a path. -/
theorem exists_single_ofPath (ι : Type) {storage : RdmaEndpointStorage}
    {path : RdmaEndpointPath} (h : (endpointsOf storage path).length = 1) :
    ∃ k, ∀ l, OfPath path (start ι storage) l → l = k := by
  obtain ⟨x, hx⟩ := List.length_eq_one_iff.mp h
  obtain ⟨l₁, l₂, hmap, hl₁, -, hl₂⟩ := List.filter_eq_cons_iff.mp hx
  refine ⟨l₁.length, ?_⟩
  rintro l ⟨y, hy, hp⟩
  change storage.endpointsMap[l]? = some y at hy
  rw [hmap] at hy
  rcases Nat.lt_trichotomy l l₁.length with hlt | rfl | hgt
  · rw [List.getElem?_append_left hlt] at hy
    exact absurd (by simpa using hp) (hl₁ y (List.mem_of_getElem? hy))
  · rfl
  · obtain ⟨n, rfl⟩ := Nat.exists_eq_add_of_lt hgt
    rw [List.getElem?_append_right (by omega)] at hy
    have hn : l₁.length + n + 1 - l₁.length = n + 1 := by omega
    rw [hn, List.getElem?_cons_succ] at hy
    have hmem : y ∈ l₂.filter fun z => z.2.endpoint.path = path :=
      List.mem_filter.mpr ⟨List.mem_of_getElem? hy, by simpa using hp⟩
    rw [hl₂] at hmem
    exact absurd hmem List.not_mem_nil

/-- **When the lock excludes.**  Every way of interleaving the callers' visits lets exactly one of
them return true if and only if the path has one endpoint or there is one caller. -/
theorem exclusive_lock_iff (storage : RdmaEndpointStorage) (path : RdmaEndpointPath)
    (hpath : storage.HasPath path) (hfree : storage.Flagged path false) :
    (∀ (ls : List ι) (t : Visits ι), (machine path).Run (start ι storage) ls t →
        (∀ i, t.Completed i) → ∃! i, (t.answer i).1 = true) ↔
      (endpointsOf storage path).length = 1 ∨ Fintype.card ι = 1 := by
  obtain ⟨x, hx, hp⟩ := hpath
  obtain ⟨k, hk⟩ := List.mem_iff_getElem?.mp hx
  have hplace : OfPath path (start ι storage) k := ⟨x, hk, hp⟩
  constructor
  · intro h
    by_contra hboth
    rw [not_or] at hboth
    have hpos : 0 < (endpointsOf storage path).length :=
      List.length_pos_of_mem (List.mem_filter.mpr ⟨hx, by simpa using hp⟩)
    obtain ⟨k, l, hkl, hk, hl⟩ := exists_two_ofPath ι
      (show 1 < (endpointsOf storage path).length by omega)
    obtain ⟨i, j, hij⟩ := Fintype.one_lt_card_iff.mp
      (Nat.lt_of_le_of_ne (Fintype.card_pos (α := ι)) (Ne.symm hboth.2))
    obtain ⟨ls, t, hrun, hdone, hi, hj⟩ := exists_two_winners hfree hij hkl hk hl
    exact hij ((h ls t hrun hdone).unique hi hj)
  · intro h ls t hrun hdone
    obtain ⟨i, hi⟩ := exists_winner ((scanned_start hfree).run hrun)
      ((ofPath_run hrun k).mpr hplace) hdone
    refine ⟨i, hi, fun j hj => ?_⟩
    rcases h with hone | hone
    · obtain ⟨k, hsingle⟩ := exists_single_ofPath ι hone
      have hstart : SingleScanned path k (start ι storage) :=
        ⟨hsingle, fun _ h => absurd h Bool.false_ne_true,
          fun _ _ h => absurd h Bool.false_ne_true⟩
      exact (hstart.run hrun).unique j i hj hi
    · exact (Fintype.card_le_one_iff.mp hone.le) j i

end Exclusive

/-- A storage with one write endpoint. -/
def writeStorage : RdmaEndpointStorage :=
  (RdmaEndpointStorage.create.registerEndpoint (some ⟨[47], .write, none, none⟩)).2

/-- A storage with a write and a read endpoint under one path. -/
def readWriteStorage : RdmaEndpointStorage :=
  (writeStorage.registerEndpoint (some ⟨[47], .read, none, none⟩)).2

/-- Registration locks nothing, so a lookup is enough to call for the lock. -/
theorem path_of_registered {storage : RdmaEndpointStorage} {path : RdmaEndpointPath}
    {x : StorageEntry} (h : storage.Registered) (hx : storage.endpointsMap[0]? = some x)
    (hp : x.2.endpoint.path = path) : storage.HasPath path ∧ storage.Flagged path false :=
  ⟨⟨x, List.mem_of_getElem? hx, hp⟩, fun y hy _ => h.unlocked y hy⟩

theorem writeStorage_path : writeStorage.HasPath [47] ∧ writeStorage.Flagged [47] false :=
  path_of_registered (.register _ .create) rfl rfl

theorem readWriteStorage_path :
    readWriteStorage.HasPath [47] ∧ readWriteStorage.Flagged [47] false :=
  path_of_registered (.register _ (.register _ .create)) rfl rfl

/-- Three callers of a path with one endpoint. -/
theorem exclusive_lock_sample :
    (endpointsOf writeStorage [47]).length = 1 ∧
      ∀ (ls : List (Fin 3)) (t : Visits (Fin 3)), (machine [47]).Run (start _ writeStorage) ls t →
        (∀ i, t.Completed i) → ∃! i, (t.answer i).1 = true :=
  ⟨rfl, (exclusive_lock_iff writeStorage [47] writeStorage_path.1 writeStorage_path.2).mpr
    (.inl rfl)⟩

/-- One caller stops between the two endpoints, another one passes it: both return true. -/
theorem exclusive_lock_fails :
    readWriteStorage.HasPath [47] ∧ readWriteStorage.Flagged [47] false ∧
      ∃ (ls : List Bool) (t : Visits Bool), (machine [47]).Run (start _ readWriteStorage) ls t ∧
        (∀ i, t.Completed i) ∧ ¬ ∃! i, (t.answer i).1 = true := by
  refine ⟨readWriteStorage_path.1, readWriteStorage_path.2, [false, true, true, false], _,
    Machine.exec_run rfl, fun i => ?_, ?_⟩
  · cases i <;> exact Nat.le_refl 2
  · rintro ⟨i, -, hi⟩
    exact Bool.false_ne_true ((hi false rfl).trans (hi true rfl).symm)

end Visits

end DocaCpp
