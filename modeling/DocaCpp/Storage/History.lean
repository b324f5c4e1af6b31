/-
# The lock table over whole histories

The storage keeps one flag per ENDPOINT and the lock is one per PATH.  `LockTable` is the lock one
per path: which endpoints were accepted and which paths are held, computed from the calls alone.
The copies of a flag agree with it (`Copies.agree`) as long as nobody registers an endpoint under a
path that is held: the new copy starts unlocked, and the next `TryLockEndpointsByPath` finds it free
and grants the path a second time.

`lock_table_law_iff` says that this is the only way the law fails.
-/
import DocaCpp.Endpoint
import DocaCpp.Lib.History
import Mathlib.Logic.Function.Basic

namespace DocaCpp

namespace RdmaEndpointStorage

/-! ## 1. Histories of calls -/

/-- A call of the storage that registers, locks or unlocks. -/
inductive Call
  | registerEndpoint (endpoint : Option RdmaEndpoint)
  | tryLockEndpointsByPath (path : RdmaEndpointPath)
  | unlockEndpointsByPath (path : RdmaEndpointPath)
  deriving DecidableEq

/-- The storage a call leaves. -/
def next (storage : RdmaEndpointStorage) : Call → RdmaEndpointStorage
  | .registerEndpoint endpoint => (storage.registerEndpoint endpoint).2
  | .tryLockEndpointsByPath path => (storage.tryLockEndpointsByPath path).2
  | .unlockEndpointsByPath path => (storage.unlockEndpointsByPath path).2

/-- The call answers false or an error. -/
def Refuses (storage : RdmaEndpointStorage) : Call → Prop
  | .registerEndpoint endpoint => (storage.registerEndpoint endpoint).1 ≠ none
  | .tryLockEndpointsByPath path =>
    (storage.tryLockEndpointsByPath path).1.1 = false ∨
      (storage.tryLockEndpointsByPath path).1.2 ≠ none
  | .unlockEndpointsByPath path => (storage.unlockEndpointsByPath path).1 ≠ none

/-- `TryLockEndpointsByPath` answers true. -/
def Grants (storage : RdmaEndpointStorage) (path : RdmaEndpointPath) : Prop :=
  (storage.tryLockEndpointsByPath path).1.1 = true

/-- The storage behind a history of calls, from an empty one. -/
def after (calls : List Call) : RdmaEndpointStorage := calls.foldl next create

@[simp] theorem after_concat (calls : List Call) (c : Call) :
    after (calls ++ [c]) = (after calls).next c := by simp [after]

/-- A grant of the path was not followed by `UnlockEndpointsByPath` of it. -/
def Outstanding (calls : List Call) (path : RdmaEndpointPath) : Prop :=
  Since (fun pre c => c = .tryLockEndpointsByPath path ∧ (after pre).Grants path)
    (fun c => c = .unlockEndpointsByPath path) calls

/-- All endpoints sharing a path have equal flags. -/
def Uniform (storage : RdmaEndpointStorage) : Prop :=
  ∀ x ∈ storage.endpointsMap, ∀ y ∈ storage.endpointsMap,
    x.2.endpoint.path = y.2.endpoint.path → x.2.endpointLocked = y.2.endpointLocked

/-- **The lock table law** behind a history of calls. -/
structure Law (calls : List Call) : Prop where
  /-- the copies of a lock agree -/
  uniform : (after calls).Uniform
  /-- a lock is granted when the path exists and no grant of it is outstanding -/
  grants : ∀ path, (after calls).Grants path ↔
    (after calls).HasPath path ∧ ¬ Outstanding calls path
  /-- what is refused changes nothing -/
  refused : ∀ c, (after calls).Refuses c → (after calls).next c = after calls
  /-- a grant and the unlock after it restore the flags -/
  restored : ∀ path, (after calls).Grants path →
    ((after calls).next (.tryLockEndpointsByPath path)).next (.unlockEndpointsByPath path)
      = after calls
  /-- and so they do for the path, whatever is called between them -/
  released : ∀ path post flag, (after calls).Grants path → (after calls).Flagged path flag →
    (after (calls ++ .tryLockEndpointsByPath path ::
      (post ++ [.unlockEndpointsByPath path]))).Flagged path flag

/-! ## 2. The lock, one per path -/

/-- What the calls say of the locks: the endpoints accepted so far, and which paths are held. -/
structure LockTable where
  endpoints : List RdmaEndpoint := []
  held : RdmaEndpointPath → Bool := fun _ => false

namespace LockTable

/-- Some accepted endpoint has the path. -/
def hasPath (t : LockTable) (path : RdmaEndpointPath) : Bool :=
  t.endpoints.any fun e => e.path = path

/-- Some accepted endpoint has the id. -/
def hasId (t : LockTable) (id : RdmaEndpointId) : Bool :=
  t.endpoints.any fun e => e.makeEndpointId = id

/-- The table with one path held or released. -/
def setHeld (t : LockTable) (path : RdmaEndpointPath) (flag : Bool) : LockTable :=
  { t with held := Function.update t.held path flag }

@[simp] theorem setHeld_endpoints (t : LockTable) (path : RdmaEndpointPath) (flag : Bool) :
    (t.setHeld path flag).endpoints = t.endpoints := rfl

@[simp] theorem setHeld_same (t : LockTable) (path : RdmaEndpointPath) (flag : Bool) :
    (t.setHeld path flag).held path = flag := Function.update_self ..

theorem setHeld_other (t : LockTable) {p q : RdmaEndpointPath} (hne : q ≠ p) (flag : Bool) :
    (t.setHeld p flag).held q = t.held q := Function.update_of_ne hne ..

/-- The table behind one more call. -/
def next (t : LockTable) : Call → LockTable
  | .registerEndpoint none => t
  | .registerEndpoint (some endpoint) =>
    if t.hasId endpoint.makeEndpointId then t else { t with endpoints := endpoint :: t.endpoints }
  | .tryLockEndpointsByPath path => if t.hasPath path then t.setHeld path true else t
  | .unlockEndpointsByPath path => t.setHeld path false

theorem next_register_held (t : LockTable) (endpoint : Option RdmaEndpoint) :
    (t.next (.registerEndpoint endpoint)).held = t.held := by
  cases endpoint with
  | none => rfl
  | some endpoint =>
    simp only [next]
    split <;> rfl

/-- A lock call holds its path if the path exists. -/
theorem next_tryLock_same (t : LockTable) (path : RdmaEndpointPath) :
    (t.next (.tryLockEndpointsByPath path)).held path = true ↔
      t.hasPath path = true ∨ t.held path = true := by
  simp only [next]
  split
  next h => simp [h]
  next h => simp [h]

theorem next_tryLock_other (t : LockTable) {p q : RdmaEndpointPath} (hne : q ≠ p) :
    (t.next (.tryLockEndpointsByPath p)).held q = t.held q := by
  simp only [next]
  split
  · exact t.setHeld_other hne true
  · rfl

/-- The table behind a history of calls. -/
def after (calls : List Call) : LockTable := calls.foldl next {}

@[simp] theorem after_concat (calls : List Call) (c : Call) :
    after (calls ++ [c]) = (after calls).next c := by simp [after]

end LockTable

/-- **The condition**: no new endpoint is registered under a path that is held. -/
def Undisturbed (pre : List Call) : Call → Prop
  | .registerEndpoint (some endpoint) =>
    (LockTable.after pre).hasId endpoint.makeEndpointId = true ∨
      (LockTable.after pre).held endpoint.path = false
  | _ => True

/-! ## 3. Storage and table, whatever the calls -/

/-- A path without endpoints has no flags. -/
theorem setLocked_of_not_hasPath {storage : RdmaEndpointStorage} {path : RdmaEndpointPath}
    (h : ¬ storage.HasPath path) (flag : Bool) : storage.setLocked path flag = storage :=
  setLocked_of_flagged fun x hx hp => absurd ⟨x, hx, hp⟩ h

/-- The entries of a path keep their endpoints when their flags are overwritten. -/
theorem exists_setLocked {storage : RdmaEndpointStorage} {path : RdmaEndpointPath} {flag : Bool}
    {P : RdmaEndpoint → Prop} :
    (∃ x ∈ (storage.setLocked path flag).endpointsMap, P x.2.endpoint) ↔
      ∃ x ∈ storage.endpointsMap, P x.2.endpoint := by
  constructor
  · rintro ⟨x, hx, hp⟩
    obtain ⟨y, hy, rfl⟩ := List.mem_map.mp hx
    rw [flagEntry_endpoint] at hp
    exact ⟨y, hy, hp⟩
  · rintro ⟨x, hx, hp⟩
    exact ⟨_, List.mem_map.mpr ⟨x, hx, rfl⟩, by rwa [flagEntry_endpoint]⟩

/-- The last overwriting counts. -/
theorem setLocked_setLocked (storage : RdmaEndpointStorage) (path : RdmaEndpointPath)
    (flag flag' : Bool) :
    (storage.setLocked path flag).setLocked path flag' = storage.setLocked path flag' := by
  refine ext_map ?_
  simp only [setLocked, List.map_map]
  refine List.map_congr_left fun x _ => ?_
  by_cases hp : x.2.endpoint.path = path <;> simp [flagEntry, hp]

theorem hasPath_setLocked {storage : RdmaEndpointStorage} {path q : RdmaEndpointPath}
    {flag : Bool} : (storage.setLocked path flag).HasPath q ↔ storage.HasPath q :=
  exists_setLocked (P := fun e => e.path = q)

/-- The storage holds the accepted endpoints; a path not held is free, and of a path that is held
one copy at least is locked. -/
structure Copies (storage : RdmaEndpointStorage) (t : LockTable) : Prop where
  endpoints : ∀ e, e ∈ t.endpoints ↔ ∃ x ∈ storage.endpointsMap, x.2.endpoint = e
  free : ∀ path, t.held path = false → storage.Flagged path false
  taken : ∀ path, t.held path = true →
    ∃ x ∈ storage.endpointsMap, x.2.endpoint.path = path ∧ x.2.endpointLocked = true

section Copies

variable {storage : RdmaEndpointStorage} {t : LockTable} {path : RdmaEndpointPath}

theorem Copies.hasPath_iff (h : Copies storage t) :
    t.hasPath path = true ↔ storage.HasPath path := by
  simp [LockTable.hasPath, HasPath, h.endpoints]

theorem Copies.hasId_eq (h : Copies storage t) (id : RdmaEndpointId) :
    t.hasId id = storage.contains id := by
  rw [Bool.eq_iff_iff]
  simp only [LockTable.hasId, contains, List.any_eq_true, decide_eq_true_eq, h.endpoints]
  constructor
  · rintro ⟨-, ⟨x, hx, rfl⟩, rfl⟩
    exact ⟨x, hx, storage.keyed x hx⟩
  · rintro ⟨x, hx, rfl⟩
    exact ⟨_, ⟨x, hx, rfl⟩, (storage.keyed x hx).symm⟩

theorem Copies.register (h : Copies storage t) (endpoint : RdmaEndpoint) :
    Copies (storage.next (.registerEndpoint (some endpoint)))
      (t.next (.registerEndpoint (some endpoint))) := by
  simp only [next, LockTable.next, h.hasId_eq]
  rcases storage.registerEndpoint_cases endpoint with ⟨hc, -, hs⟩ | ⟨hc, -, hs⟩
  · rw [hs, if_pos hc]
    exact h
  · rw [if_neg (by simp [hc])]
    refine ⟨fun e => ?_, fun path hfree x hx hp => ?_, fun path hheld => ?_⟩
    · rw [List.mem_cons, h.endpoints]
      simp only [hs.mem_iff, List.mem_cons]
      constructor
      · rintro (rfl | ⟨x, hx, rfl⟩)
        · exact ⟨_, .inl rfl, rfl⟩
        · exact ⟨x, .inr hx, rfl⟩
      · rintro ⟨x, rfl | hx, rfl⟩
        · exact .inl rfl
        · exact .inr ⟨x, hx, rfl⟩
    · rcases List.mem_cons.mp (hs.mem_iff.mp hx) with rfl | hx
      · rfl
      · exact h.free path hfree x hx hp
    · obtain ⟨x, hx, hp, hl⟩ := h.taken path hheld
      exact ⟨x, hs.mem_iff.mpr (List.mem_cons_of_mem _ hx), hp, hl⟩

/-- Overwriting the flags of a path, and noting it in the table. -/
theorem Copies.setLocked (h : Copies storage t) {flag : Bool}
    (hpath : flag = true → storage.HasPath path) :
    Copies (storage.setLocked path flag) (t.setHeld path flag) := by
  refine ⟨fun e => ?_, fun q hfree => ?_, fun q hheld => ?_⟩
  · rw [LockTable.setHeld_endpoints, h.endpoints]
    exact (exists_setLocked (P := fun e' => e' = e)).symm
  · rcases eq_or_ne q path with rfl | hne
    · rw [LockTable.setHeld_same] at hfree
      rw [hfree]
      exact setLocked_flagged_same storage q false
    · rw [LockTable.setHeld_other _ hne] at hfree
      exact (setLocked_flagged_other hne).mpr (h.free q hfree)
  · rcases eq_or_ne q path with rfl | hne
    · rw [LockTable.setHeld_same] at hheld
      obtain ⟨x, hx, hp⟩ := hasPath_setLocked.mpr (hpath hheld)
      exact ⟨x, hx, hp, (setLocked_flagged_same storage q flag x hx hp).trans hheld⟩
    · rw [LockTable.setHeld_other _ hne] at hheld
      obtain ⟨x, hx, hp, hl⟩ := h.taken q hheld
      refine ⟨flagEntry path flag x, List.mem_map.mpr ⟨x, hx, rfl⟩, ?_, ?_⟩
      · rw [flagEntry_endpoint, hp]
      · rw [flagEntry, if_neg (fun he => hne (hp.symm.trans he)), hl]

/-- One call keeps the storage and the table together. -/
theorem Copies.next (h : Copies storage t) (c : Call) : Copies (storage.next c) (t.next c) := by
  cases c with
  | registerEndpoint endpoint =>
    cases endpoint with
    | none => exact h
    | some endpoint => exact h.register endpoint
  | tryLockEndpointsByPath path =>
    simp only [RdmaEndpointStorage.next, LockTable.next, tryLockEndpointsByPath_snd]
    by_cases hp : storage.HasPath path
    · rw [if_pos (h.hasPath_iff.mpr hp)]
      exact h.setLocked fun _ => hp
    · rw [if_neg (fun ht => hp (h.hasPath_iff.mp ht)), setLocked_of_not_hasPath hp]
      exact h
  | unlockEndpointsByPath path =>
    simp only [RdmaEndpointStorage.next, LockTable.next, unlockEndpointsByPath_snd]
    exact h.setLocked fun hf => absurd hf Bool.false_ne_true

/-- **Storage and table stay together**, whatever is called. -/
theorem copies_after (calls : List Call) : Copies (after calls) (LockTable.after calls) := by
  induction calls using List.reverseRecOn with
  | nil =>
    refine ⟨fun e => ?_, fun path _ x hx => ?_, fun path hheld => ?_⟩
    · simp [after, LockTable.after, create]
    · cases hx
    · cases hheld
  | append_singleton calls c ih =>
    rw [after_concat, LockTable.after_concat]
    exact ih.next c

end Copies

/-! ## 4. When the copies agree -/

/-- Of a path that is held every copy is locked. -/
def Agree (storage : RdmaEndpointStorage) (t : LockTable) : Prop :=
  ∀ path, t.held path = true → storage.Flagged path true

section Agree

variable {calls : List Call} {c : Call} {storage : RdmaEndpointStorage} {t : LockTable}
  {path : RdmaEndpointPath}

theorem Agree.setLocked (h : Agree storage t) (path : RdmaEndpointPath) (flag : Bool) :
    Agree (storage.setLocked path flag) (t.setHeld path flag) := by
  intro q hheld
  rcases eq_or_ne q path with rfl | hne
  · rw [LockTable.setHeld_same] at hheld
    rw [hheld]
    exact setLocked_flagged_same storage q true
  · rw [LockTable.setHeld_other _ hne] at hheld
    exact (setLocked_flagged_other hne).mpr (h q hheld)

/-- Undisturbed calls keep the copies in agreement. -/
theorem agree_after (h : AtEvery Undisturbed calls) :
    Agree (after calls) (LockTable.after calls) := by
  induction calls using List.reverseRecOn with
  | nil => intro path hheld; cases hheld
  | append_singleton calls c ih =>
    obtain ⟨hcalls, hc⟩ := atEvery_concat.mp h
    have hagree := ih hcalls
    have hcopies := copies_after calls
    rw [after_concat, LockTable.after_concat]
    cases c with
    | registerEndpoint endpoint =>
      cases endpoint with
      | none => exact hagree
      | some endpoint =>
        simp only [next, LockTable.next, hcopies.hasId_eq]
        rcases (after calls).registerEndpoint_cases endpoint with ⟨hid, -, hs⟩ | ⟨hid, -, hs⟩
        · rw [hs, if_pos hid]
          exact hagree
        · rw [if_neg (by simp [hid])]
          -- the new copy is of a path that is not held
          have hfree : (LockTable.after calls).held endpoint.path = false := by
            rcases hc with hc | hc
            · rw [hcopies.hasId_eq, hid] at hc
              exact absurd hc Bool.false_ne_true
            · exact hc
          intro path hheld x hx hp
          rcases List.mem_cons.mp (hs.mem_iff.mp hx) with rfl | hx
          · subst hp
            exact absurd (hfree.symm.trans hheld) Bool.false_ne_true
          · exact hagree path hheld x hx hp
    | tryLockEndpointsByPath path =>
      simp only [next, LockTable.next, tryLockEndpointsByPath_snd]
      by_cases hp : (after calls).HasPath path
      · rw [if_pos (hcopies.hasPath_iff.mpr hp)]
        exact hagree.setLocked path true
      · rw [if_neg (fun ht => hp (hcopies.hasPath_iff.mp ht)), setLocked_of_not_hasPath hp]
        exact hagree
    | unlockEndpointsByPath path =>
      simp only [next, LockTable.next, unlockEndpointsByPath_snd]
      exact hagree.setLocked path false

/-- Where the copies agree, the storage grants what the table does not hold. -/
theorem grants_iff_held (hc : Copies storage t) (ha : Agree storage t)
    (path : RdmaEndpointPath) :
    storage.Grants path ↔ storage.HasPath path ∧ t.held path = false := by
  unfold Grants
  rw [tryLockEndpointsByPath_granted_iff]
  constructor
  · rintro ⟨x, hx, hp, hl⟩
    refine ⟨⟨x, hx, hp⟩, ?_⟩
    by_contra hheld
    exact absurd (hl.symm.trans (ha path (by simpa using hheld) x hx hp)) Bool.false_ne_true
  · rintro ⟨⟨x, hx, hp⟩, hfree⟩
    exact ⟨x, hx, hp, hc.free path hfree x hx hp⟩

/-- Where the copies agree, the table holds what was granted and not unlocked since. -/
theorem outstanding_iff_held (h : AtEvery Undisturbed calls) :
    Outstanding calls path ↔ (LockTable.after calls).held path = true := by
  induction calls using List.reverseRecOn with
  | nil => exact ⟨fun hn => absurd hn not_since_nil, fun hf => absurd hf Bool.false_ne_true⟩
  | append_singleton calls c ih =>
    obtain ⟨hcalls, -⟩ := atEvery_concat.mp h
    have hcopies := copies_after calls
    have hgrants := grants_iff_held hcopies (agree_after hcalls) path
    have ih := ih hcalls
    unfold Outstanding at ih ⊢
    rw [since_concat, LockTable.after_concat, ih, hgrants]
    cases c with
    | registerEndpoint endpoint =>
      rw [LockTable.next_register_held]
      simp
    | tryLockEndpointsByPath q =>
      rcases eq_or_ne path q with rfl | hne
      · rw [LockTable.next_tryLock_same, hcopies.hasPath_iff]
        cases (LockTable.after calls).held path <;> simp
      · rw [LockTable.next_tryLock_other _ hne]
        simp [hne.symm]
    | unlockEndpointsByPath q =>
      rcases eq_or_ne path q with rfl | hne
      · simp [LockTable.next]
      · rw [LockTable.next, LockTable.setHeld_other _ hne]
        simp [hne.symm]

end Agree

/-! ## 5. The law -/

section Law

variable {calls : List Call} {c : Call}

/-- What is refused changes nothing, whatever the flags are. -/
theorem next_of_refuses {storage : RdmaEndpointStorage} (h : storage.Refuses c) :
    storage.next c = storage := by
  cases c with
  | registerEndpoint endpoint =>
    cases endpoint with
    | none => rfl
    | some endpoint =>
      rcases storage.registerEndpoint_cases endpoint with ⟨-, -, hs⟩ | ⟨-, hs, -⟩
      · exact hs
      · exact absurd hs h
  | tryLockEndpointsByPath path =>
    rw [next, tryLockEndpointsByPath_snd]
    refine setLocked_of_refused ?_
    rcases h with h | h
    · exact h
    · by_contra hg
      exact h (tryLockEndpointsByPath_granted_error (by simpa using hg))
  | unlockEndpointsByPath path =>
    rw [next, unlockEndpointsByPath_snd]
    refine setLocked_of_not_hasPath (fun hp => h ?_) false
    simpa [unlockEndpointsByPath, unlockLoop_found, HasPath] using hp

/-- **Undisturbed calls obey the law.** -/
theorem law_of_undisturbed (h : AtEvery Undisturbed calls) : Law calls := by
  have hcopies := copies_after calls
  have hagree := agree_after h
  have hflagged : ∀ path, (after calls).Flagged path ((LockTable.after calls).held path) := by
    intro path
    cases hheld : (LockTable.after calls).held path with
    | false => exact hcopies.free path hheld
    | true => exact hagree path hheld
  constructor
  · intro x hx y hy hpath
    rw [hflagged _ x hx hpath, hflagged _ y hy rfl]
  · intro path
    rw [outstanding_iff_held h, grants_iff_held hcopies hagree path]
    simp
  · intro c hc
    exact next_of_refuses hc
  · intro path hgrant
    have hfree := ((grants_iff_held hcopies hagree path).mp hgrant).2
    have hf := hflagged path
    rw [hfree] at hf
    rw [next, next, tryLockEndpointsByPath_snd, unlockEndpointsByPath_snd, setLocked_setLocked,
      setLocked_of_flagged hf]
  · intro path post flag hgrant hflag
    obtain ⟨x, hx, hp, hl⟩ := (tryLockEndpointsByPath_granted_iff _ _).mp hgrant
    have hfree : flag = false := (hflag x hx hp).symm.trans hl
    rw [hfree, ← List.cons_append, ← List.append_assoc, after_concat, next,
      unlockEndpointsByPath_snd]
    exact setLocked_flagged_same _ path false

/-- **A registration under a held path breaks the law**: its copy is free and another is locked. -/
theorem not_uniform_of_disturbed (h : ¬ Undisturbed calls c) :
    ¬ (after (calls ++ [c])).Uniform := by
  intro huniform
  have hcopies := copies_after calls
  cases c with
  | registerEndpoint endpoint =>
    cases endpoint with
    | none => exact h trivial
    | some endpoint =>
      simp only [Undisturbed, not_or, hcopies.hasId_eq, Bool.not_eq_true] at h
      obtain ⟨x, hx, hp, hl⟩ := hcopies.taken endpoint.path (by simpa using h.2)
      rw [after_concat] at huniform
      rcases (after calls).registerEndpoint_cases endpoint with ⟨hid, -, -⟩ | ⟨-, -, hs⟩
      · exact absurd (hid.symm.trans h.1) Bool.false_ne_true.symm
      · have hne := huniform x (hs.mem_iff.mpr (List.mem_cons_of_mem _ hx))
          (endpoint.makeEndpointId, ⟨endpoint, false⟩) (hs.mem_iff.mpr List.mem_cons_self) hp
        exact absurd (hl.symm.trans hne) Bool.false_ne_true.symm
  | tryLockEndpointsByPath path => exact h trivial
  | unlockEndpointsByPath path => exact h trivial

/-- **The lock table law over all histories.**  It holds at every point of a history exactly when
no endpoint that is new to the storage is registered under a path that is held. -/
theorem lock_table_law_iff (calls : List Call) :
    Always Law calls ↔ AtEvery Undisturbed calls := by
  refine always_iff_atEvery (law_of_undisturbed atEvery_nil) fun calls c _ hcalls => ?_
  constructor
  · intro hlaw
    by_contra hc
    exact not_uniform_of_disturbed hc hlaw.uniform
  · intro hc
    exact law_of_undisturbed (atEvery_concat.mpr ⟨hcalls, hc⟩)

/-- A write endpoint is locked, and a read endpoint registered under its path. -/
def siblingRegistered : List Call :=
  [.registerEndpoint (some ⟨[47], .write, none, none⟩), .tryLockEndpointsByPath [47],
    .registerEndpoint (some ⟨[47], .read, none, none⟩)]

/-- The path is granted a second time while its grant is outstanding. -/
theorem sibling_granted_twice :
    ¬ Law siblingRegistered ∧ Outstanding siblingRegistered [47] ∧
      (after siblingRegistered).Grants [47] := by
  have hout : Outstanding siblingRegistered [47] := by
    refine ⟨[.registerEndpoint (some ⟨[47], .write, none, none⟩)], .tryLockEndpointsByPath [47],
      [.registerEndpoint (some ⟨[47], .read, none, none⟩)], rfl, ⟨rfl, ?_⟩, by simp⟩
    unfold Grants
    decide
  have hgrants : (after siblingRegistered).Grants [47] := by
    unfold Grants
    decide
  exact ⟨fun hlaw => ((hlaw.grants [47]).mp hgrants).2 hout, hout, hgrants⟩

end Law

end RdmaEndpointStorage

end DocaCpp
