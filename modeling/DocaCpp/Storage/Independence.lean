/-
# Locks on different paths

The two scans visit every entry of the storage, whatever the path, and tell the entries of the path
from the others by comparing strings.  So a call for one path could see or disturb another path only
if the comparison confused the two.  It does not: a call changes no flag but those of its own path
(`perform_touches`), and what it answers depends on no others (`perform_independent`).

`locks_independent` says what follows for two callers that lock and unlock different paths, however
their calls are interleaved.
-/
import DocaCpp.Storage.Registration
import DocaCpp.Lib.Interleave

namespace DocaCpp

/-! ## 1. The calls that lock and unlock -/

/-- A call of the storage that locks or unlocks. -/
inductive LockCall
  | tryLockEndpointsByPath (path : RdmaEndpointPath)
  | unlockEndpointsByPath (path : RdmaEndpointPath)
  deriving DecidableEq

/-- What such a call answers. -/
inductive LockAnswer
  | tryLocked (result : Bool × error)
  | unlocked (err : error)
  deriving DecidableEq

/-- The path it is for. -/
def LockCall.path : LockCall → RdmaEndpointPath
  | tryLockEndpointsByPath path | unlockEndpointsByPath path => path

/-- What it leaves in the flags of its path. -/
def LockCall.flag : LockCall → Bool
  | tryLockEndpointsByPath _ => true
  | unlockEndpointsByPath _ => false

namespace RdmaEndpointStorage

/-- The call, made. -/
def perform (storage : RdmaEndpointStorage) : LockCall → LockAnswer × RdmaEndpointStorage
  | .tryLockEndpointsByPath path =>
    let r := storage.tryLockEndpointsByPath path
    (.tryLocked r.1, r.2)
  | .unlockEndpointsByPath path =>
    let r := storage.unlockEndpointsByPath path
    (.unlocked r.1, r.2)

/-- What the calls for one path are answered, in their order. -/
def answersOn (storage : RdmaEndpointStorage) (path : RdmaEndpointPath) (calls : List LockCall) :
    List (LockCall × LockAnswer) :=
  (answeredCalls perform storage calls).filter fun r => r.1.path = path

/-- The same calls in another order: every call is answered the same, and the flags are the same
in the end. -/
structure SameOutcome (storage : RdmaEndpointStorage) (calls calls' : List LockCall) : Prop where
  answers : ∀ path, storage.answersOn path calls = storage.answersOn path calls'
  after : afterCalls perform storage calls = afterCalls perform storage calls'

/-- Nothing has changed but the flags of one path. -/
structure Touches (path : RdmaEndpointPath) (before after : RdmaEndpointStorage) : Prop where
  registered : after.endpointsMap.map (fun x => (x.1, x.2.endpoint))
    = before.endpointsMap.map fun x => (x.1, x.2.endpoint)
  others : after.endpointsMap.filter (fun x => x.2.endpoint.path ≠ path)
    = before.endpointsMap.filter fun x => x.2.endpoint.path ≠ path

/-! ## 2. What one call does -/

section Perform

variable {storage : RdmaEndpointStorage} {p q : RdmaEndpointPath} {flag flag' : Bool}

theorem perform_snd (storage : RdmaEndpointStorage) (call : LockCall) :
    (storage.perform call).2 = storage.setLocked call.path call.flag := by
  cases call with
  | tryLockEndpointsByPath path => exact tryLockEndpointsByPath_snd storage path
  | unlockEndpointsByPath path => exact unlockEndpointsByPath_snd storage path

theorem flagEntry_of_ne {x : StorageEntry} (h : x.2.endpoint.path ≠ p) :
    flagEntry p flag x = x := if_neg h

/-- **The frame of the two scans**: the flags of the path are all that changes. -/
theorem setLocked_touches (storage : RdmaEndpointStorage) (path : RdmaEndpointPath) (flag : Bool) :
    Touches path storage (storage.setLocked path flag) := by
  constructor
  · simp [setLocked, Function.comp_def]
  · have hfilter : ∀ entries : List StorageEntry,
        (entries.map (flagEntry path flag)).filter (fun x => x.2.endpoint.path ≠ path)
          = entries.filter fun x => x.2.endpoint.path ≠ path := by
      intro entries
      induction entries with
      | nil => rfl
      | cons x entries ih =>
        by_cases hp : x.2.endpoint.path = path
        · rw [List.map_cons, List.filter_cons_of_neg (by simp [hp]),
            List.filter_cons_of_neg (by simp [hp]), ih]
        · rw [List.map_cons, flagEntry_of_ne hp, List.filter_cons_of_pos (by simp [hp]),
            List.filter_cons_of_pos (by simp [hp]), ih]
    exact hfilter storage.endpointsMap

theorem perform_touches (storage : RdmaEndpointStorage) (call : LockCall) :
    Touches call.path storage (storage.perform call).2 := by
  rw [perform_snd]
  exact setLocked_touches storage call.path call.flag

/-- Overwriting the flags of two paths, in either order. -/
theorem setLocked_comm (storage : RdmaEndpointStorage) (hne : p ≠ q) :
    (storage.setLocked q flag').setLocked p flag = (storage.setLocked p flag).setLocked q flag' := by
  refine ext_map ?_
  simp only [setLocked, List.map_map]
  refine List.map_congr_left fun x _ => ?_
  simp only [Function.comp_apply]
  by_cases hp : x.2.endpoint.path = p
  · have hq : x.2.endpoint.path ≠ q := fun h => hne (hp.symm.trans h)
    have hq' : (flagEntry p flag x).2.endpoint.path ≠ q := by rwa [flagEntry_endpoint]
    rw [flagEntry_of_ne hq, flagEntry_of_ne hq']
  · have hp' : (flagEntry q flag' x).2.endpoint.path ≠ p := by rwa [flagEntry_endpoint]
    rw [flagEntry_of_ne hp, flagEntry_of_ne hp']

/-- A scan for one path finds what it would find if another had not been locked or unlocked. -/
theorem any_setLocked (storage : RdmaEndpointStorage) (hne : p ≠ q) (test : StorageEntry → Bool)
    (htest : ∀ x, test x = true → x.2.endpoint.path = p) :
    (storage.setLocked q flag).endpointsMap.any test = storage.endpointsMap.any test := by
  simp only [setLocked, List.any_map]
  refine congrArg storage.endpointsMap.any (funext fun x => ?_)
  by_cases hq : x.2.endpoint.path = q
  · have hfalse : ∀ y : StorageEntry, y.2.endpoint.path = q → test y = false := fun y hy =>
      Bool.eq_false_iff.mpr fun h => hne ((htest y h).symm.trans hy)
    rw [Function.comp_apply, hfalse x hq, hfalse _ ((flagEntry_endpoint q flag x).symm ▸ hq)]
  · rw [Function.comp_apply, flagEntry_of_ne hq]

/-- **What a call answers does not depend on the flags of another path.** -/
theorem perform_fst_setLocked (storage : RdmaEndpointStorage) {call : LockCall}
    (hne : call.path ≠ q) :
    ((storage.setLocked q flag).perform call).1 = (storage.perform call).1 := by
  have hfound : ∀ path, path ≠ q →
      (storage.setLocked q flag).endpointsMap.any (fun x => x.2.endpoint.path = path)
        = storage.endpointsMap.any fun x => x.2.endpoint.path = path :=
    fun path h => any_setLocked storage h _ fun x hx => of_decide_eq_true hx
  cases call with
  | tryLockEndpointsByPath path =>
    have hfree : (storage.setLocked q flag).endpointsMap.any
        (fun x => x.2.endpoint.path = path && !x.2.endpointLocked)
          = storage.endpointsMap.any fun x => x.2.endpoint.path = path && !x.2.endpointLocked :=
      any_setLocked storage hne _ fun x hx =>
        of_decide_eq_true (Bool.and_eq_true_iff.mp hx).1
    simp only [perform, tryLockEndpointsByPath, (tryLockLoop_answer path _ false false).1,
      (tryLockLoop_answer path _ false false).2, hfree, hfound path hne]
  | unlockEndpointsByPath path =>
    simp only [perform, unlockEndpointsByPath, unlockLoop_found, hfound path hne]

/-- **Calls for different paths are independent.** -/
theorem perform_independent {a b : LockCall} (hne : a.path ≠ b.path) :
    Independent perform a b where
  left := by
    intro storage
    rw [perform_snd storage b]
    exact perform_fst_setLocked storage hne
  right := by
    intro storage
    rw [perform_snd storage a]
    exact perform_fst_setLocked storage hne.symm
  state := by
    intro storage
    rw [perform_snd, perform_snd, perform_snd, perform_snd]
    exact setLocked_comm storage hne

end Perform

/-! ## 3. Two callers -/

section Callers

variable {storage : RdmaEndpointStorage} {p q : RdmaEndpointPath} {as bs cs : List LockCall}

/-- A caller of another path is answered nothing on this one. -/
theorem answersOn_other {path : RdmaEndpointPath} (has : ∀ a ∈ as, a.path = p) (hne : p ≠ path) :
    storage.answersOn path as = [] := by
  refine List.filter_eq_nil_iff.mpr fun x hx => ?_
  have hp := has x.1 (mem_answeredCalls perform hx)
  simpa [hp] using hne

/-- What an interleaving answers on each path is what the callers are answered alone. -/
theorem answersOn_interleaved (hne : p ≠ q) (has : ∀ a ∈ as, a.path = p)
    (hbs : ∀ b ∈ bs, b.path = q) (h : Interleaves as bs cs) (path : RdmaEndpointPath) :
    storage.answersOn path cs = storage.answersOn path as ++ storage.answersOn path bs := by
  have hind : ∀ a ∈ as, ∀ b ∈ bs, Independent perform a b := fun a ha b hb =>
    perform_independent (by rw [has a ha, hbs b hb]; exact hne)
  have hpath : Interleaves (storage.answersOn path as) (storage.answersOn path bs)
      (storage.answersOn path cs) := (h.answered hind storage).filter _
  by_cases hp : p = path
  · rw [answersOn_other hbs fun hq => hne (hp.trans hq.symm)] at hpath ⊢
    rw [hpath.eq_left, List.append_nil]
  · rw [answersOn_other has hp] at hpath ⊢
    rw [hpath.symm.eq_left, List.nil_append]

/-- An interleaving of two callers comes to what any other comes to. -/
theorem sameOutcome_interleaved {ds : List LockCall} (hne : p ≠ q) (has : ∀ a ∈ as, a.path = p)
    (hbs : ∀ b ∈ bs, b.path = q) (h : Interleaves as bs cs) (h' : Interleaves as bs ds) :
    SameOutcome storage cs ds := by
  have hind : ∀ a ∈ as, ∀ b ∈ bs, Independent perform a b := fun a ha b hb =>
    perform_independent (by rw [has a ha, hbs b hb]; exact hne)
  constructor
  · intro path
    rw [answersOn_interleaved hne has hbs h, answersOn_interleaved hne has hbs h']
  · rw [h.after hind, h'.after hind]

/-- **Locks on different paths are independent.**  A call changes nothing but the flags of its own
path, and where one caller locks and unlocks one path and another caller another, every interleaving
of their calls comes to what it comes to when either goes first. -/
theorem locks_independent (storage : RdmaEndpointStorage) (hne : p ≠ q) :
    (∀ call : LockCall, Touches call.path storage (storage.perform call).2) ∧
      ∀ as bs cs : List LockCall, (∀ a ∈ as, a.path = p) → (∀ b ∈ bs, b.path = q) →
        Interleaves as bs cs →
          SameOutcome storage cs (as ++ bs) ∧ SameOutcome storage cs (bs ++ as) := by
  refine ⟨perform_touches storage, fun as bs cs has hbs h => ⟨?_, ?_⟩⟩
  · exact sameOutcome_interleaved hne has hbs h (.append as bs)
  · exact sameOutcome_interleaved hne has hbs h (Interleaves.append bs as).symm

end Callers

/-- A write endpoint at `/` and one at `/a`, of which `/` is a prefix. -/
def nestedStorage : RdmaEndpointStorage :=
  (registerAll .create [some ⟨[47], .write, some 0, some 0⟩,
    some ⟨[47, 97], .write, some 1, some 1⟩]).2

theorem locks_independent_sample :
    SameOutcome nestedStorage
      [.tryLockEndpointsByPath [47], .tryLockEndpointsByPath [47, 97],
        .unlockEndpointsByPath [47], .tryLockEndpointsByPath [47, 97]]
      [.tryLockEndpointsByPath [47], .unlockEndpointsByPath [47],
        .tryLockEndpointsByPath [47, 97], .tryLockEndpointsByPath [47, 97]] :=
  ((locks_independent nestedStorage (p := [47]) (q := [47, 97]) (by decide)).2
    [.tryLockEndpointsByPath [47], .unlockEndpointsByPath [47]]
    [.tryLockEndpointsByPath [47, 97], .tryLockEndpointsByPath [47, 97]] _
    (by decide) (by decide) (.left (.right (.left (.right .nil))))).1

end RdmaEndpointStorage

end DocaCpp
