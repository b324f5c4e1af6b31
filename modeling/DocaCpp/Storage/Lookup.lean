/-
# What a lookup finds

`GetEndpoint` looks an endpoint up by its id and the two scans look for it by its path, so a request
goes through two different keys.  Ids are made by putting a type name in front of a path that the
peer chooses, and the type is a byte the peer chooses as well.

An id determines the path and the name of the type whatever they contain, and a registered endpoint
of a known type shares the name of its type with no other (`makeEndpointId_eq_iff`).  So the map of a
storage is the list of registrations, searched for the first match (`registrations_lookup`), and
what a lookup has found a scan finds too, as long as nothing is taken out, which nothing ever is.
`lookup_exact` puts this together, down to the answers that the sessions of a server can get.
-/
import DocaCpp.Storage.Independence
import DocaCpp.Storage.History
import DocaCpp.Pool
import Mathlib.Data.List.Find
import Mathlib.Data.List.ReduceOption

namespace DocaCpp

/-! ## 1. Ids -/

/-- **The id of an endpoint of a known type** is that of no other path or type. -/
theorem makeEndpointId_eq_iff {p q : RdmaEndpointPath} {t u : RdmaEndpointType} (ht : t.Known) :
    makeEndpointId p t = makeEndpointId q u ↔ p = q ∧ t = u := by
  constructor
  · intro h
    have htype := makeEndpointId_type h
    refine ⟨makeEndpointId_path h, ?_⟩
    rcases ht with rfl | rfl
    · exact (endpointTypeToString_write htype.symm).symm
    · exact (endpointTypeToString_read htype.symm).symm
  · rintro ⟨rfl, rfl⟩
    rfl

namespace RdmaEndpointStorage

/-! ## 2. The map -/

/-- The storage behind a sequence of registrations, accepted or refused. -/
def registrations (calls : List (Option RdmaEndpoint)) : RdmaEndpointStorage :=
  calls.foldl (fun storage endpoint => (storage.registerEndpoint endpoint).2) create

theorem registrations_concat (calls : List (Option RdmaEndpoint)) (call : Option RdmaEndpoint) :
    registrations (calls ++ [call]) = ((registrations calls).registerEndpoint call).2 := by
  simp [registrations]

/-- **What an id is mapped to**: the first endpoint with that id that a registration was asked
for. -/
theorem registrations_lookup (calls : List (Option RdmaEndpoint)) (id : RdmaEndpointId) :
    (registrations calls).lookup id
      = calls.reduceOption.find? fun e => e.makeEndpointId = id := by
  induction calls using List.reverseRecOn with
  | nil => rfl
  | append_singleton calls call ih =>
    rw [registrations_concat]
    cases call with
    | none =>
      have hcalls : (calls ++ [none]).reduceOption = calls.reduceOption := by
        simp [List.reduceOption_append]
      rw [hcalls, ← ih]
      rfl
    | some endpoint =>
      have hcalls : (calls ++ [some endpoint]).reduceOption = calls.reduceOption ++ [endpoint] := by
        simp [List.reduceOption_append]
      rw [hcalls, List.find?_append, ← ih]
      by_cases h : ((registrations calls).registerEndpoint (some endpoint)).1 = none
      · obtain ⟨hfree, hlookup⟩ := registerEndpoint_lookup h
        rw [hlookup]
        by_cases hid : id = endpoint.makeEndpointId
        · rw [hid, Function.update_self, hfree]
          simp
        · rw [Function.update_of_ne hid]
          simp [Ne.symm hid]
      · obtain ⟨hsame, htaken⟩ := registerEndpoint_refused h
        rw [hsame]
        have hsome := htaken endpoint rfl
        rw [contains_eq] at hsome
        by_cases hid : endpoint.makeEndpointId = id
        · rw [hid] at hsome
          obtain ⟨e, he⟩ := Option.isSome_iff_exists.mp hsome
          rw [he, Option.some_or]
        · simp [hid]

/-! ## 3. What the scans find -/

section Scans

variable {storage : RdmaEndpointStorage} {path : RdmaEndpointPath}

theorem unlockEndpointsByPath_error_iff (storage : RdmaEndpointStorage)
    (path : RdmaEndpointPath) :
    (storage.unlockEndpointsByPath path).1 = none ↔ storage.HasPath path := by
  simp [unlockEndpointsByPath, HasPath, unlockLoop_found]

/-- Locking and unlocking takes no endpoint away. -/
theorem HasPath.afterCalls (h : storage.HasPath path) (locks : List LockCall) :
    (afterCalls perform storage locks).HasPath path := by
  induction locks generalizing storage with
  | nil => exact h
  | cons call locks ih =>
    have hcall : (storage.perform call).2.HasPath path := by
      rw [perform_snd, hasPath_setLocked]
      exact h
    exact ih hcall

/-- The endpoint a lookup finds has the path it was looked up by. -/
theorem getEndpoint_hasPath {type : RdmaEndpointType} {endpoint : RdmaEndpoint}
    (h : storage.getEndpoint (makeEndpointId path type) = .ok endpoint) :
    storage.HasPath path := by
  obtain ⟨hid, hpath⟩ := getEndpoint_ok h
  rwa [makeEndpointId_path hid] at hpath

end Scans

end RdmaEndpointStorage

/-! ## 4. What the sessions of a server are answered -/

section Sessions

variable [Platform] {ι : Type} [DecidableEq ι] {storage : RdmaEndpointStorage}
  {ls : List (ι × SessionEvent)} {p q : Pool ι} {i : ι}

theorem answer_unlock_fst {storage' : RdmaEndpointStorage} {path : RdmaEndpointPath} {err : error}
    (h : storage.answer ⟨.unlockEndpointsByPath path, err⟩ = some storage') :
    err = (storage.unlockEndpointsByPath path).1 := by
  simp only [RdmaEndpointStorage.answer] at h
  split at h
  · assumption
  · cases h

/-- A path that a session holds has an endpoint. -/
theorem pool_held_hasPath (h : (pool ι).Run (Pool.start ι storage) ls p) {path : RdmaEndpointPath}
    (hheld : path ∈ (logOf i ls).held) : storage.HasPath path := by
  refine Machine.RunWith.invariant
    (I := fun ls (_ : Pool ι) => ∀ i path, path ∈ (logOf i ls).held → storage.HasPath path)
    ?_ ?_ h i path hheld
  · intro i path hheld
    cases hheld
  rintro ls p ⟨i, ev⟩ q hrun ih - hstep j path hheld
  obtain ⟨ha, hr, -⟩ := Pool.step_inv hstep
  by_cases hij : i = j
  · subst hij
    rw [logOf_snoc_same] at hheld
    obtain ⟨f, hf, hknows⟩ := server_knows (pool_session hrun i)
    rw [hf] at hr
    obtain ⟨f', -, hs⟩ := server_refines.step f ev _ hr
    change f.Knows (logOf i ls) at hknows
    rcases hs.held hknows with ⟨path', err, rfl, -, htaken⟩ | ⟨path', err, -, -, hgiven⟩ |
      ⟨hsame, -⟩
    · rw [htaken, List.mem_singleton] at hheld
      subst hheld
      have hgranted := congrArg Prod.fst (RdmaEndpointStorage.answer_tryLock ha).1
      obtain ⟨x, hx, hpath, -⟩ :=
        (RdmaEndpointStorage.tryLockEndpointsByPath_granted_iff _ _).mp hgranted.symm
      have hholds := ((pool_found hrun).1 x.2.endpoint).mp ⟨x, hx, rfl⟩
      exact hpath ▸ hholds.hasPath
    · rw [hgiven] at hheld
      cases hheld
    · rw [hsame] at hheld
      exact ih i path hheld
  · rw [logOf_snoc_other hij] at hheld
    exact ih j path hheld

/-- The storage of a pool has the paths it began with. -/
theorem pool_hasPath (h : (pool ι).Run (Pool.start ι storage) ls p) {path : RdmaEndpointPath}
    (hpath : storage.HasPath path) : p.storage.HasPath path := by
  obtain ⟨x, hx, rfl⟩ := hpath
  exact (((pool_found h).1 x.2.endpoint).mpr ⟨x, hx, rfl⟩).hasPath

/-- A session is about to lock the path of an endpoint it has found. -/
theorem ServerStep.tryLock {f f' : ServerPhase} {ev : SessionEvent} {log : ServerLog}
    {path : RdmaEndpointPath} (hs : ServerStep f ev f') (hf : f.Knows log)
    (h : ev.op = .tryLockEndpointsByPath path) :
    ∃ endpoint, log.current.endpoint = some endpoint ∧ endpoint.path = path := by
  cases hs with
  | lockFailed request endpoint descriptor flag err | locked request endpoint descriptor
  | granted request endpoint descriptor =>
    cases h
    obtain ⟨-, -, hfit, hcurrent⟩ := hf
    exact ⟨endpoint, by rw [hcurrent]; rfl, hfit.1⟩
  | _ => cases h

/-- **No lock call of a session is answered with an error.** -/
theorem pool_lock_answers (h : (pool ι).Run (Pool.start ι storage) ls p) :
    (∀ i path granted err, (i, ⟨.tryLockEndpointsByPath path, (granted, err)⟩) ∈ ls → err = none) ∧
      ∀ i path err, (i, ⟨.unlockEndpointsByPath path, err⟩) ∈ ls → err = none := by
  have hlast : ∀ {i ev}, (i, ev) ∈ ls → ∃ ms q q', (pool ι).Run (Pool.start ι storage) ms q ∧
      q.step (i, ev) = some q' := by
    intro i ev hmem
    obtain ⟨ms, ns, rfl⟩ := List.append_of_mem hmem
    rw [List.append_cons] at h
    obtain ⟨q', hrun, -⟩ := h.split
    obtain ⟨q, hrun, -, hstep⟩ := hrun.last
    exact ⟨ms, q, q', hrun, hstep⟩
  constructor
  · intro i path granted err hmem
    obtain ⟨ms, q, q', hrun, hstep⟩ := hlast hmem
    obtain ⟨ha, hr, -⟩ := Pool.step_inv hstep
    obtain ⟨f, hf, hknows⟩ := server_knows (pool_session hrun i)
    rw [hf] at hr
    obtain ⟨f', -, hs⟩ := server_refines.step f _ _ hr
    obtain ⟨endpoint, hfound, rfl⟩ := hs.tryLock hknows rfl
    have hpath := pool_hasPath hrun ((pool_found hrun).2 i endpoint hfound).hasPath
    have herr := (RdmaEndpointStorage.tryLockEndpointsByPath_error_iff _ _).mpr hpath
    rw [← (RdmaEndpointStorage.answer_tryLock ha).1] at herr
    exact herr
  · intro i path err hmem
    obtain ⟨ms, q, q', hrun, hstep⟩ := hlast hmem
    obtain ⟨ha, hr, -⟩ := Pool.step_inv hstep
    have horderly : Orderly (logOf i ms) ⟨.unlockEndpointsByPath path, err⟩ := by
      have hsession := pool_session (.tail hrun trivial hstep) i
      rw [eventsOf, List.filterMap_append, List.filterMap_cons, List.filterMap_nil] at hsession
      simp only [if_true] at hsession
      exact server_orderly hsession
    have hpath := pool_hasPath hrun (pool_held_hasPath hrun (horderly.unlock path rfl))
    have herr := (RdmaEndpointStorage.unlockEndpointsByPath_error_iff _ _).mpr hpath
    rw [← answer_unlock_fst ha] at herr
    exact herr

end Sessions

/-! ## 5. Exact lookup -/

namespace RdmaEndpointStorage

/-- What a lookup is answered that finds this, or nothing. -/
def lookupAnswer (id : RdmaEndpointId) : Option RdmaEndpoint → Except Err RdmaEndpoint
  | some endpoint => .ok endpoint
  | none => .error (.new ("RDMA endpoint with given ID is not registered: " ++ textOf id))

/-- The first endpoint registered with a path and a type. -/
def firstWith (calls : List (Option RdmaEndpoint)) (path : RdmaEndpointPath)
    (type : RdmaEndpointType) : Option RdmaEndpoint :=
  calls.reduceOption.find? fun e => e.path = path ∧ e.type = type

variable {calls : List (Option RdmaEndpoint)}

/-- A lookup by a path and a byte of the wire. -/
theorem getEndpoint_registrations (hknown : ∀ e, some e ∈ calls → e.type.Known)
    (path : RdmaEndpointPath) (byte : UInt8) :
    (registrations calls).getEndpoint (makeEndpointId path (.ofByte byte))
      = lookupAnswer (makeEndpointId path (.ofByte byte))
          (firstWith calls path (.ofByte byte)) := by
  have hfirst : (registrations calls).lookup (makeEndpointId path (.ofByte byte))
      = firstWith calls path (.ofByte byte) := by
    rw [registrations_lookup, firstWith]
    refine List.find?_congr fun e he => ?_
    have hmem : some e ∈ calls := List.reduceOption_mem_iff.mp he
    exact decide_eq_decide.mpr (makeEndpointId_eq_iff (hknown e hmem))
  rw [getEndpoint_eq, hfirst]
  cases firstWith calls path (.ofByte byte) <;> rfl

variable [Platform]

/-- **Lookup is exact.**  A path and a byte of the wire find the first endpoint that was registered
with that path and that type; the two scans then find the path, behind any calls that lock and
unlock; and in no run of any number of sessions is a lock call answered with an error. -/
theorem lookup_exact (hknown : ∀ e, some e ∈ calls → e.type.Known) :
    (∀ path byte, (registrations calls).getEndpoint (makeEndpointId path (.ofByte byte))
      = lookupAnswer (makeEndpointId path (.ofByte byte)) (firstWith calls path (.ofByte byte))) ∧
      (∀ path byte endpoint locks,
        (registrations calls).getEndpoint (makeEndpointId path (.ofByte byte)) = .ok endpoint →
        ((afterCalls perform (registrations calls) locks).tryLockEndpointsByPath path).1.2 = none ∧
          ((afterCalls perform (registrations calls) locks).unlockEndpointsByPath path).1 = none) ∧
      ∀ (ι : Type) [DecidableEq ι] (ls : List (ι × SessionEvent)) (p : Pool ι),
        (pool ι).Run (Pool.start ι (registrations calls)) ls p →
        (∀ i path granted err, (i, ⟨.tryLockEndpointsByPath path, (granted, err)⟩) ∈ ls →
          err = none) ∧
          ∀ i path err, (i, ⟨.unlockEndpointsByPath path, err⟩) ∈ ls → err = none := by
  refine ⟨getEndpoint_registrations hknown, fun path byte endpoint locks h => ?_,
    fun ι _ ls p h => pool_lock_answers h⟩
  have hpath := (getEndpoint_hasPath h).afterCalls locks
  exact ⟨(tryLockEndpointsByPath_error_iff _ _).mpr hpath,
    (unlockEndpointsByPath_error_iff _ _).mpr hpath⟩

omit [Platform] in
/-- A write endpoint whose path looks like an id of a read endpoint, and one more with its id. -/
theorem lookup_exact_sample :
    letI := Platform.littleEndian
    (registrations [some ⟨ascii [':', 'r'], .write, some 0, none⟩, none,
        some ⟨ascii [':', 'r'], .write, some 1, none⟩]).getEndpoint
        (makeEndpointId (ascii [':', 'r']) (.ofByte 1))
      = .ok ⟨ascii [':', 'r'], .write, some 0, none⟩ := by
  let _ := Platform.littleEndian
  exact ((lookup_exact (by
    rintro e he
    simp only [List.mem_cons, Option.some.injEq, reduceCtorEq, List.not_mem_nil, or_false,
      false_or] at he
    rcases he with rfl | rfl <;> exact .inl rfl)).1 _ 1).trans (by decide)

end RdmaEndpointStorage

end DocaCpp
