/-
# Endpoints and the endpoint storage

`RdmaEndpointStorage` keeps the registered endpoints in a `std::map` keyed by `type:path` and a
lock flag beside each of them.  A lock is taken per PATH, not per endpoint:
`TryLockEndpointsByPath` visits every endpoint of the path and reports success as soon as one of
them was free, so its answer means "exclusive" only while all flags of a path agree.

`tryLockEndpointsByPath_snd` and `unlockEndpointsByPath_snd` say what the two scans leave behind
(`setLocked`), and `tryLockEndpointsByPath_granted_iff` when the first one says yes.  Later modules
use these and never unfold a scan.
-/
import DocaCpp.Base
import Mathlib.Data.List.Nodup

namespace DocaCpp

/-! ## 1. Endpoints -/

abbrev RdmaEndpointId := Bytes
abbrev RdmaEndpointPath := Bytes

/-- `RdmaEndpointType`, an `enum class` over `int`: an object of it holds any 32 bits, the
enumerators name two of them. -/
structure RdmaEndpointType where
  raw : UInt32
  deriving DecidableEq, Repr

namespace RdmaEndpointType

def write : RdmaEndpointType := ⟨1⟩
def read : RdmaEndpointType := ⟨2⟩

/-- `static_cast` from a byte of the wire. -/
def ofByte (b : UInt8) : RdmaEndpointType := ⟨b.toUInt32⟩

/-- `static_cast<uint8_t>`. -/
def toByte (t : RdmaEndpointType) : UInt8 := t.raw.toUInt8

@[simp] theorem toByte_ofByte (b : UInt8) : (ofByte b).toByte = b := UInt8.toUInt8_toUInt32 b

theorem read_ne_write : read ≠ write := by decide

end RdmaEndpointType

/-- An endpoint.  Buffer and service are pointers the builder may leave null. -/
structure RdmaEndpoint where
  path : RdmaEndpointPath
  type : RdmaEndpointType
  buffer : Option Nat
  service : Option Nat
  deriving DecidableEq, Repr

/-- `EndpointTypeToString`. -/
def endpointTypeToString (type : RdmaEndpointType) : Bytes :=
  if type = .write then ascii ['w', 'r', 'i', 't', 'e']
  else if type = .read then ascii ['r', 'e', 'a', 'd']
  else ascii ['u', 'n', 'k', 'n', 'o', 'w', 'n']

/-- `MakeEndpointId` of a path and a type. -/
def makeEndpointId (path : RdmaEndpointPath) (type : RdmaEndpointType) : RdmaEndpointId :=
  endpointTypeToString type ++ ascii [':'] ++ path

/-- `MakeEndpointId` of an endpoint. -/
def RdmaEndpoint.makeEndpointId (endpoint : RdmaEndpoint) : RdmaEndpointId :=
  DocaCpp.makeEndpointId endpoint.path endpoint.type

/-- **An id determines the path.**  None of the three type names is a prefix of another, so the
first colon that follows one of them ends it, whatever the path contains. -/
theorem makeEndpointId_path {p q : RdmaEndpointPath} {t u : RdmaEndpointType}
    (h : makeEndpointId p t = makeEndpointId q u) : p = q := by
  unfold makeEndpointId endpointTypeToString at h
  split at h <;> split at h <;> (try split at h) <;> (try split at h) <;>
    simp_all [ascii]

/-- **An id determines the name of the type.** -/
theorem makeEndpointId_type {p q : RdmaEndpointPath} {t u : RdmaEndpointType}
    (h : makeEndpointId p t = makeEndpointId q u) :
    endpointTypeToString t = endpointTypeToString u := by
  have hp := makeEndpointId_path h
  subst hp
  exact List.append_cancel_right (List.append_cancel_right h)

theorem endpointTypeToString_write {t : RdmaEndpointType}
    (h : endpointTypeToString t = endpointTypeToString .write) : t = .write := by
  unfold endpointTypeToString at h
  split at h
  · assumption
  · split at h <;> simp [ascii] at h

theorem endpointTypeToString_read {t : RdmaEndpointType}
    (h : endpointTypeToString t = endpointTypeToString .read) : t = .read := by
  unfold endpointTypeToString at h
  split at h
  · simp [RdmaEndpointType.read_ne_write, ascii] at h
  · split at h
    · assumption
    · simp [RdmaEndpointType.read_ne_write, ascii] at h

/-! ## 2. The storage -/

/-- `RdmaEndpointStorage::StoredEndpoint`. -/
structure StoredEndpoint where
  endpoint : RdmaEndpoint
  endpointLocked : Bool
  deriving DecidableEq, Repr

abbrev StorageEntry := RdmaEndpointId × StoredEndpoint

/-- `RdmaEndpointStorage`: the map, as the list of its entries in key order.  Every entry is
filed under the id of its endpoint and no id occurs twice. -/
structure RdmaEndpointStorage where
  endpointsMap : List StorageEntry
  keyed : ∀ x ∈ endpointsMap, x.1 = x.2.endpoint.makeEndpointId
  nodup : (endpointsMap.map Prod.fst).Nodup

namespace RdmaEndpointStorage

/-- `RdmaEndpointStorage::Create`. -/
def create : RdmaEndpointStorage := ⟨[], by simp, List.nodup_nil⟩

/-- `RdmaEndpointStorage::Contains`. -/
def contains (storage : RdmaEndpointStorage) (id : RdmaEndpointId) : Bool :=
  storage.endpointsMap.any fun x => x.1 = id

/-- `RdmaEndpointStorage::Empty`. -/
def isEmpty (storage : RdmaEndpointStorage) : Bool := storage.endpointsMap.isEmpty

/-- The bytes of a string as the text of a message. -/
def textOf (bs : Bytes) : String := String.ofList (bs.map fun b => Char.ofNat b.toNat)

/-- `RdmaEndpointStorage::GetEndpoint`. -/
def getEndpoint (storage : RdmaEndpointStorage) (id : RdmaEndpointId) :
    Except Err RdmaEndpoint :=
  match storage.endpointsMap.find? fun x => x.1 = id with
  | none => .error (.new ("RDMA endpoint with given ID is not registered: " ++ textOf id))
  | some x => .ok x.2.endpoint

/-- `std::map::emplace` of a key the map does not hold. -/
def emplace (id : RdmaEndpointId) (stored : StoredEndpoint) : List StorageEntry → List StorageEntry
  | [] => [(id, stored)]
  | x :: rest => if id < x.1 then (id, stored) :: x :: rest else x :: emplace id stored rest

theorem emplace_perm (id : RdmaEndpointId) (stored : StoredEndpoint) :
    ∀ entries, (emplace id stored entries).Perm ((id, stored) :: entries)
  | [] => List.Perm.refl _
  | x :: rest => by
    simp only [emplace]
    split
    · exact List.Perm.refl _
    · exact ((emplace_perm id stored rest).cons x).trans (List.Perm.swap _ _ _)

/-- `RdmaEndpointStorage::RegisterEndpoint`.  After the `contains` test the `emplace` cannot
fail, so the source's third error never occurs. -/
def registerEndpoint (storage : RdmaEndpointStorage) (endpoint : Option RdmaEndpoint) :
    error × RdmaEndpointStorage :=
  match endpoint with
  | none => (some (.new "Cannot register null RDMA endpoint"), storage)
  | some endpoint =>
    if h : storage.contains endpoint.makeEndpointId then
      (some (.new ("RDMA endpoint with the same ID already registered: " ++
        textOf endpoint.makeEndpointId)), storage)
    else
      (none,
        { endpointsMap := emplace endpoint.makeEndpointId ⟨endpoint, false⟩ storage.endpointsMap
          keyed := by
            intro x hx
            rcases List.mem_cons.mp ((emplace_perm _ _ _).mem_iff.mp hx) with rfl | hx
            · rfl
            · exact storage.keyed x hx
          nodup := by
            rw [((emplace_perm _ _ _).map Prod.fst).nodup_iff, List.map_cons, List.nodup_cons]
            refine ⟨?_, storage.nodup⟩
            simpa [contains] using h })

/-! ## 3. The two scans -/

/-- The loop of `TryLockEndpointsByPath`, over the entries still to visit: `wasLocked`,
`pathFound` and the entries it leaves. -/
def tryLockLoop (path : RdmaEndpointPath) :
    List StorageEntry → Bool → Bool → Bool × Bool × List StorageEntry
  | [], wasLocked, pathFound => (wasLocked, pathFound, [])
  | (id, stored) :: rest, wasLocked, pathFound =>
    if stored.endpoint.path = path then
      -- under `endpointMutex`
      if !stored.endpointLocked then
        let r := tryLockLoop path rest true true
        (r.1, r.2.1, (id, { stored with endpointLocked := true }) :: r.2.2)
      else
        let r := tryLockLoop path rest wasLocked true
        (r.1, r.2.1, (id, stored) :: r.2.2)
    else
      let r := tryLockLoop path rest wasLocked pathFound
      (r.1, r.2.1, (id, stored) :: r.2.2)

/-- The loop of `UnlockEndpointsByPath`: `pathFound` and the entries it leaves. -/
def unlockLoop (path : RdmaEndpointPath) :
    List StorageEntry → Bool → Bool × List StorageEntry
  | [], pathFound => (pathFound, [])
  | (id, stored) :: rest, pathFound =>
    if stored.endpoint.path = path then
      let r := unlockLoop path rest true
      if stored.endpointLocked then
        (r.1, (id, { stored with endpointLocked := false }) :: r.2)
      else
        (r.1, (id, stored) :: r.2)
    else
      let r := unlockLoop path rest pathFound
      (r.1, (id, stored) :: r.2)

/-- One entry with its flag overwritten when it belongs to the path. -/
def flagEntry (path : RdmaEndpointPath) (flag : Bool) (x : StorageEntry) : StorageEntry :=
  if x.2.endpoint.path = path then (x.1, { x.2 with endpointLocked := flag }) else x

@[simp] theorem flagEntry_fst (path : RdmaEndpointPath) (flag : Bool) (x : StorageEntry) :
    (flagEntry path flag x).1 = x.1 := by
  unfold flagEntry; split <;> rfl

@[simp] theorem flagEntry_endpoint (path : RdmaEndpointPath) (flag : Bool) (x : StorageEntry) :
    (flagEntry path flag x).2.endpoint = x.2.endpoint := by
  unfold flagEntry; split <;> rfl

/-- **What the lock scan leaves**: every flag of the path set, whatever it was before. -/
theorem tryLockLoop_entries (path : RdmaEndpointPath) :
    ∀ (entries : List StorageEntry) (w f : Bool),
      (tryLockLoop path entries w f).2.2 = entries.map (flagEntry path true)
  | [], _, _ => rfl
  | (id, stored) :: rest, w, f => by
    obtain ⟨endpoint, locked⟩ := stored
    simp only [tryLockLoop, List.map_cons, flagEntry]
    split
    · cases locked <;> simp [tryLockLoop_entries path rest]
    · simp [tryLockLoop_entries path rest]

/-- **What the lock scan answers**: whether it met a free endpoint of the path, and whether it
met any. -/
theorem tryLockLoop_answer (path : RdmaEndpointPath) :
    ∀ (entries : List StorageEntry) (w f : Bool),
      (tryLockLoop path entries w f).1
          = (w || entries.any fun x => x.2.endpoint.path = path && !x.2.endpointLocked) ∧
        (tryLockLoop path entries w f).2.1
          = (f || entries.any fun x => x.2.endpoint.path = path)
  | [], w, f => by simp [tryLockLoop]
  | (id, stored) :: rest, w, f => by
    obtain ⟨endpoint, locked⟩ := stored
    simp only [tryLockLoop, List.any_cons]
    split
    · rename_i hp
      cases locked <;> simp [tryLockLoop_answer path rest, hp]
    · rename_i hp
      simp [tryLockLoop_answer path rest, hp]

theorem unlockLoop_entries (path : RdmaEndpointPath) :
    ∀ (entries : List StorageEntry) (f : Bool),
      (unlockLoop path entries f).2 = entries.map (flagEntry path false)
  | [], _ => rfl
  | (id, stored) :: rest, f => by
    obtain ⟨endpoint, locked⟩ := stored
    simp only [unlockLoop, List.map_cons, flagEntry]
    split
    · cases locked <;> simp [unlockLoop_entries path rest]
    · simp [unlockLoop_entries path rest]

theorem unlockLoop_found (path : RdmaEndpointPath) :
    ∀ (entries : List StorageEntry) (f : Bool),
      (unlockLoop path entries f).1 = (f || entries.any fun x => x.2.endpoint.path = path)
  | [], f => by simp [unlockLoop]
  | (id, stored) :: rest, f => by
    obtain ⟨endpoint, locked⟩ := stored
    simp only [unlockLoop, List.any_cons]
    split
    · rename_i hp
      cases locked <;> simp [unlockLoop_found path rest, hp]
    · rename_i hp
      simp [unlockLoop_found path rest, hp]

/-- The storage with every flag of a path overwritten. -/
def setLocked (storage : RdmaEndpointStorage) (path : RdmaEndpointPath) (flag : Bool) :
    RdmaEndpointStorage where
  endpointsMap := storage.endpointsMap.map (flagEntry path flag)
  keyed := by
    intro x hx
    obtain ⟨y, hy, rfl⟩ := List.mem_map.mp hx
    simpa using storage.keyed y hy
  nodup := by
    have h : (storage.endpointsMap.map (flagEntry path flag)).map Prod.fst
        = storage.endpointsMap.map Prod.fst := by simp [Function.comp_def]
    rw [h]
    exact storage.nodup

/-- `RdmaEndpointStorage::TryLockEndpointsByPath`. -/
def tryLockEndpointsByPath (storage : RdmaEndpointStorage) (endpointsPath : RdmaEndpointPath) :
    (Bool × error) × RdmaEndpointStorage :=
  let r := tryLockLoop endpointsPath storage.endpointsMap false false
  ((r.1, if !r.2.1 then some (.new "No endpoints with specified path found") else none),
    { endpointsMap := r.2.2
      keyed := by rw [tryLockLoop_entries]; exact (storage.setLocked endpointsPath true).keyed
      nodup := by rw [tryLockLoop_entries]; exact (storage.setLocked endpointsPath true).nodup })

/-- `RdmaEndpointStorage::UnlockEndpointsByPath`. -/
def unlockEndpointsByPath (storage : RdmaEndpointStorage) (endpointsPath : RdmaEndpointPath) :
    error × RdmaEndpointStorage :=
  let r := unlockLoop endpointsPath storage.endpointsMap false
  (if !r.1 then some (.new "No endpoints with specified path found") else none,
    { endpointsMap := r.2
      keyed := by rw [unlockLoop_entries]; exact (storage.setLocked endpointsPath false).keyed
      nodup := by rw [unlockLoop_entries]; exact (storage.setLocked endpointsPath false).nodup })

/-! ## 4. What a caller may rely on -/

/-- Some endpoint of the path is registered. -/
def HasPath (storage : RdmaEndpointStorage) (path : RdmaEndpointPath) : Prop :=
  ∃ x ∈ storage.endpointsMap, x.2.endpoint.path = path

/-- Every endpoint of the path carries this flag. -/
def Flagged (storage : RdmaEndpointStorage) (path : RdmaEndpointPath) (flag : Bool) : Prop :=
  ∀ x ∈ storage.endpointsMap, x.2.endpoint.path = path → x.2.endpointLocked = flag

theorem ext_map {s t : RdmaEndpointStorage} (h : s.endpointsMap = t.endpointsMap) : s = t := by
  cases s; cases t; cases h; rfl

theorem tryLockEndpointsByPath_snd (storage : RdmaEndpointStorage) (path : RdmaEndpointPath) :
    (storage.tryLockEndpointsByPath path).2 = storage.setLocked path true :=
  ext_map (tryLockLoop_entries path _ _ _)

theorem unlockEndpointsByPath_snd (storage : RdmaEndpointStorage) (path : RdmaEndpointPath) :
    (storage.unlockEndpointsByPath path).2 = storage.setLocked path false :=
  ext_map (unlockLoop_entries path _ _)

/-- **When the lock is granted**: some endpoint of the path was free. -/
theorem tryLockEndpointsByPath_granted_iff (storage : RdmaEndpointStorage)
    (path : RdmaEndpointPath) :
    (storage.tryLockEndpointsByPath path).1.1 = true ↔
      ∃ x ∈ storage.endpointsMap, x.2.endpoint.path = path ∧ x.2.endpointLocked = false := by
  simp [tryLockEndpointsByPath, (tryLockLoop_answer path storage.endpointsMap false false).1]

/-- **When the lock attempt fails**: no endpoint has the path. -/
theorem tryLockEndpointsByPath_error_iff (storage : RdmaEndpointStorage)
    (path : RdmaEndpointPath) :
    (storage.tryLockEndpointsByPath path).1.2 = none ↔ storage.HasPath path := by
  simp [tryLockEndpointsByPath, HasPath,
    (tryLockLoop_answer path storage.endpointsMap false false).2]

/-- A granted lock comes with no error. -/
theorem tryLockEndpointsByPath_granted_error {storage : RdmaEndpointStorage}
    {path : RdmaEndpointPath} (h : (storage.tryLockEndpointsByPath path).1.1 = true) :
    (storage.tryLockEndpointsByPath path).1.2 = none := by
  obtain ⟨x, hx, hp, -⟩ := (tryLockEndpointsByPath_granted_iff _ _).mp h
  exact (tryLockEndpointsByPath_error_iff _ _).mpr ⟨x, hx, hp⟩

theorem setLocked_flagged_same (storage : RdmaEndpointStorage) (path : RdmaEndpointPath)
    (flag : Bool) : (storage.setLocked path flag).Flagged path flag := by
  intro x hx hp
  obtain ⟨y, -, rfl⟩ := List.mem_map.mp hx
  rw [flagEntry_endpoint] at hp
  simp [flagEntry, hp]

/-- Flags of other paths are left alone. -/
theorem setLocked_flagged_other {storage : RdmaEndpointStorage} {p q : RdmaEndpointPath}
    {flag b : Bool} (hne : q ≠ p) :
    (storage.setLocked p flag).Flagged q b ↔ storage.Flagged q b := by
  constructor
  · intro h x hx hq
    have hm : flagEntry p flag x ∈ (storage.setLocked p flag).endpointsMap :=
      List.mem_map.mpr ⟨x, hx, rfl⟩
    have := h _ hm (by simpa using hq)
    simpa [flagEntry, show ¬ x.2.endpoint.path = p from fun e => hne (hq.symm.trans e)] using this
  · intro h x hx hq
    obtain ⟨y, hy, rfl⟩ := List.mem_map.mp hx
    rw [flagEntry_endpoint] at hq
    have := h y hy hq
    simpa [flagEntry, show ¬ y.2.endpoint.path = p from fun e => hne (hq.symm.trans e)] using this

/-- Overwriting the flags of a path with what they are changes nothing. -/
theorem setLocked_of_flagged {storage : RdmaEndpointStorage} {path : RdmaEndpointPath}
    {flag : Bool} (h : storage.Flagged path flag) : storage.setLocked path flag = storage := by
  refine ext_map ((List.map_congr_left fun x hx => ?_).trans (List.map_id _))
  unfold flagEntry
  split
  · rename_i hp
    rw [← h x hx hp]
    rfl
  · rfl

/-- A lock that is not granted changes no flag. -/
theorem setLocked_of_refused {storage : RdmaEndpointStorage} {path : RdmaEndpointPath}
    (h : (storage.tryLockEndpointsByPath path).1.1 = false) :
    storage.setLocked path true = storage := by
  refine setLocked_of_flagged fun x hx hp => ?_
  by_contra hne
  have hg := (tryLockEndpointsByPath_granted_iff storage path).mpr
    ⟨x, hx, hp, by simpa using hne⟩
  rw [h] at hg
  cases hg

/-- The endpoint a lookup finds is filed under the id it was looked up by. -/
theorem getEndpoint_ok {storage : RdmaEndpointStorage} {id : RdmaEndpointId} {ep : RdmaEndpoint}
    (h : storage.getEndpoint id = .ok ep) :
    ep.makeEndpointId = id ∧ storage.HasPath ep.path := by
  unfold getEndpoint at h
  split at h
  · cases h
  · rename_i x hx
    cases h
    have hmem := List.mem_of_find?_eq_some hx
    have hid : x.1 = id := by simpa using List.find?_some hx
    exact ⟨(storage.keyed x hmem).symm.trans hid, x, hmem, rfl⟩

/-- The endpoint is registered. -/
def Holds (storage : RdmaEndpointStorage) (endpoint : RdmaEndpoint) : Prop :=
  ∃ x ∈ storage.endpointsMap, x.2.endpoint = endpoint

theorem Holds.hasPath {storage : RdmaEndpointStorage} {endpoint : RdmaEndpoint}
    (h : storage.Holds endpoint) : storage.HasPath endpoint.path := by
  obtain ⟨x, hx, rfl⟩ := h
  exact ⟨x, hx, rfl⟩

theorem getEndpoint_holds {storage : RdmaEndpointStorage} {id : RdmaEndpointId}
    {endpoint : RdmaEndpoint} (h : storage.getEndpoint id = .ok endpoint) :
    storage.Holds endpoint := by
  unfold getEndpoint at h
  split at h
  · cases h
  · rename_i x hx
    cases h
    exact ⟨x, List.mem_of_find?_eq_some hx, rfl⟩

/-- Locking registers nothing. -/
theorem setLocked_holds {storage : RdmaEndpointStorage} {path : RdmaEndpointPath} {flag : Bool}
    {endpoint : RdmaEndpoint} :
    (storage.setLocked path flag).Holds endpoint ↔ storage.Holds endpoint := by
  constructor
  · rintro ⟨x, hx, rfl⟩
    obtain ⟨y, hy, rfl⟩ := List.mem_map.mp hx
    exact ⟨y, hy, (flagEntry_endpoint _ _ _).symm⟩
  · rintro ⟨x, hx, rfl⟩
    exact ⟨flagEntry path flag x, List.mem_map.mpr ⟨x, hx, rfl⟩, flagEntry_endpoint _ _ _⟩

theorem isEmpty_of_holds {storage : RdmaEndpointStorage} {endpoint : RdmaEndpoint}
    (h : storage.Holds endpoint) : storage.isEmpty = false := by
  obtain ⟨x, hx, -⟩ := h
  exact Bool.eq_false_iff.mpr fun hempty => List.ne_nil_of_mem hx (List.isEmpty_iff.mp hempty)

/-- **What a registration does**: it is refused and changes nothing, or it files a free entry. -/
theorem registerEndpoint_cases (storage : RdmaEndpointStorage) (endpoint : RdmaEndpoint) :
    (storage.contains endpoint.makeEndpointId = true ∧
        (storage.registerEndpoint (some endpoint)).1 ≠ none ∧
        (storage.registerEndpoint (some endpoint)).2 = storage) ∨
      (storage.contains endpoint.makeEndpointId = false ∧
        (storage.registerEndpoint (some endpoint)).1 = none ∧
        (storage.registerEndpoint (some endpoint)).2.endpointsMap.Perm
          ((endpoint.makeEndpointId, ⟨endpoint, false⟩) :: storage.endpointsMap)) := by
  unfold registerEndpoint
  by_cases h : storage.contains endpoint.makeEndpointId
  · left
    simp [h]
  · right
    refine ⟨by simpa using h, ?_⟩
    simp [h, emplace_perm]

/-- The storages that registrations build, accepted or refused. -/
inductive Registered : RdmaEndpointStorage → Prop
  | create : Registered create
  | register {storage : RdmaEndpointStorage} (endpoint : Option RdmaEndpoint) :
      Registered storage → Registered (storage.registerEndpoint endpoint).2

/-- A registration locks nothing. -/
theorem Registered.unlocked {storage : RdmaEndpointStorage} (h : storage.Registered) :
    ∀ x ∈ storage.endpointsMap, x.2.endpointLocked = false := by
  induction h with
  | create => intro x hx; cases hx
  | @register storage endpoint _ ih =>
    intro x hx
    unfold registerEndpoint at hx
    split at hx
    · exact ih x hx
    · split at hx
      · exact ih x hx
      · rcases List.mem_cons.mp ((emplace_perm _ _ _).mem_iff.mp hx) with rfl | hx
        · rfl
        · exact ih x hx

end RdmaEndpointStorage

end DocaCpp
