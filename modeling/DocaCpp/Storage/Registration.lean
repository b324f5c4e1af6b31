/-
# Registering a list of endpoints

`RegisterEndpoints`, of the server and of the client, files the elements of its list one at a time
and returns at the first one that is refused.  Nothing takes back what was filed before, so a call
that returns an error has registered a prefix of its list.

What the storage is for is a partial map from ids to endpoints (`lookup`): `Contains`,
`GetEndpoint` and `Empty` say no more than it does, and a registration changes it at one id.
`registerAll_adds` says what a whole list does to it.
-/
import DocaCpp.Endpoint
import Mathlib.Logic.Function.Basic

namespace DocaCpp

/-! ## 1. The function -/

namespace RdmaEndpointStorage

/-- The loop of `RegisterEndpoints`. -/
def registerAll (storage : RdmaEndpointStorage) :
    List (Option RdmaEndpoint) → error × RdmaEndpointStorage
  | [] => (none, storage)
  | endpoint :: rest =>
    match storage.registerEndpoint endpoint with
    | (some err, storage) => (some (.wrap err "Failed to register RDMA endpoint"), storage)
    | (none, storage) => storage.registerAll rest

end RdmaEndpointStorage

/-- `RdmaServer::RegisterEndpoints`, on the member `endpointsStorage`, which may be null. -/
def RdmaServer.registerEndpoints (endpointsStorage : Option RdmaEndpointStorage)
    (endpoints : List (Option RdmaEndpoint)) : error × RdmaEndpointStorage :=
  (endpointsStorage.getD .create).registerAll endpoints

/-- `RdmaClient::RegisterEndpoints`, on the member `endpointsStorage`, which may be null. -/
def RdmaClient.registerEndpoints (endpointsStorage : Option RdmaEndpointStorage)
    (endpoints : List (Option RdmaEndpoint)) : error × RdmaEndpointStorage :=
  (endpointsStorage.getD .create).registerAll endpoints

namespace RdmaEndpointStorage

/-! ## 2. A partial map from ids to endpoints -/

/-- The endpoint registered under an id. -/
def lookup (storage : RdmaEndpointStorage) (id : RdmaEndpointId) : Option RdmaEndpoint :=
  (storage.endpointsMap.find? fun x => x.1 = id).map fun x => x.2.endpoint

section Lookup

variable {storage : RdmaEndpointStorage} {id : RdmaEndpointId} {endpoint : RdmaEndpoint}

/-- An id has one entry. -/
theorem lookup_eq_some_iff :
    storage.lookup id = some endpoint ↔
      endpoint.makeEndpointId = id ∧ storage.Holds endpoint := by
  constructor
  · intro h
    obtain ⟨x, hx, rfl⟩ := Option.map_eq_some_iff.mp h
    have hmem := List.mem_of_find?_eq_some hx
    have hid : x.1 = id := by simpa using List.find?_some hx
    exact ⟨(storage.keyed x hmem).symm.trans hid, x, hmem, rfl⟩
  · rintro ⟨rfl, x, hx, rfl⟩
    have hkey := storage.keyed x hx
    have hsome : (storage.endpointsMap.find?
        fun y => y.1 = x.2.endpoint.makeEndpointId).isSome = true := by
      rw [List.find?_isSome]
      exact ⟨x, hx, by simpa using hkey⟩
    obtain ⟨y, hy⟩ := Option.isSome_iff_exists.mp hsome
    have hyx : y = x := by
      have hid : y.1 = x.2.endpoint.makeEndpointId := by simpa using List.find?_some hy
      exact List.inj_on_of_nodup_map storage.nodup (List.mem_of_find?_eq_some hy) hx
        (hid.trans hkey.symm)
    rw [lookup, hy, hyx]
    rfl

theorem contains_eq (storage : RdmaEndpointStorage) (id : RdmaEndpointId) :
    storage.contains id = (storage.lookup id).isSome := by
  rw [contains, lookup, Option.isSome_map, List.isSome_find?]

theorem getEndpoint_eq (storage : RdmaEndpointStorage) (id : RdmaEndpointId) :
    storage.getEndpoint id =
      match storage.lookup id with
      | none => .error (.new ("RDMA endpoint with given ID is not registered: " ++ textOf id))
      | some endpoint => .ok endpoint := by
  unfold getEndpoint lookup
  cases storage.endpointsMap.find? fun x => x.1 = id <;> rfl

theorem isEmpty_iff : storage.isEmpty = true ↔ ∀ id, storage.lookup id = none := by
  constructor
  · intro h id
    rw [lookup, List.isEmpty_iff.mp h]
    rfl
  · intro h
    by_contra hne
    obtain ⟨x, hx⟩ := List.exists_mem_of_ne_nil _ fun hnil => hne (List.isEmpty_iff.mpr hnil)
    have hlookup := lookup_eq_some_iff.mpr ⟨rfl, x, hx, rfl⟩
    rw [h] at hlookup
    cases hlookup

/-- **A registration that succeeds** changes the map at the id of the endpoint, where there was
nothing. -/
theorem registerEndpoint_lookup
    (h : (storage.registerEndpoint (some endpoint)).1 = none) :
    storage.lookup endpoint.makeEndpointId = none ∧
      (storage.registerEndpoint (some endpoint)).2.lookup
        = Function.update storage.lookup endpoint.makeEndpointId (some endpoint) := by
  rcases storage.registerEndpoint_cases endpoint with ⟨-, herr, -⟩ | ⟨hnew, -, hperm⟩
  · exact absurd h herr
  rw [contains_eq, Option.isSome_eq_false_iff, Option.isNone_iff_eq_none] at hnew
  refine ⟨hnew, funext fun id => Option.ext fun e => ?_⟩
  have hholds : (storage.registerEndpoint (some endpoint)).2.Holds e ↔
      e = endpoint ∨ storage.Holds e := by
    simp only [Holds, hperm.mem_iff, List.mem_cons, exists_eq_or_imp]
    exact or_congr_left eq_comm
  rw [lookup_eq_some_iff, hholds]
  by_cases hid : id = endpoint.makeEndpointId
  · subst hid
    rw [Function.update_self, Option.some.injEq]
    constructor
    · rintro ⟨he, rfl | hold⟩
      · rfl
      · rw [lookup_eq_some_iff.mpr ⟨he, hold⟩] at hnew
        cases hnew
    · rintro rfl
      exact ⟨rfl, .inl rfl⟩
  · rw [Function.update_of_ne hid, lookup_eq_some_iff]
    constructor
    · rintro ⟨rfl, rfl | hold⟩
      · exact absurd rfl hid
      · exact ⟨rfl, hold⟩
    · rintro ⟨he, hold⟩
      exact ⟨he, .inr hold⟩

theorem registerEndpoint_contains (h : (storage.registerEndpoint (some endpoint)).1 = none)
    (id : RdmaEndpointId) :
    (storage.registerEndpoint (some endpoint)).2.contains id
      = (storage.contains id || decide (endpoint.makeEndpointId = id)) := by
  rw [contains_eq, contains_eq, (registerEndpoint_lookup h).2]
  by_cases hid : id = endpoint.makeEndpointId
  · simp [hid]
  · simp [Function.update_of_ne hid, Ne.symm hid]

/-- **A registration that is refused**: null, or of an id that is taken. -/
theorem registerEndpoint_refused {endpoint : Option RdmaEndpoint}
    (h : (storage.registerEndpoint endpoint).1 ≠ none) :
    (storage.registerEndpoint endpoint).2 = storage ∧
      ∀ e, endpoint = some e → storage.contains e.makeEndpointId = true := by
  cases endpoint with
  | none => exact ⟨rfl, nofun⟩
  | some endpoint =>
    rcases storage.registerEndpoint_cases endpoint with ⟨htaken, -, hsame⟩ | ⟨-, hok, -⟩
    · refine ⟨hsame, fun e he => ?_⟩
      cases he
      exact htaken
    · exact absurd hok h

end Lookup

/-! ## 3. What a list adds -/

/-- Exactly these endpoints have been added, to ids that were free, by what `Contains`,
`GetEndpoint` and `Empty` answer. -/
structure Adds (before : RdmaEndpointStorage) (added : List RdmaEndpoint)
    (after : RdmaEndpointStorage) : Prop where
  distinct : (added.map RdmaEndpoint.makeEndpointId).Nodup
  free : ∀ e ∈ added, before.contains e.makeEndpointId = false
  contains : ∀ id, after.contains id =
    (before.contains id || added.any fun e => e.makeEndpointId = id)
  found : ∀ e ∈ added, after.getEndpoint e.makeEndpointId = .ok e
  kept : ∀ id, (∀ e ∈ added, e.makeEndpointId ≠ id) → after.getEndpoint id = before.getEndpoint id
  isEmpty : after.isEmpty = (before.isEmpty && added.isEmpty)

/-- None of these endpoints has an id that is stored or that of another one. -/
def Fresh (before : RdmaEndpointStorage) (added : List RdmaEndpoint) : Prop :=
  (added.map RdmaEndpoint.makeEndpointId).Nodup ∧
    ∀ e ∈ added, before.contains e.makeEndpointId = false

/-- The element is one at which a registration stops: null, or of an id that is stored or was added
before it. -/
def Offends (before : RdmaEndpointStorage) (added : List RdmaEndpoint) :
    Option RdmaEndpoint → Prop
  | none => True
  | some e => before.contains e.makeEndpointId = true ∨
      e.makeEndpointId ∈ added.map RdmaEndpoint.makeEndpointId

section Adds

variable {before after : RdmaEndpointStorage} {added : List RdmaEndpoint}

theorem adds_nil (storage : RdmaEndpointStorage) : storage.Adds [] storage where
  distinct := List.nodup_nil
  free := nofun
  contains := by simp
  found := nofun
  kept := fun _ _ => rfl
  isEmpty := by simp

/-- **One endpoint more, in front.** -/
theorem Adds.cons {endpoint : RdmaEndpoint}
    (hok : (before.registerEndpoint (some endpoint)).1 = none)
    (h : (before.registerEndpoint (some endpoint)).2.Adds added after) :
    before.Adds (endpoint :: added) after := by
  obtain ⟨hnew, hlookup⟩ := registerEndpoint_lookup hok
  have hother : ∀ e ∈ added, endpoint.makeEndpointId ≠ e.makeEndpointId ∧
      before.contains e.makeEndpointId = false := by
    intro e he
    have hfree := h.free e he
    rw [registerEndpoint_contains hok, Bool.or_eq_false_iff, decide_eq_false_iff_not] at hfree
    exact hfree.symm
  exact
    { distinct := by
        rw [List.map_cons, List.nodup_cons]
        refine ⟨fun hmem => ?_, h.distinct⟩
        obtain ⟨e, he, heq⟩ := List.mem_map.mp hmem
        exact (hother e he).1 heq.symm
      free := by
        intro e he
        rcases List.mem_cons.mp he with rfl | he
        · rw [contains_eq, hnew]
          rfl
        · exact (hother e he).2
      contains := by
        intro id
        rw [h.contains, registerEndpoint_contains hok, List.any_cons, Bool.or_assoc]
      found := by
        intro e he
        rcases List.mem_cons.mp he with rfl | he
        · rw [h.kept _ fun e' he' heq => (hother e' he').1 heq.symm, getEndpoint_eq, hlookup,
            Function.update_self]
        · exact h.found e he
      kept := by
        intro id hid
        obtain ⟨hne, hrest⟩ := List.forall_mem_cons.mp hid
        rw [h.kept id hrest, getEndpoint_eq, getEndpoint_eq, hlookup,
          Function.update_of_ne (Ne.symm hne)]
      isEmpty := by
        have hsome : (before.registerEndpoint (some endpoint)).2.isEmpty = false := by
          refine Bool.eq_false_iff.mpr fun hempty => ?_
          have hnone := isEmpty_iff.mp hempty endpoint.makeEndpointId
          rw [hlookup, Function.update_self] at hnone
          cases hnone
        simp [h.isEmpty, hsome] }

end Adds

/-- **What a list of endpoints leaves**: the elements in front of the first one that offends have
been added, whether or not there is one; the result is null exactly if there is none. -/
theorem registerAll_adds (storage : RdmaEndpointStorage) (endpoints : List (Option RdmaEndpoint)) :
    ∃ added rest, endpoints = added.map some ++ rest ∧
      storage.Adds added (storage.registerAll endpoints).2 ∧
      ((storage.registerAll endpoints).1 = none ↔ rest = []) ∧
      ∀ x ∈ rest.head?, storage.Offends added x := by
  induction endpoints generalizing storage with
  | nil => exact ⟨[], [], rfl, adds_nil storage, iff_of_true rfl rfl, nofun⟩
  | cons endpoint endpoints ih =>
    cases hres : storage.registerEndpoint endpoint with
    | mk err storage' =>
      cases err with
      | some err =>
        have hne : (storage.registerEndpoint endpoint).1 ≠ none := by simp [hres]
        obtain ⟨hsame, htaken⟩ := registerEndpoint_refused hne
        rw [hres] at hsame
        refine ⟨[], endpoint :: endpoints, rfl, ?_, ?_, ?_⟩
        · simp only [registerAll, hres]
          exact hsame ▸ adds_nil _
        · simp [registerAll, hres]
        · intro x hx
          cases hx
          cases endpoint with
          | none => trivial
          | some e => exact .inl (htaken e rfl)
      | none =>
        cases endpoint with
        | none => cases hres
        | some e =>
          have hok : (storage.registerEndpoint (some e)).1 = none := by rw [hres]
          obtain ⟨added, rest, rfl, hadds, hnull, hoffends⟩ := ih storage'
          have hcons : storage.Adds (e :: added)
              (storage'.registerAll (added.map some ++ rest)).2 :=
            Adds.cons hok (by rw [hres]; exact hadds)
          refine ⟨e :: added, rest, rfl, ?_, ?_, ?_⟩
          · simpa only [registerAll, hres, List.map_cons, List.cons_append] using hcons
          · simpa only [registerAll, hres, List.map_cons, List.cons_append] using hnull
          · intro x hx
            have hx' := hoffends x hx
            cases x with
            | none => trivial
            | some d =>
              have hcontains := registerEndpoint_contains hok d.makeEndpointId
              rw [hres] at hcontains
              rcases hx' with hstored | hadded
              · rw [hcontains, Bool.or_eq_true, decide_eq_true_iff] at hstored
                exact hstored.imp_right fun heq => List.mem_cons.mpr (.inl heq.symm)
              · exact .inr (List.mem_cons_of_mem _ hadded)

/-- A lookup finds what is registered. -/
theorem getEndpoint_eq_ok_iff {storage : RdmaEndpointStorage} {id : RdmaEndpointId}
    {endpoint : RdmaEndpoint} :
    storage.getEndpoint id = .ok endpoint ↔
      endpoint.makeEndpointId = id ∧ storage.Holds endpoint := by
  rw [← lookup_eq_some_iff, getEndpoint_eq]
  cases storage.lookup id with
  | none => simp
  | some e => simp

/-- What is registered behind a list that has been added. -/
theorem Adds.holds_iff {before after : RdmaEndpointStorage} {added : List RdmaEndpoint}
    (h : before.Adds added after) {endpoint : RdmaEndpoint} :
    after.Holds endpoint ↔ before.Holds endpoint ∨ endpoint ∈ added := by
  have hfind : ∀ storage : RdmaEndpointStorage,
      storage.Holds endpoint ↔ storage.getEndpoint endpoint.makeEndpointId = .ok endpoint :=
    fun storage => (getEndpoint_eq_ok_iff.trans (and_iff_right rfl)).symm
  by_cases hid : ∀ e ∈ added, e.makeEndpointId ≠ endpoint.makeEndpointId
  · rw [hfind, hfind, h.kept _ hid]
    exact (or_iff_left fun hmem => hid _ hmem rfl).symm
  · push Not at hid
    obtain ⟨e, he, heq⟩ := hid
    have hfree : ¬ before.Holds endpoint := by
      intro hold
      have hcontains := h.free e he
      rw [heq, contains_eq, lookup_eq_some_iff.mpr ⟨rfl, hold⟩] at hcontains
      cases hcontains
    rw [or_iff_right hfree, hfind, ← heq, h.found e he]
    constructor
    · intro hok
      cases hok
      exact he
    · intro hmem
      have hsame := List.inj_on_of_nodup_map h.distinct hmem he heq.symm
      rw [hsame]

/-- **A list of fresh endpoints gets no further than the first element that offends.** -/
theorem Fresh.isPrefix {storage : RdmaEndpointStorage} {fresh added : List RdmaEndpoint}
    {rest rest' : List (Option RdmaEndpoint)} (h : storage.Fresh fresh)
    (heq : fresh.map some ++ rest' = added.map some ++ rest)
    (hoffends : ∀ x ∈ rest.head?, storage.Offends added x) : fresh <+: added := by
  rcases List.append_eq_append_iff.mp heq with ⟨more, hmore, -⟩ | ⟨more, hmore, hrest⟩
  · have hsome : Function.Injective (some : RdmaEndpoint → Option RdmaEndpoint) :=
      Option.some_injective _
    have hle : fresh.length ≤ added.length := by
      have hlength := congrArg List.length hmore
      rw [List.length_map, List.length_append, List.length_map] at hlength
      omega
    have htake : fresh.map some = (added.take fresh.length).map some := by
      rw [List.map_take, hmore, List.take_left' (List.length_map _)]
    rw [List.map_injective_iff.mpr hsome htake]
    exact List.take_prefix _ _
  · cases more with
    | nil =>
      rw [List.append_nil] at hmore
      obtain rfl : fresh = added := List.map_injective_iff.mpr (Option.some_injective _) hmore
      exact List.prefix_refl _
    | cons x more =>
      have hx := hoffends x (by rw [hrest]; rfl)
      obtain ⟨front, back, rfl, hfront, hback⟩ := List.map_eq_append_iff.mp hmore
      obtain rfl : front = added := List.map_injective_iff.mpr (Option.some_injective _) hfront
      obtain ⟨e, back, rfl, rfl, -⟩ := List.map_eq_cons_iff.mp hback
      rcases hx with hstored | hadded
      · rw [h.2 e (by simp)] at hstored
        cases hstored
      · have hdistinct := h.1
        rw [List.map_append, List.map_cons, List.nodup_append] at hdistinct
        exact absurd rfl (hdistinct.2.2 _ hadded _ List.mem_cons_self)

theorem registerAll_singleton (storage : RdmaEndpointStorage) (endpoint : Option RdmaEndpoint) :
    (storage.registerAll [endpoint]).2 = (storage.registerEndpoint endpoint).2 := by
  rw [registerAll]
  split
  next err storage' h => rw [h]
  next storage' h => rw [h]; rfl

/-- A list behind one of which none was refused. -/
theorem registerAll_append {storage : RdmaEndpointStorage} {xs : List (Option RdmaEndpoint)}
    (h : (storage.registerAll xs).1 = none) (ys : List (Option RdmaEndpoint)) :
    storage.registerAll (xs ++ ys) = (storage.registerAll xs).2.registerAll ys := by
  induction xs generalizing storage with
  | nil => rfl
  | cons x xs ih =>
    rw [List.cons_append, registerAll, registerAll]
    rw [registerAll] at h
    split at h
    · cases h
    · exact ih h

/-- A registration of fresh endpoints is refused none. -/
theorem registerAll_fresh {storage : RdmaEndpointStorage} {endpoints : List RdmaEndpoint}
    (h : storage.Fresh endpoints) :
    (storage.registerAll (endpoints.map some)).1 = none ∧
      storage.Adds endpoints (storage.registerAll (endpoints.map some)).2 := by
  obtain ⟨added, rest, heq, hadds, hnull, hoffends⟩ := storage.registerAll_adds
    (endpoints.map some)
  obtain ⟨more, rfl⟩ := h.isPrefix ((List.append_nil _).trans heq) hoffends
  rw [List.map_append, List.append_assoc] at heq
  have hnil := List.self_eq_append_right.mp heq
  rw [List.append_eq_nil_iff, List.map_eq_nil_iff] at hnil
  obtain ⟨rfl, rfl⟩ := hnil
  rw [List.append_nil] at hadds
  exact ⟨hnull.mpr rfl, hadds⟩

end RdmaEndpointStorage

/-! ## 4. The two functions -/

section Register

variable (register : Option RdmaEndpointStorage → List (Option RdmaEndpoint) →
  error × RdmaEndpointStorage)

/-- The batch is atomic: an error leaves every answer of the storage as it was, and null says that
the whole list has been added. -/
def Atomic : Prop :=
  ∀ endpointsStorage endpoints,
    ((register endpointsStorage endpoints).1 ≠ none → ∀ id,
      (register endpointsStorage endpoints).2.contains id
          = (endpointsStorage.getD .create).contains id ∧
        (register endpointsStorage endpoints).2.getEndpoint id
          = (endpointsStorage.getD .create).getEndpoint id ∧
        (register endpointsStorage endpoints).2.isEmpty
          = (endpointsStorage.getD .create).isEmpty) ∧
    ((register endpointsStorage endpoints).1 = none → ∃ added, endpoints = added.map some ∧
      (endpointsStorage.getD .create).Adds added (register endpointsStorage endpoints).2)

/-- The batch stops at the first element that offends: what stands in front of it has been added
and nothing else, and null says that there is none. -/
def StopsAtOffence : Prop :=
  ∀ endpointsStorage endpoints, ∃ added rest, endpoints = added.map some ++ rest ∧
    (endpointsStorage.getD .create).Adds added (register endpointsStorage endpoints).2 ∧
    ((register endpointsStorage endpoints).1 = none ↔ rest = []) ∧
    ∀ x ∈ rest.head?, (endpointsStorage.getD .create).Offends added x

end Register

/-- **What `RegisterEndpoints` registers**, on the server and on the client. -/
theorem registerEndpoints_stop :
    StopsAtOffence RdmaServer.registerEndpoints ∧ StopsAtOffence RdmaClient.registerEndpoints :=
  ⟨fun _ endpoints => RdmaEndpointStorage.registerAll_adds _ endpoints,
    fun _ endpoints => RdmaEndpointStorage.registerAll_adds _ endpoints⟩

/-- A list with an endpoint in front of null. -/
def halfList : List (Option RdmaEndpoint) := [some ⟨[47], .write, some 0, some 0⟩, none]

/-- The endpoint stays registered, so a second call with it is refused as well. -/
theorem registerEndpoints_not_atomic :
    ¬ Atomic RdmaServer.registerEndpoints ∧ ¬ Atomic RdmaClient.registerEndpoints ∧
      (RdmaServer.registerEndpoints (some (RdmaServer.registerEndpoints none halfList).2)
        (halfList.take 1)).1 ≠ none := by
  have hkept : (RdmaServer.registerEndpoints none halfList).1 ≠ none ∧
      (RdmaServer.registerEndpoints none halfList).2.isEmpty = false := by decide
  have hbefore : RdmaEndpointStorage.create.isEmpty = true := rfl
  refine ⟨fun h => ?_, fun h => ?_, by decide⟩
  · have hsame := ((h none halfList).1 hkept.1 []).2.2
    exact absurd (hkept.2.symm.trans (hsame.trans hbefore)) Bool.false_ne_true
  · have hsame := ((h none halfList).1 hkept.1 []).2.2
    exact absurd (hkept.2.symm.trans (hsame.trans hbefore)) Bool.false_ne_true

end DocaCpp
