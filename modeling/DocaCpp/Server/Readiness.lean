/-
# Endpoints that are ready to be requested

A request makes a session dereference the buffer and the service of the endpoint it names, and
export the memory map of the buffer.  Four public calls put these there, none of which looks at
what the others have done: the builder takes an endpoint whose buffer was never set,
`RegisterService` may never be called, `RegisterEndpoints` takes anything that is not null, and
`Serve` maps the buffers of the endpoints that are registered when it is called, and of no others.

`App` is the application with the objects it has made; `app_safe_iff` says which sequences of calls
let no request reach a null pointer.
-/
import DocaCpp.Lib.History
import DocaCpp.Session.Calls
import DocaCpp.Storage.Registration

namespace DocaCpp

/-! ## 1. Buffers, builders and services -/

/-- `RdmaBuffer`: the pointers to its memory range and to the map of it. -/
structure RdmaBuffer where
  memoryRange : Option Nat := none
  memoryMap : Option Nat := none
  deriving DecidableEq

namespace RdmaBuffer

/-- `RdmaBuffer::RegisterMemoryRange`. -/
def registerMemoryRange (buffer : RdmaBuffer) (memoryRange : Option Nat) : error × RdmaBuffer :=
  if buffer.memoryRange ≠ none then (some (.new "Memory range already registered"), buffer)
  else (none, { buffer with memoryRange := memoryRange })

/-- `RdmaBuffer::MapMemory`, by what the creation of a memory map answers. -/
def mapMemory (buffer : RdmaBuffer) (native : error) : error × RdmaBuffer :=
  if buffer.memoryMap ≠ none then (none, buffer)
  else
    match buffer.memoryRange with
    | none => (some (.new "Memory range not registered"), buffer)
    | some range =>
      match native with
      | some err => (some (.wrap err "Failed to create memory map"), buffer)
      | none => (none, { buffer with memoryMap := some range })

/-- `RdmaBuffer::ExportMemoryDescriptor`, by what the export of the map answers. -/
def exportMemoryDescriptor (buffer : RdmaBuffer) (native : Except Err Bytes) : Except Err Bytes :=
  match buffer.memoryMap with
  | none => .error (.new "Memory map is null")
  | some _ => native.mapError fun err => .wrap err "Failed to export memory descriptor"

end RdmaBuffer

namespace RdmaEndpoint

/-- `RdmaEndpoint::Builder`. -/
structure Builder where
  buildErr : error := none
  device : Option Nat := none
  path : RdmaEndpointPath := []
  type : RdmaEndpointType := .write
  buffer : Option Nat := none

/-- The setters of the builder. -/
inductive Setter
  | setDevice (device : Option Nat)
  | setPath (path : RdmaEndpointPath)
  | setType (type : RdmaEndpointType)
  | setBuffer (buffer : Option Nat)

namespace Builder

/-- A call of a setter. -/
def set [Platform] (builder : Builder) : Setter → Builder
  | .setDevice device =>
    { builder with
      buildErr := if device = none then wrap builder.buildErr "Device is null" else builder.buildErr
      device := device }
  | .setPath path => { builder with path := path }
  | .setType type => { builder with type := type }
  | .setBuffer buffer =>
    { builder with
      buildErr :=
        if buffer = none then wrap builder.buildErr "RDMA buffer is null" else builder.buildErr
      buffer := buffer }

/-- `RdmaEndpoint::Builder::Build`. -/
def build (builder : Builder) : Option RdmaEndpoint × error :=
  match builder.buildErr with
  | some err => (none, some (.wrap err "Failed to build RDMA endpoint"))
  | none => (some ⟨builder.path, builder.type, builder.buffer, none⟩, none)

end Builder

/-- `RdmaEndpoint::RegisterService`. -/
def registerService (endpoint : RdmaEndpoint) (service : Option Nat) : error × RdmaEndpoint :=
  if service = none then (some (.new "Service provided for RDMA endpoint is null"), endpoint)
  else (none, { endpoint with service := service })

end RdmaEndpoint

/-- The loop of `RdmaEndpointStorage::MapEndpointsMemory`, over the entries still to visit and the
buffers they point to.  `none`: it dereferences a null buffer. -/
def mapLoop (native : Nat → error) :
    List StorageEntry → (Nat → RdmaBuffer) → Option (error × (Nat → RdmaBuffer))
  | [], buffers => some (none, buffers)
  | x :: rest, buffers =>
    match x.2.endpoint.buffer with
    | none => none
    | some b =>
      let result := (buffers b).mapMemory (native b)
      match result.1 with
      | some err => some (some (.wrap err "Failed to map endpoint memory"), buffers)
      | none => mapLoop native rest (Function.update buffers b result.2)

/-- `RdmaEndpointStorage::MapEndpointsMemory`. -/
def RdmaEndpointStorage.mapEndpointsMemory (storage : RdmaEndpointStorage) (native : Nat → error)
    (buffers : Nat → RdmaBuffer) : Option (error × (Nat → RdmaBuffer)) :=
  mapLoop native storage.endpointsMap buffers

/-! ## 2. The application -/

/-- The objects of an application with a server.  The storage of the server holds pointers, so what
is done to a registered endpoint shows in it: it is what the registrations build of the endpoints as
they are. -/
structure App where
  buffers : Nat → RdmaBuffer := fun _ => {}
  /-- the endpoints that have been built, by their pointers -/
  endpoints : Nat → Option RdmaEndpoint := fun _ => none
  registered : List Nat := []
  isServing : Bool := false
  /-- a null pointer has been dereferenced -/
  crashed : Bool := false

/-- What the application calls. -/
inductive AppCall
  | registerMemoryRange (b : Nat) (memoryRange : Option Nat)
  /-- a builder is created, set and built -/
  | build (e : Nat) (setters : List RdmaEndpoint.Setter)
  | registerService (e : Nat) (service : Option Nat)
  | registerEndpoints (endpoints : List (Option Nat))
  /-- `Serve` is called, by what the native calls answer and what comes of the executor -/
  | serve (native : Nat → error) (executor : error)
  /-- `Serve` returns -/
  | returns

namespace App

/-- `endpointsStorage`. -/
def storage (a : App) : RdmaEndpointStorage :=
  (RdmaEndpointStorage.create.registerAll (a.registered.map a.endpoints)).2

/-- `RdmaServer::RegisterEndpoints`. -/
def registerEndpoints (a : App) : List (Option Nat) → error × App
  | [] => (none, a)
  | e :: rest =>
    match (a.storage.registerEndpoint (e.bind a.endpoints)).1 with
    | some err => (some (.wrap err "Failed to register RDMA endpoint"), a)
    | none => { a with registered := a.registered ++ e.toList }.registerEndpoints rest

/-- `RdmaServer::Serve`, up to the event loop. -/
def serve (a : App) (native : Nat → error) (executor : error) : App :=
  if a.isServing then a
  else if a.storage.isEmpty then a
  else
    match a.storage.mapEndpointsMemory native a.buffers with
    | none => { a with crashed := true }
    | some (some _, buffers) => { a with buffers := buffers }
    | some (none, buffers) => { a with buffers := buffers, isServing := executor = none }

/-- One call. -/
def step [Platform] (a : App) (call : AppCall) : Option App :=
  if a.crashed then none
  else
    match call with
    | .registerMemoryRange b memoryRange =>
      let buffer := ((a.buffers b).registerMemoryRange memoryRange).2
      some { a with buffers := Function.update a.buffers b buffer }
    | .build e setters =>
      let built := (setters.foldl RdmaEndpoint.Builder.set {}).build.1
      if a.endpoints e = none then some { a with endpoints := Function.update a.endpoints e built }
      else none
    | .registerService e service =>
      (a.endpoints e).map fun endpoint =>
        let endpoint := (endpoint.registerService service).2
        { a with endpoints := Function.update a.endpoints e (some endpoint) }
    | .registerEndpoints endpoints => some (a.registerEndpoints endpoints).2
    | .serve native executor => some (a.serve native executor)
    | .returns => if a.isServing then some { a with isServing := false } else none

end App

/-- The application, as a machine. -/
def app [Platform] : Machine App AppCall := ⟨App.step⟩

/-! ## 3. What a request may rely on -/

section Ready

/-- What a session gets that exports the descriptor of the buffer of an endpoint. -/
def RdmaEndpoint.exported (endpoint : RdmaEndpoint) (buffers : Nat → RdmaBuffer)
    (native : Except Err Bytes) : UserCall (Except Err Bytes) :=
  match endpoint.buffer with
  | none => .nullPointer
  | some b => .returned ((buffers b).exportMemoryDescriptor native)

/-- What a session gets that calls the service of an endpoint. -/
def RdmaEndpoint.handled (endpoint : RdmaEndpoint) (services : Nat → UserCall error) :
    UserCall error :=
  match endpoint.service with
  | none => .nullPointer
  | some s => services s

/-- The endpoint has a buffer that is mapped, and a service. -/
structure RdmaEndpoint.Equipped (buffers : Nat → RdmaBuffer) (endpoint : RdmaEndpoint) : Prop where
  buffer : ∃ b, endpoint.buffer = some b ∧ (buffers b).memoryMap ≠ none
  service : endpoint.service ≠ none

/-- The endpoint is ready: it is equipped, its descriptor is exported unless the native call fails,
and its service is called. -/
structure RdmaEndpoint.Ready (buffers : Nat → RdmaBuffer) (endpoint : RdmaEndpoint) : Prop where
  equipped : endpoint.Equipped buffers
  exported : ∀ native, endpoint.exported buffers native
    = .returned (native.mapError fun err => .wrap err "Failed to export memory descriptor")
  handled : ∀ services, ∃ s, endpoint.service = some s ∧ endpoint.handled services = services s

/-- The application is safe: no null pointer has been dereferenced, and while the server serves,
every endpoint that a request gets is ready. -/
structure App.Safe (a : App) : Prop where
  alive : a.crashed = false
  ready : a.isServing = true → ∀ (request : Request) (endpoint : RdmaEndpoint),
    a.storage.getEndpoint (makeEndpointId request.endpointPath request.endpointType)
      = .ok endpoint → endpoint.Ready a.buffers

variable {a : App} {buffers : Nat → RdmaBuffer} {endpoint : RdmaEndpoint}

theorem RdmaEndpoint.Equipped.ready (h : endpoint.Equipped buffers) : endpoint.Ready buffers := by
  obtain ⟨b, hb, hmap⟩ := h.buffer
  obtain ⟨s, hs⟩ := Option.ne_none_iff_exists'.mp h.service
  obtain ⟨m, hm⟩ := Option.ne_none_iff_exists'.mp hmap
  refine ⟨h, fun native => ?_, fun services => ⟨s, hs, ?_⟩⟩
  · simp only [RdmaEndpoint.exported, hb, RdmaBuffer.exportMemoryDescriptor, hm]
  · simp only [RdmaEndpoint.handled, hs]

/-- There is a request for every endpoint. -/
theorem App.safe_iff :
    a.Safe ↔ a.crashed = false ∧
      (a.isServing = true →
        ∀ endpoint, a.storage.Holds endpoint → endpoint.Equipped a.buffers) := by
  constructor
  · intro h
    refine ⟨h.alive, fun hserving endpoint hold => ?_⟩
    exact (h.ready hserving ⟨endpoint.type, endpoint.path⟩ endpoint
      (RdmaEndpointStorage.getEndpoint_eq_ok_iff.mpr ⟨rfl, hold⟩)).equipped
  · rintro ⟨halive, hready⟩
    refine ⟨halive, fun hserving request endpoint hfound => ?_⟩
    exact (hready hserving endpoint
      (RdmaEndpointStorage.getEndpoint_eq_ok_iff.mp hfound).2).ready

end Ready

/-! ## 4. Mapping the endpoints -/

section Map

variable {native : Nat → error} {buffers buffers' : Nat → RdmaBuffer} {endpoint : RdmaEndpoint}
  {entries : List StorageEntry}

/-- The endpoint has a buffer that is mapped, or can be. -/
def RdmaEndpoint.Maps (native : Nat → error) (buffers : Nat → RdmaBuffer)
    (endpoint : RdmaEndpoint) : Prop :=
  ∃ b, endpoint.buffer = some b ∧
    ((buffers b).memoryMap ≠ none ∨ (buffers b).memoryRange ≠ none ∧ native b = none)

/-- Every endpoint has a buffer, up to the first one that cannot be mapped. -/
def ReachesNoNull (native : Nat → error) (buffers : Nat → RdmaBuffer) : List StorageEntry → Prop
  | [] => True
  | x :: rest => x.2.endpoint.buffer ≠ none ∧
      (x.2.endpoint.Maps native buffers → ReachesNoNull native buffers rest)

/-- **When a buffer is mapped.** -/
theorem RdmaBuffer.mapMemory_iff (buffer : RdmaBuffer) (native : error) :
    (buffer.mapMemory native).1 = none ↔
      buffer.memoryMap ≠ none ∨ buffer.memoryRange ≠ none ∧ native = none := by
  unfold mapMemory
  split
  next h => simp [h]
  next h =>
    rw [not_not] at h
    cases buffer.memoryRange with
    | none => simp [h]
    | some range => cases native <;> simp [h]

theorem RdmaBuffer.mapMemory_mapped {buffer : RdmaBuffer} {native : error}
    (h : (buffer.mapMemory native).1 = none) : (buffer.mapMemory native).2.memoryMap ≠ none := by
  unfold mapMemory at h ⊢
  split
  next hmap => exact hmap
  next hmap =>
    rw [if_neg hmap] at h
    cases hr : buffer.memoryRange with
    | none => rw [hr] at h; cases h
    | some range =>
      rw [hr] at h
      cases native with
      | some err => cases h
      | none => exact Option.some_ne_none _

/-- A buffer that has been mapped counts as before. -/
theorem maps_update {b : Nat} (h : ((buffers b).mapMemory (native b)).1 = none) :
    endpoint.Maps native (Function.update buffers b ((buffers b).mapMemory (native b)).2) ↔
      endpoint.Maps native buffers := by
  refine exists_congr fun c => and_congr_right fun _ => ?_
  by_cases hc : c = b
  · subst hc
    rw [Function.update_self]
    exact iff_of_true (.inl (RdmaBuffer.mapMemory_mapped h))
      ((RdmaBuffer.mapMemory_iff _ _).mp h)
  · rw [Function.update_of_ne hc]

theorem reachesNoNull_update {b : Nat} (h : ((buffers b).mapMemory (native b)).1 = none) :
    ReachesNoNull native (Function.update buffers b ((buffers b).mapMemory (native b)).2) entries ↔
      ReachesNoNull native buffers entries := by
  induction entries with
  | nil => exact Iff.rfl
  | cons x entries ih => rw [ReachesNoNull, ReachesNoNull, ih, maps_update h]

/-- **When the loop dereferences a null pointer.** -/
theorem mapLoop_eq_none_iff (entries : List StorageEntry) (buffers : Nat → RdmaBuffer) :
    mapLoop native entries buffers = none ↔ ¬ ReachesNoNull native buffers entries := by
  induction entries generalizing buffers with
  | nil => simp [mapLoop, ReachesNoNull]
  | cons x entries ih =>
    rw [mapLoop, ReachesNoNull]
    cases hb : x.2.endpoint.buffer with
    | none => simp
    | some b =>
      have hmaps : x.2.endpoint.Maps native buffers ↔
          ((buffers b).mapMemory (native b)).1 = none := by
        rw [RdmaBuffer.mapMemory_iff]
        simp [RdmaEndpoint.Maps, hb]
      rw [hmaps]
      dsimp only
      cases hok : ((buffers b).mapMemory (native b)).1 with
      | some err => simp
      | none => simp [ih, reachesNoNull_update hok]

/-- What the loop has mapped stays mapped. -/
theorem mapLoop_mono (h : mapLoop native entries buffers = some (none, buffers')) {b : Nat}
    (hb : (buffers b).memoryMap ≠ none) : (buffers' b).memoryMap ≠ none := by
  induction entries generalizing buffers with
  | nil =>
    cases h
    exact hb
  | cons x entries ih =>
    rw [mapLoop] at h
    split at h
    · cases h
    next c hc =>
      dsimp only at h
      split at h
      · cases h
      next hok =>
        refine ih h ?_
        by_cases hbc : b = c
        · subst hbc
          rw [Function.update_self]
          exact RdmaBuffer.mapMemory_mapped hok
        · rwa [Function.update_of_ne hbc]

/-- **What the loop has done where it comes to its end**: every endpoint could be mapped, and is. -/
theorem mapLoop_ok (h : mapLoop native entries buffers = some (none, buffers')) :
    ∀ x ∈ entries, x.2.endpoint.Maps native buffers ∧
      ∃ b, x.2.endpoint.buffer = some b ∧ (buffers' b).memoryMap ≠ none := by
  induction entries generalizing buffers with
  | nil => nofun
  | cons x entries ih =>
    rw [mapLoop] at h
    split at h
    · cases h
    next b hb =>
      dsimp only at h
      split at h
      · cases h
      next hok =>
        intro y hy
        rcases List.mem_cons.mp hy with rfl | hy
        · refine ⟨⟨b, hb, (RdmaBuffer.mapMemory_iff _ _).mp hok⟩, b, hb, mapLoop_mono h ?_⟩
          rw [Function.update_self]
          exact RdmaBuffer.mapMemory_mapped hok
        · obtain ⟨hmaps, hmapped⟩ := ih h y hy
          exact ⟨(maps_update hok).mp hmaps, hmapped⟩

/-- **When the loop comes to its end.** -/
theorem mapLoop_of_maps (h : ∀ x ∈ entries, x.2.endpoint.Maps native buffers) :
    ∃ buffers', mapLoop native entries buffers = some (none, buffers') := by
  induction entries generalizing buffers with
  | nil => exact ⟨buffers, rfl⟩
  | cons x entries ih =>
    obtain ⟨⟨b, hb, hmap⟩, hrest⟩ := List.forall_mem_cons.mp h
    have hok := (RdmaBuffer.mapMemory_iff (buffers b) (native b)).mpr hmap
    obtain ⟨buffers', hres⟩ := ih fun y hy => (maps_update hok).mpr (hrest y hy)
    refine ⟨buffers', ?_⟩
    rw [mapLoop, hb]
    dsimp only
    rw [hok]
    exact hres

end Map

/-! ## 5. Registering the endpoints -/

namespace App

variable {a : App}

/-- What is registered was built, and under different ids. -/
def Sound (a : App) : Prop :=
  ∃ built, a.registered.map a.endpoints = built.map some ∧ RdmaEndpointStorage.create.Fresh built

/-- The storage of a sound application. -/
theorem Sound.storage (h : a.Sound) :
    ∃ built, a.registered.map a.endpoints = built.map some ∧
      (RdmaEndpointStorage.create.registerAll (a.registered.map a.endpoints)).1 = none ∧
      RdmaEndpointStorage.create.Adds built a.storage := by
  obtain ⟨built, hbuilt, hfresh⟩ := h
  obtain ⟨hnull, hadds⟩ := RdmaEndpointStorage.registerAll_fresh hfresh
  rw [← hbuilt] at hnull hadds
  exact ⟨built, hbuilt, hnull, hadds⟩

/-- The storage holds what the registered pointers point to. -/
theorem Sound.holds_iff (h : a.Sound) {endpoint : RdmaEndpoint} :
    a.storage.Holds endpoint ↔ some endpoint ∈ a.registered.map a.endpoints := by
  obtain ⟨built, hbuilt, -, hadds⟩ := h.storage
  have hnone : ¬ RdmaEndpointStorage.create.Holds endpoint := by
    rintro ⟨x, hx, -⟩
    cases hx
  rw [hadds.holds_iff, hbuilt, or_iff_right hnone]
  simp

/-- One pointer more. -/
theorem Sound.register (h : a.Sound) {e : Option Nat}
    (hok : (a.storage.registerEndpoint (e.bind a.endpoints)).1 = none) :
    { a with registered := a.registered ++ e.toList }.Sound ∧
      { a with registered := a.registered ++ e.toList }.storage
        = (a.storage.registerEndpoint (e.bind a.endpoints)).2 := by
  obtain ⟨built, hbuilt, hnull, hadds⟩ := h.storage
  obtain ⟨endpoint, hendpoint⟩ : ∃ endpoint, e.bind a.endpoints = some endpoint := by
    cases hb : e.bind a.endpoints with
    | none =>
      rw [hb] at hok
      cases hok
    | some endpoint => exact ⟨endpoint, rfl⟩
  obtain ⟨p, rfl, hp⟩ := Option.bind_eq_some_iff.mp hendpoint
  have hmap : (a.registered ++ [p]).map a.endpoints
      = a.registered.map a.endpoints ++ [some endpoint] := by simp [hp]
  rw [hendpoint] at hok ⊢
  constructor
  · refine ⟨built ++ [endpoint], by simp [hp, hbuilt], ?_, fun e _ => rfl⟩
    have hnew := (RdmaEndpointStorage.registerEndpoint_lookup hok).1
    have hfree := hadds.contains endpoint.makeEndpointId
    rw [RdmaEndpointStorage.contains_eq, hnew] at hfree
    have hnone : built.any (fun e => e.makeEndpointId = endpoint.makeEndpointId) = false :=
      (Bool.or_eq_false_iff.mp hfree.symm).2
    rw [List.map_append, List.nodup_append]
    refine ⟨hadds.distinct, List.nodup_singleton _, fun x hx y hy => ?_⟩
    obtain ⟨e, he, rfl⟩ := List.mem_map.mp hx
    obtain rfl := List.mem_singleton.mp hy
    simpa using List.any_eq_false.mp hnone e he
  · change (RdmaEndpointStorage.create.registerAll ((a.registered ++ [p]).map a.endpoints)).2 = _
    rw [hmap, RdmaEndpointStorage.registerAll_append hnull,
      RdmaEndpointStorage.registerAll_singleton]
    rfl

/-- **The pointers are registered as the endpoints they point to are.** -/
theorem registerEndpoints_refines (h : a.Sound) (endpoints : List (Option Nat)) :
    (a.registerEndpoints endpoints).1
        = (a.storage.registerAll (endpoints.map fun e => e.bind a.endpoints)).1 ∧
      (a.registerEndpoints endpoints).2.storage
        = (a.storage.registerAll (endpoints.map fun e => e.bind a.endpoints)).2 ∧
      (a.registerEndpoints endpoints).2.Sound ∧
      ∃ registered, (a.registerEndpoints endpoints).2 = { a with registered := registered } := by
  induction endpoints generalizing a with
  | nil => exact ⟨rfl, rfl, h, a.registered, rfl⟩
  | cons e rest ih =>
    rw [registerEndpoints, List.map_cons, RdmaEndpointStorage.registerAll]
    cases hres : a.storage.registerEndpoint (e.bind a.endpoints) with
    | mk err storage =>
      cases err with
      | some err =>
        have hne : (a.storage.registerEndpoint (e.bind a.endpoints)).1 ≠ none := by simp [hres]
        have hsame := (RdmaEndpointStorage.registerEndpoint_refused hne).1
        rw [hres] at hsame
        exact ⟨rfl, hsame.symm, h, a.registered, rfl⟩
      | none =>
        have hok : (a.storage.registerEndpoint (e.bind a.endpoints)).1 = none := by rw [hres]
        obtain ⟨hsound, hstorage⟩ := h.register hok
        obtain ⟨herr, hsame, hsound', registered, hreg⟩ := ih hsound
        rw [hstorage, hres] at herr hsame
        exact ⟨herr, hsame, hsound', registered, hreg⟩

/-- Endpoints that keep their ids. -/
theorem Sound.congr (h : a.Sound) {b : App} (hregistered : b.registered = a.registered)
    (hid : ∀ p ∈ a.registered, (b.endpoints p).map RdmaEndpoint.makeEndpointId
      = (a.endpoints p).map RdmaEndpoint.makeEndpointId) : b.Sound := by
  obtain ⟨built, hbuilt, hfresh⟩ := h
  obtain ⟨built', hbuilt', hids⟩ : ∃ built' : List RdmaEndpoint,
      a.registered.map b.endpoints = built'.map some ∧
        built'.map RdmaEndpoint.makeEndpointId = built.map RdmaEndpoint.makeEndpointId := by
    clear hfresh hregistered
    generalize a.registered = registered at hbuilt hid
    induction registered generalizing built with
    | nil => exact ⟨[], rfl, by rw [List.map_eq_nil_iff.mp hbuilt.symm]⟩
    | cons p registered ih =>
      obtain ⟨x, built, rfl, hx, hbuilt⟩ := List.map_eq_cons_iff.mp hbuilt.symm
      obtain ⟨hp, hid⟩ := List.forall_mem_cons.mp hid
      obtain ⟨built', hbuilt', hids⟩ := ih built hbuilt.symm hid
      rw [← hx] at hp
      obtain ⟨y, hy, hyx⟩ := Option.map_eq_some_iff.mp hp
      exact ⟨y :: built', by rw [List.map_cons, List.map_cons, hy, hbuilt'],
        by rw [List.map_cons, List.map_cons, hyx, hids]⟩
  rw [← hregistered] at hbuilt'
  exact ⟨built', hbuilt', hids ▸ hfresh.1, fun _ _ => rfl⟩

/-- What is registered has been built. -/
theorem Sound.built (h : a.Sound) {p : Nat} (hp : p ∈ a.registered) : a.endpoints p ≠ none := by
  obtain ⟨built, hbuilt, -⟩ := h
  have hmem : a.endpoints p ∈ built.map some := hbuilt ▸ List.mem_map_of_mem hp
  obtain ⟨endpoint, -, heq⟩ := List.mem_map.mp hmem
  rw [← heq]
  exact Option.some_ne_none endpoint

theorem registerService_makeEndpointId (endpoint : RdmaEndpoint) (service : Option Nat) :
    (endpoint.registerService service).2.makeEndpointId = endpoint.makeEndpointId := by
  unfold RdmaEndpoint.registerService
  split <;> rfl

end App

/-! ## 6. The result -/

namespace App

variable {a b : App} {call : AppCall}

/-- **A call prepares what it must**: `Serve` reaches no null buffer and, if it goes on to serve,
every registered endpoint has a service; what `RegisterEndpoints` adds while the server serves is
equipped. -/
def Prepared (a : App) : AppCall → Prop
  | .registerEndpoints endpoints =>
    a.isServing = true → ∀ fresh rest,
      (endpoints.map fun e => e.bind a.endpoints) = fresh.map some ++ rest →
        a.storage.Fresh fresh → ∀ e ∈ fresh, e.Equipped a.buffers
  | .serve native executor =>
    a.isServing = false → ReachesNoNull native a.buffers a.storage.endpointsMap ∧
      ((∀ x ∈ a.storage.endpointsMap, x.2.endpoint.Maps native a.buffers) → executor = none →
        ∀ x ∈ a.storage.endpointsMap, x.2.endpoint.service ≠ none)
  | _ => True

theorem Sound.step [Platform] (h : a.Sound) (hstep : a.step call = some b) : b.Sound := by
  obtain ⟨-, hstep⟩ := Option.ite_none_left_eq_some.mp hstep
  cases call with
  | registerMemoryRange => cases hstep; exact h
  | build e setters =>
    obtain ⟨hnew, hb⟩ := Option.ite_none_right_eq_some.mp hstep
    cases hb
    refine h.congr rfl fun p hp => ?_
    have hpe : p ≠ e := by
      rintro rfl
      exact h.built hp hnew
    dsimp only
    rw [Function.update_of_ne hpe]
  | registerService e service =>
    obtain ⟨endpoint, he, rfl⟩ := Option.map_eq_some_iff.mp hstep
    refine h.congr rfl fun p _ => ?_
    by_cases hpe : p = e
    · subst hpe
      simp [he, registerService_makeEndpointId]
    · dsimp only
      rw [Function.update_of_ne hpe]
  | registerEndpoints endpoints =>
    cases hstep
    exact (registerEndpoints_refines h endpoints).2.2.1
  | serve native executor =>
    cases hstep
    unfold serve
    split
    · exact h
    · split
      · exact h
      · split <;> exact h
  | returns =>
    obtain ⟨-, hb⟩ := Option.ite_none_right_eq_some.mp hstep
    cases hb
    exact h

/-- Every application is sound. -/
theorem app_sound [Platform] {calls : List AppCall} (h : app.Run {} calls a) : a.Sound := by
  refine Machine.RunWith.invariant (I := fun _ a => a.Sound) ?_ ?_ h
  · exact ⟨[], rfl, List.nodup_nil, nofun⟩
  · intro calls a call b _ hsound _ hstep
    exact hsound.step hstep

/-- A registration of a service takes nothing away. -/
theorem registerService_equipped {buffers : Nat → RdmaBuffer} {endpoint : RdmaEndpoint}
    (h : endpoint.Equipped buffers) (service : Option Nat) :
    (endpoint.registerService service).2.Equipped buffers := by
  unfold RdmaEndpoint.registerService
  split
  · exact h
  next hservice => exact ⟨h.buffer, hservice⟩

/-- **`RegisterEndpoints` while the server serves.** -/
theorem registerEndpoints_safe (h : a.Sound) (hsafe : a.Safe) (endpoints : List (Option Nat)) :
    (a.registerEndpoints endpoints).2.Safe ↔ a.Prepared (.registerEndpoints endpoints) := by
  obtain ⟨-, hstorage, -, registered, hreg⟩ := registerEndpoints_refines h endpoints
  obtain ⟨added, rest, heq, hadds, -, hoffends⟩ :=
    a.storage.registerAll_adds (endpoints.map fun e => e.bind a.endpoints)
  rw [← hstorage] at hadds
  have hold := (safe_iff.mp hsafe).2
  rw [safe_iff]
  simp only [hadds.holds_iff]
  rw [hreg]
  constructor
  · rintro ⟨-, hready⟩ hserving fresh rest' heq' hfresh e he
    have hfront := hfresh.isPrefix (heq'.symm.trans heq) hoffends
    exact hready hserving e (.inr (hfront.subset he))
  · intro hprepared
    refine ⟨hsafe.alive, fun hserving e he => ?_⟩
    rcases he with he | he
    · exact hold hserving e he
    · exact hprepared hserving added rest heq ⟨hadds.distinct, hadds.free⟩ e he

/-- **`Serve` before it serves.** -/
theorem serve_safe (hsafe : a.Safe) (native : Nat → error) (executor : error) :
    (a.serve native executor).Safe ↔ a.Prepared (.serve native executor) := by
  unfold serve Prepared
  split
  next hserving => simp [hserving, hsafe]
  next hserving =>
    rw [Bool.not_eq_true] at hserving
    split
    next hempty =>
      have hnil : a.storage.endpointsMap = [] := List.isEmpty_iff.mp hempty
      simp [hnil, hsafe, ReachesNoNull]
    next hempty =>
      rw [RdmaEndpointStorage.mapEndpointsMemory]
      split
      next hnull =>
        rw [mapLoop_eq_none_iff] at hnull
        refine iff_of_false (fun h => ?_) fun h => hnull (h hserving).1
        cases h.alive
      next err buffers hres =>
        have hreaches : ReachesNoNull native a.buffers a.storage.endpointsMap := by
          rw [← not_not (a := ReachesNoNull _ _ _), ← mapLoop_eq_none_iff, hres]
          exact Option.some_ne_none _
        refine iff_of_true ?_ fun _ => ⟨hreaches, fun hmaps => ?_⟩
        · exact safe_iff.mpr ⟨hsafe.alive, fun h => absurd h (by simp [hserving])⟩
        · obtain ⟨buffers', hok⟩ := mapLoop_of_maps hmaps
          rw [hres] at hok
          cases hok
      next buffers hres =>
        have hreaches : ReachesNoNull native a.buffers a.storage.endpointsMap := by
          rw [← not_not (a := ReachesNoNull _ _ _), ← mapLoop_eq_none_iff, hres]
          exact Option.some_ne_none _
        have hok := mapLoop_ok hres
        rw [safe_iff]
        constructor
        · rintro ⟨-, hready⟩ -
          refine ⟨hreaches, fun _ hexecutor x hx => ?_⟩
          exact (hready (decide_eq_true hexecutor) x.2.endpoint ⟨x, hx, rfl⟩).service
        · intro hprepared
          refine ⟨hsafe.alive, fun hexecutor e hold => ?_⟩
          obtain ⟨x, hx, rfl⟩ := hold
          exact ⟨(hok x hx).2, (hprepared hserving).2 (fun y hy => (hok y hy).1)
            (of_decide_eq_true hexecutor) x hx⟩

/-- Every other call leaves what is registered as ready as it was. -/
theorem step_safe [Platform] (h : a.Sound) (hsafe : a.Safe) (hstep : a.step call = some b) :
    b.Safe ↔ a.Prepared call := by
  have hsound := h.step hstep
  obtain ⟨halive, hstep⟩ := Option.ite_none_left_eq_some.mp hstep
  have hready := (safe_iff.mp hsafe).2
  cases call with
  | registerMemoryRange p memoryRange =>
    cases hstep
    refine iff_of_true (safe_iff.mpr ⟨hsafe.alive, fun hserving e hold => ?_⟩) trivial
    obtain ⟨⟨c, hc, hmap⟩, hservice⟩ := hready hserving e hold
    refine ⟨⟨c, hc, ?_⟩, hservice⟩
    dsimp only
    by_cases hcp : c = p
    · subst hcp
      rw [Function.update_self]
      unfold RdmaBuffer.registerMemoryRange
      split <;> exact hmap
    · rwa [Function.update_of_ne hcp]
  | build p setters =>
    obtain ⟨hnew, hb⟩ := Option.ite_none_right_eq_some.mp hstep
    cases hb
    refine iff_of_true (safe_iff.mpr ⟨hsafe.alive, fun hserving e hold => ?_⟩) trivial
    refine hready hserving e (h.holds_iff.mpr ?_)
    obtain ⟨q, hq, he⟩ := List.mem_map.mp (hsound.holds_iff.mp hold)
    have hqp : q ≠ p := by
      rintro rfl
      exact h.built hq hnew
    dsimp only at he
    rw [Function.update_of_ne hqp] at he
    exact List.mem_map.mpr ⟨q, hq, he⟩
  | registerService p service =>
    obtain ⟨endpoint, hp, rfl⟩ := Option.map_eq_some_iff.mp hstep
    refine iff_of_true (safe_iff.mpr ⟨hsafe.alive, fun hserving e hold => ?_⟩) trivial
    obtain ⟨q, hq, he⟩ := List.mem_map.mp (hsound.holds_iff.mp hold)
    dsimp only at he
    by_cases hqp : q = p
    · subst hqp
      rw [Function.update_self] at he
      cases he
      refine registerService_equipped (hready hserving endpoint (h.holds_iff.mpr ?_)) service
      exact List.mem_map.mpr ⟨q, hq, hp⟩
    · rw [Function.update_of_ne hqp] at he
      exact hready hserving e (h.holds_iff.mpr (List.mem_map.mpr ⟨q, hq, he⟩))
  | registerEndpoints endpoints =>
    cases hstep
    exact registerEndpoints_safe h hsafe endpoints
  | serve native executor =>
    cases hstep
    exact serve_safe hsafe native executor
  | returns =>
    obtain ⟨-, hb⟩ := Option.ite_none_right_eq_some.mp hstep
    cases hb
    exact iff_of_true (safe_iff.mpr ⟨hsafe.alive, nofun⟩) trivial

/-- **Which calls leave no request to reach a null pointer.**  In every sequence of calls, the
application is safe in every state exactly if every call prepares what it must. -/
theorem app_safe_iff [Platform] (calls : List AppCall) :
    app.AlwaysIn {} (fun _ a => a.Safe) calls ↔
      app.EveryStep {} (fun _ a call => a.Prepared call) calls := by
  refine Machine.alwaysIn_iff (safe_iff.mpr ⟨rfl, nofun⟩) fun calls a call b hrun hsafe hstep => ?_
  exact step_safe (app_sound hrun) hsafe hstep

/-- An endpoint with a buffer and no service is registered and served. -/
def serviceless : List AppCall :=
  [.registerMemoryRange 0 (some 0), .build 0 [.setDevice (some 0), .setPath [47], .setType .read,
    .setBuffer (some 0)], .registerEndpoints [some 0], .serve (fun _ => none) none]

/-- An endpoint without a buffer is registered and served. -/
def bufferless : List AppCall :=
  [.build 0 [.setDevice (some 0), .setPath [47]], .registerService 0 (some 0),
    .registerEndpoints [some 0], .serve (fun _ => none) none]

/-- The first lets a request for it reach a null service; the second crashes before it serves. -/
theorem app_unsafe :
    letI := Platform.littleEndian
    ¬ app.AlwaysIn {} (fun _ a => a.Safe) serviceless ∧
      ¬ app.AlwaysIn {} (fun _ a => a.Safe) bufferless := by
  let _ := Platform.littleEndian
  constructor
  · intro h
    have hexec : (app.exec {} serviceless).any (fun a => decide (a.isServing = true ∧
        a.storage.getEndpoint (makeEndpointId [47] .read)
          = .ok ⟨[47], .read, some 0, none⟩)) = true := by decide +kernel
    obtain ⟨a, ha, hend⟩ := (Option.any_eq_true _ _).mp hexec
    obtain ⟨hserving, hfound⟩ := of_decide_eq_true hend
    exact ((h.now a ha).ready hserving ⟨.read, [47]⟩ _ hfound).equipped.service rfl
  · intro h
    have hexec : (app.exec {} bufferless).any (fun a => a.crashed) = true := by decide +kernel
    obtain ⟨a, ha, hcrashed⟩ := (Option.any_eq_true _ _).mp hexec
    rw [(h.now a ha).alive] at hcrashed
    cases hcrashed

end App

end DocaCpp
