/-
# The endpoints of the client-server sample

Both programs of the sample make their endpoints with one function, from one list of configurations:
`CreateEndpoints` allocates a buffer for every path it meets for the first time and gives it to all
endpoints of that path.  The lock of a path protects whatever its endpoints share, so this is what
makes the locks worth taking: two endpoints have one buffer exactly if they have one path
(`createEndpoints_spec`).

The server registers a service with every endpoint and the endpoints with itself, and looks at the
result of neither `RegisterEndpoints` nor at what is missing after it.  `server_ready` says what it
serves: the configurations up to the first that repeats another, each of them ready for requests.
-/
import DocaCpp.Server.Readiness
import DocaCpp.Session.ServerHistory
import Mathlib.Data.List.GetD

namespace DocaCpp

namespace Sample

/-! ## 1. `CreateEndpoints` -/

/-- `endpoints::Config`. -/
structure Config where
  path : RdmaEndpointPath := []
  size : Nat := 0
  type : RdmaEndpointType := .write
  deriving DecidableEq

/-- The memory ranges and the buffers that have been allocated, by their pointers.  Of a memory
range there is its size. -/
structure Heap where
  ranges : List Nat := []
  buffers : List RdmaBuffer := []

/-- A memory range and a buffer it is registered with. -/
def Heap.allocate (heap : Heap) (size : Nat) : Nat × Heap :=
  let memrange := heap.ranges.length
  let buffer := (RdmaBuffer.registerMemoryRange {} (some memrange)).2
  (heap.buffers.length, ⟨heap.ranges ++ [size], heap.buffers ++ [buffer]⟩)

/-- The buffer behind a pointer. -/
def Heap.buffer (heap : Heap) (b : Nat) : RdmaBuffer := heap.buffers.getD b {}

/-- The size of the memory range of a buffer. -/
def Heap.size (heap : Heap) (b : Nat) : Option Nat :=
  (heap.buffer b).memoryRange.bind fun range => heap.ranges[range]?

variable [Platform]

/-- The loop of `CreateEndpoints`, over the configurations still to visit, with `buffers`, the
objects allocated and `endpoints`. -/
def createLoop (device : Option Nat) :
    List Config → (RdmaEndpointPath → Option Nat) → Heap → List (Option RdmaEndpoint) →
      (List (Option RdmaEndpoint) × error) × Heap
  | [], _, heap, endpoints => ((endpoints, none), heap)
  | config :: rest, buffers, heap, endpoints =>
    let allocated := heap.allocate config.size
    let isNew := buffers config.path = none
    let heap := if isNew then allocated.2 else heap
    let buffers :=
      if isNew then Function.update buffers config.path (some allocated.1) else buffers
    let uniqueBuffer := buffers config.path
    let setters : List RdmaEndpoint.Setter :=
      [.setDevice device, .setPath config.path, .setType config.type, .setBuffer uniqueBuffer]
    match (setters.foldl RdmaEndpoint.Builder.set {}).build with
    | (_, some err) => (([], some err), heap)
    | (ep, none) => createLoop device rest buffers heap (endpoints ++ [ep])

/-- `endpoints::CreateEndpoints`, with the objects it leaves. -/
def createEndpoints (device : Option Nat) (configs : List Config) :
    (List (Option RdmaEndpoint) × error) × Heap :=
  createLoop device configs (fun _ => none) {} []

/-! ## 2. The two programs -/

/-- The loop in which a program registers its services: one for the read endpoints, one for the
write endpoints.  `none`: it dereferences a null endpoint. -/
def registerServices (forRead forWrite : Option Nat) :
    List (Option RdmaEndpoint) → Option (error × List (Option RdmaEndpoint))
  | [] => some (none, [])
  | none :: _ => none
  | some endpoint :: rest =>
    let read := if endpoint.type = .read then endpoint.registerService forRead else (none, endpoint)
    if read.1 ≠ none then some (read.1, some read.2 :: rest)
    else
      let write :=
        if read.2.type = .write then read.2.registerService forWrite else (none, read.2)
      if write.1 ≠ none then some (write.1, some write.2 :: rest)
      else
        (registerServices forRead forWrite rest).map fun r => (r.1, some write.2 :: r.2)

/-- `user::UserWriteService`, the object a program has of it. -/
def userWriteService : Nat := 0

/-- `user::UserReadService`. -/
def userReadService : Nat := 1

/-- `main` of either program, with an opened device, up to the point where it serves or connects:
the storage of its server or client, and the objects it is made of.  `none`: it has returned before.
What `RegisterEndpoints` returns is not looked at. -/
def prepare
    (registerEndpoints : Option RdmaEndpointStorage → List (Option RdmaEndpoint) →
      error × RdmaEndpointStorage)
    (forRead forWrite : Nat) (device : Nat) (configs : List Config) :
    Option (RdmaEndpointStorage × Heap) :=
  match createEndpoints (some device) configs with
  | ((_, some _), _) => none
  | ((endpoints, none), heap) =>
    match registerServices (some forRead) (some forWrite) endpoints with
    | some (none, endpoints) => some ((registerEndpoints none endpoints).2, heap)
    | _ => none

/-- `main` of the server. -/
def serverMain : Nat → List Config → Option (RdmaEndpointStorage × Heap) :=
  prepare RdmaServer.registerEndpoints userWriteService userReadService

/-- `main` of the client. -/
def clientMain : Nat → List Config → Option (RdmaEndpointStorage × Heap) :=
  prepare RdmaClient.registerEndpoints userReadService userWriteService

/-! ## 3. One buffer for each path -/

namespace Heap

variable {heap : Heap} {b m n : Nat}

omit [Platform] in
theorem lt_of_size (h : heap.size b = some n) : b < heap.buffers.length := by
  by_contra hb
  rw [size, buffer, List.getD_eq_default _ _ (Nat.le_of_not_lt hb)] at h
  cases h

omit [Platform] in
/-- What was allocated stays. -/
theorem size_allocate (h : heap.size b = some n) : (heap.allocate m).2.size b = some n := by
  have hb := lt_of_size h
  obtain ⟨range, hrange, hn⟩ := Option.bind_eq_some_iff.mp h
  refine Option.bind_eq_some_iff.mpr ⟨range, ?_, ?_⟩
  · rw [← hrange]
    exact congrArg RdmaBuffer.memoryRange (List.getD_append _ _ _ _ hb)
  · rw [← hn]
    exact List.getElem?_append_left (List.getElem?_eq_some_iff.mp hn).1

omit [Platform] in
/-- The buffer that is allocated has the size it was asked for. -/
theorem size_allocated : (heap.allocate m).2.size (heap.allocate m).1 = some m := by
  simp [allocate, size, buffer, RdmaBuffer.registerMemoryRange]

omit [Platform] in
theorem unmapped_allocate (h : ∀ b, (heap.buffer b).memoryMap = none) (b : Nat) :
    ((heap.allocate m).2.buffer b).memoryMap = none := by
  have hlength : (heap.allocate m).2.buffers.length = heap.buffers.length + 1 :=
    List.length_append
  by_cases hb : b < heap.buffers.length
  · rw [← h b]
    exact congrArg RdmaBuffer.memoryMap (List.getD_append _ _ _ _ hb)
  · by_cases he : b = heap.buffers.length
    · subst he
      simp [allocate, buffer, RdmaBuffer.registerMemoryRange]
    · rw [buffer, List.getD_eq_default _ _ (by omega)]

end Heap

/-- **One buffer for each path**: the paths of the configurations visited have one, it is nobody
else's, and its size is that of the first configuration with the path. -/
structure Unique (visited : List Config) (buffers : RdmaEndpointPath → Option Nat) (heap : Heap) :
    Prop where
  met : ∀ c ∈ visited, buffers c.path ≠ none
  separate : ∀ p q b, buffers p = some b → buffers q = some b → p = q
  sized : ∀ p b, buffers p = some b →
    ∃ c, visited.find? (·.path = p) = some c ∧ heap.size b = some c.size
  unmapped : ∀ b, (heap.buffer b).memoryMap = none

section Loop

variable {visited configs : List Config} {config : Config} {device : Nat}
  {buffers : RdmaEndpointPath → Option Nat} {heap : Heap} {endpoints : List (Option RdmaEndpoint)}

omit [Platform] in
theorem unique_nil : Unique [] (fun _ => none) {} where
  met := nofun
  separate := nofun
  sized := nofun
  unmapped := fun _ => rfl

omit [Platform] in
/-- A path that was met before. -/
theorem Unique.again (h : Unique visited buffers heap) (hmet : buffers config.path ≠ none) :
    Unique (visited ++ [config]) buffers heap where
  met := by
    intro c hc
    rcases List.mem_append.mp hc with hc | hc
    · exact h.met c hc
    · rwa [List.mem_singleton.mp hc]
  separate := h.separate
  sized := by
    intro p b hb
    obtain ⟨c, hfind, hsize⟩ := h.sized p b hb
    exact ⟨c, by rw [List.find?_append, hfind]; rfl, hsize⟩
  unmapped := h.unmapped

omit [Platform] in
/-- A new one. -/
theorem Unique.allocate (h : Unique visited buffers heap) (hnew : buffers config.path = none) :
    Unique (visited ++ [config])
      (Function.update buffers config.path (some (heap.allocate config.size).1))
      (heap.allocate config.size).2 where
  met := by
    intro c hc
    by_cases hp : c.path = config.path
    · rw [hp, Function.update_self]
      exact Option.some_ne_none _
    · rw [Function.update_of_ne hp]
      refine h.met c ((List.mem_append.mp hc).resolve_right fun hc => hp ?_)
      rw [List.mem_singleton.mp hc]
  separate := by
    -- a buffer that was there before is not the new one
    have hfresh : ∀ p b, buffers p = some b → b ≠ (heap.allocate config.size).1 := by
      intro p b hb he
      obtain ⟨c, -, hsize⟩ := h.sized p b hb
      exact absurd he (Nat.ne_of_lt (Heap.lt_of_size hsize))
    intro p q b hp hq
    by_cases hpn : p = config.path
    · by_cases hqn : q = config.path
      · rw [hpn, hqn]
      · rw [hpn, Function.update_self] at hp
        rw [Function.update_of_ne hqn] at hq
        exact absurd (Option.some.inj hp).symm (hfresh q b hq)
    · rw [Function.update_of_ne hpn] at hp
      by_cases hqn : q = config.path
      · rw [hqn, Function.update_self] at hq
        exact absurd (Option.some.inj hq).symm (hfresh p b hp)
      · rw [Function.update_of_ne hqn] at hq
        exact h.separate p q b hp hq
  sized := by
    intro p b hb
    by_cases hp : p = config.path
    · subst hp
      rw [Function.update_self] at hb
      cases hb
      refine ⟨config, ?_, Heap.size_allocated⟩
      have hnone : visited.find? (·.path = config.path) = none := by
        refine List.find?_eq_none.mpr fun c hc hpath => ?_
        exact h.met c hc (by rw [of_decide_eq_true hpath, hnew])
      rw [List.find?_append, hnone]
      simp
    · rw [Function.update_of_ne hp] at hb
      obtain ⟨c, hfind, hsize⟩ := h.sized p b hb
      exact ⟨c, by rw [List.find?_append, hfind]; rfl, Heap.size_allocate hsize⟩
  unmapped := Heap.unmapped_allocate h.unmapped

/-- **The loop**: every configuration gives an endpoint, with the buffer of its path. -/
theorem createLoop_spec (device : Nat) (configs : List Config)
    (endpoints : List (Option RdmaEndpoint)) (h : Unique visited buffers heap) :
    ∃ buffers' heap', createLoop (some device) configs buffers heap endpoints
        = ((endpoints ++ configs.map fun c => some ⟨c.path, c.type, buffers' c.path, none⟩, none),
          heap') ∧
      Unique (visited ++ configs) buffers' heap' ∧
      ∀ p, buffers p ≠ none → buffers' p = buffers p := by
  induction configs generalizing visited buffers heap endpoints with
  | nil => exact ⟨buffers, heap, by simp [createLoop], by simpa using h, fun _ _ => rfl⟩
  | cons config configs ih =>
    -- one pass, whatever it takes the buffer from
    have hpass : ∀ (buffers₁ : RdmaEndpointPath → Option Nat) (heap₁ : Heap) (b : Nat),
        buffers₁ config.path = some b → Unique (visited ++ [config]) buffers₁ heap₁ →
        ∃ buffers' heap',
          createLoop (some device) configs buffers₁ heap₁
              (endpoints ++ [some ⟨config.path, config.type, some b, none⟩])
            = ((endpoints ++ (config :: configs).map fun c =>
                some ⟨c.path, c.type, buffers' c.path, none⟩, none), heap') ∧
          Unique (visited ++ config :: configs) buffers' heap' ∧
          ∀ p, buffers₁ p ≠ none → buffers' p = buffers₁ p := by
      intro buffers₁ heap₁ b hb hunique
      obtain ⟨buffers', heap', hloop, hunique', hkeep⟩ :=
        ih (endpoints ++ [some ⟨config.path, config.type, some b, none⟩]) hunique
      refine ⟨buffers', heap', ?_, by simpa using hunique', hkeep⟩
      rw [hloop, List.map_cons, hkeep config.path (by rw [hb]; exact Option.some_ne_none _), hb,
        List.append_assoc]
      rfl
    rw [createLoop]
    by_cases hnew : buffers config.path = none
    · simp only [hnew, if_true, Function.update_self]
      obtain ⟨buffers', heap', hloop, hunique, hkeep⟩ :=
        hpass _ _ _ (Function.update_self ..) (h.allocate hnew)
      refine ⟨buffers', heap', hloop, hunique, fun p hp => ?_⟩
      have hne : p ≠ config.path := fun he => hp (he ▸ hnew)
      rw [hkeep p (by rwa [Function.update_of_ne hne]), Function.update_of_ne hne]
    · obtain ⟨b, hb⟩ := Option.ne_none_iff_exists'.mp hnew
      simp only [hb, reduceCtorEq, if_false]
      exact hpass buffers heap b hb (h.again hnew)

end Loop

/-- **What `CreateEndpoints` returns**, with a device: an endpoint for each configuration, in order.
Two of them have one buffer exactly if they have one path, and a buffer is as long as the first
configuration of its path says. -/
theorem createEndpoints_spec (device : Nat) (configs : List Config) :
    ∃ buffers heap, createEndpoints (some device) configs
        = ((configs.map fun c => some ⟨c.path, c.type, buffers c.path, none⟩, none), heap) ∧
      Unique configs buffers heap := by
  obtain ⟨buffers, heap, hloop, hunique, -⟩ :=
    createLoop_spec device configs [] unique_nil
  exact ⟨buffers, heap, hloop, hunique⟩

/-! ## 4. What a program registers -/

/-- The service an endpoint of this type gets. -/
def serviceOf (forRead forWrite : Nat) (type : RdmaEndpointType) : Option Nat :=
  if type = .read then some forRead else if type = .write then some forWrite else none

/-- The endpoint of a configuration. -/
def Config.endpoint (forRead forWrite : Nat) (buffers : RdmaEndpointPath → Option Nat) (c : Config) :
    RdmaEndpoint :=
  ⟨c.path, c.type, buffers c.path, serviceOf forRead forWrite c.type⟩

/-- The id of a configuration. -/
def Config.id (c : Config) : RdmaEndpointId := makeEndpointId c.path c.type

omit [Platform] in
/-- Every endpoint gets the service of its type. -/
theorem registerServices_spec (forRead forWrite : Nat) (buffers : RdmaEndpointPath → Option Nat)
    (configs : List Config) :
    registerServices (some forRead) (some forWrite)
        (configs.map fun c => some ⟨c.path, c.type, buffers c.path, none⟩)
      = some (none, (configs.map (Config.endpoint forRead forWrite buffers)).map some) := by
  induction configs with
  | nil => rfl
  | cons c configs ih =>
    rw [List.map_cons, registerServices, ih]
    by_cases hr : c.type = .read
    · simp [RdmaEndpoint.registerService, Config.endpoint, serviceOf, hr,
        RdmaEndpointType.read_ne_write]
    · by_cases hw : c.type = .write
      · simp [RdmaEndpoint.registerService, Config.endpoint, serviceOf, hw,
          RdmaEndpointType.read_ne_write.symm]
      · simp [Config.endpoint, serviceOf, hr, hw]

/-- **What a program has registered**: the configurations of `front`, each with the service of its
type, and with one buffer for each path. -/
structure Registers (forRead forWrite : Nat) (configs front : List Config)
    (storage : RdmaEndpointStorage) (heap : Heap) : Prop where
  registered : storage.Registered
  distinct : (front.map Config.id).Nodup
  found : ∀ c ∈ front, ∃ e, storage.getEndpoint c.id = .ok e ∧ e.path = c.path ∧ e.type = c.type
  held : ∀ e, storage.Holds e → ∃ c ∈ front, e.path = c.path ∧ e.type = c.type
  service : ∀ e, storage.Holds e → e.service = serviceOf forRead forWrite e.type
  shared : ∀ e e', storage.Holds e → storage.Holds e' → (e.buffer = e'.buffer ↔ e.path = e'.path)
  sized : ∀ e, storage.Holds e → ∃ b c, e.buffer = some b ∧
    configs.find? (·.path = e.path) = some c ∧ heap.size b = some c.size
  unmapped : ∀ b, (heap.buffer b).memoryMap = none

omit [Platform] in
theorem registerAll_registered {storage : RdmaEndpointStorage} (h : storage.Registered)
    (endpoints : List (Option RdmaEndpoint)) : (storage.registerAll endpoints).2.Registered := by
  induction endpoints generalizing storage with
  | nil => exact h
  | cons endpoint endpoints ih =>
    have hone := RdmaEndpointStorage.Registered.register endpoint h
    rw [RdmaEndpointStorage.registerAll]
    split
    next err storage' hres =>
      rw [hres] at hone
      exact hone
    next storage' hres =>
      rw [hres] at hone
      exact ih hone

omit [Platform] in
/-- Registering the endpoints of the configurations. -/
theorem registers_of_unique (forRead forWrite : Nat) {configs : List Config}
    {buffers : RdmaEndpointPath → Option Nat} {heap : Heap} (h : Unique configs buffers heap) :
    ∃ front back, configs = front ++ back ∧ (∀ c ∈ back.head?, c.id ∈ front.map Config.id) ∧
      Registers forRead forWrite configs front
        (RdmaEndpointStorage.create.registerAll
          ((configs.map (Config.endpoint forRead forWrite buffers)).map some)).2 heap := by
  obtain ⟨added, rest, heq, hadds, -, hoffends⟩ := RdmaEndpointStorage.create.registerAll_adds
    ((configs.map (Config.endpoint forRead forWrite buffers)).map some)
  obtain ⟨added', rest', heq', hadded, rfl⟩ := List.map_eq_append_iff.mp heq
  obtain rfl : added' = added := List.map_injective_iff.mpr (Option.some_injective _) hadded
  obtain ⟨front, back, rfl, rfl, rfl⟩ := List.map_eq_append_iff.mp heq'
  have hids : (front.map (Config.endpoint forRead forWrite buffers)).map
      RdmaEndpoint.makeEndpointId = front.map Config.id := by
    rw [List.map_map]
    rfl
  have hholds : ∀ e, (RdmaEndpointStorage.create.registerAll
      (((front ++ back).map (Config.endpoint forRead forWrite buffers)).map some)).2.Holds e →
      ∃ c ∈ front, c.endpoint forRead forWrite buffers = e := by
    intro e he
    rcases hadds.holds_iff.mp he with ⟨x, hx, -⟩ | hmem
    · cases hx
    · exact List.mem_map.mp hmem
  refine ⟨front, back, rfl, fun c hc => ?_, ?_⟩
  · have hoffend := hoffends (some (c.endpoint forRead forWrite buffers)) (by
      rw [List.head?_map, List.head?_map, Option.mem_def.mp hc]
      rfl)
    rcases hoffend with hstored | hmem
    · cases hstored
    · rw [← hids]
      exact hmem
  · constructor
    · exact registerAll_registered .create _
    · rw [← hids]
      exact hadds.distinct
    · intro c hc
      exact ⟨_, hadds.found _ (List.mem_map_of_mem hc), rfl, rfl⟩
    · intro e he
      obtain ⟨c, hc, rfl⟩ := hholds e he
      exact ⟨c, hc, rfl, rfl⟩
    · intro e he
      obtain ⟨c, hc, rfl⟩ := hholds e he
      rfl
    · intro e e' he he'
      obtain ⟨c, hc, rfl⟩ := hholds e he
      obtain ⟨c', hc', rfl⟩ := hholds e' he'
      constructor
      · intro hbuffer
        obtain ⟨b, hb⟩ :=
          Option.ne_none_iff_exists'.mp (h.met c (List.mem_append_left back hc))
        exact h.separate c.path c'.path b hb (hbuffer.symm.trans hb)
      · exact fun hpath => congrArg buffers hpath
    · intro e he
      obtain ⟨c, hc, rfl⟩ := hholds e he
      obtain ⟨b, hb⟩ :=
        Option.ne_none_iff_exists'.mp (h.met c (List.mem_append_left back hc))
      obtain ⟨c', hfind, hsize⟩ := h.sized c.path b hb
      exact ⟨b, c', hb, hfind, hsize⟩
    · exact h.unmapped

/-- **What `main` has registered** when it serves or connects. -/
theorem prepare_registers
    (registerEndpoints : Option RdmaEndpointStorage → List (Option RdmaEndpoint) →
      error × RdmaEndpointStorage)
    (hregister : ∀ endpoints, registerEndpoints none endpoints
      = RdmaEndpointStorage.create.registerAll endpoints)
    (forRead forWrite device : Nat) (configs : List Config) :
    ∃ storage heap front back,
      prepare registerEndpoints forRead forWrite device configs = some (storage, heap) ∧
      configs = front ++ back ∧ (∀ c ∈ back.head?, c.id ∈ front.map Config.id) ∧
      Registers forRead forWrite configs front storage heap := by
  obtain ⟨buffers, heap, hcreate, hunique⟩ := createEndpoints_spec device configs
  obtain ⟨front, back, hconfigs, hback, hregisters⟩ :=
    registers_of_unique forRead forWrite hunique
  refine ⟨_, heap, front, back, ?_, hconfigs, hback, hregisters⟩
  rw [prepare, hcreate]
  dsimp only
  rw [registerServices_spec]
  dsimp only
  rw [hregister]

/-! ## 5. What the server serves -/

section Ready

variable {forRead forWrite : Nat} {configs front : List Config} {storage : RdmaEndpointStorage}
  {heap : Heap} {native : Nat → error} {buffers' : Nat → RdmaBuffer}

omit [Platform] in
/-- The memory of its endpoints can be mapped, if the native calls allow it. -/
theorem Registers.maps (h : Registers forRead forWrite configs front storage heap)
    (x : StorageEntry) (hx : x ∈ storage.endpointsMap) :
    ∃ b, x.2.endpoint.buffer = some b ∧ (heap.buffer b).memoryRange ≠ none := by
  obtain ⟨b, c, hb, -, hsize⟩ := h.sized x.2.endpoint ⟨x, hx, rfl⟩
  obtain ⟨range, hrange, -⟩ := Option.bind_eq_some_iff.mp hsize
  exact ⟨b, hb, by rw [hrange]; exact Option.some_ne_none _⟩

omit [Platform] in
/-- Mapping them dereferences no null pointer. -/
theorem Registers.mapEndpointsMemory (h : Registers forRead forWrite configs front storage heap)
    (native : Nat → error) : storage.mapEndpointsMemory native heap.buffer ≠ none := by
  have hreaches : ∀ entries : List StorageEntry,
      (∀ x ∈ entries, x.2.endpoint.buffer ≠ none) → ReachesNoNull native heap.buffer entries := by
    intro entries
    induction entries with
    | nil => exact fun _ => trivial
    | cons x entries ih =>
      intro hne
      obtain ⟨hx, hrest⟩ := List.forall_mem_cons.mp hne
      exact ⟨hx, fun _ => ih hrest⟩
  intro hnone
  refine (mapLoop_eq_none_iff _ _).mp hnone (hreaches _ fun x hx => ?_)
  obtain ⟨b, hb, -⟩ := h.maps x hx
  rw [hb]
  exact Option.some_ne_none _

omit [Platform] in
/-- They are mapped exactly if no native call fails. -/
theorem Registers.mapped_iff (h : Registers forRead forWrite configs front storage heap) :
    (∃ buffers', storage.mapEndpointsMemory native heap.buffer = some (none, buffers')) ↔
      ∀ e b, storage.Holds e → e.buffer = some b → native b = none := by
  constructor
  · rintro ⟨buffers', hmap⟩ e b ⟨x, hx, rfl⟩ hb
    obtain ⟨⟨b', hb', hmaps⟩, -⟩ := mapLoop_ok hmap x hx
    obtain rfl := Option.some.inj (hb.symm.trans hb')
    exact (hmaps.resolve_left fun hne => hne (h.unmapped b)).2
  · intro hnative
    refine mapLoop_of_maps fun x hx => ?_
    obtain ⟨b, hb, hrange⟩ := h.maps x hx
    exact ⟨b, hb, .inr ⟨hrange, hnative _ b ⟨x, hx, rfl⟩ hb⟩⟩

omit [Platform] in
/-- Once they are mapped they are ready. -/
theorem Registers.ready (h : Registers forRead forWrite configs front storage heap)
    (hmap : storage.mapEndpointsMemory native heap.buffer = some (none, buffers'))
    {e : RdmaEndpoint} (he : storage.Holds e) (hknown : e.type.Known) : e.Ready buffers' := by
  obtain ⟨x, hx, rfl⟩ := he
  obtain ⟨-, b, hb, hmapped⟩ := mapLoop_ok hmap x hx
  refine RdmaEndpoint.Equipped.ready ⟨⟨b, hb, hmapped⟩, ?_⟩
  rw [h.service _ ⟨x, hx, rfl⟩, serviceOf]
  rcases hknown with hw | hr
  · rw [hw, if_neg RdmaEndpointType.read_ne_write.symm, if_pos rfl]
    exact Option.some_ne_none _
  · rw [hr, if_pos rfl]
    exact Option.some_ne_none _

end Ready

/-- The configurations of the sample: two paths, to write to and to read from. -/
def sampleConfigs : List Config :=
  let ep0 := ascii ['/', 'r', 'd', 'm', 'a', '/', 'e', 'p', '0']
  let ep1 := ascii ['/', 'r', 'd', 'm', 'a', '/', 'e', 'p', '1']
  [⟨ep0, 4194304, .write⟩, ⟨ep0, 4194304, .read⟩, ⟨ep1, 4194304, .write⟩, ⟨ep1, 4194304, .read⟩]

omit [Platform] in
example :
    letI := Platform.littleEndian
    (sampleConfigs.map Config.id).Nodup ∧
      (serverMain 0 sampleConfigs).map (fun x => x.2.ranges) = some [4194304, 4194304] := by
  decide

end Sample

end DocaCpp
