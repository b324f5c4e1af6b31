/-
# Mapping the endpoints for a device

`MapEndpointsMemory` gives every registered endpoint's buffer a memory map, and a buffer that has
one already keeps it, whichever device it was made for: buffers are shared between endpoints and
between storages.  `Readiness` knows of a buffer only that it is mapped; here a memory map comes with
the native calls that made it (`Mapping.RdmaBuffer`, and `forget` back to the other model).
`endpoints_mapped` says after any history what a call that returns null has mapped, and for which
device.
-/
import DocaCpp.Core.Builder
import DocaCpp.Server.Readiness

namespace DocaCpp.Mapping

/-! ## 1. One memory map -/

/-- A memory map, with the native calls that made it. -/
structure Mapped where
  object : NativeObject MemoryMap.builder
  acts : List (NativeAct MemoryMap.builder)

/-- What the native calls of one `MapMemory` come back with. -/
structure MapOutcomes where
  create : error := none
  handle : Option Handle
  addDevice : error := none
  setMemoryRange : error := none
  setPermissions : error := none
  start : error := none

/-- `MemoryMap::Create().AddDevice(..).SetMemoryRange(..).SetPermissions(..).Start()`. -/
def makeMap (device : Device) (memoryRange : MemoryRange) (permissions : List AccessFlag)
    (o : MapOutcomes) : Except Err Mapped :=
  let builder := NativeBuilder.create MemoryMap.builder o.create o.handle
  let added := builder.set (.addDevice device) o.addDevice
  let ranged := added.1.set (.setMemoryRange memoryRange) o.setMemoryRange
  let permitted := ranged.1.set (.setPermissions permissions) o.setPermissions
  let started := permitted.1.start o.start
  match started.1 with
  | .error err => .error err
  | .ok object => .ok ⟨object,
      added.2 ++ ranged.2 ++ permitted.2 ++ started.2.2 ++ started.2.1.destroy⟩

/-- The memory map was started for this device, this memory and these permissions. -/
structure Mapped.IsOf (m : Mapped) (device : Device) (memoryRange : MemoryRange)
    (permissions : List AccessFlag) : Prop where
  attached : m.object.kept = some device
  acts : m.acts = [.used m.object.handle (.set (.addDevice device) none),
    .used m.object.handle (.set (.setMemoryRange memoryRange) none),
    .used m.object.handle (.set (.setPermissions permissions) none),
    .used m.object.handle (.start none)]

/-- **A memory map that is made is of what was asked for.** -/
theorem makeMap_ok {device : Device} {memoryRange : MemoryRange} {permissions : List AccessFlag}
    {o : MapOutcomes} {m : Mapped} (h : makeMap device memoryRange permissions o = .ok m) :
    m.IsOf device memoryRange permissions := by
  unfold makeMap at h
  dsimp only at h
  split at h
  · cases h
  next object hstarted =>
    cases h
    obtain ⟨hh, hnone, hkept, hstart⟩ := NativeBuilder.start_ok rfl hstarted
    obtain ⟨hh, hnone, hpermitted⟩ := NativeBuilder.set_clean hh hnone
    rw [hpermitted] at hkept hstart ⊢
    obtain ⟨hh, hnone, hranged⟩ := NativeBuilder.set_clean hh hnone
    rw [hranged] at hkept hstart ⊢
    obtain ⟨hh, hnone, hadded⟩ := NativeBuilder.set_clean hh hnone
    rw [hadded] at hkept hstart ⊢
    rw [hstart]
    exact ⟨hkept, rfl⟩

/-! ## 2. Buffers and storages -/

/-- `RdmaBuffer`. -/
structure RdmaBuffer where
  memoryRange : Option MemoryRange := none
  memoryMap : Option Mapped := none
  device : Option Device := none

namespace RdmaBuffer

/-- `RdmaBuffer::RegisterMemoryRange`. -/
def registerMemoryRange (buffer : RdmaBuffer) (memoryRange : Option MemoryRange) :
    error × RdmaBuffer :=
  if buffer.memoryRange ≠ none then (some (.new "Memory range already registered"), buffer)
  else (none, { buffer with memoryRange := memoryRange })

/-- `RdmaBuffer::MapMemory`: what it returns, the buffer after it, and the memory map it has tried
to make. -/
def mapMemory (buffer : RdmaBuffer) (device : Device) (permissions : List AccessFlag)
    (o : MapOutcomes) : error × RdmaBuffer × Option (Except Err Mapped) :=
  match buffer.memoryMap with
  | some _ => (none, buffer, none)
  | none =>
    match buffer.memoryRange with
    | none => (some (.new "Memory range not registered"), buffer, none)
    | some memoryRange =>
      match makeMap device memoryRange permissions o with
      | .error err => (some (.wrap err "Failed to create memory map"), buffer, some (.error err))
      | .ok m =>
        (none, { buffer with memoryMap := some m, device := some device }, some (.ok m))

end RdmaBuffer

/-- The buffers, by their pointers. -/
abbrev Buffers := Nat → RdmaBuffer

/-- The buffers for which a call has tried to make a memory map, with what came of it. -/
abbrev Made := List (Nat × Except Err Mapped)

/-- The permissions `MapEndpointsMemory` asks for. -/
def endpointPermissions : List AccessFlag := [.localReadWrite, .rdmaRead, .rdmaWrite]

/-- The loop of `RdmaEndpointStorage::MapEndpointsMemory`.  `none`: it dereferences a null
buffer. -/
def mapLoop (device : Device) (o : Nat → MapOutcomes) :
    List StorageEntry → Buffers → Option (error × Buffers × Made)
  | [], buffers => some (none, buffers, [])
  | x :: rest, buffers =>
    match x.2.endpoint.buffer with
    | none => none
    | some b =>
      let result := (buffers b).mapMemory device endpointPermissions (o b)
      let made := result.2.2.toList.map fun m => (b, m)
      match result.1 with
      | some err => some (some (.wrap err "Failed to map endpoint memory"), buffers, made)
      | none =>
        (mapLoop device o rest (Function.update buffers b result.2.1)).map fun r =>
          (r.1, r.2.1, made ++ r.2.2)

/-- `RdmaEndpointStorage::MapEndpointsMemory`. -/
def mapEndpointsMemory (storage : RdmaEndpointStorage) (device : Device) (o : Nat → MapOutcomes)
    (buffers : Buffers) : Option (error × Buffers × Made) :=
  mapLoop device o storage.endpointsMap buffers

/-! ## 3. One buffer -/

section Buffer

variable {buffer : RdmaBuffer} {device : Device} {permissions : List AccessFlag} {o : MapOutcomes}

/-- **What `MapMemory` can come to.** -/
inductive RdmaBuffer.Maps (buffer : RdmaBuffer) (device : Device) (permissions : List AccessFlag) :
    error × RdmaBuffer × Option (Except Err Mapped) → Prop
  /-- a buffer that is mapped is left as it is -/
  | already (hmapped : buffer.memoryMap ≠ none) :
      Maps buffer device permissions (none, buffer, none)
  | unregistered (err : Err) (hmapped : buffer.memoryMap = none)
      (hrange : buffer.memoryRange = none) : Maps buffer device permissions (some err, buffer, none)
  | failed (err err' : Err) (hmapped : buffer.memoryMap = none) :
      Maps buffer device permissions (some err, buffer, some (.error err'))
  /-- a memory map of its memory is made for the device -/
  | made (memoryRange : MemoryRange) (m : Mapped) (hmapped : buffer.memoryMap = none)
      (hrange : buffer.memoryRange = some memoryRange)
      (hm : m.IsOf device memoryRange permissions) :
      Maps buffer device permissions
        (none, { buffer with memoryMap := some m, device := some device }, some (.ok m))

theorem RdmaBuffer.mapMemory_maps (buffer : RdmaBuffer) (device : Device)
    (permissions : List AccessFlag) (o : MapOutcomes) :
    buffer.Maps device permissions (buffer.mapMemory device permissions o) := by
  unfold mapMemory
  split
  next m hmapped => exact .already (by simp [hmapped])
  next hmapped =>
    split
    next hrange => exact .unregistered _ hmapped hrange
    next memoryRange hrange =>
      split
      next err herr => exact .failed _ err hmapped
      next m hm => exact .made memoryRange m hmapped hrange (makeMap_ok hm)

end Buffer

/-! ## 4. One call -/

section Loop

variable {device : Device} {o : Nat → MapOutcomes} {entries : List StorageEntry}
  {before after : Buffers} {made : Made} {err : error}

/-- An entry points to this buffer. -/
def PointsTo (entries : List StorageEntry) (b : Nat) : Prop :=
  ∃ x ∈ entries, x.2.endpoint.buffer = some b

/-- **What a call does to the buffers**, however it ends. -/
structure Progress (device : Device) (entries : List StorageEntry) (before after : Buffers)
    (made : Made) : Prop where
  /-- what a buffer was registered with stays -/
  range : ∀ b, (after b).memoryRange = (before b).memoryRange
  /-- a buffer that is mapped is left as it is -/
  kept : ∀ b, (before b).memoryMap ≠ none → after b = before b
  /-- one memory map at most is made for a buffer -/
  nodup : (made.map Prod.fst).Nodup
  /-- and for buffers of the entries only, which are not mapped -/
  fresh : ∀ b ∈ made.map Prod.fst, (before b).memoryMap = none ∧ PointsTo entries b
  /-- a buffer that was not mapped is as it was, or is mapped now, for the device -/
  filled : ∀ b m, (before b).memoryMap = none → (after b).memoryMap = some m →
    (b, .ok m) ∈ made ∧ (after b).device = some device ∧
      ∃ memoryRange, (before b).memoryRange = some memoryRange ∧
        m.IsOf device memoryRange endpointPermissions
  same : ∀ b, (after b).memoryMap = none → after b = before b

namespace Progress

/-- A call that changes nothing. -/
theorem unchanged (hnodup : (made.map Prod.fst).Nodup)
    (hfresh : ∀ b ∈ made.map Prod.fst, (before b).memoryMap = none ∧ PointsTo entries b) :
    Progress device entries before before made where
  range _ := rfl
  kept _ _ := rfl
  nodup := hnodup
  fresh := hfresh
  filled b m hnone hsome := by
    rw [hnone] at hsome
    cases hsome
  same _ _ := rfl

/-- An entry in front whose buffer is mapped already. -/
theorem skip (h : Progress device entries before after made) (x : StorageEntry) :
    Progress device (x :: entries) before after made where
  range := h.range
  kept := h.kept
  nodup := h.nodup
  fresh b hb := by
    obtain ⟨hnone, y, hy, hyb⟩ := h.fresh b hb
    exact ⟨hnone, y, List.mem_cons_of_mem _ hy, hyb⟩
  filled := h.filled
  same := h.same

/-- An entry in front whose buffer is mapped first. -/
theorem fill {x : StorageEntry} {b : Nat} {memoryRange : MemoryRange} {m : Mapped}
    (hx : x.2.endpoint.buffer = some b) (hmapped : (before b).memoryMap = none)
    (hrange : (before b).memoryRange = some memoryRange)
    (hm : m.IsOf device memoryRange endpointPermissions)
    (h : Progress device entries
      (Function.update before b { before b with memoryMap := some m, device := some device })
      after made) :
    Progress device (x :: entries) before after ((b, .ok m) :: made) := by
  have hkept : after b = { before b with memoryMap := some m, device := some device } := by
    rw [h.kept b (by simp), Function.update_self]
  have hother : ∀ c, c ≠ b → Function.update before b
      { before b with memoryMap := some m, device := some device } c = before c :=
    fun c hc => Function.update_of_ne hc _ _
  have hnew : b ∉ made.map Prod.fst := by
    intro hb
    have hnone := (h.fresh b hb).1
    rw [Function.update_self] at hnone
    cases hnone
  refine ⟨fun c => ?_, fun c hc => ?_, ?_, ?_, fun c m' hnone hsome => ?_, fun c hnone => ?_⟩
  · by_cases hcb : c = b
    · subst hcb
      rw [hkept]
    · rw [h.range c, hother c hcb]
  · have hcb : c ≠ b := by
      rintro rfl
      exact hc hmapped
    rw [h.kept c (by rwa [hother c hcb]), hother c hcb]
  · exact List.nodup_cons.mpr ⟨hnew, h.nodup⟩
  · refine List.forall_mem_cons.mpr ⟨⟨hmapped, x, List.mem_cons_self, hx⟩, fun c hc => ?_⟩
    have hcb : c ≠ b := by
      rintro rfl
      exact hnew hc
    obtain ⟨hnone, y, hy, hyc⟩ := h.fresh c hc
    rw [hother c hcb] at hnone
    exact ⟨hnone, y, List.mem_cons_of_mem _ hy, hyc⟩
  · by_cases hcb : c = b
    · subst hcb
      rw [hkept] at hsome ⊢
      cases hsome
      exact ⟨List.mem_cons_self, rfl, memoryRange, hrange, hm⟩
    · obtain ⟨hmem, hdevice, range', hrange', hm'⟩ :=
        h.filled c m' (by rwa [hother c hcb]) hsome
      rw [hother c hcb] at hrange'
      exact ⟨List.mem_cons_of_mem _ hmem, hdevice, range', hrange', hm'⟩
  · have hcb : c ≠ b := by
      rintro rfl
      rw [hkept] at hnone
      cases hnone
    rw [h.same c hnone, hother c hcb]

end Progress

/-- **What the loop does**, with every entry mapped where it comes to its end. -/
theorem mapLoop_progress (h : mapLoop device o entries before = some (err, after, made)) :
    Progress device entries before after made ∧
      (err = none →
        ∀ x ∈ entries, ∃ b, x.2.endpoint.buffer = some b ∧ (after b).memoryMap ≠ none) := by
  induction entries generalizing before err after made with
  | nil =>
    cases h
    exact ⟨.unchanged List.nodup_nil nofun, fun _ => nofun⟩
  | cons x entries ih =>
    rw [mapLoop] at h
    split at h
    · cases h
    next b hb =>
      have hmaps := (before b).mapMemory_maps device endpointPermissions (o b)
      generalize (before b).mapMemory device endpointPermissions (o b) = r at h hmaps
      cases hmaps with
      | unregistered err' hmapped hrange =>
        cases h
        exact ⟨.unchanged List.nodup_nil nofun, nofun⟩
      | failed err' err'' hmapped =>
        cases h
        refine ⟨.unchanged (List.nodup_singleton b) ?_, nofun⟩
        intro c hc
        obtain rfl := List.mem_singleton.mp hc
        exact ⟨hmapped, x, List.mem_cons_self, hb⟩
      | already hmapped =>
        obtain ⟨⟨err', after', made'⟩, hrest, heq⟩ := Option.map_eq_some_iff.mp h
        cases heq
        rw [Function.update_eq_self] at hrest
        obtain ⟨hprogress, hall⟩ := ih hrest
        have hhere : (after' b).memoryMap ≠ none := by rwa [hprogress.kept b hmapped]
        exact ⟨hprogress.skip x,
          fun hnone => List.forall_mem_cons.mpr ⟨⟨b, hb, hhere⟩, hall hnone⟩⟩
      | made memoryRange m hmapped hrange hm =>
        obtain ⟨⟨err', after', made'⟩, hrest, heq⟩ := Option.map_eq_some_iff.mp h
        cases heq
        obtain ⟨hprogress, hall⟩ := ih hrest
        have hhere : (after' b).memoryMap ≠ none := by
          rw [hprogress.kept b (by simp), Function.update_self]
          exact Option.some_ne_none m
        exact ⟨hprogress.fill hb hmapped hrange hm,
          fun hnone => List.forall_mem_cons.mpr ⟨⟨b, hb, hhere⟩, hall hnone⟩⟩

/-- **A call where everything is mapped changes nothing**, whatever it is given. -/
theorem mapLoop_mapped
    (h : ∀ x ∈ entries, ∃ b, x.2.endpoint.buffer = some b ∧ (before b).memoryMap ≠ none) :
    mapLoop device o entries before = some (none, before, []) := by
  induction entries with
  | nil => rfl
  | cons x entries ih =>
    obtain ⟨⟨b, hb, hmapped⟩, hrest⟩ := List.forall_mem_cons.mp h
    obtain ⟨m, hm⟩ := Option.ne_none_iff_exists'.mp hmapped
    have hsame : (before b).mapMemory device endpointPermissions (o b)
        = (none, before b, none) := by
      rw [RdmaBuffer.mapMemory, hm]
    rw [mapLoop, hb]
    dsimp only
    rw [hsame, Function.update_eq_self, ih hrest]
    rfl

end Loop

/-! ## 5. Every history -/

/-- What is called on the buffers.  The storage of a `MapEndpointsMemory` is given as it stands. -/
inductive MappingCall
  | registerMemoryRange (b : Nat) (memoryRange : Option MemoryRange)
  | mapEndpointsMemory (storage : RdmaEndpointStorage) (device : Device) (o : Nat → MapOutcomes)

/-- The buffers after a call, unless it dereferences a null pointer. -/
def Buffers.step (buffers : Buffers) : MappingCall → Option Buffers
  | .registerMemoryRange b memoryRange =>
    some (Function.update buffers b ((buffers b).registerMemoryRange memoryRange).2)
  | .mapEndpointsMemory storage device o =>
    (mapEndpointsMemory storage device o buffers).map fun r => r.2.1

/-- The buffers, as a machine. -/
def mappings : Machine Buffers MappingCall := ⟨Buffers.step⟩

/-- Buffers of which nothing is known yet. -/
def unmapped : Buffers := fun _ => {}

section History

variable {calls : List MappingCall} {buffers after : Buffers} {storage : RdmaEndpointStorage}
  {device : Device} {o : Nat → MapOutcomes} {made : Made}

/-- The buffer was mapped by a call for this device: it had no memory map before the call and has
had one since. -/
def MappedFor (calls : List MappingCall) (b : Nat) (device : Device) : Prop :=
  ∃ pre storage o before after, pre ++ [.mapEndpointsMemory storage device o] <+: calls ∧
    mappings.Run unmapped pre before ∧
    before.step (.mapEndpointsMemory storage device o) = some after ∧
    (before b).memoryMap = none ∧ (after b).memoryMap ≠ none

/-- **What is known of a buffer that is mapped**: its map is of the memory it was registered with,
made for the device of the call that mapped it. -/
def Known (calls : List MappingCall) (buffers : Buffers) : Prop :=
  ∀ b m, (buffers b).memoryMap = some m →
    ∃ memoryRange device, (buffers b).memoryRange = some memoryRange ∧
      (buffers b).device = some device ∧ m.IsOf device memoryRange endpointPermissions ∧
      MappedFor calls b device

theorem MappedFor.snoc {b : Nat} (h : MappedFor calls b device) (call : MappingCall) :
    MappedFor (calls ++ [call]) b device := by
  obtain ⟨pre, storage, o, before, after, hpre, h⟩ := h
  exact ⟨pre, storage, o, before, after, hpre.trans (List.prefix_append _ _), h⟩

/-- A range that is registered stays. -/
theorem registerMemoryRange_kept {buffer : RdmaBuffer} {range : MemoryRange}
    (h : buffer.memoryRange = some range) (memoryRange : Option MemoryRange) :
    (buffer.registerMemoryRange memoryRange).2 = buffer := by
  rw [RdmaBuffer.registerMemoryRange, if_pos (by simp [h])]

theorem registerMemoryRange_memoryMap (buffer : RdmaBuffer) (memoryRange : Option MemoryRange) :
    (buffer.registerMemoryRange memoryRange).2.memoryMap = buffer.memoryMap := by
  unfold RdmaBuffer.registerMemoryRange
  split <;> rfl

/-- **Every call keeps what is known.** -/
theorem Known.step {call : MappingCall} (hrun : mappings.Run unmapped calls buffers)
    (h : Known calls buffers) (hs : buffers.step call = some after) :
    Known (calls ++ [call]) after := by
  intro b m hm
  cases call with
  | registerMemoryRange c memoryRange =>
    cases hs
    by_cases hbc : b = c
    · subst hbc
      rw [Function.update_self, registerMemoryRange_memoryMap] at hm
      obtain ⟨range, device, hrange, hdevice, hof, hfor⟩ := h b m hm
      rw [Function.update_self, registerMemoryRange_kept hrange]
      exact ⟨range, device, hrange, hdevice, hof, hfor.snoc _⟩
    · rw [Function.update_of_ne hbc] at hm ⊢
      obtain ⟨range, device, hrange, hdevice, hof, hfor⟩ := h b m hm
      exact ⟨range, device, hrange, hdevice, hof, hfor.snoc _⟩
  | mapEndpointsMemory storage device o =>
    obtain ⟨⟨err, after', made⟩, hcall, rfl⟩ := Option.map_eq_some_iff.mp hs
    obtain ⟨hprogress, -⟩ := mapLoop_progress hcall
    by_cases hmapped : (buffers b).memoryMap = none
    · obtain ⟨-, hdevice, range, hrange, hof⟩ := hprogress.filled b m hmapped hm
      refine ⟨range, device, (hprogress.range b).trans hrange, hdevice, hof, ?_⟩
      refine ⟨calls, storage, o, buffers, after', List.prefix_refl _, hrun, hs, hmapped, ?_⟩
      exact Option.ne_none_iff_exists'.mpr ⟨m, hm⟩
    · have hsame : after' b = buffers b := hprogress.kept b hmapped
      change (after' b).memoryMap = some m at hm
      rw [hsame] at hm
      obtain ⟨range, device', hrange, hdevice, hof, hfor⟩ := h b m hm
      refine ⟨range, device', ?_, ?_, hof, hfor.snoc _⟩
      · exact (congrArg RdmaBuffer.memoryRange hsame).trans hrange
      · exact (congrArg RdmaBuffer.device hsame).trans hdevice

/-- What is known after any history. -/
theorem mappings_known (h : mappings.Run unmapped calls buffers) : Known calls buffers := by
  refine Machine.RunWith.invariant (I := Known) ?_ ?_ h
  · intro b m hm
    cases hm
  · intro calls buffers call after hrun hknown _ hs
    exact hknown.step hrun hs

/-- **What a call that returns null has done.** -/
structure EndpointsMapped (calls : List MappingCall) (storage : RdmaEndpointStorage)
    (device : Device) (before after : Buffers) (made : Made) : Prop where
  /-- every registered endpoint's buffer has a map of its memory: one made for the device, or the one
  it had, made for the device of the earlier call that mapped it -/
  covered : ∀ endpoint, storage.Holds endpoint → ∃ b m memoryRange device',
    endpoint.buffer = some b ∧ (after b).memoryMap = some m ∧
      (after b).memoryRange = some memoryRange ∧
      m.IsOf device' memoryRange endpointPermissions ∧
      ((before b).memoryMap = none ∧ device' = device ∨
        after b = before b ∧ MappedFor calls b device')
  /-- no buffer is mapped twice -/
  once : (made.map Prod.fst).Nodup
  /-- the buffers that are mapped are those of registered endpoints that were not -/
  exact : ∀ b, b ∈ made.map Prod.fst ↔
    (before b).memoryMap = none ∧ ∃ endpoint, storage.Holds endpoint ∧ endpoint.buffer = some b
  /-- and all others are left as they were -/
  frame : ∀ b, b ∉ made.map Prod.fst → after b = before b
  /-- another call, for any device, changes nothing -/
  again : ∀ device' o', mapEndpointsMemory storage device' o' after = some (none, after, [])

theorem pointsTo_iff {b : Nat} :
    PointsTo storage.endpointsMap b ↔
      ∃ endpoint, storage.Holds endpoint ∧ endpoint.buffer = some b := by
  constructor
  · rintro ⟨x, hx, hb⟩
    exact ⟨x.2.endpoint, ⟨x, hx, rfl⟩, hb⟩
  · rintro ⟨endpoint, ⟨x, hx, rfl⟩, hb⟩
    exact ⟨x, hx, hb⟩

/-- **After any history, a call that returns null has mapped every registered endpoint's buffer**,
for the asked device where the buffer was not mapped. -/
theorem endpoints_mapped (h : mappings.Run unmapped calls buffers)
    (hcall : mapEndpointsMemory storage device o buffers = some (none, after, made)) :
    EndpointsMapped calls storage device buffers after made := by
  obtain ⟨hprogress, hall⟩ := mapLoop_progress hcall
  have hmapped := hall rfl
  have hknown := mappings_known h
  have hfilled : ∀ b m, (buffers b).memoryMap = none → (after b).memoryMap = some m →
      b ∈ made.map Prod.fst :=
    fun b m hnone hm => List.mem_map_of_mem (hprogress.filled b m hnone hm).1
  refine ⟨?_, hprogress.nodup, fun b => ⟨fun hb => ?_, ?_⟩, fun b hb => ?_,
    fun device' o' => mapLoop_mapped hmapped⟩
  · rintro endpoint ⟨x, hx, rfl⟩
    obtain ⟨b, hb, hsome⟩ := hmapped x hx
    obtain ⟨m, hm⟩ := Option.ne_none_iff_exists'.mp hsome
    by_cases hnone : (buffers b).memoryMap = none
    · obtain ⟨-, -, range, hrange, hof⟩ := hprogress.filled b m hnone hm
      exact ⟨b, m, range, device, hb, hm, (hprogress.range b).trans hrange, hof,
        .inl ⟨hnone, rfl⟩⟩
    · have hsame := hprogress.kept b hnone
      obtain ⟨range, device', hrange, -, hof, hfor⟩ := hknown b m (hsame ▸ hm)
      exact ⟨b, m, range, device', hb, hm, (hprogress.range b).trans hrange, hof,
        .inr ⟨hsame, hfor⟩⟩
  · exact ⟨(hprogress.fresh b hb).1, pointsTo_iff.mp (hprogress.fresh b hb).2⟩
  · rintro ⟨hnone, hpoints⟩
    obtain ⟨x, hx, hxb⟩ := pointsTo_iff.mpr hpoints
    obtain ⟨c, hc, hsome⟩ := hmapped x hx
    obtain rfl := Option.some.inj (hc.symm.trans hxb)
    obtain ⟨m, hm⟩ := Option.ne_none_iff_exists'.mp hsome
    exact hfilled c m hnone hm
  · by_cases hnone : (after b).memoryMap = none
    · exact hprogress.same b hnone
    · refine hprogress.kept b fun hbefore => hb ?_
      obtain ⟨m, hm⟩ := Option.ne_none_iff_exists'.mp hnone
      exact hfilled b m hbefore hm

end History

/-- An endpoint in a storage, with the first of the buffers. -/
def sharedEndpoint : RdmaEndpoint := ⟨[], .read, some 0, some 0⟩

/-- Its storage. -/
def sharedStorage : RdmaEndpointStorage :=
  (RdmaEndpointStorage.create.registerEndpoint (some sharedEndpoint)).2

/-- Its buffer gets its memory and is mapped for device 1. -/
def sharedCalls : List MappingCall :=
  [.registerMemoryRange 0 (some ⟨4096, 64⟩),
    .mapEndpointsMemory sharedStorage 1 fun _ => { handle := some 5 }]

theorem endpoints_mapped_sample :
    ∃ buffers after made, mappings.Run unmapped sharedCalls buffers ∧
      mapEndpointsMemory sharedStorage 1 (fun _ => { handle := some 6 }) buffers
        = some (none, after, made) ∧
      EndpointsMapped sharedCalls sharedStorage 1 buffers after made := by
  have hrun : mappings.Run unmapped sharedCalls _ := Machine.exec_run rfl
  exact ⟨_, _, _, hrun, rfl, endpoints_mapped (o := fun _ => { handle := some 6 }) hrun rfl⟩

/-- Then it is asked for device 2, returns null, and the memory map is the one for device 1. -/
theorem endpoint_mapped_for_another :
    ∃ buffers after made, mappings.Run unmapped sharedCalls buffers ∧
      mapEndpointsMemory sharedStorage 2 (fun _ => { handle := some 6 }) buffers
        = some (none, after, made) ∧
      ∃ b m, sharedStorage.Holds sharedEndpoint ∧ sharedEndpoint.buffer = some b ∧
        (after b).memoryMap = some m ∧ ∀ range permissions, ¬ m.IsOf 2 range permissions := by
  have hrun : mappings.Run unmapped sharedCalls _ := Machine.exec_run rfl
  refine ⟨_, _, _, hrun, rfl, 0, _, ⟨_, List.mem_cons_self, rfl⟩, rfl, rfl, ?_⟩
  intro range permissions hof
  have hdevice := hof.attached
  cases hdevice

/-! ## 6. The buffers of `Readiness` -/

section Forget

variable {device : Device} {o : Nat → MapOutcomes} {buffers : Buffers} {buffer : RdmaBuffer}

/-- The buffer, with no more of its memory map than that it has one. -/
def RdmaBuffer.forget (buffer : RdmaBuffer) : DocaCpp.RdmaBuffer :=
  { memoryRange := buffer.memoryRange.map (·.data)
    memoryMap := buffer.memoryMap.bind fun _ => buffer.memoryRange.map (·.data) }

/-- What the creation of a memory map answers. -/
def RdmaBuffer.answer (buffer : RdmaBuffer) (device : Device) (o : MapOutcomes) : error :=
  match buffer.memoryRange with
  | none => none
  | some memoryRange =>
    match makeMap device memoryRange endpointPermissions o with
    | .ok _ => none
    | .error err => some err

/-- A buffer that is mapped has its memory. -/
def RdmaBuffer.Sound (buffer : RdmaBuffer) : Prop :=
  buffer.memoryMap ≠ none → buffer.memoryRange ≠ none

theorem RdmaBuffer.mapMemory_forget (h : buffer.Sound) (device : Device) (o : MapOutcomes) :
    buffer.forget.mapMemory (buffer.answer device o)
      = ((buffer.mapMemory device endpointPermissions o).1,
        (buffer.mapMemory device endpointPermissions o).2.1.forget) := by
  obtain ⟨memoryRange, memoryMap, device'⟩ := buffer
  cases memoryMap with
  | some m =>
    cases memoryRange with
    | none => exact absurd rfl (h nofun)
    | some range => rfl
  | none =>
    cases memoryRange with
    | none => rfl
    | some range =>
      simp only [answer, mapMemory]
      cases makeMap device range endpointPermissions o with
      | error err => rfl
      | ok m => rfl

/-- `MapMemory` keeps a buffer sound, and its memory. -/
theorem RdmaBuffer.Maps.sound {permissions : List AccessFlag} {err : error} {buffer' : RdmaBuffer}
    {made : Option (Except Err Mapped)} (h : buffer.Maps device permissions (err, buffer', made))
    (hsound : buffer.Sound) : buffer'.Sound ∧ buffer'.memoryRange = buffer.memoryRange := by
  cases h with
  | made range m hmapped hrange hof => exact ⟨fun _ => by simp [hrange], rfl⟩
  | _ => exact ⟨hsound, rfl⟩

/-- **The two models of the loop agree.** -/
theorem mapLoop_forget (entries : List StorageEntry) (buffers : Buffers)
    (hsound : ∀ b, (buffers b).Sound) {native : Nat → error}
    (hnative : ∀ b, native b = (buffers b).answer device (o b)) :
    DocaCpp.mapLoop native entries (fun b => (buffers b).forget)
      = (mapLoop device o entries buffers).map fun r => (r.1, fun b => (r.2.1 b).forget) := by
  induction entries generalizing buffers with
  | nil => rfl
  | cons x entries ih =>
    rw [mapLoop, DocaCpp.mapLoop]
    cases hb : x.2.endpoint.buffer with
    | none => rfl
    | some b =>
      dsimp only
      rw [hnative b, RdmaBuffer.mapMemory_forget (hsound b)]
      have hmaps := (buffers b).mapMemory_maps device endpointPermissions (o b)
      generalize (buffers b).mapMemory device endpointPermissions (o b) = r at hmaps
      obtain ⟨err, buffer', made⟩ := r
      obtain ⟨hsound', hrange⟩ := hmaps.sound (hsound b)
      cases err with
      | some err => rfl
      | none =>
        dsimp only
        rw [Option.map_map]
        have hupdate : Function.update (fun b => (buffers b).forget) b buffer'.forget
            = fun c => (Function.update buffers b buffer' c).forget := by
          funext c
          by_cases hc : c = b
          · subst hc
            simp
          · simp [hc]
        rw [hupdate, ih (Function.update buffers b buffer') (fun c => ?_) (fun c => ?_)]
        · rfl
        · by_cases hc : c = b
          · subst hc
            rwa [Function.update_self]
          · rw [Function.update_of_ne hc]
            exact hsound c
        · rw [hnative c]
          by_cases hc : c = b
          · subst hc
            rw [Function.update_self, RdmaBuffer.answer, RdmaBuffer.answer, hrange]
          · rw [Function.update_of_ne hc]

/-- **After any history, `MapEndpointsMemory` maps what `Readiness` says it maps.** -/
theorem mapEndpointsMemory_forget {calls : List MappingCall}
    (h : mappings.Run unmapped calls buffers) (storage : RdmaEndpointStorage) :
    storage.mapEndpointsMemory (fun b => (buffers b).answer device (o b))
        (fun b => (buffers b).forget)
      = (mapEndpointsMemory storage device o buffers).map
          fun r => (r.1, fun b => (r.2.1 b).forget) := by
  refine mapLoop_forget storage.endpointsMap buffers (fun b hmapped => ?_) fun _ => rfl
  obtain ⟨m, hm⟩ := Option.ne_none_iff_exists'.mp hmapped
  obtain ⟨range, -, hrange, -⟩ := mappings_known h b m hm
  simp [hrange]

end Forget

end DocaCpp.Mapping
