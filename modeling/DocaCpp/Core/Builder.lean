/-
# Builders of native objects

`MemoryMap`, `RdmaEngine` and `BufferInventory` are made by builders that are written alike: `Create`
makes the native handle, a setter calls its native function unless an earlier one has failed, and
`Start` or `Build` hands the handle to the object it makes or destroys it.  `BuilderClass` is what
the three differ in.  `builders_lawful` says that whatever is called and however the native calls
end, the first error is kept and the handle is destroyed exactly once; `first_error_kept` that a
setter that fails leaves one.
-/
import DocaCpp.Base
import DocaCpp.Lib.Ownership
import Mathlib.Data.List.Perm.Basic

namespace DocaCpp

/-! ## 1. One class -/

/-- A native object of DOCA, by its pointer. -/
abbrev Handle := Nat

/-- A `DevicePtr` that is not null. -/
abbrev Device := Nat

/-- What distinguishes one builder class from another. -/
structure BuilderClass where
  /-- a call of a setter, with its arguments -/
  Setter : Type
  /-- what a setter wraps the error of its native call in -/
  setFailure : Setter → String
  /-- what the builder holds beside the handle and the error, and gives the object -/
  Kept : Type
  /-- what a new builder holds -/
  unset : Kept
  /-- what a setter stores, whether or not its native call fails -/
  keep : Setter → Kept → Kept
  /-- the error of `Start` without a handle -/
  nullError : String
  /-- what `Start` refuses before its native call -/
  lacking : Kept → error
  /-- what `Start` wraps the error of its native call in, if it makes one -/
  startFailure : Option String
  /-- the destructor of the object stops the native object first -/
  stops : Bool

variable {cls : BuilderClass}

/-- A native call on a handle, with the error it comes back with. -/
inductive NativeUse (cls : BuilderClass)
  | set (setter : cls.Setter) (outcome : error)
  | start (outcome : error)
  | stop

/-- A native call. -/
abbrev NativeAct (cls : BuilderClass) := Act Handle (NativeUse cls)

/-- The builder. -/
structure NativeBuilder (cls : BuilderClass) where
  handle : Option Handle
  buildErr : error
  kept : cls.Kept

/-- The object a builder makes. -/
structure NativeObject (cls : BuilderClass) where
  handle : Handle
  kept : cls.Kept

namespace NativeBuilder

/-- `Create`, by what its native call comes back with. -/
def create (cls : BuilderClass) (outcome : error) (handle : Option Handle) : NativeBuilder cls :=
  { handle := if outcome = none then handle else none, buildErr := none, kept := cls.unset }

/-- A setter: the builder after it, and its native calls. -/
def set (builder : NativeBuilder cls) (setter : cls.Setter) (outcome : error) :
    NativeBuilder cls × List (NativeAct cls) :=
  match builder.handle, builder.buildErr with
  | some h, none =>
    ({ builder with
        buildErr := outcome.map fun err => .wrap err (cls.setFailure setter)
        kept := cls.keep setter builder.kept },
      [.used h (.set setter outcome)])
  | _, _ => (builder, [])

/-- The destructor of a builder, and what an error of `Start` does with the handle. -/
def destroy (builder : NativeBuilder cls) : List (NativeAct cls) :=
  builder.handle.toList.map .destroyed

/-- `Start` or `Build`: what it returns, the builder after it, and its native calls. -/
def start (builder : NativeBuilder cls) (outcome : error) :
    Except Err (NativeObject cls) × NativeBuilder cls × List (NativeAct cls) :=
  match builder.buildErr with
  | some err => (.error err, { builder with handle := none }, builder.destroy)
  | none =>
    match builder.handle with
    | none => (.error (.new cls.nullError), builder, [])
    | some h =>
      match cls.lacking builder.kept with
      | some err => (.error err, builder, [])
      | none =>
        match cls.startFailure, outcome with
        | some text, some err =>
          (.error (.wrap err text), { builder with handle := none },
            [.used h (.start (some err)), .destroyed h])
        | some _, none =>
          (.ok ⟨h, builder.kept⟩, { builder with handle := none }, [.used h (.start none)])
        | none, _ => (.ok ⟨h, builder.kept⟩, { builder with handle := none }, [])

end NativeBuilder

/-- The destructor of an object. -/
def NativeObject.destroy (object : NativeObject cls) : List (NativeAct cls) :=
  (if cls.stops then [.used object.handle .stop] else []) ++ [.destroyed object.handle]

/-! ## 2. The three classes -/

/-- `AccessFlags`, by the flags that are set. -/
inductive AccessFlag
  | localReadOnly
  | localReadWrite
  | rdmaRead
  | rdmaWrite
  | rdmaAtomic
  | pciReadOnly
  | pciReadWrite
  | pciRelaxedOrdering
  deriving DecidableEq

/-- The memory of a vector or of a span. -/
structure MemoryRange where
  data : Nat
  size : Nat
  deriving DecidableEq

/-- The setters of `MemoryMap::Builder`. -/
inductive MemoryMap.Setter
  | addDevice (device : Device)
  | setPermissions (permissions : List AccessFlag)
  | setMemoryRange (memoryRange : MemoryRange)
  | setDmaBufMemoryRange (memoryRange : MemoryRange) (dmaBufDescriptor : Int)
  | setMaxNumDevices (maxDevices : UInt32)
  deriving DecidableEq

/-- `MemoryMap::Builder`: it keeps the device, which its `Start` demands. -/
@[reducible] def MemoryMap.builder : BuilderClass where
  Setter := MemoryMap.Setter
  setFailure
    | .addDevice _ => "Failed to add device to memory map"
    | .setPermissions _ => "Failed to set mmap permissions"
    | .setMemoryRange _ => "Failed to set memory range"
    | .setDmaBufMemoryRange _ _ => "Failed to set DMA buf memory range"
    | .setMaxNumDevices _ => "Failed to set max number of devices"
  Kept := Option Device
  unset := none
  keep setter device :=
    match setter with
    | .addDevice device => some device
    | _ => device
  nullError := "Memory map is null"
  lacking device := if device = none then some (.new "No device added to memory map") else none
  startFailure := some "Failed to start memory map"
  stops := true

/-- The setters of `RdmaEngine::Builder`. -/
inductive RdmaEngine.Setter
  | setPermissions (permissions : List AccessFlag)
  | setMaxNumConnections (maxNumConnections : UInt16)
  | setGidIndex (gidIndex : UInt32)
  /-- by the value of the enumeration -/
  | setTransportType (type : Nat)
  deriving DecidableEq

/-- `RdmaEngine::Builder`, whose `Build` makes no native call. -/
@[reducible] def RdmaEngine.builder : BuilderClass where
  Setter := RdmaEngine.Setter
  setFailure
    | .setPermissions _ => "failed to set RDMA permissions"
    | .setMaxNumConnections _ => "failed to set RDMA maximum number of connections"
    | .setGidIndex _ => "failed to set RDMA GID index"
    | .setTransportType _ => "failed to set RDMA transport type"
  Kept := Unit
  unset := ()
  keep _ kept := kept
  nullError := "RDMA instance is not initialized"
  lacking _ := none
  startFailure := none
  stops := false

/-- `BufferInventory::Builder`, which has no setters. -/
@[reducible] def BufferInventory.builder : BuilderClass where
  Setter := Empty
  setFailure setter := nomatch setter
  Kept := Unit
  unset := ()
  keep _ kept := kept
  nullError := "Buffer inventory is null"
  lacking _ := none
  startFailure := some "Failed to start inventory"
  stops := false

/-- The builder classes. -/
inductive BuilderKind
  | memoryMap
  | rdmaEngine
  | bufferInventory
  deriving DecidableEq

/-- The class of a kind. -/
@[reducible] def BuilderKind.toClass : BuilderKind → BuilderClass
  | memoryMap => MemoryMap.builder
  | rdmaEngine => RdmaEngine.builder
  | bufferInventory => BufferInventory.builder

/-! ## 3. The life of a builder and of what it makes -/

/-- A builder until it is destroyed, the objects it has made that are alive, the native calls so
far, and what its `Start` has returned. -/
structure BuilderLife (cls : BuilderClass) where
  builder : Option (NativeBuilder cls)
  objects : List (NativeObject cls) := []
  acts : List (NativeAct cls) := []
  returned : List (Except Err (NativeObject cls)) := []

/-- What can be done with them, by the outcomes of the native calls. -/
inductive BuilderCall (cls : BuilderClass)
  | set (setter : cls.Setter) (outcome : error)
  | start (outcome : error)
  | destroyBuilder
  | destroyObject (n : Nat)

namespace BuilderLife

/-- One call. -/
def step (life : BuilderLife cls) : BuilderCall cls → Option (BuilderLife cls)
  | .set setter outcome =>
    life.builder.map fun builder =>
      let result := builder.set setter outcome
      { life with builder := some result.1, acts := life.acts ++ result.2 }
  | .start outcome =>
    life.builder.map fun builder =>
      let result := builder.start outcome
      { builder := some result.2.1
        objects := life.objects ++ result.1.toOption.toList
        acts := life.acts ++ result.2.2
        returned := life.returned ++ [result.1] }
  | .destroyBuilder =>
    life.builder.map fun builder =>
      { life with builder := none, acts := life.acts ++ builder.destroy }
  | .destroyObject n =>
    life.objects[n]?.map fun object =>
      { life with objects := life.objects.eraseIdx n, acts := life.acts ++ object.destroy }

/-- A builder as `Create` leaves it. -/
def created (cls : BuilderClass) (outcome : error) (handle : Option Handle) : BuilderLife cls :=
  { builder := some (.create cls outcome handle) }

/-- Everything has been destroyed. -/
def Over (life : BuilderLife cls) : Prop := life.builder = none ∧ life.objects = []

end BuilderLife

/-- A builder and what it makes, as a machine. -/
def builderLife (cls : BuilderClass) : Machine (BuilderLife cls) (BuilderCall cls) :=
  ⟨BuilderLife.step⟩

/-! ## 4. What is lawful -/

/-- A call of a native setter. -/
def Sets (act : NativeAct cls) : Prop := ∃ h setter outcome, act = .used h (.set setter outcome)

/-- **What the life of a builder must come to**, for the handle that `Create` made, if it made
one. -/
structure BuilderLife.Lawful (handle : Option Handle) (life : BuilderLife cls) : Prop where
  /-- behind a native setter that has failed there is no other -/
  silent : ∀ pre h setter err post, life.acts = pre ++ .used h (.set setter (some err)) :: post →
    ∀ act ∈ post, ¬ Sets act
  /-- and every `Start` returns its error -/
  faithful : ∀ h setter err, .used h (.set setter (some err)) ∈ life.acts →
    ∀ outcome after, life.step (.start outcome) = some after →
      after.returned = life.returned ++ [.error (.wrap err (cls.setFailure setter))]
  /-- one `Start` at most makes an object -/
  single : life.returned.countP Except.isOk ≤ 1
  /-- the handle is never destroyed twice -/
  once : ∀ h ∈ handle, life.acts.countP (Act.destroys h) ≤ 1
  /-- and is destroyed when everything is -/
  released : life.Over → ∀ h ∈ handle, life.acts.countP (Act.destroys h) = 1
  /-- nothing is called on it behind that -/
  retired : ∀ h, Retired h life.acts
  /-- and nothing on any other handle -/
  known : ∀ act ∈ life.acts, handle = some act.handle

/-! ## 5. One call -/

section Calls

variable {builder builder' : NativeBuilder cls} {acts : List (NativeAct cls)}
  {result : Except Err (NativeObject cls)}

/-- **What `Start` can come to.** -/
inductive NativeBuilder.Starts (builder : NativeBuilder cls) :
    Except Err (NativeObject cls) × NativeBuilder cls × List (NativeAct cls) → Prop
  /-- an error that leaves the handle where it is -/
  | refused (err : Err) (hnone : builder.buildErr = none) : Starts builder (.error err, builder, [])
  /-- the error of a setter -/
  | failed (err : Err) (hsome : builder.buildErr = some err) :
      Starts builder (.error err, { builder with handle := none }, builder.destroy)
  /-- the error of its own native call -/
  | stopped (h : Handle) (err err' : Err) (hh : builder.handle = some h)
      (hnone : builder.buildErr = none) :
      Starts builder (.error err, { builder with handle := none },
        [.used h (.start (some err')), .destroyed h])
  /-- an object, behind a native call that has not failed -/
  | started (h : Handle) (hh : builder.handle = some h) (hnone : builder.buildErr = none) :
      Starts builder (.ok ⟨h, builder.kept⟩, { builder with handle := none },
        [.used h (.start none)])
  /-- an object, where there is no such call -/
  | handed (h : Handle) (hh : builder.handle = some h) (hnone : builder.buildErr = none)
      (hstart : cls.startFailure = none) :
      Starts builder (.ok ⟨h, builder.kept⟩, { builder with handle := none }, [])

theorem NativeBuilder.start_starts (builder : NativeBuilder cls) (outcome : error) :
    builder.Starts (builder.start outcome) := by
  obtain ⟨handle, buildErr, kept⟩ := builder
  unfold start
  cases buildErr with
  | some err => exact .failed err rfl
  | none =>
    cases handle with
    | none => exact .refused _ rfl
    | some h =>
      dsimp only
      cases cls.lacking kept with
      | some err => exact .refused err rfl
      | none =>
        cases hstart : cls.startFailure with
        | none => exact .handed h rfl rfl hstart
        | some text =>
          cases outcome with
          | none => exact .started h rfl rfl
          | some err => exact .stopped h _ err rfl rfl

/-- A setter makes its native call, or does nothing. -/
theorem NativeBuilder.set_cases (builder : NativeBuilder cls) (setter : cls.Setter)
    (outcome : error) :
    builder.set setter outcome = (builder, []) ∨
      ∃ h, builder.handle = some h ∧ builder.buildErr = none ∧
        builder.set setter outcome =
          ({ builder with
              buildErr := outcome.map fun err => .wrap err (cls.setFailure setter)
              kept := cls.keep setter builder.kept },
            [.used h (.set setter outcome)]) := by
  unfold set
  split
  next h hh hnone => exact .inr ⟨h, hh, hnone, rfl⟩
  next => exact .inl rfl

/-- **A setter that leaves the handle and no error** has called its native function, which has not
failed. -/
theorem NativeBuilder.set_clean {setter : cls.Setter} {outcome : error} {h : Handle}
    (hh : (builder.set setter outcome).1.handle = some h)
    (hnone : (builder.set setter outcome).1.buildErr = none) :
    builder.handle = some h ∧ builder.buildErr = none ∧
      builder.set setter outcome =
        ({ builder with kept := cls.keep setter builder.kept },
          [.used h (.set setter none)]) := by
  obtain ⟨handle, buildErr, kept⟩ := builder
  cases handle with
  | none => cases hh
  | some h' =>
    cases buildErr with
    | some err => cases hnone
    | none =>
      cases outcome with
      | some err => cases hnone
      | none =>
        cases hh
        exact ⟨rfl, rfl, rfl⟩

/-- **Where `Start` makes an object**, it is of the builder's handle, behind a native call that has
not failed, and the builder has no handle any more. -/
theorem NativeBuilder.start_ok {outcome : error} {object : NativeObject cls} {text : String}
    (hstart : cls.startFailure = some text) (h : (builder.start outcome).1 = .ok object) :
    builder.handle = some object.handle ∧ builder.buildErr = none ∧ object.kept = builder.kept ∧
      (builder.start outcome).2 =
        ({ builder with handle := none }, [.used object.handle (.start none)]) := by
  have hs := builder.start_starts outcome
  generalize builder.start outcome = r at h hs
  cases hs with
  | refused err hnone | failed err hsome | stopped h' err err' hh hnone => cases h
  | started h' hh hnone =>
    cases h
    exact ⟨hh, hnone, rfl, rfl⟩
  | handed h' hh hnone hnostart =>
    rw [hstart] at hnostart
    cases hnostart

/-- `Start` calls no setter. -/
theorem NativeBuilder.Starts.quiet (h : builder.Starts (result, builder', acts)) :
    ∀ act ∈ acts, ¬ Sets act := by
  rintro act hact ⟨handle, setter, outcome, rfl⟩
  cases h with
  | failed err hsome =>
    obtain ⟨handle', -, heq⟩ := List.mem_map.mp hact
    cases heq
  | _ => simp at hact

/-- `Start` keeps the error. -/
theorem NativeBuilder.Starts.buildErr (h : builder.Starts (result, builder', acts)) :
    builder'.buildErr = builder.buildErr := by
  cases h <;> rfl

/-- **`Start` returns the error of a setter.** -/
theorem NativeBuilder.Starts.error {err : Err} (h : builder.Starts (result, builder', acts))
    (hsome : builder.buildErr = some err) : result = .error err := by
  cases h with
  | failed err' hsome' => rw [Option.some.inj (hsome.symm.trans hsome')]
  | refused err' hnone | stopped h err' err'' hh hnone | started h hh hnone
  | handed h hh hnone hstart =>
    rw [hsome] at hnone
    cases hnone

/-- The destructors call no setter. -/
theorem NativeBuilder.destroy_quiet : ∀ act ∈ builder.destroy, ¬ Sets act := by
  rintro act hact ⟨handle, setter, outcome, rfl⟩
  obtain ⟨handle', -, heq⟩ := List.mem_map.mp hact
  cases heq

theorem NativeObject.destroy_quiet {object : NativeObject cls} :
    ∀ act ∈ object.destroy, ¬ Sets act := by
  rintro act hact ⟨handle, setter, outcome, rfl⟩
  unfold NativeObject.destroy at hact
  split at hact <;> simp at hact

end Calls

/-! ## 6. The errors -/

section Errors

variable {acts more : List (NativeAct cls)}

/-- No native setter has been called behind one that failed. -/
abbrev Quiet (acts : List (NativeAct cls)) : Prop :=
  AtEvery (fun acts act => Sets act →
    ∀ h setter err, .used h (.set setter (some err)) ∉ acts) acts

/-- The builder holds the error of every native setter that has failed. -/
def Holds (acts : List (NativeAct cls)) (builder : NativeBuilder cls) : Prop :=
  ∀ h setter err, .used h (.set setter (some err)) ∈ acts →
    builder.buildErr = some (.wrap err (cls.setFailure setter))

theorem Quiet.append (h : Quiet acts) (hmore : ∀ act ∈ more, ¬ Sets act) :
    Quiet (acts ++ more) := by
  induction more using List.reverseRecOn with
  | nil => rwa [List.append_nil]
  | append_singleton more act ih =>
    rw [← List.append_assoc]
    refine atEvery_concat.mpr ⟨ih fun act' hact' => hmore act' (by simp [hact']), ?_⟩
    intro hsets
    exact absurd hsets (hmore act (by simp))

/-- Behind a failure there is no call of a setter. -/
theorem Quiet.behind (h : Quiet acts) {pre post : List (NativeAct cls)} {handle : Handle}
    {setter : cls.Setter} {err : Err}
    (heq : acts = pre ++ .used handle (.set setter (some err)) :: post) :
    ∀ act ∈ post, ¬ Sets act := by
  intro act hact hsets
  obtain ⟨front, back, rfl⟩ := List.append_of_mem hact
  refine h (pre ++ .used handle (.set setter (some err)) :: front) act ?_ hsets handle setter err ?_
  · exact ⟨back, by simp [heq]⟩
  · simp

variable {builder builder' : NativeBuilder cls}

/-- Calls that are no setters change no error. -/
theorem Holds.append (h : Holds acts builder) (hmore : ∀ act ∈ more, ¬ Sets act)
    (herr : builder'.buildErr = builder.buildErr) : Holds (acts ++ more) builder' := by
  intro handle setter err hmem
  rw [herr]
  rcases List.mem_append.mp hmem with hmem | hmem
  · exact h handle setter err hmem
  · exact absurd ⟨handle, setter, some err, rfl⟩ (hmore _ hmem)

/-- A setter is called when none has failed. -/
theorem Holds.none_failed (h : Holds acts builder) (hnone : builder.buildErr = none) (handle : Handle)
    (setter : cls.Setter) (err : Err) : .used handle (.set setter (some err)) ∉ acts := by
  intro hmem
  have hsome := h handle setter err hmem
  rw [hnone] at hsome
  cases hsome

end Errors

/-! ## 7. Every call -/

namespace BuilderLife

section Invariant

variable {handle : Option Handle} {life after : BuilderLife cls} {call : BuilderCall cls}
  {builder : NativeBuilder cls}

/-- The handles that the builder and the objects own. -/
def owned (life : BuilderLife cls) : List Handle :=
  (life.builder.bind (·.handle)).toList ++ life.objects.map (·.handle)

/-- **What every call keeps.** -/
structure Inv (handle : Option Handle) (life : BuilderLife cls) : Prop where
  accounts : Accounts handle.toList life.owned life.acts
  quiet : Quiet life.acts
  holds : ∀ builder, life.builder = some builder → Holds life.acts builder
  /-- the builder can make an object only if it has made none -/
  single : life.returned.countP Except.isOk + (life.builder.bind (·.handle)).toList.length ≤ 1

theorem inv_created (outcome : error) (handle : Option Handle) :
    Inv (NativeBuilder.create cls outcome handle).handle (created cls outcome handle) where
  accounts := by
    rw [owned]
    simp only [created, Option.bind_some, List.map_nil, List.append_nil]
    refine .start ?_
    cases (NativeBuilder.create cls outcome handle).handle <;> simp
  quiet := atEvery_nil
  holds builder _ h setter err hmem := absurd hmem List.not_mem_nil
  single := by
    simp only [created, Option.bind_some, List.countP_nil, Nat.zero_add]
    cases (NativeBuilder.create cls outcome handle).handle <;> simp

theorem owned_builder (h : life.builder = some builder) :
    life.owned = builder.handle.toList ++ life.objects.map (·.handle) := by
  rw [owned, h, Option.bind_some]

/-- A setter keeps the invariant. -/
theorem Inv.set (hI : Inv handle life) (hb : life.builder = some builder) (setter : cls.Setter)
    (outcome : error) :
    Inv handle { life with
      builder := some (builder.set setter outcome).1
      acts := life.acts ++ (builder.set setter outcome).2 } := by
  rcases builder.set_cases setter outcome with heq | ⟨h, hh, hnone, heq⟩
  · rw [heq, List.append_nil, ← hb]
    exact hI
  · obtain ⟨haccounts, hquiet, hholds, hsingle⟩ := hI
    rw [owned_builder hb] at haccounts
    rw [hb] at hsingle
    rw [heq]
    have hfailed := (hholds builder hb).none_failed hnone
    refine ⟨?_, ?_, ?_, hsingle⟩
    · exact haccounts.used (by simp [hh]) _
    · exact atEvery_concat.mpr ⟨hquiet, fun _ => hfailed⟩
    · intro builder' hb' h' setter' err hmem
      obtain rfl := Option.some.inj hb'
      rcases List.mem_append.mp hmem with hmem | hmem
      · exact absurd hmem (hfailed h' setter' err)
      · cases List.mem_singleton.mp hmem
        rfl

/-- `Start` keeps the invariant. -/
theorem Inv.start (hI : Inv handle life) (hb : life.builder = some builder)
    {result : Except Err (NativeObject cls)} {builder' : NativeBuilder cls}
    {acts : List (NativeAct cls)} (hs : builder.Starts (result, builder', acts)) :
    Inv handle
      { builder := some builder'
        objects := life.objects ++ result.toOption.toList
        acts := life.acts ++ acts
        returned := life.returned ++ [result] } := by
  obtain ⟨haccounts, hquiet, hholds, hsingle⟩ := hI
  rw [owned_builder hb] at haccounts
  rw [hb, Option.bind_some] at hsingle
  refine ⟨?_, hquiet.append hs.quiet, ?_, ?_⟩
  · rw [owned]
    cases hs with
    | refused err hnone =>
      simpa [Except.toOption] using haccounts
    | failed err hsome =>
      simpa [Except.toOption, NativeBuilder.destroy] using haccounts.destroyedAll
    | stopped h err err' hh hnone =>
      rw [hh] at haccounts
      have hused := haccounts.used List.mem_cons_self (.start (some err'))
      simpa [Except.toOption] using hused.destroyed
    | started h hh hnone =>
      rw [hh] at haccounts
      have hused := haccounts.used List.mem_cons_self (.start none)
      simpa [Except.toOption] using hused.perm (List.perm_append_singleton h _).symm
    | handed h hh hnone hstart =>
      rw [hh] at haccounts
      simpa [Except.toOption] using haccounts.perm (List.perm_append_singleton h _).symm
  · intro builder'' hb''
    obtain rfl := Option.some.inj hb''
    exact (hholds builder hb).append hs.quiet hs.buildErr
  · rw [List.countP_append, List.countP_singleton, Option.bind_some]
    cases hs with
    | refused err hnone => exact hsingle
    | failed err hsome | stopped h err err' hh hnone =>
      show life.returned.countP Except.isOk ≤ 1
      exact (Nat.le_add_right _ _).trans hsingle
    | started h hh hnone | handed h hh hnone hstart =>
      simp only [hh, Except.isOk, Except.toBool, Option.toList_none, Option.toList_some,
        List.length_nil, List.length_singleton, if_true] at hsingle ⊢
      omega

/-- The destructor of the builder keeps the invariant. -/
theorem Inv.destroyBuilder (hI : Inv handle life) (hb : life.builder = some builder) :
    Inv handle { life with builder := none, acts := life.acts ++ builder.destroy } := by
  obtain ⟨haccounts, hquiet, -, hsingle⟩ := hI
  rw [owned_builder hb] at haccounts
  refine ⟨haccounts.destroyedAll, hquiet.append NativeBuilder.destroy_quiet, ?_, ?_⟩
  · intro builder' hb'
    cases hb'
  · exact (Nat.le_add_right _ _).trans hsingle

/-- The destructor of an object keeps the invariant. -/
theorem Inv.destroyObject (hI : Inv handle life) {n : Nat} {object : NativeObject cls}
    (hn : life.objects[n]? = some object) :
    Inv handle { life with
      objects := life.objects.eraseIdx n
      acts := life.acts ++ object.destroy } := by
  obtain ⟨haccounts, hquiet, hholds, hsingle⟩ := hI
  refine ⟨?_, hquiet.append NativeObject.destroy_quiet, ?_, hsingle⟩
  · obtain ⟨hlt, rfl⟩ := List.getElem?_eq_some_iff.mp hn
    have hperm : life.owned.Perm (life.objects[n].handle ::
        ((life.builder.bind (·.handle)).toList ++ (life.objects.eraseIdx n).map (·.handle))) := by
      refine .trans ?_ List.perm_middle
      refine List.Perm.append_left _ ?_
      rw [← List.map_cons]
      exact ((List.getElem_cons_eraseIdx_perm hlt).map _).symm
    have hfirst := haccounts.perm hperm
    unfold NativeObject.destroy
    split
    · rw [← List.append_assoc]
      exact (hfirst.used List.mem_cons_self .stop).destroyed
    · exact hfirst.destroyed
  · intro builder' hb'
    exact (hholds builder' hb').append NativeObject.destroy_quiet rfl

/-- **Every call keeps the invariant.** -/
theorem Inv.step (hI : Inv handle life) (hs : life.step call = some after) : Inv handle after := by
  cases call with
  | set setter outcome =>
    obtain ⟨builder, hb, rfl⟩ := Option.map_eq_some_iff.mp hs
    exact hI.set hb setter outcome
  | start outcome =>
    obtain ⟨builder, hb, rfl⟩ := Option.map_eq_some_iff.mp hs
    exact hI.start hb (builder.start_starts outcome)
  | destroyBuilder =>
    obtain ⟨builder, hb, rfl⟩ := Option.map_eq_some_iff.mp hs
    exact hI.destroyBuilder hb
  | destroyObject n =>
    obtain ⟨object, hn, rfl⟩ := Option.map_eq_some_iff.mp hs
    exact hI.destroyObject hn

/-- What the invariant says of the life so far. -/
theorem Inv.lawful (hI : Inv handle life) : life.Lawful handle where
  silent pre h setter err post heq := hI.quiet.behind heq
  faithful h setter err hmem outcome after hs := by
    obtain ⟨builder, hb, rfl⟩ := Option.map_eq_some_iff.mp hs
    have herr := (builder.start_starts outcome).error (hI.holds builder hb h setter err hmem)
    exact congrArg (fun result => life.returned ++ [result]) herr
  single := (Nat.le_add_right _ _).trans hI.single
  once h _ := by
    rcases (hI.accounts.retired h).countP with hnone | hone
    · omega
    · omega
  released hover h hh := by
    have hnothing : life.owned = [] := by simp [owned, hover.1, hover.2]
    exact Accounts.settled (hnothing ▸ hI.accounts) (Option.mem_toList.mpr hh)
  retired := hI.accounts.retired
  known act hact := Option.mem_toList.mp (hI.accounts.known act hact)

end Invariant

end BuilderLife

/-- **A builder keeps its first error and its handle is destroyed exactly once**, by the builder or
by the object it has made, whatever is called on them and however the native calls end. -/
theorem builders_lawful {kind : BuilderKind} {outcome : error} {handle : Option Handle}
    {calls : List (BuilderCall kind.toClass)} {life : BuilderLife kind.toClass}
    (h : (builderLife kind.toClass).Run (.created kind.toClass outcome handle) calls life) :
    life.Lawful (NativeBuilder.create kind.toClass outcome handle).handle := by
  refine BuilderLife.Inv.lawful ?_
  refine Machine.RunWith.invariant
    (I := fun _ life => life.Inv (NativeBuilder.create kind.toClass outcome handle).handle)
    (BuilderLife.inv_created outcome handle) ?_ h
  intro calls life call after _ hI _ hs
  exact hI.step hs

/-- A memory map that is configured, started and destroyed behind its builder. -/
def mappedCalls : List (BuilderCall BuilderKind.memoryMap.toClass) :=
  [.set (.addDevice 1) none, .set (.setMemoryRange ⟨4096, 64⟩) none, .start none, .start none,
    .destroyBuilder, .destroyObject 0]

/-- A memory map whose first setter fails. -/
def unmappedCalls : List (BuilderCall BuilderKind.memoryMap.toClass) :=
  [.set (.addDevice 1) (some (.native 3)), .set (.setMemoryRange ⟨4096, 64⟩) none, .start none,
    .start none, .destroyBuilder]

theorem builders_lawful_sample :
    (∃ life, (builderLife BuilderKind.memoryMap.toClass).Run
        (.created BuilderKind.memoryMap.toClass none (some 5)) mappedCalls life ∧
      life.Over ∧ life.Lawful (some 5)) ∧
    ∃ life, (builderLife BuilderKind.memoryMap.toClass).Run
        (.created BuilderKind.memoryMap.toClass none (some 5)) unmappedCalls life ∧
      life.returned = List.replicate 2
        (.error (.wrap (.native 3) "Failed to add device to memory map")) ∧
      life.acts = [.used 5 (.set (.addDevice 1) (some (.native 3))), .destroyed 5] ∧
      life.Over ∧ life.Lawful (some 5) := by
  have hmapped : (builderLife BuilderKind.memoryMap.toClass).Run
      (.created BuilderKind.memoryMap.toClass none (some 5)) mappedCalls _ := Machine.exec_run rfl
  have hunmapped : (builderLife BuilderKind.memoryMap.toClass).Run
      (.created BuilderKind.memoryMap.toClass none (some 5)) unmappedCalls _ :=
    Machine.exec_run rfl
  exact ⟨⟨_, hmapped, ⟨rfl, rfl⟩, builders_lawful hmapped⟩,
    _, hunmapped, rfl, rfl, ⟨rfl, rfl⟩, builders_lawful hunmapped⟩

/-! ## 8. The first error -/

namespace BuilderLife

section FirstError

variable {life after later last : BuilderLife cls} {call : BuilderCall cls}
  {builder : NativeBuilder cls} {setter : cls.Setter} {err : Err} {outcome : error} {h : Handle}

/-- The builder, as long as there is one, holds this error. -/
def Holding (err : Err) (life : BuilderLife cls) : Prop :=
  ∀ builder, life.builder = some builder → builder.buildErr = some err

/-- **An error that a builder holds it keeps.** -/
theorem Holding.step (hold : Holding err life) (hs : life.step call = some after) :
    Holding err after := by
  intro builder' hb'
  cases call with
  | set setter outcome =>
    obtain ⟨builder, hb, rfl⟩ := Option.map_eq_some_iff.mp hs
    rcases builder.set_cases setter outcome with heq | ⟨h, -, hnone, -⟩
    · obtain rfl := Option.some.inj hb'
      rw [heq]
      exact hold builder hb
    · cases hnone.symm.trans (hold builder hb)
  | start outcome =>
    obtain ⟨builder, hb, rfl⟩ := Option.map_eq_some_iff.mp hs
    obtain rfl := Option.some.inj hb'
    exact (builder.start_starts outcome).buildErr.trans (hold builder hb)
  | destroyBuilder =>
    obtain ⟨builder, -, rfl⟩ := Option.map_eq_some_iff.mp hs
    cases hb'
  | destroyObject n =>
    obtain ⟨object, -, rfl⟩ := Option.map_eq_some_iff.mp hs
    exact hold builder' hb'

/-- A setter of a builder with a handle and no error, whose native call fails. -/
theorem holding_set (hb : life.builder = some builder) (hh : builder.handle = some h)
    (hnone : builder.buildErr = none) (hs : life.step (.set setter (some err)) = some after) :
    Holding (.wrap err (cls.setFailure setter)) after := by
  obtain ⟨builder', hb', rfl⟩ := Option.map_eq_some_iff.mp hs
  obtain rfl := Option.some.inj (hb.symm.trans hb')
  rintro _ ⟨⟩
  simp only [NativeBuilder.set, hh, hnone, Option.map_some]

/-- **The first error is kept**: behind a setter that was called on a builder with a handle and no
error, and whose native call has failed, every `Start` returns its error, whatever is called in
between. -/
theorem first_error_kept {calls : List (BuilderCall cls)} (hb : life.builder = some builder)
    (hh : builder.handle = some h) (hnone : builder.buildErr = none)
    (hs : life.step (.set setter (some err)) = some after)
    (hrun : (builderLife cls).Run after calls later)
    (hstart : later.step (.start outcome) = some last) :
    last.returned = later.returned ++ [.error (.wrap err (cls.setFailure setter))] := by
  have hold : Holding (.wrap err (cls.setFailure setter)) later := by
    refine Machine.RunWith.invariant (I := fun _ => Holding (.wrap err (cls.setFailure setter)))
      (holding_set hb hh hnone hs) ?_ hrun
    intro calls life call after _ hold _ hs
    exact hold.step hs
  obtain ⟨builder', hb', rfl⟩ := Option.map_eq_some_iff.mp hstart
  have herr := (builder'.start_starts outcome).error (hold builder' hb')
  exact congrArg (fun result => later.returned ++ [result]) herr

end FirstError

end BuilderLife

end DocaCpp
