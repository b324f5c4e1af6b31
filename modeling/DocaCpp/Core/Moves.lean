/-
# Moving the wrappers of native objects

The wrapper classes declare their moves `noexcept = default`: a move copies a raw pointer and takes
a `std::shared_ptr`, of which nothing is left in the source.  Nine classes keep a deleter beside
their native pointer, and their destructors release nothing without it; `RdmaEngine` and its builder
keep the pointer alone.

* §1 -- the special members of the eleven classes;
* §2 -- what each pattern releases, and `moves_settled_iff`: when every native handle is released
  once and by its last owner;
* §3 -- `BufferInventory::Builder`, whose moves are written by hand and settle every run.
-/
import DocaCpp.Core.Builder
import DocaCpp.Lib.Moves

namespace DocaCpp

/-! ## 1. The special members -/

/-- The native functions that destructors call. -/
inductive Destroyer
  | bufDecRefcount
  | bufInventoryDestroy
  | mmapStop
  | mmapDestroy
  | devClose
  | devinfoDestroyList
  | peDestroy
  | ctxFlushTasks
  | ctxStop
  | rdmaAddrDestroy
  | rdmaDestroy
  deriving DecidableEq

/-- A `Deleter`, which has no members. -/
structure Deleter
  deriving DecidableEq

/-- An object of a class with a deleter: the native pointer, the members that a class has besides,
and the `DeleterPtr`. -/
structure Managed (R : Type) where
  native : Option Handle
  rest : R
  deleter : Option Deleter

/-- An object of a class without: the native pointer and the other members. -/
structure Bare (R : Type) where
  native : Option Handle
  rest : R

/-- Native calls on a pointer, made unless it is null. -/
def onNative (calls : List Destroyer) (native : Option Handle) : List (Destroyer × Handle) :=
  native.elim [] fun handle => calls.map fun call => (call, handle)

namespace Managed

variable {R : Type}

/-- The object would call its deleter, and has something to call it on. -/
def owns (w : Managed R) : Bool := w.deleter.isSome && w.native.isSome

/-- The destructor of a class with a deleter, by what `Deleter::Delete` calls. -/
def destruct (delete : Option Handle → List (Destroyer × Handle)) (w : Managed R) :
    List (Destroyer × Handle) :=
  if w.deleter.isSome && w.native.isSome then delete w.native else []

/-- The special members of a class with a deleter: `left` is what a move leaves of the other
members. -/
def special (left : R → R) (destruct : Managed R → List (Destroyer × Handle)) (release : Destroyer) :
    Movable R (Managed R) Handle Destroyer where
  construct rest handle := { native := some handle, rest := rest, deleter := some {} }
  moved w := { native := w.native, rest := left w.rest, deleter := none }
  overwrite _ := []
  destruct := destruct
  release := release

end Managed

/-- The special members of a class without a deleter: `initial` is what its constructor gives the
other members, and `left` what a move leaves of them. -/
def Bare.special {R : Type} (initial : R) (left : R → R) (destroy : Destroyer) :
    Movable Unit (Bare R) Handle Destroyer where
  construct _ handle := { native := some handle, rest := initial }
  moved w := { native := w.native, rest := left w.rest }
  overwrite _ := []
  destruct w := onNative [destroy] w.native
  release := destroy

/-- `Buffer`, which gives back its reference. -/
def Buffer.special : Movable Unit (Managed Unit) Handle Destroyer :=
  Managed.special id (Managed.destruct (onNative [.bufDecRefcount])) .bufDecRefcount

/-- `BufferInventory`. -/
def BufferInventory.special : Movable Unit (Managed Unit) Handle Destroyer :=
  Managed.special id (Managed.destruct (onNative [.bufInventoryDestroy])) .bufInventoryDestroy

/-- `MemoryMap`, with its `DevicePtr`. -/
def MemoryMap.special : Movable (Option Device) (Managed (Option Device)) Handle Destroyer :=
  Managed.special (fun _ => none) (Managed.destruct (onNative [.mmapStop, .mmapDestroy])) .mmapDestroy

/-- `RemoteMemoryMap`, with its `DevicePtr`. -/
def RemoteMemoryMap.special : Movable (Option Device) (Managed (Option Device)) Handle Destroyer :=
  Managed.special (fun _ => none) (Managed.destruct (onNative [.mmapStop, .mmapDestroy])) .mmapDestroy

/-- `Device`. -/
def Device.special : Movable Unit (Managed Unit) Handle Destroyer :=
  Managed.special id (Managed.destruct (onNative [.devClose])) .devClose

/-- `DeviceList`, with the number of its devices. -/
def DeviceList.special : Movable UInt32 (Managed UInt32) Handle Destroyer :=
  Managed.special id (Managed.destruct (onNative [.devinfoDestroyList])) .devinfoDestroyList

/-- `ProgressEngine`. -/
def ProgressEngine.special : Movable Unit (Managed Unit) Handle Destroyer :=
  Managed.special id (Managed.destruct (onNative [.peDestroy])) .peDestroy

/-- `Context::~Context` looks at its deleter only. -/
def Context.destruct (w : Managed Unit) : List (Destroyer × Handle) :=
  if w.deleter.isSome then onNative [.ctxFlushTasks, .ctxStop] w.native else []

/-- `Context`, which stops what it releases. -/
def Context.special : Movable Unit (Managed Unit) Handle Destroyer :=
  Managed.special id Context.destruct .ctxStop

/-- `RdmaAddress`. -/
def RdmaAddress.special : Movable Unit (Managed Unit) Handle Destroyer :=
  Managed.special id (Managed.destruct (onNative [.rdmaAddrDestroy])) .rdmaAddrDestroy

/-- `RdmaEngine`, with its `ContextPtr`. -/
def RdmaEngine.special : Movable Unit (Bare (Option Handle)) Handle Destroyer :=
  Bare.special none (fun _ => none) .rdmaDestroy

/-- `RdmaEngine::Builder`, with its error. -/
def RdmaEngine.builderSpecial : Movable Unit (Bare error) Handle Destroyer :=
  Bare.special none (fun _ => none) .rdmaDestroy

/-- The wrapper classes. -/
inductive WrapperKind
  | buffer
  | bufferInventory
  | memoryMap
  | remoteMemoryMap
  | device
  | deviceList
  | progressEngine
  | context
  | rdmaAddress
  | rdmaEngine
  | rdmaEngineBuilder
  deriving DecidableEq

namespace WrapperKind

/-- What the constructor of a class takes beside the handle. -/
@[reducible] def Args : WrapperKind → Type
  | memoryMap | remoteMemoryMap => Option Device
  | deviceList => UInt32
  | _ => Unit

/-- The objects of a class. -/
@[reducible] def Wrapper : WrapperKind → Type
  | memoryMap | remoteMemoryMap => Managed (Option Device)
  | deviceList => Managed UInt32
  | rdmaEngine => Bare (Option Handle)
  | rdmaEngineBuilder => Bare error
  | _ => Managed Unit

/-- The special members of a class. -/
@[reducible] def special : (k : WrapperKind) → Movable k.Args k.Wrapper Handle Destroyer
  | buffer => Buffer.special
  | bufferInventory => BufferInventory.special
  | memoryMap => MemoryMap.special
  | remoteMemoryMap => RemoteMemoryMap.special
  | device => Device.special
  | deviceList => DeviceList.special
  | progressEngine => ProgressEngine.special
  | context => Context.special
  | rdmaAddress => RdmaAddress.special
  | rdmaEngine => RdmaEngine.special
  | rdmaEngineBuilder => RdmaEngine.builderSpecial

end WrapperKind

/-! ## 2. When the handles are settled -/

/-- The address of an object. -/
abbrev Address := Nat

/-- The wrappers of a class that are alive. -/
abbrev Wrappers (W : Type) := Objects Address W Handle Destroyer

section Managed

variable {R : Type} {left : R → R} {calls : List Destroyer} {release : Destroyer}
  {ops : List (MoveOp Address R Handle)} {s : Wrappers (Managed R)}

/-- No assignment is made onto an object that owns a handle, other than the one it is made from. -/
def Managed.Careful (s : Wrappers (Managed R)) (op : MoveOp Address R Handle) : Prop :=
  ∀ target source w, op = .moveAssign target source → target ≠ source →
    s.object target = some w → w.owns = false

/-- What the deleter releases: the handle, once. -/
theorem releases_onNative {A W : Type} {C : Movable A W Handle Destroyer}
    (hcalls : calls.filter (fun call => call = C.release) = [C.release]) (native : Option Handle) :
    C.releases (onNative calls native) = native.toList := by
  cases native with
  | none => rfl
  | some handle =>
    have hmap : (calls.map fun call => (call, handle)).filter (fun call => call.1 = C.release) =
        (calls.filter fun call => call = C.release).map fun call => (call, handle) := by
      rw [List.filter_map]
      rfl
    rw [Movable.releases, onNative, Option.elim_some, hmap, hcalls]
    rfl

/-- **An object with a deleter releases the handle it owns.** -/
theorem Managed.held_special (hcalls : calls.filter (fun call => call = release) = [release])
    (w : Managed R) :
    (Managed.special left (Managed.destruct (onNative calls)) release).held w =
      if w.owns then w.native.toList else [] := by
  rw [Movable.held]
  change Movable.releases _ (Managed.destruct (onNative calls) w) = _
  rw [Managed.destruct, Managed.owns]
  split
  next => exact releases_onNative hcalls w.native
  next => rfl

/-- A class with a deleter disarms what it moves from, and releases nothing that it writes over. -/
theorem Managed.disarms (hcalls : calls.filter (fun call => call = release) = [release]) :
    (Managed.special left (Managed.destruct (onNative calls)) release).Disarms where
  construct rest handle := by
    rw [held_special hcalls]
    rfl
  moved w handle hmem := by
    rw [held_special hcalls] at hmem
    cases hmem
  overwrite w := .inl rfl
  disarms w := by
    rw [held_special hcalls]
    rfl

/-- A class with a deleter settles every handle exactly if no owner is written over. -/
theorem Managed.settled_iff (hcalls : calls.filter (fun call => call = release) = [release])
    (hrun : (Managed.special left (Managed.destruct (onNative calls)) release).machine.Run {} ops s)
    (hdead : s.Dead) :
    (Managed.special left (Managed.destruct (onNative calls)) release).Settled ops s ↔
      (Managed.special left (Managed.destruct (onNative calls)) release).machine.EveryStep {}
        (fun _ => Managed.Careful) ops := by
  have hspares : (Managed.special left (Managed.destruct (onNative calls)) release).Spares =
      Managed.Careful (R := R) := by
    funext s op
    refine propext (forall_congr' fun target => forall_congr' fun source => forall_congr' fun w =>
      forall_congr' fun _ => forall_congr' fun _ => forall_congr' fun _ => ?_)
    change [] = Movable.held _ w ↔ _
    rw [held_special hcalls, owns]
    rcases w with ⟨_ | handle, rest, _ | deleter⟩ <;> simp
  rw [(Managed.disarms hcalls).settled_iff hrun hdead, hspares]

end Managed

/-- A class without a deleter copies what it moves from. -/
theorem Bare.copies {R : Type} {initial : R} {left : R → R} {destroy : Destroyer} :
    (Bare.special initial left destroy).Copies := by
  have hheld : ∀ w, (Bare.special initial left destroy).held w = w.native.toList := fun w =>
    releases_onNative (by simp [Bare.special]) w.native
  exact
    { construct := fun _ handle => by rw [hheld]; rfl
      moved := fun w handle hmem => by
        rw [hheld] at hmem ⊢
        exact hmem
      overwrite := fun w => .inl rfl
      copies := fun w => by rw [hheld, hheld]; rfl
      silent := fun w => rfl }

/-- `Delete` looks at the pointer that the destructor of `Context` does not look at. -/
theorem Context.destruct_eq :
    Context.destruct = Managed.destruct (onNative [.ctxFlushTasks, .ctxStop]) := by
  funext w
  rcases w with ⟨_ | ctx, rest, _ | deleter⟩ <;> rfl

/-- What an operation must not do: a class with a deleter must not assign onto an owner, and a class
without must not move. -/
def WrapperKind.Careful : (k : WrapperKind) → Wrappers k.Wrapper →
    MoveOp Address k.Args Handle → Prop
  | buffer => Managed.Careful
  | bufferInventory => Managed.Careful
  | memoryMap => Managed.Careful
  | remoteMemoryMap => Managed.Careful
  | device => Managed.Careful
  | deviceList => Managed.Careful
  | progressEngine => Managed.Careful
  | context => Managed.Careful
  | rdmaAddress => Managed.Careful
  | rdmaEngine => fun _ op => ¬ op.Moves
  | rdmaEngineBuilder => fun _ op => ¬ op.Moves

/-- **When every native handle is released exactly once, by its last owner**: in a run at whose end
every object is destroyed, exactly if no assignment was made onto an owner, or, of an engine and of
its builder, if none was moved. -/
theorem moves_settled_iff (k : WrapperKind) {ops : List (MoveOp Address k.Args Handle)}
    {s : Wrappers k.Wrapper} (hrun : k.special.machine.Run {} ops s) (hdead : s.Dead) :
    k.special.Settled ops s ↔ k.special.machine.EveryStep {} (fun _ => k.Careful) ops := by
  cases k with
  | buffer => exact Managed.settled_iff rfl hrun hdead
  | bufferInventory => exact Managed.settled_iff rfl hrun hdead
  | memoryMap => exact Managed.settled_iff rfl hrun hdead
  | remoteMemoryMap => exact Managed.settled_iff rfl hrun hdead
  | device => exact Managed.settled_iff rfl hrun hdead
  | deviceList => exact Managed.settled_iff rfl hrun hdead
  | progressEngine => exact Managed.settled_iff rfl hrun hdead
  | context =>
    have hspecial : Context.special =
        Managed.special id (Managed.destruct (onNative [.ctxFlushTasks, .ctxStop])) .ctxStop := by
      rw [Context.special, Context.destruct_eq]
    simp only [WrapperKind.special, hspecial] at hrun ⊢
    exact Managed.settled_iff rfl hrun hdead
  | rdmaAddress => exact Managed.settled_iff rfl hrun hdead
  | rdmaEngine => exact Bare.copies.settled_iff hrun hdead
  | rdmaEngineBuilder => exact Bare.copies.settled_iff hrun hdead

/-- A map is moved twice, and the objects it was moved out of are destroyed first. -/
def mapMoves : List (MoveOp Address (Option Device) Handle) :=
  [.construct 0 (some 7) 10, .moveConstruct 1 0, .moveConstruct 2 1, .destroy 0, .destroy 1,
    .destroy 2]

/-- A map that is moved without being assigned to settles its handle. -/
theorem moves_settled_iff_map :
    ∃ s, MemoryMap.special.machine.Run {} mapMoves s ∧ s.Dead ∧
      MemoryMap.special.Settled mapMoves s := by
  obtain ⟨s, hs⟩ : ∃ s, MemoryMap.special.machine.exec {} mapMoves = some s := ⟨_, rfl⟩
  have hrun := Machine.exec_run hs
  have hdead : s.Dead := by
    rw [Movable.dead_iff hrun]
    cases hs
    rfl
  refine ⟨s, hrun, hdead, (moves_settled_iff .memoryMap hrun hdead).mpr ?_⟩
  intro pre op hpre t u _ _ target source w hop _ _
  have hmem : op ∈ mapMoves := hpre.subset (List.mem_append_right _ (List.mem_singleton_self _))
  rw [hop] at hmem
  simp [mapMoves] at hmem

/-- Two buffers, of which the second is moved onto the first. -/
def assignedBuffers : List (MoveOp Address Unit Handle) :=
  [.construct 0 () 10, .construct 1 () 11, .moveAssign 0 1, .destroy 0, .destroy 1]

/-- An engine that is moved out of. -/
def movedEngine : List (MoveOp Address Unit Handle) :=
  [.construct 0 () 10, .moveConstruct 1 0, .destroy 1, .destroy 0]

/-- **The first buffer is never released, and the engine is destroyed twice.** -/
theorem moves_unsettled :
    (∃ s, Buffer.special.machine.Run {} assignedBuffers s ∧ s.Dead ∧
      Buffer.special.released s = [(0, 11)] ∧ ¬ Buffer.special.Settled assignedBuffers s) ∧
    ∃ s, RdmaEngine.special.machine.Run {} movedEngine s ∧ s.Dead ∧
      RdmaEngine.special.released s = [(1, 10), (0, 10)] ∧
      ¬ RdmaEngine.special.Settled movedEngine s := by
  constructor
  · obtain ⟨s, hs⟩ : ∃ s, Buffer.special.machine.exec {} assignedBuffers = some s := ⟨_, rfl⟩
    have hrun := Machine.exec_run hs
    have hdead : s.Dead := by
      rw [Movable.dead_iff hrun]
      cases hs
      rfl
    have hreleased : Buffer.special.released s = [(0, 11)] := by
      cases hs
      rfl
    refine ⟨s, hrun, hdead, hreleased, fun hsettled => ?_⟩
    obtain ⟨x, -, hx⟩ := hsettled 10 (by cases hs; decide)
    rw [hreleased] at hx
    cases hx
  · obtain ⟨s, hs⟩ : ∃ s, RdmaEngine.special.machine.exec {} movedEngine = some s := ⟨_, rfl⟩
    have hrun := Machine.exec_run hs
    have hdead : s.Dead := by
      rw [Movable.dead_iff hrun]
      cases hs
      rfl
    have hreleased : RdmaEngine.special.released s = [(1, 10), (0, 10)] := by
      cases hs
      rfl
    refine ⟨s, hrun, hdead, hreleased, fun hsettled => ?_⟩
    obtain ⟨x, -, hx⟩ := hsettled 10 (by cases hs; decide)
    rw [hreleased] at hx
    cases hx

/-! ## 3. The moves written by hand -/

/-- `BufferInventory::Builder`: its moves null the source, and its assignment destroys the inventory
it writes over. -/
def BufferInventory.builderSpecial : Movable Unit (Bare error) Handle Destroyer where
  construct _ handle := { native := some handle, rest := none }
  moved _ := { native := none, rest := none }
  overwrite w := onNative [.bufInventoryDestroy] w.native
  destruct w := onNative [.bufInventoryDestroy] w.native
  release := .bufInventoryDestroy

theorem BufferInventory.builderSpecial_disarms : BufferInventory.builderSpecial.Disarms where
  construct _ handle := releases_onNative rfl (some handle)
  moved w handle hmem := by cases hmem
  overwrite w := .inr rfl
  disarms w := rfl

/-- **The builder of inventories settles every run**, whatever is moved. -/
theorem inventoryBuilder_settled {ops : List (MoveOp Address Unit Handle)} {s : Wrappers (Bare error)}
    (hrun : BufferInventory.builderSpecial.machine.Run {} ops s) (hdead : s.Dead) :
    BufferInventory.builderSpecial.Settled ops s :=
  BufferInventory.builderSpecial_disarms.settled (fun _ => rfl) hrun hdead

end DocaCpp
