/-
# The buffers of a task

A task object sets and gets the buffers of its native task by their type.  A send task has a source
and a receive task a destination; write and read tasks have both, but their `GetBuffer` goes on to
the destination after it has read the source.

* §1 -- the native functions, and what is expected of them;
* §2 -- the four classes, in two families;
* §3 -- what a call does (`setBuffer_eq`, `getBuffer_eq`) and what a sequence of them leaves in the
  slots (`slots_setBuffers`);
* §4 -- `readsBack_iff`: when `GetBuffer` gives back what was set.
-/
import DocaCpp.Core.Moves
import Mathlib.Data.List.Induction

namespace DocaCpp

/-! ## 1. The native task -/

/-- `RdmaBuffer::Type`. -/
inductive RdmaBuffer.Kind
  | source
  | destination
  deriving DecidableEq

/-- A `BufferPtr` that is not null; its native buffer may be. -/
abbrev Buffer := Managed Unit

/-- `Buffer::CreateRef`. -/
def Buffer.createRef (nativeBuffer : Option Handle) : Buffer :=
  { native := nativeBuffer, rest := (), deleter := none }

/-- The native functions on the buffers of a task, as it lies in memory. -/
structure TaskFunctions (N : Type) where
  setSrcBuf : N → Option Handle → N
  setDstBuf : N → Option Handle → N
  getSrcBuf : N → Option Handle
  getDstBuf : N → Option Handle

namespace TaskFunctions

variable {N : Type} (lib : TaskFunctions N)

/-- What a slot of the task holds. -/
def slot (type : RdmaBuffer.Kind) (task : N) : Option Handle :=
  match type with
  | .source => lib.getSrcBuf task
  | .destination => lib.getDstBuf task

/-- A slot of the task is set. -/
def setSlot (type : RdmaBuffer.Kind) (task : N) (native : Option Handle) : N :=
  match type with
  | .source => lib.setSrcBuf task native
  | .destination => lib.setDstBuf task native

/-- **What is expected of the native library**: it stores a pointer for each slot. -/
structure Stores : Prop where
  get_set : ∀ type task native, lib.slot type (lib.setSlot type task native) = native
  get_set_ne : ∀ type type' task native, type ≠ type' →
    lib.slot type (lib.setSlot type' task native) = lib.slot type task

end TaskFunctions

/-! ## 2. The task classes -/

section Tasks

variable {N : Type} (lib : TaskFunctions N)

/-- `SetBuffer` of a class with one slot: the type is looked at first. -/
def setOnly (accepted : RdmaBuffer.Kind) (refusal notInitialized : String) (task : Option N)
    (type : RdmaBuffer.Kind) (buffer : Buffer) : error × Option N :=
  if type ≠ accepted then (some (.new refusal), task)
  else
    match task with
    | none => (some (.new notInitialized), task)
    | some native => (none, some (lib.setSlot accepted native buffer.native))

/-- `GetBuffer` of a class with one slot. -/
def getOnly (accepted : RdmaBuffer.Kind) (refusal notInitialized : String) (task : Option N)
    (type : RdmaBuffer.Kind) : Except Err Buffer :=
  if type ≠ accepted then .error (.new refusal)
  else
    match task with
    | none => .error (.new notInitialized)
    | some native => .ok (.createRef (lib.slot accepted native))

/-- `SetBuffer` of a class with two slots. -/
def setEither (notInitialized : String) (task : Option N) (type : RdmaBuffer.Kind)
    (buffer : Buffer) : error × Option N :=
  match task with
  | none => (some (.new notInitialized), task)
  | some native =>
    if type = .source then (none, some (lib.setSrcBuf native buffer.native))
    else (none, some (lib.setDstBuf native buffer.native))

/-- `GetBuffer` of a class with two slots. -/
def getEither (notInitialized : String) (task : Option N) (type : RdmaBuffer.Kind) :
    Except Err Buffer :=
  match task with
  | none => .error (.new notInitialized)
  | some native =>
    let _nativeBuffer := if type = .source then lib.getSrcBuf native else none
    -- not in an else branch: what was read of the source is written over
    let nativeBuffer := lib.getDstBuf native
    .ok (.createRef nativeBuffer)

def RdmaSendTask.setBuffer : Option N → RdmaBuffer.Kind → Buffer → error × Option N :=
  setOnly lib .source "RdmaSendTask only supports setting source buffer"
    "RdmaSendTask is not initialized"

def RdmaSendTask.getBuffer : Option N → RdmaBuffer.Kind → Except Err Buffer :=
  getOnly lib .source "RdmaSendTask only supports getting source buffer"
    "RdmaSendTask is not initialized"

def RdmaReceiveTask.setBuffer : Option N → RdmaBuffer.Kind → Buffer → error × Option N :=
  setOnly lib .destination "RdmaReceiveTask only supports setting destination buffer"
    "RdmaReceiveTask is not initialized"

def RdmaReceiveTask.getBuffer : Option N → RdmaBuffer.Kind → Except Err Buffer :=
  getOnly lib .destination "RdmaReceiveTask only supports getting destination buffer"
    "RdmaReceiveTask is not initialized"

def RdmaWriteTask.setBuffer : Option N → RdmaBuffer.Kind → Buffer → error × Option N :=
  setEither lib "RdmaWriteTask is not initialized"

def RdmaWriteTask.getBuffer : Option N → RdmaBuffer.Kind → Except Err Buffer :=
  getEither lib "RdmaWriteTask is not initialized"

def RdmaReadTask.setBuffer : Option N → RdmaBuffer.Kind → Buffer → error × Option N :=
  setEither lib "RdmaReadTask is not initialized"

def RdmaReadTask.getBuffer : Option N → RdmaBuffer.Kind → Except Err Buffer :=
  getEither lib "RdmaReadTask is not initialized"

/-- The task classes. -/
inductive TaskKind
  | send
  | receive
  | write
  | read
  deriving DecidableEq

namespace TaskKind

/-- `IRdmaTask::SetBuffer`: the error, and the task after it. -/
def setBuffer : TaskKind → Option N → RdmaBuffer.Kind → Buffer → error × Option N
  | send => RdmaSendTask.setBuffer lib
  | receive => RdmaReceiveTask.setBuffer lib
  | write => RdmaWriteTask.setBuffer lib
  | read => RdmaReadTask.setBuffer lib

/-- `IRdmaTask::GetBuffer`. -/
def getBuffer : TaskKind → Option N → RdmaBuffer.Kind → Except Err Buffer
  | send => RdmaSendTask.getBuffer lib
  | receive => RdmaReceiveTask.getBuffer lib
  | write => RdmaWriteTask.getBuffer lib
  | read => RdmaReadTask.getBuffer lib

end TaskKind

/-- A call of `SetBuffer`. -/
abbrev SetCall := RdmaBuffer.Kind × Buffer

/-- A task that buffers are set on, with the calls that it has accepted. -/
structure TaskBuffers (N : Type) where
  task : Option N
  accepted : List SetCall

/-- One call: it is accepted if no error comes back. -/
def TaskKind.set (kind : TaskKind) (x : TaskBuffers N) (call : SetCall) : TaskBuffers N :=
  let result := kind.setBuffer lib x.task call.1 call.2
  { task := result.2
    accepted := if result.1 = none then x.accepted ++ [call] else x.accepted }

/-- The calls of `SetBuffer` on a task that is not null. -/
def TaskKind.setBuffers (kind : TaskKind) (task : N) (calls : List SetCall) : TaskBuffers N :=
  calls.foldl (kind.set lib) { task := some task, accepted := [] }

/-- The buffer of the last call of a type. -/
def lastOf (type : RdmaBuffer.Kind) (calls : List SetCall) : Option Buffer :=
  (calls.filter fun call => call.1 = type).getLast?.map (·.2)

end Tasks

/-! ## 3. What the calls do -/

section Calls

variable {N : Type} {lib : TaskFunctions N} {kind : TaskKind} {type : RdmaBuffer.Kind}
  {calls : List SetCall} {task native : N}

/-- The types a class accepts. -/
def TaskKind.accepts : TaskKind → RdmaBuffer.Kind → Bool
  | send, type => decide (type = .source)
  | receive, type => decide (type = .destination)
  | write, _ | read, _ => true

/-- The slot that is in fact read. -/
def TaskKind.reads : TaskKind → RdmaBuffer.Kind → RdmaBuffer.Kind
  | send, type | receive, type => type
  | write, _ | read, _ => .destination

/-- `SetBuffer` of an accepted type sets the slot of the type. -/
theorem TaskKind.setBuffer_eq (h : kind.accepts type = true) (buffer : Buffer) :
    kind.setBuffer lib (some native) type buffer =
      (none, some (lib.setSlot type native buffer.native)) := by
  cases kind with
  | send =>
    obtain rfl := of_decide_eq_true h
    rfl
  | receive =>
    obtain rfl := of_decide_eq_true h
    rfl
  | write => cases type <;> rfl
  | read => cases type <;> rfl

/-- `SetBuffer` of another type is refused, and leaves the task alone. -/
theorem TaskKind.setBuffer_refused (h : kind.accepts type = false) (buffer : Buffer) :
    ∃ err, kind.setBuffer lib (some native) type buffer = (some err, some native) := by
  cases kind with
  | send => exact ⟨_, if_pos (of_decide_eq_false h)⟩
  | receive => exact ⟨_, if_pos (of_decide_eq_false h)⟩
  | write => cases h
  | read => cases h

/-- `GetBuffer` of an accepted type. -/
theorem TaskKind.getBuffer_eq (h : kind.accepts type = true) :
    kind.getBuffer lib (some native) type =
      .ok (.createRef (lib.slot (kind.reads type) native)) := by
  cases kind with
  | send =>
    obtain rfl := of_decide_eq_true h
    rfl
  | receive =>
    obtain rfl := of_decide_eq_true h
    rfl
  | write => rfl
  | read => rfl

/-- `GetBuffer` of another type is refused, whatever the task. -/
theorem TaskKind.getBuffer_refused (h : kind.accepts type = false) :
    ∃ err, ∀ native, kind.getBuffer lib (some native) type = .error err := by
  cases kind with
  | send => exact ⟨_, fun native => if_pos (of_decide_eq_false h)⟩
  | receive => exact ⟨_, fun native => if_pos (of_decide_eq_false h)⟩
  | write => cases h
  | read => cases h

@[simp] theorem lastOf_concat (calls : List SetCall) (call : SetCall) :
    lastOf type (calls ++ [call]) = if call.1 = type then some call.2 else lastOf type calls := by
  by_cases h : call.1 = type
  · simp [lastOf, h]
  · simp [lastOf, h]

@[simp] theorem TaskKind.setBuffers_concat (calls : List SetCall) (call : SetCall) :
    kind.setBuffers lib task (calls ++ [call]) =
      kind.set lib (kind.setBuffers lib task calls) call := by
  simp [TaskKind.setBuffers]

/-- The slots of a task hold the buffers of the last calls that were accepted, and before the first
what they held at the start. -/
structure TaskBuffers.Holds (lib : TaskFunctions N) (kind : TaskKind) (task : N)
    (calls : List SetCall) (native : N) (x : TaskBuffers N) : Prop where
  task_eq : x.task = some native
  accepted_eq : x.accepted = calls.filter fun call => kind.accepts call.1
  slot_eq : ∀ type, lib.slot type native =
    (lastOf type x.accepted).elim (lib.slot type task) (·.native)

/-- **What a sequence of calls leaves in the slots.** -/
theorem slots_setBuffers (hlib : lib.Stores) (kind : TaskKind) (task : N) (calls : List SetCall) :
    ∃ native, (kind.setBuffers lib task calls).Holds lib kind task calls native := by
  induction calls using List.reverseRecOn with
  | nil => exact ⟨task, rfl, rfl, fun type => rfl⟩
  | append_singleton calls call ih =>
    obtain ⟨native, htask, haccepted, hslot⟩ := ih
    rw [TaskKind.setBuffers_concat]
    by_cases hacc : kind.accepts call.1 = true
    · refine ⟨lib.setSlot call.1 native call.2.native, ?_, ?_, fun type => ?_⟩
      · rw [TaskKind.set, htask, TaskKind.setBuffer_eq hacc]
      · rw [TaskKind.set, htask, TaskKind.setBuffer_eq hacc, List.filter_append, ← haccepted]
        simp [hacc]
      · rw [TaskKind.set, htask, TaskKind.setBuffer_eq hacc, if_pos rfl, lastOf_concat]
        split
        next htype =>
          subst htype
          exact hlib.get_set _ _ _
        next htype =>
          rw [hlib.get_set_ne _ _ _ _ (Ne.symm htype)]
          exact hslot type
    · rw [Bool.not_eq_true] at hacc
      obtain ⟨err, herr⟩ : ∃ err, kind.setBuffer lib (some native) call.1 call.2 =
          (some err, some native) := TaskKind.setBuffer_refused hacc call.2
      have hset : kind.set lib (kind.setBuffers lib task calls) call =
          { task := some native, accepted := (kind.setBuffers lib task calls).accepted } := by
        rw [TaskKind.set, htask, herr]
        rfl
      rw [hset]
      refine ⟨native, rfl, ?_, hslot⟩
      rw [List.filter_append, ← haccepted]
      simp [hacc]

end Calls

/-! ## 4. Reading back -/

section ReadsBack

variable {N : Type} (lib : TaskFunctions N) (kind : TaskKind) (task : N) (calls : List SetCall)
  (type : RdmaBuffer.Kind)

/-- **`GetBuffer` gives back what was set**: the native buffer of the last accepted call of its type,
or what it gave at the start if there was none, and it fails where `SetBuffer` does. -/
structure TaskKind.ReadsBack : Prop where
  last : ∀ buffer, lastOf type (kind.setBuffers lib task calls).accepted = some buffer →
    kind.getBuffer lib (kind.setBuffers lib task calls).task type =
      .ok (.createRef buffer.native)
  unset : lastOf type (kind.setBuffers lib task calls).accepted = none →
    kind.getBuffer lib (kind.setBuffers lib task calls).task type =
      kind.getBuffer lib (some task) type
  refused : (∃ err, kind.getBuffer lib (kind.setBuffers lib task calls).task type = .error err) ↔
    ∀ buffer, (kind.setBuffer lib (kind.setBuffers lib task calls).task type buffer).1 ≠ none

/-- The source of a write or a read task is asked for only while the destination slot holds the
buffer that was last set for the source, or what it held at the start if none was. -/
def TaskKind.Unmixed : Prop :=
  kind = .send ∨ kind = .receive ∨ type = .destination ∨
    (lastOf .destination calls).elim (lib.getDstBuf task) (·.native) =
      (lastOf .source calls).elim (lib.getDstBuf task) (·.native)

variable {lib kind task calls type}

/-- A type that is refused is refused both ways. -/
theorem TaskKind.readsBack_refused (hlib : lib.Stores) (h : kind.accepts type = false) :
    kind.ReadsBack lib task calls type := by
  obtain ⟨native, htask, haccepted, -⟩ := slots_setBuffers hlib kind task calls
  obtain ⟨err, hget⟩ : ∃ err, ∀ native, kind.getBuffer lib (some native) type = .error err :=
    TaskKind.getBuffer_refused h
  have hnone : lastOf type (kind.setBuffers lib task calls).accepted = none := by
    rw [lastOf, haccepted, List.filter_filter, Option.map_eq_none_iff, List.getLast?_eq_none_iff,
      List.filter_eq_nil_iff]
    rintro ⟨type', buffer⟩ - hboth
    rw [Bool.and_eq_true, decide_eq_true_eq] at hboth
    obtain ⟨rfl, hacc⟩ := hboth
    rw [h] at hacc
    cases hacc
  constructor
  · intro buffer hlast
    rw [hnone] at hlast
    cases hlast
  · intro _
    rw [htask, hget, hget]
  · rw [htask]
    refine iff_of_true ⟨err, hget native⟩ fun buffer => ?_
    obtain ⟨err', herr'⟩ : ∃ err, kind.setBuffer lib (some native) type buffer =
        (some err, some native) := TaskKind.setBuffer_refused h buffer
    rw [herr']
    exact Option.some_ne_none err'

/-- A type that is accepted is read back if the slot that is read holds what was set. -/
theorem TaskKind.readsBack_accepted (hlib : lib.Stores) (h : kind.accepts type = true) :
    kind.ReadsBack lib task calls type ↔
      (lastOf (kind.reads type) (calls.filter fun call => kind.accepts call.1)).elim
          (lib.slot (kind.reads type) task) (·.native) =
        (lastOf type (calls.filter fun call => kind.accepts call.1)).elim
          (lib.slot (kind.reads type) task) (·.native) := by
  obtain ⟨native, htask, haccepted, hslot⟩ := slots_setBuffers hlib kind task calls
  have hget : kind.getBuffer lib (kind.setBuffers lib task calls).task type =
      .ok (.createRef ((lastOf (kind.reads type) (calls.filter fun call => kind.accepts call.1)).elim
        (lib.slot (kind.reads type) task) (·.native))) := by
    rw [htask, TaskKind.getBuffer_eq h, hslot, haccepted]
  constructor
  · rintro ⟨hlast, hunset, -⟩
    rw [hget, haccepted] at hlast hunset
    cases hl : lastOf type (calls.filter fun call => kind.accepts call.1) with
    | none =>
      have hsame := hunset hl
      rw [TaskKind.getBuffer_eq h] at hsame
      exact congrArg Managed.native (Except.ok.inj hsame)
    | some buffer => exact congrArg Managed.native (Except.ok.inj (hlast buffer hl))
  · intro heq
    rw [heq] at hget
    constructor
    · intro buffer hlast
      rw [haccepted] at hlast
      rw [hget, hlast]
      rfl
    · intro hnone
      rw [haccepted] at hnone
      rw [hget, hnone, TaskKind.getBuffer_eq h]
      rfl
    · rw [hget, htask]
      refine iff_of_false (fun ⟨err, herr⟩ => by cases herr) fun hall => hall (.createRef none) ?_
      rw [TaskKind.setBuffer_eq h]

/-- Where both slots are accepted and the destination is read, everything depends on whether the
slots agree. -/
theorem TaskKind.readsBack_source (hlib : lib.Stores) (hacc : ∀ type, kind.accepts type = true)
    (hreads : kind.reads .source = .destination) :
    kind.ReadsBack lib task calls .source ↔
      (lastOf .destination calls).elim (lib.getDstBuf task) (·.native) =
        (lastOf .source calls).elim (lib.getDstBuf task) (·.native) := by
  have hall : (calls.filter fun call => kind.accepts call.1) = calls :=
    List.filter_eq_self.mpr fun call _ => hacc call.1
  rw [TaskKind.readsBack_accepted hlib (hacc .source), hall, hreads]
  rfl

/-- **When `GetBuffer` gives back what was set**: always, but for the source of a write or a read
task, which gives what the destination slot holds. -/
theorem readsBack_iff (hlib : lib.Stores) :
    kind.ReadsBack lib task calls type ↔ kind.Unmixed lib task calls type := by
  cases hacc : kind.accepts type with
  | false =>
    refine iff_of_true (TaskKind.readsBack_refused hlib hacc) ?_
    cases kind with
    | send => exact .inl rfl
    | receive => exact .inr (.inl rfl)
    | write => cases hacc
    | read => cases hacc
  | true =>
    by_cases hreads : kind.reads type = type
    · rw [TaskKind.readsBack_accepted hlib hacc, hreads]
      refine iff_of_true rfl ?_
      cases kind with
      | send => exact .inl rfl
      | receive => exact .inr (.inl rfl)
      | write => exact .inr (.inr (.inl hreads.symm))
      | read => exact .inr (.inr (.inl hreads.symm))
    · cases kind with
      | send => exact absurd rfl hreads
      | receive => exact absurd rfl hreads
      | write =>
        cases type with
        | source =>
          rw [TaskKind.readsBack_source hlib (fun _ => rfl) rfl]
          simp [TaskKind.Unmixed]
        | destination => exact absurd rfl hreads
      | read =>
        cases type with
        | source =>
          rw [TaskKind.readsBack_source hlib (fun _ => rfl) rfl]
          simp [TaskKind.Unmixed]
        | destination => exact absurd rfl hreads

/-- The native library as it is: a task with two pointers. -/
def twoSlots : TaskFunctions (Option Handle × Option Handle) where
  setSrcBuf task native := (native, task.2)
  setDstBuf task native := (task.1, native)
  getSrcBuf task := task.1
  getDstBuf task := task.2

theorem twoSlots_stores : twoSlots.Stores where
  get_set type task native := by cases type <;> rfl
  get_set_ne type type' task native hne := by
    cases type with
    | source =>
      cases type' with
      | source => exact absurd rfl hne
      | destination => rfl
    | destination =>
      cases type' with
      | source => rfl
      | destination => exact absurd rfl hne

/-- A write task on which both buffers are set. -/
def bothSet : List SetCall := [(.source, .createRef (some 1)), (.destination, .createRef (some 2))]

/-- The destination of the task is read back. -/
theorem readsBack_iff_write :
    TaskKind.write.ReadsBack twoSlots (none, none) bothSet .destination :=
  (readsBack_iff twoSlots_stores).mpr (.inr (.inr (.inl rfl)))

/-- **The source of the task is not**: its destination is given instead. -/
theorem readsBack_write_source :
    RdmaWriteTask.getBuffer twoSlots
        (TaskKind.write.setBuffers twoSlots (none, none) bothSet).task .source =
      .ok (.createRef (some 2)) ∧
      ¬ TaskKind.write.ReadsBack twoSlots (none, none) bothSet .source := by
  refine ⟨rfl, fun h => ?_⟩
  have hback := h.last (.createRef (some 1)) rfl
  cases hback

end ReadsBack

end DocaCpp
