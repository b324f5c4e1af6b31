/-
# Destroying an executor

The destructor joins the worker and leaves the rest to the members.  They are destroyed in reverse
order of declaration: the buffer inventory, the progress engine, the reference to the context,
which owns nothing, and the RDMA engine, whose destructor destroys the RDMA instance before its
member, the owning context, flushes and stops a context that is gone by then.

`teardown_calls` says which native calls are made; `teardown_disobeys` compares them with the rules
of the native library.
-/
import DocaCpp.Executor.Execute
import DocaCpp.Executor.Start
import DocaCpp.Lib.Destruction

namespace DocaCpp

/-! ## 1. The objects -/

/-- The native calls that destroy something, each on the only object of its kind. -/
inductive NativeCall
  | ctxFlushTasks
  | ctxStop
  | rdmaDestroy
  | peDestroy
  | bufInventoryDestroy
  | devClose
  deriving DecidableEq

/-- The call is made on the RDMA context. -/
def NativeCall.OnContext (call : NativeCall) : Prop := call = .ctxFlushTasks ∨ call = .ctxStop

/-- A `Context`; `CreateReferenceFromNative` gives it no deleter. -/
def contextObject (deleter : Bool) : Object NativeCall :=
  .mk (if deleter then [.ctxFlushTasks, .ctxStop] else []) []

/-- `RdmaEngine`: the members are the native instance and the context that `AsContext` stores. -/
def rdmaEngineObject (rdmaContext : Bool) : Object NativeCall :=
  .mk [.rdmaDestroy] [.silent, .owned rdmaContext (contextObject true)]

/-- The members an executor works with: the engine has handed out the reference to the context, and
has stored the context it refers to. -/
def ExecutorMembers.components (x : ExecutorMembers) : List (Object NativeCall) :=
  [.owned x.rdmaEngine (rdmaEngineObject x.rdmaContext),
    .owned x.rdmaContext (contextObject false),
    .owned x.progressEngine (.mk [.peDestroy] []),
    .owned x.bufferInventory (.mk [.bufInventoryDestroy] [])]

/-- `RdmaExecutor`, with its members in the order of their declaration: what the thread, its queue
and the connections call is nothing, and the device is closed by its last owner. -/
def ExecutorMembers.object (x : ExecutorMembers) (lastOwner : Bool) : Object NativeCall :=
  -- workerRunning, workerThread, operationQueue, queueMutex, queueCondVar
  let threads : List (Object NativeCall) := [.silent, .silent, .silent, .silent, .silent]
  let device : List (Object NativeCall) := [.owned lastOwner (.mk [.devClose] [])]
  -- activeConnection, requestedConnection
  let connections : List (Object NativeCall) := [.silent, .silent]
  .mk [] (threads ++ device ++ connections ++ x.components)

/-- The destruction of an executor: the buffers that are still taken from its inventory, and the
native calls. -/
structure Teardown where
  taken : List DocaBuf
  calls : List NativeCall

/-- The destruction of an executor whose worker has executed the operations; there is none if some
operation does not come back, for then the worker is not joined.  From an inventory that is null
nothing can be taken. -/
def ExecutorMembers.teardown (x : ExecutorMembers) (jobs : List Job) (lastOwner : Bool) :
    Option Teardown :=
  let taken :=
    if x.bufferInventory then
      (inventoryAfter BufferInventory.initialBufferInventorySize jobs).map (·.taken)
    else some []
  taken.map fun taken => { taken := taken, calls := (x.object lastOwner).destroy }

/-! ## 2. The rules -/

/-- The RDMA context is stopped before its instance is destroyed. -/
def Teardown.StopsFirst (t : Teardown) : Prop := OnlyAfter .rdmaDestroy .ctxStop t.calls

/-- No call is made on the context once its instance is destroyed. -/
def Teardown.LeavesContext (t : Teardown) : Prop :=
  NeverAfter NativeCall.OnContext .rdmaDestroy t.calls

/-- The progress engine is destroyed after the context that is connected to it, which goes with the
RDMA instance. -/
def Teardown.OutlivesContext (t : Teardown) : Prop := OnlyAfter .peDestroy .rdmaDestroy t.calls

/-- The inventory is destroyed once every buffer taken from it was released. -/
def Teardown.Released (t : Teardown) : Prop :=
  AtEvery (fun _ call => call = .bufInventoryDestroy → t.taken = []) t.calls

/-- The rules of the native library. -/
structure Teardown.Obeys (t : Teardown) : Prop where
  stopsFirst : t.StopsFirst
  leavesContext : t.LeavesContext
  outlivesContext : t.OutlivesContext
  released : t.Released

/-! ## 3. What the destruction calls -/

section Teardown

variable {x y : ExecutorMembers} {o : StartOutcomes} {t : Teardown} {jobs : List Job}
  {lastOwner : Bool}

/-- **The native calls of the destruction**, in order. -/
theorem teardown_calls (h : x.start o = some (none, y))
    (ht : y.teardown jobs lastOwner = some t) :
    t.calls = (if y.bufferInventory then [.bufInventoryDestroy] else []) ++
      [.peDestroy, .rdmaDestroy, .ctxFlushTasks, .ctxStop] ++
      (if lastOwner then [.devClose] else []) := by
  obtain ⟨-, hengine, -, rfl⟩ := start_null h
  obtain ⟨taken, -, rfl⟩ := Option.map_eq_some_iff.mp ht
  have hrdma : (started o x).rdmaEngine = true := hengine
  have hcontext : (started o x).rdmaContext = true := rfl
  have hprogress : (started o x).progressEngine = true := rfl
  have hcomponents : Object.destroyAll (started o x).components =
      (if (started o x).bufferInventory then [.bufInventoryDestroy] else []) ++
        [.peDestroy, .rdmaDestroy, .ctxFlushTasks, .ctxStop] := by
    simp [ExecutorMembers.components, Object.destroy_owned, contextObject, rdmaEngineObject,
      hrdma, hcontext, hprogress]
  dsimp only [ExecutorMembers.object]
  rw [Object.destroy_mk, Object.destroyAll_append, hcomponents]
  simp [Object.destroy_owned]

theorem not_stopsFirst (h : x.start o = some (none, y))
    (ht : y.teardown jobs lastOwner = some t) : ¬ t.StopsFirst := by
  have hfront : (if y.bufferInventory then [NativeCall.bufInventoryDestroy] else []) ++
      [.peDestroy, .rdmaDestroy] <+: t.calls := by
    rw [teardown_calls h ht]
    exact ⟨[.ctxFlushTasks, .ctxStop] ++ (if lastOwner then [.devClose] else []), by simp⟩
  refine not_onlyAfter hfront (by simp) ?_
  cases y.bufferInventory <;> simp

theorem not_leavesContext (h : x.start o = some (none, y))
    (ht : y.teardown jobs lastOwner = some t) : ¬ t.LeavesContext := by
  have hfront : ((if y.bufferInventory then [NativeCall.bufInventoryDestroy] else []) ++
      [.peDestroy, .rdmaDestroy]) ++ [.ctxFlushTasks] <+: t.calls := by
    rw [teardown_calls h ht]
    exact ⟨[.ctxStop] ++ (if lastOwner then [.devClose] else []), by simp⟩
  exact not_neverAfter hfront (.inl rfl) (by simp)

theorem not_outlivesContext (h : x.start o = some (none, y))
    (ht : y.teardown jobs lastOwner = some t) : ¬ t.OutlivesContext := by
  have hfront : (if y.bufferInventory then [NativeCall.bufInventoryDestroy] else []) ++
      [.peDestroy] <+: t.calls := by
    rw [teardown_calls h ht]
    exact ⟨[.rdmaDestroy, .ctxFlushTasks, .ctxStop] ++ (if lastOwner then [.devClose] else []),
      by simp⟩
  refine not_onlyAfter hfront (by simp) ?_
  cases y.bufferInventory <;> simp

/-- The inventory is destroyed exactly if there is one. -/
theorem released_iff (h : x.start o = some (none, y))
    (ht : y.teardown jobs lastOwner = some t) :
    t.Released ↔ (y.bufferInventory = true → t.taken = []) := by
  rw [Teardown.Released, atEvery_call_iff, teardown_calls h ht]
  cases y.bufferInventory <;> cases lastOwner <;> simp

/-- **No destruction of an executor that was started obeys the rules.**  The first three are broken
by every one, and the fourth where a buffer is still taken from the inventory. -/
theorem teardown_disobeys (h : x.start o = some (none, y))
    (ht : y.teardown jobs lastOwner = some t) :
    ¬ t.Obeys ∧ ¬ t.StopsFirst ∧ ¬ t.LeavesContext ∧ ¬ t.OutlivesContext ∧
      (t.Released ↔ (y.bufferInventory = true → t.taken = [])) :=
  ⟨fun hobeys => not_stopsFirst h ht hobeys.stopsFirst, not_stopsFirst h ht,
    not_leavesContext h ht, not_outlivesContext h ht, released_iff h ht⟩

/-- An executor that is started. -/
theorem start_succeeding :
    createdExecutor.start succeeding = some (none, started succeeding createdExecutor) := by
  decide

/-- It is destroyed without having executed anything. -/
theorem teardown_disobeys_sample :
    ∃ t, (started succeeding createdExecutor).teardown [] true = some t ∧
      ¬ t.Obeys ∧ ¬ t.StopsFirst ∧ ¬ t.LeavesContext ∧ ¬ t.OutlivesContext ∧
      (t.Released ↔ ((started succeeding createdExecutor).bufferInventory = true →
        t.taken = [])) := by
  obtain ⟨t, ht⟩ : ∃ t, (started succeeding createdExecutor).teardown [] true = some t := ⟨_, rfl⟩
  exact ⟨t, ht, teardown_disobeys start_succeeding ht⟩

/-- One whose only operation has failed: two buffers are still taken, too. -/
theorem teardown_disobeyed :
    ∃ t, (started succeeding createdExecutor).teardown [failingRead] true = some t ∧
      ¬ t.Obeys ∧ ¬ t.Released := by
  obtain ⟨t, ht, htaken⟩ : ∃ t,
      (started succeeding createdExecutor).teardown [failingRead] true = some t ∧
        t.taken = [0, 1] := ⟨_, rfl, rfl⟩
  refine ⟨t, ht, fun hobeys => ?_, fun hreleased => ?_⟩
  · exact not_outlivesContext start_succeeding ht hobeys.outlivesContext
  · have hempty := (released_iff start_succeeding ht).mp hreleased rfl
    rw [htaken] at hempty
    cases hempty

end Teardown

end DocaCpp
