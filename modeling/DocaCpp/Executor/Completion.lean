/-
# An operation and the completion of its task

`executeRead` and `executeWrite` give the native task a pointer to a variable of theirs, submit it
and poll that variable until a callback has written it.  The callback runs inside a call of
`Progress`, by the worker or by another thread.  `Execute` takes what the worker reads as an input;
here the worker (`work`) and the callback (`callback`) take turns in any order, and what the worker
reads is recorded.  `task_completes` says that the function comes to its submission by itself, that
it does not return while the task is in flight and does soon after the callback, and what its result
has to do with the callback; `task_executes` that it computes what `executeOperation` does for the
states that were read.
-/
import DocaCpp.Executor.Execute
import DocaCpp.Lib.Ownership
import DocaCpp.Lib.Possible

namespace DocaCpp

open Executing

/-! ## 1. The parts of the function -/

/-- The parts of a request. -/
def OperationRequest.parts (request : OperationRequest) (o : Outcomes) : OperationParts :=
  match request.type with
  | .read => readParts request o
  | .write => writeParts request o

namespace Executing

/-- The body up to the allocation of the task, with the source and the destination buffer. -/
def prepare (request : OperationRequest) (o : Outcomes) (parts : OperationParts) :
    Executing (DocaBuf × DocaBuf) := do
  if request.localBuffer.isNone || request.remoteBuffer.isNone then
    throw (.new "Invalid request; provide both local and remote RDMA buffers")
  if !o.connected then
    throw (.new parts.texts.noConnection)
  let srcBuf ← wrapping parts.getSource (.wrap · "Failed to get doca buffer")
  let dstBuf ← wrapping parts.getDestination (.wrap · "Failed to get doca buffer")
  wrapping (check o.allocateTask) (.wrap · parts.texts.allocate)
  return (srcBuf, dstBuf)

/-- The body from the two `DecRefcount` on. -/
def release (request : OperationRequest) (o : Outcomes) (bufs : DocaBuf × DocaBuf) :
    Executing (Option ℕ) := do
  wrapping (decRefcount bufs.1 o.sourceDec)
    (.wrap · "Failed to decrement buffer reference count in buffer inventory")
  wrapping (decRefcount bufs.2 o.destinationDec)
    (.wrap · "Failed to decrement buffer reference count in buffer inventory")
  return request.localBuffer

theorem executeTask_parts (request : OperationRequest) (o : Outcomes) (parts : OperationParts) :
    executeTask request o parts
      = (do
        let bufs ← prepare request o parts
        wrapping (check o.submit) (.wrap · parts.texts.submit)
        wrapping (waitForTaskState o) fun err =>
          .wrap err (if err = .timeoutExpired then parts.texts.timeout else parts.texts.wait)
        release request o bufs) := by
  simp only [executeTask, prepare, release]
  split
  · rfl
  · split
    · rfl
    · simp only [bind_assoc, pure_bind]

section Returns

variable {α β : Type} {x : Executing α} {f : α → Executing β} {inv : BufferInventory}

/-- The function returns, with a value or an error. -/
def Returns (x : Executing α) (inv : BufferInventory) : Prop :=
  ∃ result inv', x.on inv = some (result, inv')

theorem returns_bind (h : Returns x inv) (hf : ∀ a inv', Returns (f a) inv') :
    Returns (x >>= f) inv := by
  obtain ⟨result, inv', hx⟩ := h
  cases result with
  | ok a =>
    obtain ⟨result', inv'', hrest⟩ := hf a inv'
    exact ⟨result', inv'', Option.bind_eq_some_iff.mpr ⟨_, hx, hrest⟩⟩
  | error err => exact ⟨.error err, inv', Option.bind_eq_some_iff.mpr ⟨_, hx, rfl⟩⟩

theorem returns_wrapping {wrap : Err → Err} (h : Returns x inv) :
    Returns (x.wrapping wrap) inv := by
  obtain ⟨result, inv', hx⟩ := h
  cases result with
  | ok a => exact ⟨.ok a, inv', Option.bind_eq_some_iff.mpr ⟨_, hx, rfl⟩⟩
  | error err => exact ⟨.error (wrap err), inv', Option.bind_eq_some_iff.mpr ⟨_, hx, rfl⟩⟩

theorem returns_throwIf {c : Bool} {err : Err} {k : PUnit → Executing β}
    (h : Returns (k ⟨⟩) inv) : Returns (if c then throw err >>= k else k ⟨⟩) inv := by
  cases c with
  | true => exact ⟨.error err, inv, rfl⟩
  | false => exact h

theorem returns_check (err : error) : Returns (check err) inv := by
  cases err <;> exact ⟨_, _, rfl⟩

theorem returns_bufGet (o : BufferOutcome) : Returns (bufGet o) inv := by
  refine returns_bind (returns_check o.native) fun _ inv₁ => ?_
  refine returns_bind ⟨.ok inv₁, inv₁, rfl⟩ fun inv inv₂ => ?_
  by_cases h : inv.Exhausted
  · rw [if_pos h]
    exact ⟨.error o.exhausted, inv₂, rfl⟩
  · rw [if_neg h]
    exact ⟨.ok inv.issued, inv.handOut, rfl⟩

theorem returns_getBuffer {b : Option ℕ} {nullText : String} {o : BufferOutcome}
    {allocBuffer : BufferOutcome → Executing DocaBuf}
    (h : ∀ inv, Returns (allocBuffer o) inv) :
    Returns (getBuffer b nullText o allocBuffer) inv := by
  unfold getBuffer
  refine returns_throwIf ?_
  refine returns_bind (returns_wrapping (returns_check _)) fun _ _ => ?_
  exact returns_bind (returns_wrapping (returns_check _)) fun _ inv => returns_wrapping (h inv)

/-- Nothing in front of the submission waits for anything. -/
theorem prepare_returns (request : OperationRequest) (o : Outcomes) (inv : BufferInventory) :
    Returns (prepare request o (request.parts o)) inv := by
  have hget : ∀ {b nullText o} inv, Returns (getBuffer b nullText o allocBufferByData) inv ∧
      Returns (getBuffer b nullText o allocBufferByAddress) inv := fun inv =>
    ⟨returns_getBuffer fun _ => returns_wrapping (returns_bufGet _),
      returns_getBuffer fun _ => returns_wrapping (returns_bufGet _)⟩
  have hgets : (∀ inv, Returns (request.parts o).getSource inv) ∧
      ∀ inv, Returns (request.parts o).getDestination inv := by
    unfold OperationRequest.parts
    cases request.type <;> exact ⟨fun inv => (hget inv).1, fun inv => (hget inv).2⟩
  unfold prepare
  refine returns_throwIf (returns_throwIf ?_)
  refine returns_bind (returns_wrapping (hgets.1 inv)) fun _ inv => ?_
  refine returns_bind (returns_wrapping (hgets.2 inv)) fun _ inv => ?_
  exact returns_bind (returns_wrapping (returns_check _)) fun _ _ => ⟨_, _, rfl⟩

end Returns

end Executing

/-- `executeOperation`, by the parts of the request. -/
theorem executeOperation_parts (request : OperationRequest) (o : Outcomes)
    (inv : BufferInventory) :
    executeOperation request o inv
      = ((executeTask request o (request.parts o)).on inv).map fun r => (responceOf r.1, r.2) := by
  obtain ⟨type, localBuffer, remoteBuffer⟩ := request
  cases type <;> rfl

/-! ## 2. The worker and the callback -/

/-- A native task, by its pointer. -/
abbrev NativeTask := ℕ

/-- The native task between `doca_task_submit` and its callback. -/
inductive Flight
  | grounded
  | inFlight
  /-- its success callback has run, or its error callback -/
  | landed (success : Bool)
  deriving DecidableEq

/-- A native call on the task: its submission, by the error of `Submit`. -/
abbrev TaskUse := error

/-- Where the worker is in the function. -/
inductive TaskPoint
  | start
  /-- the task is allocated -/
  | submit (bufs : DocaBuf × DocaBuf)
  /-- the test in front of the loop of `waitForTaskState` -/
  | wait (bufs : DocaBuf × DocaBuf)
  /-- the condition of the loop -/
  | test (bufs : DocaBuf × DocaBuf)
  /-- asleep, or inside `Progress` -/
  | progress (bufs : DocaBuf × DocaBuf)
  /-- the test behind `Progress` -/
  | check (bufs : DocaBuf × DocaBuf)
  /-- `Free` -/
  | free (bufs : DocaBuf × DocaBuf)
  | release (bufs : DocaBuf × DocaBuf)
  | returned (responce : RdmaOperationResponce)
  deriving DecidableEq

/-- The function on its way. -/
structure TaskRun where
  point : TaskPoint := .start
  inventory : BufferInventory
  /-- the local variable the callback writes -/
  taskState : TaskState := .idle
  /-- what the worker has read of it -/
  reads : List TaskState := []
  /-- the pointer of the `RdmaReadTask` or `RdmaWriteTask` -/
  task : Option NativeTask := none
  /-- the native tasks that were allocated, and the calls on them -/
  allocated : List NativeTask := []
  acts : List (Act NativeTask TaskUse) := []
  flight : Flight := .grounded
  /-- a callback has written the variable of a function that had returned -/
  deadWrite : Bool := false

/-- What happens next. -/
inductive TaskLabel
  | work
  | callback (success : Bool)
  deriving DecidableEq

namespace TaskRun

/-- The function returns, and the destructor of the task object runs. -/
def leave (r : TaskRun) (responce : RdmaOperationResponce) : TaskRun :=
  { r with
    point := .returned responce
    task := none
    acts := r.acts ++ r.task.toList.map .destroyed }

/-- The function has returned. -/
def Returned (r : TaskRun) : Prop := ∃ responce, r.point = .returned responce

/-- The worker's next step, with the native task that is allocated. -/
def work (request : OperationRequest) (o : Outcomes) (native : NativeTask) (r : TaskRun) :
    Option TaskRun :=
  match r.point with
  | .start =>
    ((prepare request o (request.parts o)).on r.inventory).map fun result =>
      match result.1 with
      | .error err => { r with inventory := result.2 }.leave (none, some err)
      | .ok bufs =>
        -- the state is set before `Submit`, so that no callback is overwritten
        { r with
          point := .submit bufs
          inventory := result.2
          taskState := .submitted
          task := some native
          allocated := [native] }
  | .submit bufs =>
    let submitted := { r with acts := r.acts ++ [Act.used native o.submit] }
    match o.submit with
    | some err => some (submitted.leave (none, some (.wrap err (request.parts o).texts.submit)))
    | none => some { submitted with point := .wait bufs, flight := .inFlight }
  | .wait bufs =>
    if !o.progressEngine then
      some (r.leave
        (none, some (.wrap (.new "Progress engine is null") (request.parts o).texts.wait)))
    else some { r with point := .test bufs }
  | .test bufs =>
    some { r with
      reads := r.reads ++ [r.taskState]
      point := if r.taskState = .completed then .free bufs else .progress bufs }
  | .progress bufs => some { r with point := .check bufs }
  | .check bufs =>
    let checked := { r with reads := r.reads ++ [r.taskState] }
    if r.taskState = .error then
      some (checked.leave
        (none, some (.wrap (.new "Task completed with error") (request.parts o).texts.wait)))
    else some { checked with point := .test bufs }
  | .free bufs =>
    some { r with
      point := .release bufs
      task := none
      acts := r.acts ++ r.task.toList.map .destroyed }
  | .release bufs =>
    ((release request o bufs).on r.inventory).map fun result =>
      { r with inventory := result.2 }.leave (responceOf result.1)
  | .returned _ => none

/-- The callback of a task in flight. -/
def callback (r : TaskRun) (success : Bool) : Option TaskRun :=
  if r.flight = .inFlight then
    match r.point with
    | .returned _ => some { r with flight := .landed success, deadWrite := true }
    | _ => some { r with
        flight := .landed success
        taskState := if success then .completed else .error }
  else none

/-- One step. -/
def step (request : OperationRequest) (o : Outcomes) (native : NativeTask) (r : TaskRun) :
    TaskLabel → Option TaskRun
  | .work => r.work request o native
  | .callback success => r.callback success

end TaskRun

/-- The function and the callback, as a machine. -/
def taskRun (request : OperationRequest) (o : Outcomes) (native : NativeTask) :
    Machine TaskRun TaskLabel :=
  ⟨TaskRun.step request o native⟩

namespace TaskRun

/-- What a step of the worker does, by where it stands and by what it finds there. -/
inductive Works (request : OperationRequest) (o : Outcomes) (native : NativeTask) (r : TaskRun) :
    TaskRun → Prop
  | unprepared {err : Err} {inv : BufferInventory} (hpoint : r.point = .start)
      (hprepare : (prepare request o (request.parts o)).on r.inventory = some (.error err, inv)) :
      Works request o native r ({ r with inventory := inv }.leave (none, some err))
  | prepared {bufs : DocaBuf × DocaBuf} {inv : BufferInventory} (hpoint : r.point = .start)
      (hprepare : (prepare request o (request.parts o)).on r.inventory = some (.ok bufs, inv)) :
      Works request o native r
        { r with
          point := .submit bufs
          inventory := inv
          taskState := .submitted
          task := some native
          allocated := [native] }
  | unsubmitted {bufs : DocaBuf × DocaBuf} {err : Err} (hpoint : r.point = .submit bufs)
      (hsubmit : o.submit = some err) :
      Works request o native r
        ({ r with acts := r.acts ++ [Act.used native (some err)] }.leave
          (none, some (.wrap err (request.parts o).texts.submit)))
  | submitted {bufs : DocaBuf × DocaBuf} (hpoint : r.point = .submit bufs)
      (hsubmit : o.submit = none) :
      Works request o native r
        { r with
          acts := r.acts ++ [Act.used native none]
          point := .wait bufs
          flight := .inFlight }
  | noEngine {bufs : DocaBuf × DocaBuf} (hpoint : r.point = .wait bufs)
      (hengine : o.progressEngine = false) :
      Works request o native r
        (r.leave (none, some (.wrap (.new "Progress engine is null") (request.parts o).texts.wait)))
  | polls {bufs : DocaBuf × DocaBuf} (hpoint : r.point = .wait bufs)
      (hengine : o.progressEngine = true) :
      Works request o native r { r with point := .test bufs }
  | completed {bufs : DocaBuf × DocaBuf} (hpoint : r.point = .test bufs)
      (hstate : r.taskState = .completed) :
      Works request o native r { r with reads := r.reads ++ [r.taskState], point := .free bufs }
  | incomplete {bufs : DocaBuf × DocaBuf} (hpoint : r.point = .test bufs)
      (hstate : r.taskState ≠ .completed) :
      Works request o native r { r with reads := r.reads ++ [r.taskState], point := .progress bufs }
  | progressed {bufs : DocaBuf × DocaBuf} (hpoint : r.point = .progress bufs) :
      Works request o native r { r with point := .check bufs }
  | failed {bufs : DocaBuf × DocaBuf} (hpoint : r.point = .check bufs)
      (hstate : r.taskState = .error) :
      Works request o native r
        ({ r with reads := r.reads ++ [r.taskState] }.leave
          (none, some (.wrap (.new "Task completed with error") (request.parts o).texts.wait)))
  | again {bufs : DocaBuf × DocaBuf} (hpoint : r.point = .check bufs)
      (hstate : r.taskState ≠ .error) :
      Works request o native r { r with reads := r.reads ++ [r.taskState], point := .test bufs }
  | freed {bufs : DocaBuf × DocaBuf} (hpoint : r.point = .free bufs) :
      Works request o native r
        { r with
          point := .release bufs
          task := none
          acts := r.acts ++ r.task.toList.map .destroyed }
  | released {bufs : DocaBuf × DocaBuf} {result : Except Err (Option ℕ)} {inv : BufferInventory}
      (hpoint : r.point = .release bufs)
      (hrelease : (release request o bufs).on r.inventory = some (result, inv)) :
      Works request o native r ({ r with inventory := inv }.leave (responceOf result))

theorem work_works {request : OperationRequest} {o : Outcomes} {native : NativeTask}
    {r r' : TaskRun} (hs : r.work request o native = some r') : Works request o native r r' := by
  unfold work at hs
  cases hpoint : r.point with
  | start =>
    rw [hpoint] at hs
    obtain ⟨⟨result, inv⟩, hprepare, rfl⟩ := Option.map_eq_some_iff.mp hs
    cases result with
    | error err => exact .unprepared hpoint hprepare
    | ok bufs => exact .prepared hpoint hprepare
  | submit bufs =>
    rw [hpoint] at hs
    cases hsubmit : o.submit with
    | some err =>
      simp only [hsubmit, Option.some.injEq] at hs
      subst hs
      exact .unsubmitted hpoint hsubmit
    | none =>
      simp only [hsubmit, Option.some.injEq] at hs
      subst hs
      exact .submitted hpoint hsubmit
  | wait bufs =>
    rw [hpoint] at hs
    cases hengine : o.progressEngine with
    | false =>
      simp only [hengine, Bool.not_false, if_true, Option.some.injEq] at hs
      subst hs
      exact .noEngine hpoint hengine
    | true =>
      simp only [hengine, Bool.not_true, Bool.false_eq_true, if_false, Option.some.injEq] at hs
      subst hs
      exact .polls hpoint hengine
  | test bufs =>
    rw [hpoint] at hs
    by_cases hstate : r.taskState = .completed
    · simp only [if_pos hstate, Option.some.injEq] at hs
      subst hs
      exact .completed hpoint hstate
    · simp only [if_neg hstate, Option.some.injEq] at hs
      subst hs
      exact .incomplete hpoint hstate
  | progress bufs =>
    rw [hpoint] at hs
    cases hs
    exact .progressed hpoint
  | check bufs =>
    rw [hpoint] at hs
    by_cases hstate : r.taskState = .error
    · simp only [if_pos hstate, Option.some.injEq] at hs
      subst hs
      exact .failed hpoint hstate
    · simp only [if_neg hstate, Option.some.injEq] at hs
      subst hs
      exact .again hpoint hstate
  | free bufs =>
    rw [hpoint] at hs
    cases hs
    exact .freed hpoint
  | release bufs =>
    rw [hpoint] at hs
    obtain ⟨⟨result, inv⟩, hrelease, rfl⟩ := Option.map_eq_some_iff.mp hs
    exact .released hpoint hrelease
  | returned responce =>
    rw [hpoint] at hs
    cases hs

end TaskRun

/-! ## 3. What the result has to do with the callback -/

/-- **The result of an operation is the completion of its task.** -/
structure TaskRun.Complete (request : OperationRequest) (o : Outcomes) (native : NativeTask)
    (r : TaskRun) : Prop where
  /-- the function does not return while its task is in flight -/
  waits : r.Returned → r.flight ≠ .inFlight
  /-- no callback writes a variable that is gone -/
  alive : r.deadWrite = false
  /-- the native task is not freed twice, and is freed when the function returns -/
  once : ∀ h, r.acts.countP (Act.destroys h) ≤ 1
  freed : r.Returned → ∀ h ∈ r.allocated, r.acts.countP (Act.destroys h) = 1
  /-- it is not freed while it is in flight -/
  landed : ∀ h, .destroyed h ∈ r.acts → r.flight ≠ .inFlight
  /-- a result without an error is the local buffer, behind the success callback -/
  success : ∀ localBuffer, r.point = .returned (localBuffer, none) →
    localBuffer = request.localBuffer ∧ r.flight = .landed true
  /-- behind the error callback the result is an error -/
  failure : r.flight = .landed false → ∀ responce, r.point = .returned responce →
    responce.2 ≠ none
  /-- in front of the submission at most two steps of the worker are left: then the task is in
  flight, or the function has returned an error and has freed what it allocated -/
  submits : r.flight = .grounded → ∃ n ≤ 2, ∃ r',
    (taskRun request o native).exec r (List.replicate n .work) = some r' ∧
      (r'.flight = .inFlight ∨ ∃ responce, r'.point = .returned responce ∧ responce.2 ≠ none ∧
        ∀ h ∈ r'.allocated, r'.acts.countP (Act.destroys h) = 1)
  /-- once a callback has run, at most five steps of the worker are left: then the function has
  returned, has freed its task once, and has returned an error behind the error callback and the
  local buffer behind the other, unless a reference cannot be given back -/
  returns : ∀ success, r.flight = .landed success → ∃ n ≤ 5, ∃ r' responce,
    (taskRun request o native).exec r (List.replicate n .work) = some r' ∧
      r'.point = .returned responce ∧ r'.acts.countP (Act.destroys native) = 1 ∧
      (success = false → responce.2 ≠ none) ∧
      (success = true → o.sourceDec = none → o.destinationDec = none →
        responce = (request.localBuffer, none))

/-- The task has been submitted, and the variable says how far it is. -/
def TaskRun.Flying (r : TaskRun) : Prop :=
  r.flight = .inFlight ∧ r.taskState = .submitted ∨
    r.flight = .landed true ∧ r.taskState = .completed ∨
    r.flight = .landed false ∧ r.taskState = .error

/-- What the function returns, by how far its task has got. -/
def TaskRun.Results (request : OperationRequest) (o : Outcomes) (native : NativeTask)
    (r : TaskRun) (responce : RdmaOperationResponce) : Prop :=
  match r.flight with
  | .grounded => responce.2 ≠ none
  | .inFlight => False
  | .landed false => r.allocated = [native] ∧ responce.2 ≠ none
  | .landed true =>
    r.allocated = [native] ∧ (responce.2 = none → responce.1 = request.localBuffer) ∧
      (o.sourceDec = none → o.destinationDec = none → responce = (request.localBuffer, none))

/-- What is true of the task where the worker stands. -/
def TaskRun.Stands (request : OperationRequest) (o : Outcomes) (native : NativeTask)
    (r : TaskRun) : Prop :=
  match r.point with
  | .start => r.flight = .grounded ∧ r.task = none ∧ r.allocated = []
  | .submit _ =>
    r.flight = .grounded ∧ r.taskState = .submitted ∧ r.task = some native ∧
      r.allocated = [native]
  | .wait _ | .test _ | .progress _ | .check _ =>
    r.Flying ∧ r.task = some native ∧ r.allocated = [native]
  | .free _ => r.flight = .landed true ∧ r.task = some native ∧ r.allocated = [native]
  | .release _ => r.flight = .landed true ∧ r.task = none ∧ r.allocated = [native]
  | .returned responce => r.task = none ∧ r.Results request o native responce

/-- **What every step keeps.** -/
structure TaskRun.Inv (request : OperationRequest) (o : Outcomes) (native : NativeTask)
    (r : TaskRun) : Prop where
  accounts : Accounts r.allocated r.task.toList r.acts
  stands : r.Stands request o native
  alive : r.deadWrite = false

/-- `release` returns the local buffer, or an error. -/
theorem Executing.release_value {request : OperationRequest} {o : Outcomes}
    {bufs : DocaBuf × DocaBuf} {inv inv' : BufferInventory} {value : Option ℕ}
    (h : (release request o bufs).on inv = some (.ok value, inv')) :
    value = request.localBuffer := by
  have hends : Ends (release request o bufs) inv (fun value _ => value = request.localBuffer)
      fun _ => True := by
    unfold release
    refine ends_bind (ends_wrapping (ends_decRefcount (fun _ => ?_) fun _ => trivial))
    exact ends_bind (ends_wrapping (ends_decRefcount (fun _ => ends_pure rfl) fun _ => trivial))
  exact hends (.ok value) inv' h

/-- It always returns, and without an error if both references can be given back. -/
theorem Executing.release_returns (request : OperationRequest) (o : Outcomes)
    (bufs : DocaBuf × DocaBuf) (inv : BufferInventory) :
    ∃ result inv', (release request o bufs).on inv = some (result, inv') ∧
      (o.sourceDec = none → o.destinationDec = none → result = .ok request.localBuffer) := by
  unfold release
  cases hs : o.sourceDec with
  | some err => exact ⟨_, _, rfl, fun hnone => nomatch hnone⟩
  | none =>
    cases hd : o.destinationDec with
    | some err => exact ⟨_, _, rfl, fun _ hnone => nomatch hnone⟩
    | none => exact ⟨_, _, rfl, fun _ _ => rfl⟩

namespace TaskRun

section Invariant

variable {request : OperationRequest} {o : Outcomes} {native : NativeTask} {r r' : TaskRun}
  {bufs : DocaBuf × DocaBuf} {inv : BufferInventory}

theorem inv_start (inv : BufferInventory) :
    Inv request o native { inventory := inv : TaskRun } where
  accounts := .start List.nodup_nil
  stands := ⟨rfl, rfl, rfl⟩
  alive := rfl

/-- The destructor of the task object settles the accounts. -/
theorem accounts_leave (h : Accounts r.allocated r.task.toList r.acts) :
    Accounts r.allocated [] (r.acts ++ r.task.toList.map .destroyed) := by
  have howned : Accounts r.allocated (r.task.toList ++ []) r.acts := by rwa [List.append_nil]
  exact howned.destroyedAll

/-- A callback keeps the invariant: it finds the function polling. -/
theorem Inv.callback {success : Bool} (h : Inv request o native r)
    (hs : r.callback success = some r') : Inv request o native r' := by
  obtain ⟨haccounts, hstands, halive⟩ := h
  unfold TaskRun.callback at hs
  split at hs
  next hflight =>
    obtain ⟨point, inventory, taskState, reads, task, allocated, acts, flight, deadWrite⟩ := r
    obtain rfl : flight = .inFlight := hflight
    cases point with
    | start | submit bufs | free bufs | release bufs => cases hstands.1
    | returned responce => exact hstands.2.elim
    | wait bufs | test bufs | progress bufs | check bufs =>
      cases hs
      refine ⟨haccounts, ⟨?_, hstands.2⟩, halive⟩
      cases success with
      | true => exact .inr (.inl ⟨rfl, rfl⟩)
      | false => exact .inr (.inr ⟨rfl, rfl⟩)
  next => cases hs

/-- Where the variable says that the task is over, its callback has run. -/
theorem Flying.completed (h : r.Flying) (hstate : r.taskState = .completed) :
    r.flight = .landed true := by
  rcases h with ⟨-, hs⟩ | ⟨hf, -⟩ | ⟨-, hs⟩
  · rw [hstate] at hs
    cases hs
  · exact hf
  · rw [hstate] at hs
    cases hs

theorem Flying.error (h : r.Flying) (hstate : r.taskState = .error) :
    r.flight = .landed false := by
  rcases h with ⟨-, hs⟩ | ⟨-, hs⟩ | ⟨hf, -⟩
  · rw [hstate] at hs
    cases hs
  · rw [hstate] at hs
    cases hs
  · exact hf

/-- Where its callback has run, the variable says which. -/
theorem Flying.settled {success : Bool} (h : r.Flying) (hlanded : r.flight = .landed success) :
    r.taskState = if success then .completed else .error := by
  rcases h with ⟨hf, -⟩ | ⟨hf, hs⟩ | ⟨hf, hs⟩
  · cases hf.symm.trans hlanded
  · cases hf.symm.trans hlanded
    exact hs
  · cases hf.symm.trans hlanded
    exact hs

/-- **The function returns an error** where no task has succeeded or is in flight. -/
theorem Inv.leave_error {err : Err} (haccounts : Accounts r.allocated r.task.toList r.acts)
    (hflight : r.flight = .grounded ∨ r.flight = .landed false ∧ r.allocated = [native])
    (halive : r.deadWrite = false) : Inv request o native (r.leave (none, some err)) where
  accounts := accounts_leave haccounts
  stands := by
    refine ⟨rfl, ?_⟩
    unfold Results leave
    rcases hflight with hf | ⟨hf, hallocated⟩
    · simp [hf]
    · simp [hf, hallocated]
  alive := halive

/-- A step of the worker keeps the invariant. -/
theorem Inv.work (hengine : o.progressEngine = true) (h : Inv request o native r)
    (hs : r.work request o native = some r') : Inv request o native r' := by
  obtain ⟨haccounts, hstands, halive⟩ := h
  unfold Stands at hstands
  cases work_works hs with
  | unprepared hpoint hprepare =>
    rw [hpoint] at hstands
    exact Inv.leave_error haccounts (.inl hstands.1) halive
  | @prepared bufs inv hpoint hprepare =>
    rw [hpoint] at hstands
    obtain ⟨hflight, htask, hallocated⟩ := hstands
    rw [htask, hallocated] at haccounts
    have hnone : r.acts = [] :=
      List.eq_nil_iff_forall_not_mem.mpr fun act hact => nomatch haccounts.known act hact
    refine ⟨?_, ⟨hflight, rfl, rfl, rfl⟩, halive⟩
    change Accounts [native] [native] r.acts
    rw [hnone]
    exact .start (List.nodup_singleton native)
  | unsubmitted hpoint hsubmit =>
    rw [hpoint] at hstands
    obtain ⟨hflight, hstate, htask, hallocated⟩ := hstands
    exact Inv.leave_error (haccounts.used (by simp [htask]) _) (.inl hflight) halive
  | submitted hpoint hsubmit =>
    rw [hpoint] at hstands
    obtain ⟨hflight, hstate, htask, hallocated⟩ := hstands
    exact ⟨haccounts.used (by simp [htask]) _, ⟨.inl ⟨rfl, hstate⟩, htask, hallocated⟩, halive⟩
  | noEngine hpoint hnone =>
    rw [hengine] at hnone
    cases hnone
  | polls hpoint _ =>
    rw [hpoint] at hstands
    exact ⟨haccounts, hstands, halive⟩
  | completed hpoint hstate =>
    rw [hpoint] at hstands
    obtain ⟨hflying, htask, hallocated⟩ := hstands
    exact ⟨haccounts, ⟨hflying.completed hstate, htask, hallocated⟩, halive⟩
  | incomplete hpoint hstate =>
    rw [hpoint] at hstands
    exact ⟨haccounts, hstands, halive⟩
  | progressed hpoint =>
    rw [hpoint] at hstands
    exact ⟨haccounts, hstands, halive⟩
  | failed hpoint hstate =>
    rw [hpoint] at hstands
    exact Inv.leave_error haccounts (.inr ⟨hstands.1.error hstate, hstands.2.2⟩) halive
  | again hpoint hstate =>
    rw [hpoint] at hstands
    exact ⟨haccounts, hstands, halive⟩
  | freed hpoint =>
    rw [hpoint] at hstands
    exact ⟨accounts_leave haccounts, ⟨hstands.1, rfl, hstands.2.2⟩, halive⟩
  | @released bufs result inv hpoint hrelease =>
    rw [hpoint] at hstands
    obtain ⟨hflight, -, hallocated⟩ := hstands
    refine ⟨accounts_leave (r := { r with inventory := inv }) haccounts, ⟨rfl, ?_⟩, halive⟩
    unfold Results leave
    rw [hflight]
    refine ⟨hallocated, fun hnone => ?_, fun hs hd => ?_⟩
    · cases result with
      | error err => cases hnone
      | ok value => exact release_value hrelease
    · obtain ⟨result', inv', hrelease', hok⟩ := release_returns request o bufs r.inventory
      cases hrelease.symm.trans hrelease'
      rw [hok hs hd]
      rfl

/-- A function that has returned has freed what it allocated. -/
theorem Inv.freed (h : Inv request o native r) (hreturned : r.Returned) :
    ∀ t ∈ r.allocated, r.acts.countP (Act.destroys t) = 1 := by
  obtain ⟨haccounts, hstands, -⟩ := h
  obtain ⟨responce, hpoint⟩ := hreturned
  unfold Stands at hstands
  rw [hpoint] at hstands
  intro t ht
  rw [hstands.1] at haccounts
  exact haccounts.settled ht

/-- What a function that has returned behind a callback has returned. -/
theorem Inv.results {responce : RdmaOperationResponce}
    (h : Inv request o native r) (hpoint : r.point = .returned responce) :
    r.Results request o native responce := by
  have hstands := h.stands
  unfold Stands at hstands
  rw [hpoint] at hstands
  exact hstands.2

/-- How many steps the worker takes once a callback has run. -/
def stepsLeft (success : Bool) : TaskPoint → ℕ
  | .wait _ => 4
  | .test _ => 3
  | .progress _ => if success then 5 else 2
  | .check _ => if success then 4 else 1
  | .free _ => 2
  | .release _ => 1
  | .start | .submit _ | .returned _ => 0

/-- The worker has a next step until the function has returned. -/
theorem work_goes (request : OperationRequest) (o : Outcomes) (native : NativeTask) (r : TaskRun) :
    r.Returned ∨ ∃ r', r.work request o native = some r' := by
  unfold TaskRun.work
  cases hpoint : r.point with
  | returned responce => exact .inl ⟨responce, hpoint⟩
  | start =>
    obtain ⟨result, inv', hprepare⟩ := prepare_returns request o r.inventory
    dsimp only
    rw [hprepare]
    exact .inr ⟨_, rfl⟩
  | submit bufs =>
    dsimp only
    split <;> exact .inr ⟨_, rfl⟩
  | wait bufs =>
    dsimp only
    split <;> exact .inr ⟨_, rfl⟩
  | test bufs | progress bufs | free bufs => exact .inr ⟨_, rfl⟩
  | check bufs =>
    dsimp only
    split <;> exact .inr ⟨_, rfl⟩
  | release bufs =>
    obtain ⟨result, inv', hrelease, -⟩ := release_returns request o bufs r.inventory
    dsimp only
    rw [hrelease]
    exact .inr ⟨_, rfl⟩

/-- **The worker alone** brings the function to its end or to `Q`, where each of its steps lowers a
rank and keeps `P` up to there. -/
theorem Inv.drives (rank : TaskPoint → ℕ) (P Q : TaskRun → Prop) (hengine : o.progressEngine = true)
    (hlower : ∀ r r', Inv request o native r → P r → r.work request o native = some r' →
      (P r' ∨ Q r') ∧ rank r'.point < rank r.point)
    (h : Inv request o native r) (hP : P r) :
    ∃ n ≤ rank r.point, ∃ r', (taskRun request o native).exec r (List.replicate n .work) = some r' ∧
      Inv request o native r' ∧ (Q r' ∨ P r' ∧ r'.Returned) := by
  have hstep : ∀ r, Inv request o native r ∧ (P r ∨ Q r) →
      (Q r ∨ r.Returned) ∨ ∃ r', r.work request o native = some r' ∧
        (Inv request o native r' ∧ (P r' ∨ Q r')) ∧ rank r'.point < rank r.point := by
    rintro r ⟨hr, hP | hQ⟩
    · refine (work_goes request o native r).imp .inr ?_
      rintro ⟨r', hs⟩
      obtain ⟨hnext, hlt⟩ := hlower r r' hr hP hs
      exact ⟨r', hs, ⟨hr.work hengine hs, hnext⟩, hlt⟩
    · exact .inl (.inl hQ)
  obtain ⟨n, hn, r', hexec, ⟨hinv, hends⟩, hover⟩ :=
    Machine.exec_replicate (M := taskRun request o native) (l := .work)
      (fun r : TaskRun => rank r.point) hstep ⟨h, .inl hP⟩
  refine ⟨n, hn, r', hexec, hinv, ?_⟩
  rcases hends with hP' | hQ
  · exact hover.imp_right fun hreturned => ⟨hP', hreturned⟩
  · exact .inl hQ

/-- How many steps the worker takes up to the submission. -/
def stepsAhead : TaskPoint → ℕ
  | .start => 2
  | .submit _ => 1
  | _ => 0

/-- **Every step in front of the submission is one less.** -/
theorem Inv.advances (h : Inv request o native r) (hgrounded : r.flight = .grounded)
    (hs : r.work request o native = some r') :
    (r'.flight = .grounded ∨ r'.flight = .inFlight) ∧ stepsAhead r'.point < stepsAhead r.point := by
  have hstands := h.stands
  unfold Stands at hstands
  cases work_works hs with
  | unprepared hpoint =>
    rw [hpoint]
    exact ⟨.inl hgrounded, Nat.succ_pos 1⟩
  | prepared hpoint =>
    rw [hpoint]
    exact ⟨.inl hgrounded, Nat.lt_succ_self 1⟩
  | unsubmitted hpoint =>
    rw [hpoint]
    exact ⟨.inl hgrounded, Nat.succ_pos 0⟩
  | submitted hpoint =>
    rw [hpoint]
    exact ⟨.inr rfl, Nat.succ_pos 0⟩
  | noEngine hpoint | polls hpoint | completed hpoint | incomplete hpoint | progressed hpoint
  | failed hpoint | again hpoint =>
    rw [hpoint, Flying, hgrounded] at hstands
    rcases hstands.1 with ⟨hf, -⟩ | ⟨hf, -⟩ | ⟨hf, -⟩ <;> cases hf
  | freed hpoint | released hpoint =>
    rw [hpoint] at hstands
    cases hstands.1.symm.trans hgrounded

/-- **The function comes to its submission, or to its end**, in at most two steps. -/
theorem Inv.submits (hengine : o.progressEngine = true) (h : Inv request o native r)
    (hgrounded : r.flight = .grounded) :
    ∃ n ≤ 2, ∃ r', (taskRun request o native).exec r (List.replicate n .work) = some r' ∧
      Inv request o native r' ∧ (r'.flight = .inFlight ∨ r'.flight = .grounded ∧ r'.Returned) := by
  have hbound : stepsAhead r.point ≤ 2 := by
    cases r.point <;> simp [stepsAhead]
  obtain ⟨n, hn, hrun⟩ := Inv.drives stepsAhead (fun r : TaskRun => r.flight = .grounded)
    (fun r => r.flight = .inFlight) hengine (fun _ _ => Inv.advances) h hgrounded
  exact ⟨n, hn.trans hbound, hrun⟩

/-- **Every step of a worker whose task is over is one less.** -/
theorem Inv.nears {success : Bool} (hengine : o.progressEngine = true)
    (h : Inv request o native r) (hlanded : r.flight = .landed success)
    (hs : r.work request o native = some r') :
    r'.flight = .landed success ∧ stepsLeft success r'.point < stepsLeft success r.point := by
  have hstands := h.stands
  unfold Stands at hstands
  cases work_works hs with
  | unprepared hpoint | prepared hpoint | unsubmitted hpoint | submitted hpoint =>
    rw [hpoint] at hstands
    cases hstands.1.symm.trans hlanded
  | noEngine hpoint hnone => cases hengine.symm.trans hnone
  | polls hpoint =>
    rw [hpoint]
    exact ⟨hlanded, Nat.lt_succ_self 3⟩
  | completed hpoint =>
    rw [hpoint]
    exact ⟨hlanded, Nat.lt_succ_self 2⟩
  | incomplete hpoint hstate =>
    rw [hpoint] at hstands ⊢
    cases success with
    | true => exact absurd (hstands.1.settled hlanded) hstate
    | false => exact ⟨hlanded, Nat.lt_succ_self 2⟩
  | progressed hpoint =>
    rw [hpoint]
    cases success with
    | true => exact ⟨hlanded, Nat.lt_succ_self 4⟩
    | false => exact ⟨hlanded, Nat.lt_succ_self 1⟩
  | failed hpoint =>
    rw [hpoint]
    cases success with
    | true => exact ⟨hlanded, Nat.succ_pos 3⟩
    | false => exact ⟨hlanded, Nat.succ_pos 0⟩
  | again hpoint hstate =>
    rw [hpoint] at hstands ⊢
    cases success with
    | true => exact ⟨hlanded, Nat.lt_succ_self 3⟩
    | false => exact absurd (hstands.1.settled hlanded) hstate
  | freed hpoint =>
    rw [hpoint]
    exact ⟨hlanded, Nat.lt_succ_self 1⟩
  | released hpoint =>
    rw [hpoint]
    exact ⟨hlanded, Nat.succ_pos 0⟩

/-- **Behind the callback the function returns**, in at most five steps. -/
theorem Inv.returns {success : Bool} (hengine : o.progressEngine = true)
    (h : Inv request o native r) (hlanded : r.flight = .landed success) :
    ∃ n ≤ 5, ∃ r', (taskRun request o native).exec r (List.replicate n .work) = some r' ∧
      Inv request o native r' ∧ r'.flight = .landed success ∧ r'.Returned := by
  have hbound : stepsLeft success r.point ≤ 5 := by
    cases r.point <;> cases success <;> simp [stepsLeft]
  obtain ⟨n, hn, r', hexec, hinv, hends⟩ :=
    Inv.drives (stepsLeft success) (fun r : TaskRun => r.flight = .landed success)
      (fun _ => False) hengine
      (fun _ _ hr hlanded hs => (hr.nears hengine hlanded hs).imp_left .inl) h hlanded
  exact ⟨n, hn.trans hbound, r', hexec, hinv, hends.resolve_left id⟩

/-- What the invariant says of the function. -/
theorem Inv.complete (hengine : o.progressEngine = true) (h : Inv request o native r) :
    r.Complete request o native := by
  obtain ⟨haccounts, hstands, halive⟩ := id h
  unfold Stands at hstands
  refine ⟨?_, halive, fun t => ?_, h.freed, fun t hdestroyed hflight => ?_, ?_, ?_, ?_, ?_⟩
  · rintro ⟨responce, hpoint⟩ hflight
    have hresults := h.results hpoint
    rw [Results, hflight] at hresults
    exact hresults
  · rcases (haccounts.retired t).countP with hnone | hone
    · omega
    · omega
  · have hmade := haccounts.known _ hdestroyed
    cases hpoint : r.point with
    | start | submit bufs | free bufs | release bufs =>
      rw [hpoint, hflight] at hstands
      cases hstands.1
    | returned responce =>
      have hresults := h.results hpoint
      rw [Results, hflight] at hresults
      exact hresults
    | wait bufs | test bufs | progress bufs | check bufs =>
      rw [hpoint] at hstands
      obtain ⟨-, htask, hallocated⟩ := hstands
      rw [hallocated] at hmade
      refine (haccounts.sound t ?_).2 hdestroyed
      rw [htask]
      exact hmade
  · intro localBuffer hpoint
    have hresults := h.results hpoint
    unfold Results at hresults
    cases hflight : r.flight with
    | grounded =>
      rw [hflight] at hresults
      exact absurd rfl hresults
    | inFlight =>
      rw [hflight] at hresults
      exact hresults.elim
    | landed success =>
      rw [hflight] at hresults
      cases success with
      | false => exact absurd rfl hresults.2
      | true => exact ⟨hresults.2.1 rfl, rfl⟩
  · intro hlanded responce hpoint
    have hresults := h.results hpoint
    rw [Results, hlanded] at hresults
    exact hresults.2
  · intro hgrounded
    obtain ⟨n, hn, r', hexec, hinv, hends⟩ := h.submits hengine hgrounded
    refine ⟨n, hn, r', hexec, hends.imp_right ?_⟩
    rintro ⟨hgrounded', responce, hpoint⟩
    have hresults := hinv.results hpoint
    rw [Results, hgrounded'] at hresults
    exact ⟨responce, hpoint, hresults, hinv.freed ⟨responce, hpoint⟩⟩
  · intro success hlanded
    obtain ⟨n, hn, r', hexec, hinv, hlanded', responce, hpoint⟩ := h.returns hengine hlanded
    have hresults := hinv.results hpoint
    rw [Results, hlanded'] at hresults
    refine ⟨n, hn, r', responce, hexec, hpoint, ?_, ?_, ?_⟩
    · refine hinv.freed ⟨responce, hpoint⟩ native ?_
      cases success <;> rw [hresults.1] <;> exact List.mem_singleton_self native
    · rintro rfl
      exact hresults.2
    · rintro rfl
      exact hresults.2.2

/-- **The result of an operation is the completion of its task**, whenever the callback runs, for an
executor with a progress engine. -/
theorem task_completes {labels : List TaskLabel} (hengine : o.progressEngine = true)
    (h : (taskRun request o native).Run { inventory := inv } labels r) :
    r.Complete request o native := by
  have hinv : Inv request o native r := by
    refine Machine.RunWith.invariant (I := fun _ r => Inv request o native r) (inv_start inv) ?_ h
    intro labels r label r' _ hI _ hs
    cases label with
    | work => exact hI.work hengine hs
    | callback success => exact hI.callback hs
  exact hinv.complete hengine

end Invariant

end TaskRun

/-- A read whose success callback runs behind the second `Progress`. -/
def completedLabels : List TaskLabel :=
  [.work, .work, .work, .work, .work, .work, .work, .work, .callback true, .work, .work, .work,
    .work]

/-- A write whose error callback runs within the first. -/
def failedLabels : List TaskLabel :=
  [.work, .work, .work, .work, .callback false, .work, .work]

theorem TaskRun.task_completes_sample :
    (∃ r, (taskRun ⟨.read, some 1, some 2⟩ {} 5).Run { inventory := { size := 16 } }
        completedLabels r ∧
      r.point = .returned (some 1, none) ∧ r.Complete ⟨.read, some 1, some 2⟩ {} 5) ∧
    ∃ r err, (taskRun ⟨.write, some 1, some 2⟩ {} 5).Run { inventory := { size := 16 } }
        failedLabels r ∧
      r.point = .returned (none, some (.wrap (.new "Task completed with error") err)) ∧
      r.acts = [.used 5 none, .destroyed 5] ∧ r.Complete ⟨.write, some 1, some 2⟩ {} 5 := by
  have hcompleted : (taskRun ⟨.read, some 1, some 2⟩ {} 5).Run { inventory := { size := 16 } }
      completedLabels _ := Machine.exec_run rfl
  have hfailed : (taskRun ⟨.write, some 1, some 2⟩ {} 5).Run { inventory := { size := 16 } }
      failedLabels _ := Machine.exec_run rfl
  exact ⟨⟨_, hcompleted, rfl, task_completes rfl hcompleted⟩,
    _, _, hfailed, rfl, rfl, task_completes rfl hfailed⟩

/-! ## 4. What the function computes -/

namespace Executing

section On

variable {α β : Type} {x : Executing α} {f : α → Executing β} {inv inv' : BufferInventory}
  {wrap : Err → Err}

theorem on_bind_ok {a : α} (h : x.on inv = some (.ok a, inv')) :
    (x >>= f).on inv = (f a).on inv' := by
  change Option.bind (x.on inv) _ = _
  rw [h]
  rfl

theorem on_bind_error {err : Err} (h : x.on inv = some (.error err, inv')) :
    (x >>= f).on inv = some (.error err, inv') := by
  change Option.bind (x.on inv) _ = _
  rw [h]
  rfl

theorem on_wrapping_ok {a : α} (h : x.on inv = some (.ok a, inv')) :
    (x.wrapping wrap).on inv = some (.ok a, inv') := by
  change Option.bind (x.on inv) _ = _
  rw [h]
  rfl

theorem on_wrapping_error {err : Err} (h : x.on inv = some (.error err, inv')) :
    (x.wrapping wrap).on inv = some (.error (wrap err), inv') := by
  change Option.bind (x.on inv) _ = _
  rw [h]
  rfl

end On

/-- The states read so far have not ended the loop. -/
def Looped (states : List TaskState) : Prop := ∀ more, waitLoop (states ++ more) = waitLoop more

theorem looped_nil : Looped [] := fun _ => rfl

/-- One more round. -/
theorem Looped.round {states : List TaskState} {x y : TaskState} (h : Looped states)
    (hx : x ≠ .completed) (hy : y ≠ .error) : Looped (states ++ [x] ++ [y]) := by
  intro more
  rw [List.append_assoc, List.append_assoc, h]
  simp only [List.cons_append, List.nil_append, waitLoop, hx, hy, if_false]

/-- The loop ends at its condition. -/
theorem Looped.completed {states : List TaskState} (h : Looped states) (inv : BufferInventory) :
    (waitLoop (states ++ [.completed])).on inv = some (.ok (), inv) := by
  rw [h]
  rfl

/-- The loop ends behind `Progress`. -/
theorem Looped.error {states : List TaskState} {x : TaskState} (h : Looped states)
    (hx : x ≠ .completed) (inv : BufferInventory) :
    (waitLoop (states ++ [x] ++ [.error])).on inv
      = some (.error (.new "Task completed with error"), inv) := by
  rw [List.append_assoc, h]
  simp only [List.cons_append, List.nil_append, waitLoop, hx, if_false, if_true]
  rfl

end Executing

namespace TaskRun

section Traces

variable {request : OperationRequest} {o : Outcomes} {native : NativeTask} {r r' : TaskRun}
  {bufs : DocaBuf × DocaBuf} {inv : BufferInventory}

/-- The two buffers were taken and the task was allocated. -/
def Prepared (request : OperationRequest) (o : Outcomes) (inv : BufferInventory) (r : TaskRun)
    (bufs : DocaBuf × DocaBuf) : Prop :=
  (prepare request o (request.parts o)).on inv = some (.ok bufs, r.inventory)

/-- **What the function has computed where the worker stands**, from the inventory it was called
with. -/
def Traces (request : OperationRequest) (o : Outcomes) (inv : BufferInventory) (r : TaskRun) :
    Prop :=
  match r.point with
  | .start => r.inventory = inv ∧ r.reads = []
  | .submit bufs => Prepared request o inv r bufs ∧ r.reads = []
  | .wait bufs => Prepared request o inv r bufs ∧ r.reads = [] ∧ o.submit = none
  | .test bufs =>
    Prepared request o inv r bufs ∧ o.submit = none ∧ o.progressEngine = true ∧ Looped r.reads
  | .progress bufs | .check bufs =>
    Prepared request o inv r bufs ∧ o.submit = none ∧ o.progressEngine = true ∧
      ∃ states x, r.reads = states ++ [x] ∧ Looped states ∧ x ≠ .completed
  | .free bufs | .release bufs =>
    Prepared request o inv r bufs ∧ o.submit = none ∧ o.progressEngine = true ∧
      ∃ states, r.reads = states ++ [.completed] ∧ Looped states
  | .returned responce =>
    executeOperation request { o with states := r.reads } inv = some (responce, r.inventory)

/-- The function, if its body is known. -/
theorem executeOperation_of_body {states : List TaskState} {result : Except Err (Option ℕ)}
    {inv' : BufferInventory}
    (h : (do
        let bufs ← prepare request o (request.parts o)
        wrapping (check o.submit) (.wrap · (request.parts o).texts.submit)
        wrapping (waitForTaskState { o with states := states }) fun err =>
          .wrap err (if err = .timeoutExpired then (request.parts o).texts.timeout
            else (request.parts o).texts.wait)
        release request o bufs : Executing (Option ℕ)).on inv = some (result, inv')) :
    executeOperation request { o with states := states } inv = some (responceOf result, inv') := by
  rw [executeOperation_parts, executeTask_parts]
  exact congrArg (Option.map fun r => (responceOf r.1, r.2)) h

theorem executeOperation_of_error {states : List TaskState} {err : Err} {inv' : BufferInventory}
    (h : (do
        let bufs ← prepare request o (request.parts o)
        wrapping (check o.submit) (.wrap · (request.parts o).texts.submit)
        wrapping (waitForTaskState { o with states := states }) fun err =>
          .wrap err (if err = .timeoutExpired then (request.parts o).texts.timeout
            else (request.parts o).texts.wait)
        release request o bufs : Executing (Option ℕ)).on inv = some (.error err, inv')) :
    executeOperation request { o with states := states } inv =
      some (responceOf (.error err), inv') :=
  executeOperation_of_body h

theorem on_check_none {inv : BufferInventory} {err : error} (h : err = none) (wrap : Err → Err) :
    (wrapping (check err) wrap).on inv = some (.ok (), inv) := by
  subst h
  rfl

/-- The wait, once it is known how its loop has ended. -/
theorem on_waitForTaskState {states : List TaskState} (hengine : o.progressEngine = true) :
    (waitForTaskState { o with states := states }).on inv = (waitLoop states).on inv := by
  simp only [waitForTaskState, hengine]
  rfl

/-- A callback changes nothing that the worker has read. -/
theorem Traces.callback {success : Bool} (h : Traces request o inv r)
    (hs : r.callback success = some r') : Traces request o inv r' := by
  unfold TaskRun.callback at hs
  split at hs
  next =>
    obtain ⟨point, inventory, taskState, reads, task, allocated, acts, flight, deadWrite⟩ := r
    cases point <;> cases hs <;> exact h
  next => cases hs

/-- A step of the worker computes what the function does. -/
theorem Traces.work (h : Traces request o inv r) (hs : r.work request o native = some r') :
    Traces request o inv r' := by
  unfold Traces at h
  cases work_works hs with
  | unprepared hpoint hprepare =>
    rw [hpoint] at h
    obtain ⟨rfl, hreads⟩ := h
    exact executeOperation_of_body (on_bind_error hprepare)
  | prepared hpoint hprepare =>
    rw [hpoint] at h
    obtain ⟨rfl, hreads⟩ := h
    exact ⟨hprepare, hreads⟩
  | unsubmitted hpoint hsubmit =>
    rw [hpoint] at h
    obtain ⟨hprepare, hreads⟩ := h
    refine executeOperation_of_error ((on_bind_ok hprepare).trans ?_)
    rw [hsubmit]
    rfl
  | submitted hpoint hsubmit =>
    rw [hpoint] at h
    obtain ⟨hprepare, hreads⟩ := h
    exact ⟨hprepare, hreads, hsubmit⟩
  | noEngine hpoint hengine =>
    rw [hpoint] at h
    obtain ⟨hprepare, hreads, hsubmit⟩ := h
    refine executeOperation_of_error ((on_bind_ok hprepare).trans ?_)
    refine (on_bind_ok (on_check_none hsubmit _)).trans (on_bind_error (on_wrapping_error ?_))
    simp only [waitForTaskState, hengine]
    rfl
  | polls hpoint hengine =>
    rw [hpoint] at h
    obtain ⟨hprepare, hreads, hsubmit⟩ := h
    refine ⟨hprepare, hsubmit, hengine, ?_⟩
    rw [hreads]
    exact looped_nil
  | completed hpoint hstate =>
    rw [hpoint] at h
    obtain ⟨hprepare, hsubmit, hengine, hlooped⟩ := h
    rw [hstate]
    exact ⟨hprepare, hsubmit, hengine, r.reads, rfl, hlooped⟩
  | incomplete hpoint hstate =>
    rw [hpoint] at h
    obtain ⟨hprepare, hsubmit, hengine, hlooped⟩ := h
    exact ⟨hprepare, hsubmit, hengine, r.reads, r.taskState, rfl, hlooped, hstate⟩
  | progressed hpoint =>
    rw [hpoint] at h
    exact h
  | failed hpoint hstate =>
    rw [hpoint] at h
    obtain ⟨hprepare, hsubmit, hengine, states, x, hreads, hlooped, hx⟩ := h
    refine executeOperation_of_error ((on_bind_ok hprepare).trans ?_)
    refine (on_bind_ok (on_check_none hsubmit _)).trans (on_bind_error (on_wrapping_error ?_))
    rw [on_waitForTaskState hengine]
    change (waitLoop (r.reads ++ [r.taskState])).on r.inventory = _
    rw [hstate, hreads]
    exact hlooped.error hx r.inventory
  | again hpoint hstate =>
    rw [hpoint] at h
    obtain ⟨hprepare, hsubmit, hengine, states, x, hreads, hlooped, hx⟩ := h
    refine ⟨hprepare, hsubmit, hengine, ?_⟩
    change Looped (r.reads ++ [r.taskState])
    rw [hreads]
    exact hlooped.round hx hstate
  | freed hpoint =>
    rw [hpoint] at h
    exact h
  | released hpoint hrelease =>
    rw [hpoint] at h
    obtain ⟨hprepare, hsubmit, hengine, states, hreads, hlooped⟩ := h
    refine executeOperation_of_body ((on_bind_ok hprepare).trans ?_)
    refine (on_bind_ok (on_check_none hsubmit _)).trans ?_
    refine (on_bind_ok (on_wrapping_ok (a := ()) ?_)).trans hrelease
    rw [on_waitForTaskState hengine]
    change (waitLoop r.reads).on r.inventory = _
    rw [hreads]
    exact hlooped.completed r.inventory

/-- **The function computes what `executeOperation` does** for the states that the worker has read,
whenever the callback runs. -/
theorem task_executes {labels : List TaskLabel} {responce : RdmaOperationResponce}
    (h : (taskRun request o native).Run { inventory := inv } labels r)
    (hpoint : r.point = .returned responce) :
    executeOperation request { o with states := r.reads } inv = some (responce, r.inventory) := by
  have hstart : Traces request o inv { inventory := inv } := ⟨rfl, rfl⟩
  have htraces : Traces request o inv r := by
    refine Machine.RunWith.invariant (I := fun _ r => Traces request o inv r) hstart ?_ h
    intro labels r label r' _ hI _ hs
    cases label with
    | work => exact hI.work hs
    | callback success => exact hI.callback hs
  unfold Traces at htraces
  rw [hpoint] at htraces
  exact htraces

end Traces

end TaskRun

end DocaCpp
