/-
# Executing one operation

`executeRead` and `executeWrite` are one function with different words: check the request, take a
source and a destination buffer from the inventory, allocate a task, submit it, wait for it, and
give the two buffers back by hand, because `Buffer::CreateRef` makes references that own nothing.
Every step in between returns early when it fails, and no early return gives anything back.

Whatever can go wrong outside of the code is an input (`Outcomes`).  `executeOperation_leaves` says
once which inventories an operation can leave behind; `inventory_kept_iff` reads off it when the
inventory is left as it was found.
-/
import DocaCpp.Executor.Threads
import DocaCpp.Lib.History
import DocaCpp.Session.Calls

namespace DocaCpp

/-! ## 1. The buffer inventory -/

/-- A `doca_buf`, by the order in which they were handed out. -/
abbrev DocaBuf := ℕ

/-- `BufferInventory`: how many elements it has, the buffers taken from it, each with a reference
count of one, how many were ever handed out, and the calls of `doca_buf_dec_refcount` so far. -/
structure BufferInventory where
  size : ℕ
  taken : List DocaBuf := []
  issued : ℕ := 0
  decremented : List (DocaBuf × error) := []
  deriving DecidableEq

namespace BufferInventory

/-- `constants::initialBufferInventorySize`. -/
def initialBufferInventorySize : ℕ := 16

/-- One element is handed out, with reference count one. -/
def handOut (inv : BufferInventory) : BufferInventory :=
  { inv with taken := inv.taken ++ [inv.issued], issued := inv.issued + 1 }

/-- `doca_buf_dec_refcount`, called on a buffer with reference count one. -/
def dec (inv : BufferInventory) (buffer : DocaBuf) (native : error) : BufferInventory :=
  { inv with
    taken := if native.isSome then inv.taken else inv.taken.erase buffer
    decremented := inv.decremented ++ [(buffer, native)] }

/-- Every element is taken. -/
def Exhausted (inv : BufferInventory) : Prop := inv.size ≤ inv.taken.length

instance (inv : BufferInventory) : Decidable inv.Exhausted := inferInstanceAs (Decidable (_ ≤ _))

end BufferInventory

/-! ## 2. The functions of the executor -/

/-- A function of the worker: it may not return (`none`), and returns a value or an error and the
inventory it leaves. -/
abbrev Executing (α : Type) := ExceptT Err (StateT BufferInventory Option) α

/-- What a function does to an inventory. -/
def Executing.on {α : Type} (x : Executing α) (inv : BufferInventory) :
    Option (Except Err α × BufferInventory) := x.run inv

/-- `RdmaOperationRequest` as the worker finds it: a buffer that is missing is null. -/
structure OperationRequest where
  type : RdmaOperationType
  localBuffer : Option ℕ
  remoteBuffer : Option ℕ
  deriving DecidableEq

/-- `IRdmaTask::State`. -/
inductive TaskState
  | idle
  | submitted
  | completed
  | error
  deriving DecidableEq

/-- What the steps that take a buffer from the inventory come to: the memory range and the memory
map of the RDMA buffer, and the native call. -/
structure BufferOutcome where
  memoryRange : error := none
  memoryMap : error := none
  native : error := none
  /-- the error of the native call when no element is left, which is the library's to choose -/
  exhausted : Err := .native 4
  deriving DecidableEq

/-- What the steps of one operation come to: null, or their errors. -/
structure Outcomes where
  connected : Bool := true
  source : BufferOutcome := {}
  destination : BufferOutcome := {}
  allocateTask : error := none
  submit : error := none
  progressEngine : Bool := true
  /-- what the worker reads of the task's state, one time after the other -/
  states : List TaskState := [.completed]
  sourceDec : error := none
  destinationDec : error := none
  deriving DecidableEq

namespace Executing

variable {α : Type}

/-- A call that fails or not. -/
def check (err : error) : Executing Unit :=
  match err with
  | none => return ()
  | some err => throw err

/-- `if (err) return errors::Wrap(err, text)`. -/
def wrapping (x : Executing α) (wrap : Err → Err) : Executing α :=
  tryCatch x fun err => throw (wrap err)

/-- The native call by which `BufferInventory` takes an element; it fails if there is none. -/
def bufGet (o : BufferOutcome) : Executing DocaBuf := do
  check o.native
  let inv ← get
  if inv.Exhausted then
    throw o.exhausted
  set inv.handOut
  return inv.issued

/-- `BufferInventory::AllocBufferByAddress`. -/
def allocBufferByAddress (o : BufferOutcome) : Executing DocaBuf :=
  wrapping (bufGet o) (.wrap · "Failed to allocate buffer by address from inventory")

/-- `BufferInventory::AllocBufferByData`. -/
def allocBufferByData (o : BufferOutcome) : Executing DocaBuf :=
  wrapping (bufGet o) (.wrap · "Failed to allocate buffer by data from inventory")

/-- The body the four functions that get a buffer share. -/
def getBuffer (rdmaBuffer : Option ℕ) (nullText : String) (o : BufferOutcome)
    (allocBuffer : BufferOutcome → Executing DocaBuf) : Executing DocaBuf := do
  if rdmaBuffer.isNone then
    throw (.new nullText)
  wrapping (check o.memoryRange) (.wrap · "Failed to get buffer memory range")
  wrapping (check o.memoryMap) (.wrap · "Failed to get memory map from buffer")
  wrapping (allocBuffer o) (.wrap · "Failed to allocate buffer from buffer inventory")

/-- `RdmaExecutor::getSourceLocalBuffer`. -/
def getSourceLocalBuffer (rdmaBuffer : Option ℕ) (o : BufferOutcome) : Executing DocaBuf :=
  getBuffer rdmaBuffer "RDMA buffer is null" o allocBufferByData

/-- `RdmaExecutor::getDestinationLocalBuffer`. -/
def getDestinationLocalBuffer (rdmaBuffer : Option ℕ) (o : BufferOutcome) : Executing DocaBuf :=
  getBuffer rdmaBuffer "RDMA buffer is null" o allocBufferByAddress

/-- `RdmaExecutor::getSourceRemoteBuffer`. -/
def getSourceRemoteBuffer (rdmaBuffer : Option ℕ) (o : BufferOutcome) : Executing DocaBuf :=
  getBuffer rdmaBuffer "Remote RDMA buffer is null" o allocBufferByData

/-- `RdmaExecutor::getDestinationRemoteBuffer`. -/
def getDestinationRemoteBuffer (rdmaBuffer : Option ℕ) (o : BufferOutcome) : Executing DocaBuf :=
  getBuffer rdmaBuffer "Remote RDMA buffer is null" o allocBufferByAddress

/-- The loop of `RdmaExecutor::waitForTaskState` with a timeout of zero, which never expires: the
state is read in the loop condition and again behind every `Progress`. -/
def waitLoop : List TaskState → Executing Unit
  | [] => StateT.lift none
  | state :: rest =>
    if state = .completed then return ()
    else
      match rest with
      | [] => StateT.lift none
      | state' :: rest =>
        if state' = .error then throw (.new "Task completed with error")
        else waitLoop rest

/-- `RdmaExecutor::waitForTaskState`. -/
def waitForTaskState (o : Outcomes) : Executing Unit := do
  if !o.progressEngine then
    throw (.new "Progress engine is null")
  waitLoop o.states

/-- `Buffer::DecRefcount`. -/
def decRefcount (buffer : DocaBuf) (native : error) : Executing Unit := do
  modify (·.dec buffer native)
  wrapping (check native) (.wrap · "Failed to decrement refcount")

/-- The errors of `executeRead` and `executeWrite`, which differ in one word. -/
structure OperationTexts where
  noConnection : String
  allocate : String
  submit : String
  timeout : String
  wait : String

/-- What `executeRead` and `executeWrite` differ in: their errors, and where they get the two
buffers from. -/
structure OperationParts where
  texts : OperationTexts
  getSource : Executing DocaBuf
  getDestination : Executing DocaBuf

/-- The body `executeRead` and `executeWrite` share. -/
def executeTask (request : OperationRequest) (o : Outcomes) (parts : OperationParts) :
    Executing (Option ℕ) := do
  -- check the requested buffers and the connection
  if request.localBuffer.isNone || request.remoteBuffer.isNone then
    throw (.new "Invalid request; provide both local and remote RDMA buffers")
  if !o.connected then
    throw (.new parts.texts.noConnection)
  let srcBuf ← wrapping parts.getSource (.wrap · "Failed to get doca buffer")
  let dstBuf ← wrapping parts.getDestination (.wrap · "Failed to get doca buffer")
  wrapping (check o.allocateTask) (.wrap · parts.texts.allocate)
  wrapping (check o.submit) (.wrap · parts.texts.submit)
  wrapping (waitForTaskState o)
    fun err => .wrap err (if err = .timeoutExpired then parts.texts.timeout else parts.texts.wait)
  wrapping (decRefcount srcBuf o.sourceDec)
    (.wrap · "Failed to decrement buffer reference count in buffer inventory")
  wrapping (decRefcount dstBuf o.destinationDec)
    (.wrap · "Failed to decrement buffer reference count in buffer inventory")
  return request.localBuffer

/-- What is `executeRead`'s own. -/
def readParts (request : OperationRequest) (o : Outcomes) : OperationParts where
  texts :=
    { noConnection := "No active RDMA connection available for read operation"
      allocate := "Failed to allocate RDMA read task"
      submit := "Failed to submit RDMA read task"
      timeout := "Failed to wait for RDMA read task completion due to timeout"
      wait := "Failed to wait for RDMA read task completion" }
  getSource := getSourceRemoteBuffer request.remoteBuffer o.source
  getDestination := getDestinationLocalBuffer request.localBuffer o.destination

/-- What is `executeWrite`'s own. -/
def writeParts (request : OperationRequest) (o : Outcomes) : OperationParts where
  texts :=
    { noConnection := "No active RDMA connection available for write operation"
      allocate := "Failed to allocate RDMA write task"
      submit := "Failed to submit RDMA write task"
      timeout := "Failed to wait for RDMA write task completion due to timeout"
      wait := "Failed to wait for RDMA write task completion" }
  getSource := getSourceLocalBuffer request.localBuffer o.source
  getDestination := getDestinationRemoteBuffer request.remoteBuffer o.destination

/-- `RdmaExecutor::executeRead`. -/
def executeRead (request : OperationRequest) (o : Outcomes) : Executing (Option ℕ) :=
  executeTask request o (readParts request o)

/-- `RdmaExecutor::executeWrite`. -/
def executeWrite (request : OperationRequest) (o : Outcomes) : Executing (Option ℕ) :=
  executeTask request o (writeParts request o)

end Executing

/-- `RdmaOperationResponce`, of what the body computes. -/
def responceOf : Except Err (Option ℕ) → RdmaOperationResponce
  | .ok localBuffer => (localBuffer, none)
  | .error err => (none, some err)

/-- `RdmaExecutor::executeOperation`, on an inventory: no result if it does not return. -/
def executeOperation (request : OperationRequest) (o : Outcomes) (inv : BufferInventory) :
    Option (RdmaOperationResponce × BufferInventory) :=
  let body :=
    match request.type with
    | .read => Executing.executeRead request o
    | .write => Executing.executeWrite request o
  (body.on inv).map fun r => (responceOf r.1, r.2)

/-! ## 3. What the functions do to an inventory -/

namespace Executing

section Ends

variable {α β : Type} {x : Executing α} {f : α → Executing β} {inv : BufferInventory}
  {ok : α → BufferInventory → Prop} {ok' : β → BufferInventory → Prop}
  {failed : BufferInventory → Prop}

/-- Where a function ends it has met `ok` if it returns a value, and `failed` if an error. -/
def Ends (x : Executing α) (inv : BufferInventory) (ok : α → BufferInventory → Prop)
    (failed : BufferInventory → Prop) : Prop :=
  ∀ r inv', x.on inv = some (r, inv') →
    match r with
    | .ok a => ok a inv'
    | .error _ => failed inv'

theorem ends_pure {a : α} (h : ok a inv) : Ends (pure a) inv ok failed := by
  rintro r inv' ⟨⟩
  exact h

theorem ends_throw {err : Err} (h : failed inv) : Ends (throw err) inv ok failed := by
  rintro r inv' ⟨⟩
  exact h

/-- **The rule for sequencing**: an error ends the function, a value goes to the rest of it. -/
theorem ends_bind (h : Ends x inv (fun a inv₁ => Ends (f a) inv₁ ok' failed) failed) :
    Ends (x >>= f) inv ok' failed := by
  intro r inv' hr
  obtain ⟨⟨r₁, inv₁⟩, hx, hf⟩ := Option.bind_eq_some_iff.mp hr
  have h₁ := h r₁ inv₁ hx
  cases r₁ with
  | ok a => exact h₁ r inv' hf
  | error err =>
    cases hf
    exact h₁

/-- Wrapping an error leaves the inventory alone. -/
theorem ends_wrapping {wrap : Err → Err} (h : Ends x inv ok failed) :
    Ends (x.wrapping wrap) inv ok failed := by
  intro r inv' hr
  obtain ⟨⟨r₁, inv₁⟩, hx, hw⟩ := Option.bind_eq_some_iff.mp hr
  have h₁ := h r₁ inv₁ hx
  cases r₁ with
  | ok a =>
    cases hw
    exact h₁
  | error err =>
    cases hw
    exact h₁

/-- An early return. -/
theorem ends_throwIf {c : Bool} {err : Err} {k : PUnit → Executing β}
    (hthrow : c = true → failed inv) (hpass : c = false → Ends (k ⟨⟩) inv ok' failed) :
    Ends (if c then throw err >>= k else k ⟨⟩) inv ok' failed := by
  cases c with
  | true => exact ends_bind (ends_throw (hthrow rfl))
  | false => exact hpass rfl

theorem ends_check {err : error} {ok : Unit → BufferInventory → Prop}
    (hpass : err = none → ok () inv) (hfail : err ≠ none → failed inv) :
    Ends (check err) inv ok failed := by
  cases err with
  | none => exact ends_pure (hpass rfl)
  | some err => exact ends_throw (hfail (Option.some_ne_none err))

theorem ends_decRefcount {buffer : DocaBuf} {native : error}
    {ok : Unit → BufferInventory → Prop} (hpass : native = none → ok () (inv.dec buffer none))
    (hfail : native ≠ none → failed (inv.dec buffer native)) :
    Ends (decRefcount buffer native) inv ok failed := by
  cases native with
  | none =>
    rintro r inv' ⟨⟩
    exact hpass rfl
  | some err =>
    rintro r inv' ⟨⟩
    exact hfail (Option.some_ne_none err)

theorem ends_bufGet {o : BufferOutcome} {ok : DocaBuf → BufferInventory → Prop}
    (hpass : o.native = none → ¬ inv.Exhausted → ok inv.issued inv.handOut)
    (hfail : o.native ≠ none ∨ inv.Exhausted → failed inv) :
    Ends (bufGet o) inv ok failed := by
  refine ends_bind (ends_check (fun hn => ?_) fun hn => hfail (.inl hn))
  refine ends_bind fun r inv' hr => ?_
  have hget : (get : Executing BufferInventory).on inv = some (.ok inv, inv) := rfl
  cases hget.symm.trans hr
  dsimp only
  by_cases h : inv.Exhausted
  · rw [if_pos h]
    exact ends_throw (hfail (.inr h))
  · rw [if_neg h]
    rintro r inv' ⟨⟩
    exact hpass hn h

/-- The wait does not touch the inventory. -/
theorem waitLoop_on {r : Except Err Unit} {inv' : BufferInventory} :
    ∀ states, (waitLoop states).on inv = some (r, inv') → inv' = inv
  | [], h => by cases h
  | [state], h => by
    unfold waitLoop at h
    split at h <;> cases h
    rfl
  | state :: state' :: rest, h => by
    unfold waitLoop at h
    split at h
    · cases h
      rfl
    · dsimp only at h
      split at h
      · cases h
        rfl
      · exact waitLoop_on rest h

theorem ends_waitForTaskState {o : Outcomes} {ok : Unit → BufferInventory → Prop}
    (hpass : (waitForTaskState o).on inv = some (.ok (), inv) → ok () inv)
    (hfail : (waitForTaskState o).on inv ≠ some (.ok (), inv) → failed inv) :
    Ends (waitForTaskState o) inv ok failed := by
  intro r inv' hr
  have hinv : inv' = inv := by
    unfold waitForTaskState at hr
    cases hp : o.progressEngine with
    | false =>
      rw [hp] at hr
      cases hr
      rfl
    | true =>
      rw [hp] at hr
      exact waitLoop_on o.states hr
  subst hinv
  cases r with
  | ok a => exact hpass hr
  | error err =>
    refine hfail fun h => ?_
    cases hr.symm.trans h

end Ends

end Executing

/-- A buffer cannot be had: one of the calls fails, or no element is left. -/
def BufferOutcome.Fails (o : BufferOutcome) (inv : BufferInventory) : Prop :=
  o.memoryRange ≠ none ∨ o.memoryMap ≠ none ∨ o.native ≠ none ∨ inv.Exhausted

instance (o : BufferOutcome) (inv : BufferInventory) : Decidable (o.Fails inv) :=
  inferInstanceAs (Decidable (_ ∨ _))

/-- The four functions that get a buffer, for an RDMA buffer that is there. -/
theorem Executing.ends_getBuffer {b : Option ℕ} {nullText : String} {wrap : Err → Err}
    {o : BufferOutcome} {inv : BufferInventory} {ok : DocaBuf → BufferInventory → Prop}
    {failed : BufferInventory → Prop} (hb : b.isNone = false)
    (hpass : ¬ o.Fails inv → ok inv.issued inv.handOut) (hfail : o.Fails inv → failed inv) :
    Ends (getBuffer b nullText o fun o => wrapping (bufGet o) wrap) inv ok failed := by
  unfold getBuffer
  refine ends_throwIf (fun h => absurd (hb.symm.trans h) Bool.false_ne_true) fun _ => ?_
  refine ends_bind (ends_wrapping (ends_check (fun hr => ?_) fun hr => hfail (.inl hr)))
  refine ends_bind (ends_wrapping (ends_check (fun hm => ?_) fun hm => hfail (.inr (.inl hm))))
  refine ends_wrapping (ends_wrapping (ends_bufGet (fun hn hx => ?_) fun hn => ?_))
  · refine hpass ?_
    rintro (h | h | h | h)
    · exact h hr
    · exact h hm
    · exact h hn
    · exact hx h
  · exact hfail (.inr (.inr hn))

/-! ## 4. One operation -/

/-- The two buffers are there and the connection is up. -/
def Ready (request : OperationRequest) (o : Outcomes) : Prop :=
  request.localBuffer ≠ none ∧ request.remoteBuffer ≠ none ∧ o.connected = true

instance (request : OperationRequest) (o : Outcomes) : Decidable (Ready request o) :=
  inferInstanceAs (Decidable (_ ∧ _))

/-- Everything between the two allocations and the end of the wait succeeds. -/
def Outcomes.Completes (o : Outcomes) (inv : BufferInventory) : Prop :=
  o.allocateTask = none ∧ o.submit = none ∧
    (Executing.waitForTaskState o).on inv = some (.ok (), inv)

/-- **What an operation leaves of an inventory**: what it found, one buffer more, two buffers more,
two buffers of which the first was to be given back, or two buffers that both were. -/
inductive Leaves (request : OperationRequest) (o : Outcomes) (inv : BufferInventory) :
    BufferInventory → Prop
  | untouched (h : ¬ Ready request o ∨ o.source.Fails inv) : Leaves request o inv inv
  | oneTaken (h : Ready request o) (hs : ¬ o.source.Fails inv)
      (hd : o.destination.Fails inv.handOut) : Leaves request o inv inv.handOut
  | twoTaken (h : Ready request o) (hs : ¬ o.source.Fails inv)
      (hd : ¬ o.destination.Fails inv.handOut) (hc : ¬ o.Completes inv.handOut.handOut) :
      Leaves request o inv inv.handOut.handOut
  | oneReleased (h : Ready request o) (hs : ¬ o.source.Fails inv)
      (hd : ¬ o.destination.Fails inv.handOut) (hc : o.Completes inv.handOut.handOut)
      (he : o.sourceDec ≠ none) :
      Leaves request o inv (inv.handOut.handOut.dec inv.issued o.sourceDec)
  | released (h : Ready request o) (hs : ¬ o.source.Fails inv)
      (hd : ¬ o.destination.Fails inv.handOut) (hc : o.Completes inv.handOut.handOut)
      (he : o.sourceDec = none) :
      Leaves request o inv ((inv.handOut.handOut.dec inv.issued none).dec (inv.issued + 1)
        o.destinationDec)

section Bodies

variable {request : OperationRequest} {o : Outcomes} {parts : Executing.OperationParts}
  {inv inv' : BufferInventory}

namespace Executing

/-- A function gets a buffer exactly if nothing it needs fails. -/
def Gets (x : Executing DocaBuf) (o : BufferOutcome) : Prop :=
  ∀ inv ok failed, (¬ o.Fails inv → ok inv.issued inv.handOut) → (o.Fails inv → failed inv) →
    Ends x inv ok failed

/-- The body the two operations share. -/
theorem executeTask_leaves (hs : Ready request o → Gets parts.getSource o.source)
    (hd : Ready request o → Gets parts.getDestination o.destination) :
    Ends (executeTask request o parts) inv (fun _ => Leaves request o inv)
      (Leaves request o inv) := by
  unfold executeTask
  refine ends_throwIf (fun hb => .untouched (.inl fun hr => ?_)) fun hb => ?_
  · obtain ⟨h₁, h₂, -⟩ := hr
    simp [Option.isNone_iff_eq_none, h₁, h₂] at hb
  refine ends_throwIf (fun hc => .untouched (.inl fun hr => ?_)) fun hc => ?_
  · rw [hr.2.2] at hc
    cases hc
  have hready : Ready request o := by
    simp only [Bool.or_eq_false_iff, Option.isNone_eq_false_iff, Bool.not_eq_eq_eq_not,
      Bool.not_false] at hb hc
    exact ⟨Option.isSome_iff_ne_none.mp hb.1, Option.isSome_iff_ne_none.mp hb.2, hc⟩
  refine ends_bind (ends_wrapping (hs hready inv _ _ (fun hs => ?_) fun hs => .untouched (.inr hs)))
  refine ends_bind (ends_wrapping (hd hready _ _ _ (fun hd => ?_) fun hd => .oneTaken hready hs hd))
  have htwo : ¬ o.Completes inv.handOut.handOut → Leaves request o inv inv.handOut.handOut :=
    fun hc => .twoTaken hready hs hd hc
  refine ends_bind (ends_wrapping (ends_check (fun ha => ?_) fun ha => htwo fun hc => ha hc.1))
  refine ends_bind (ends_wrapping (ends_check (fun hb => ?_) fun hb => htwo fun hc => hb hc.2.1))
  refine ends_bind (ends_wrapping (ends_waitForTaskState (fun hw => ?_)
    fun hw => htwo fun hc => hw hc.2.2))
  refine ends_bind (ends_wrapping (ends_decRefcount (fun he => ?_)
    fun he => .oneReleased hready hs hd ⟨ha, hb, hw⟩ he))
  refine ends_bind (ends_wrapping (ends_decRefcount (fun he' => ends_pure ?_) fun he' => ?_))
  · exact he' ▸ .released hready hs hd ⟨ha, hb, hw⟩ he
  · exact .released hready hs hd ⟨ha, hb, hw⟩ he

/-- Whatever holds at the end of the shared body holds at the end of an operation. -/
theorem executeOperation_ends {P : BufferInventory → Prop}
    (hbody : ∀ parts, (Ready request o → Gets parts.getSource o.source) →
      (Ready request o → Gets parts.getDestination o.destination) →
      Ends (executeTask request o parts) inv (fun _ => P) P)
    {r : RdmaOperationResponce} (h : executeOperation request o inv = some (r, inv')) :
    P inv' := by
  have hends : Ends
      (match request.type with
        | .read => executeRead request o
        | .write => executeWrite request o) inv (fun _ => P) P := by
    have hlocal : Ready request o → request.localBuffer.isNone = false := fun hr => by
      simpa [Option.isNone_eq_false_iff, Option.isSome_iff_ne_none] using hr.1
    have hremote : Ready request o → request.remoteBuffer.isNone = false := fun hr => by
      simpa [Option.isNone_eq_false_iff, Option.isSome_iff_ne_none] using hr.2.1
    cases request.type with
    | read =>
      exact hbody _ (fun hr _ _ _ => ends_getBuffer (hremote hr))
        (fun hr _ _ _ => ends_getBuffer (hlocal hr))
    | write =>
      exact hbody _ (fun hr _ _ _ => ends_getBuffer (hlocal hr))
        (fun hr _ _ _ => ends_getBuffer (hremote hr))
  obtain ⟨⟨r₁, inv₁⟩, hr, heq⟩ := Option.map_eq_some_iff.mp h
  cases heq
  have hP := hends r₁ inv₁ hr
  cases r₁ <;> exact hP

end Executing

/-- **What an operation leaves**, whichever it is. -/
theorem executeOperation_leaves {r : RdmaOperationResponce}
    (h : executeOperation request o inv = some (r, inv')) : Leaves request o inv inv' :=
  Executing.executeOperation_ends (fun _ => Executing.executeTask_leaves) h

/-! ### When it comes back -/

/-- The operation gets as far as submitting its task to the NIC. -/
def Submits (request : OperationRequest) (o : Outcomes) (inv : BufferInventory) : Prop :=
  Ready request o ∧ ¬ o.source.Fails inv ∧ ¬ o.destination.Fails inv.handOut ∧
    o.allocateTask = none ∧ o.submit = none

instance (request : OperationRequest) (o : Outcomes) (inv : BufferInventory) :
    Decidable (Submits request o inv) := inferInstanceAs (Decidable (_ ∧ _))

/-- The worker reads that the task is over. -/
def Outcomes.Over (o : Outcomes) : Prop := .completed ∈ o.states ∨ .error ∈ o.states

instance (o : Outcomes) : Decidable o.Over := inferInstanceAs (Decidable (_ ∨ _))

namespace Executing

/-- A worker that never reads that the task is over waits for ever. -/
theorem waitLoop_stuck : ∀ states : List TaskState, .completed ∉ states → .error ∉ states →
    (waitLoop states).on inv = none
  | [], _, _ => rfl
  | [state], hc, _ => by
    have hne : state ≠ .completed := fun h => hc (by simp [h])
    unfold waitLoop
    rw [if_neg hne]
    rfl
  | state :: state' :: rest, hc, he => by
    have hne : state ≠ .completed := fun h => hc (by simp [h])
    have hne' : state' ≠ .error := fun h => he (by simp [h])
    unfold waitLoop
    rw [if_neg hne]
    dsimp only
    rw [if_neg hne']
    exact waitLoop_stuck rest (fun h => hc (by simp [h])) fun h => he (by simp [h])

theorem executeTask_stuck (hs : Ready request o → Gets parts.getSource o.source)
    (hd : Ready request o → Gets parts.getDestination o.destination) (hsub : Submits request o inv)
    (hengine : o.progressEngine = true) (hover : ¬ o.Over) :
    Ends (executeTask request o parts) inv (fun _ _ => False) (fun _ => False) := by
  obtain ⟨hready, hsource, hdestination, ha, hb⟩ := hsub
  have hwait : ∀ inv, (waitForTaskState o).on inv = none := by
    intro inv
    unfold waitForTaskState
    rw [hengine]
    exact waitLoop_stuck o.states (fun h => hover (.inl h)) fun h => hover (.inr h)
  unfold executeTask
  refine ends_throwIf (fun hb => ?_) fun _ => ends_throwIf (fun hc => ?_) fun _ => ?_
  · simp [Option.isNone_iff_eq_none, hready.1, hready.2.1] at hb
  · simp [hready.2.2] at hc
  refine ends_bind (ends_wrapping (hs hready inv _ _ (fun _ => ?_) fun h => hsource h))
  refine ends_bind (ends_wrapping (hd hready _ _ _ (fun _ => ?_) fun h => hdestination h))
  refine ends_bind (ends_wrapping (ends_check (fun _ => ?_) fun h => h ha))
  refine ends_bind (ends_wrapping (ends_check (fun _ => ?_) fun h => h hb))
  refine ends_bind (ends_wrapping fun r inv' hr => ?_)
  exact absurd ((hwait _).symm.trans hr) (Option.some_ne_none _).symm

end Executing

/-- **An operation that comes back has not submitted its task, or has read that it is over.** -/
theorem executeOperation_over {r : RdmaOperationResponce}
    (h : executeOperation request o inv = some (r, inv')) (hengine : o.progressEngine = true)
    (hsub : Submits request o inv) : o.Over := by
  by_contra hover
  exact Executing.executeOperation_ends
    (fun _ hs hd => Executing.executeTask_stuck hs hd hsub hengine hover) h

end Bodies

/-! ## 5. Whether the buffers were given back -/

/-- How many calls of `doca_buf_dec_refcount` have failed. -/
def BufferInventory.failures (inv : BufferInventory) : ℕ :=
  inv.decremented.countP fun d => d.2.isSome

/-- Every buffer handed out between two inventories was decremented exactly once, and as many more
are taken as native decrements failed. -/
structure Balanced (inv inv' : BufferInventory) : Prop where
  once : inv'.decremented.map Prod.fst
    = inv.decremented.map Prod.fst ++ List.range' inv.issued (inv'.issued - inv.issued)
  number : inv'.taken.length + inv.failures = inv.taken.length + inv'.failures

/-- **The condition**: no buffer is taken at all, or everything up to the first decrement
succeeds. -/
def GivesBack (request : OperationRequest) (o : Outcomes) (inv : BufferInventory) : Prop :=
  (¬ Ready request o ∨ o.source.Fails inv) ∨
    (¬ o.destination.Fails inv.handOut ∧ o.Completes inv.handOut.handOut ∧ o.sourceDec = none)

section GivesBack

variable {request : OperationRequest} {o : Outcomes} {inv inv' : BufferInventory}

/-- An operation that has taken a buffer. -/
theorem givesBack_iff (hr : Ready request o) (hs : ¬ o.source.Fails inv) :
    GivesBack request o inv ↔ ¬ o.destination.Fails inv.handOut ∧
      o.Completes inv.handOut.handOut ∧ o.sourceDec = none := by
  constructor
  · rintro ((h | h) | h)
    · exact absurd hr h
    · exact absurd h hs
    · exact h
  · exact .inr

/-- Two buffers handed out and given back one after the other. -/
theorem balanced_released (inv : BufferInventory) (native : error) :
    Balanced inv ((inv.handOut.handOut.dec inv.issued none).dec (inv.issued + 1) native) := by
  have hlast : inv.issued + 1 ∈ (inv.taken ++ [inv.issued] ++ [inv.issued + 1]).erase inv.issued :=
    (List.mem_erase_of_ne (Nat.succ_ne_self _)).mpr (by simp)
  have hfirst : inv.issued ∈ inv.taken ++ [inv.issued] ++ [inv.issued + 1] := by simp
  constructor
  · have hissued : inv.issued + 1 + 1 - inv.issued = 2 := by omega
    simp [BufferInventory.dec, BufferInventory.handOut, hissued, List.range']
  · cases native with
    | none =>
      simp only [BufferInventory.dec, BufferInventory.handOut, BufferInventory.failures,
        Option.isSome_none, Bool.false_eq_true, if_false, List.length_erase_of_mem hlast,
        List.length_erase_of_mem hfirst, List.countP_append, List.length_append]
      simp
    | some err =>
      simp only [BufferInventory.dec, BufferInventory.handOut, BufferInventory.failures,
        Option.isSome_none, Option.isSome_some, Bool.false_eq_true, if_false, if_true,
        List.length_erase_of_mem hfirst, List.countP_append, List.length_append]
      simp
      omega

/-- **Whether an operation gives back what it took.** -/
theorem Leaves.balanced_iff (h : Leaves request o inv inv') :
    Balanced inv inv' ↔ GivesBack request o inv := by
  cases h with
  | untouched h => exact iff_of_true ⟨by simp, rfl⟩ (.inl h)
  | oneTaken hr hs hd =>
    rw [givesBack_iff hr hs]
    refine iff_of_false (fun hb => ?_) fun hg => hg.1 hd
    have honce := hb.once
    simp [BufferInventory.handOut] at honce
  | twoTaken hr hs hd hc =>
    rw [givesBack_iff hr hs]
    refine iff_of_false (fun hb => ?_) fun hg => hc hg.2.1
    have honce := congrArg List.length hb.once
    simp [BufferInventory.handOut] at honce
    omega
  | oneReleased hr hs hd hc he =>
    rw [givesBack_iff hr hs]
    refine iff_of_false (fun hb => ?_) fun hg => he hg.2.2
    have honce := congrArg List.length hb.once
    simp [BufferInventory.handOut, BufferInventory.dec] at honce
    omega
  | released hr hs hd hc he =>
    rw [givesBack_iff hr hs]
    exact iff_of_true (balanced_released inv o.destinationDec) ⟨hd, hc, he⟩

end GivesBack

/-! ## 6. One operation after the other -/

/-- An operation to execute, and what its steps come to. -/
abbrev Job := OperationRequest × Outcomes

/-- The inventory behind a sequence of operations, if all of them return. -/
def inventoryAfter (size : ℕ) (jobs : List Job) : Option BufferInventory :=
  jobs.foldlM (fun inv job => (executeOperation job.1 job.2 inv).map Prod.snd) { size := size }

theorem inventoryAfter_concat (size : ℕ) (jobs : List Job) (job : Job) :
    inventoryAfter size (jobs ++ [job]) = (inventoryAfter size jobs).bind fun inv =>
      (executeOperation job.1 job.2 inv).map Prod.snd := by
  simp [inventoryAfter, List.foldlM_append]

/-- Whenever the operation returns, it leaves the inventory it found. -/
def LeavesBalance (size : ℕ) (pre : List Job) (job : Job) : Prop :=
  ∀ inv r inv', inventoryAfter size pre = some inv →
    executeOperation job.1 job.2 inv = some (r, inv') → Balanced inv inv'

/-- Whenever the operation returns, it meets the condition. -/
def MeetsCondition (size : ℕ) (pre : List Job) (job : Job) : Prop :=
  ∀ inv r inv', inventoryAfter size pre = some inv →
    executeOperation job.1 job.2 inv = some (r, inv') → GivesBack job.1 job.2 inv

/-- As long as every operation gives back what it took, only buffers whose native decrement failed
are missing. -/
theorem taken_eq_failures {size : ℕ} {jobs : List Job} (h : AtEvery (LeavesBalance size) jobs)
    {inv : BufferInventory} (hinv : inventoryAfter size jobs = some inv) :
    inv.taken.length = inv.failures := by
  induction jobs using List.reverseRecOn generalizing inv with
  | nil =>
    cases hinv
    rfl
  | append_singleton jobs job ih =>
    obtain ⟨hjobs, hjob⟩ := atEvery_concat.mp h
    rw [inventoryAfter_concat] at hinv
    obtain ⟨inv₀, hinv₀, hlast⟩ := Option.bind_eq_some_iff.mp hinv
    obtain ⟨⟨r, inv₁⟩, hexec, rfl⟩ := Option.map_eq_some_iff.mp hlast
    have hnumber := (hjob inv₀ r inv₁ hinv₀ hexec).number
    have hsame := ih hjobs hinv₀
    dsimp only
    omega

/-- **No buffer-inventory leak.**  In a sequence of operations every one that returns leaves the
inventory as it found it exactly when every one either takes nothing or succeeds up to its first
decrement; then no element is missing but those whose native decrement failed. -/
theorem inventory_kept_iff (size : ℕ) (jobs : List Job) :
    (AtEvery (LeavesBalance size) jobs ↔ AtEvery (MeetsCondition size) jobs) ∧
      (AtEvery (MeetsCondition size) jobs → ∀ inv, inventoryAfter size jobs = some inv →
        inv.taken.length = inv.failures) := by
  have hiff : AtEvery (LeavesBalance size) jobs ↔ AtEvery (MeetsCondition size) jobs := by
    refine forall₃_congr fun pre job _ => ?_
    refine forall₅_congr fun inv r inv' _ hexec => ?_
    exact (executeOperation_leaves hexec).balanced_iff
  exact ⟨hiff, fun h inv hinv => taken_eq_failures (hiff.mpr h) hinv⟩

/-- A read whose task completes with an error. -/
def failingRead : Job := (⟨.read, some 0, some 0⟩, { states := [.submitted, .error] })

/-- Eight of them use up the inventory, and an operation with which nothing is wrong fails. -/
theorem inventory_exhausted :
    ¬ AtEvery (LeavesBalance BufferInventory.initialBufferInventorySize) [failingRead] ∧
      ∃ inv, inventoryAfter BufferInventory.initialBufferInventorySize
          (List.replicate 8 failingRead) = some inv ∧
        inv.taken.length = 16 ∧ inv.failures = 0 ∧
        ∃ err, executeOperation ⟨.write, some 0, some 0⟩ {} inv = some ((none, some err), inv) := by
  refine ⟨fun h => ?_, _, rfl, rfl, rfl, _, rfl⟩
  have hbalance := h [] failingRead (List.prefix_refl _) { size := 16 } _ _ rfl rfl
  exact absurd hbalance.number (by decide)

end DocaCpp
