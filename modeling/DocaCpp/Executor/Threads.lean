/-
# The executor's threads

Any number of threads hand requests to `RdmaExecutor::SubmitOperation`; one worker thread takes them
off a queue, executes them and answers through the promise of each; one call of `Stop` or of the
destructor ends it all.  The critical sections under `queueMutex` are single steps here, and
whatever a thread does outside of them is a step of its own, so a run is an interleaving of the
threads.  What `executeOperation` returns is left open.

A request is known by the call that made it: the call's promise is all of it that the queue, the
worker and the shutdown deal with.

§2 has the steps as a relation (`Moves`), for case analysis; §3 has what every state says about the
threads (`Guided`).  Its field `woken` is what a condition variable needs: a sleeping worker has
nothing to do, or somebody is about to notify it.
-/
import DocaCpp.Lib.Machine
import DocaCpp.Base

namespace DocaCpp

/-! ## 1. The threads -/

/-- `RdmaOperationResponce`: the affected buffer and an error. -/
abbrev RdmaOperationResponce := Option Nat × error

/-- Where the worker thread stands. -/
inductive Worker (ι : Type)
  /-- at the head of its loop, about to take the mutex -/
  | head
  /-- asleep on the condition variable -/
  | waiting
  | executing (i : ι)
  | answering (i : ι) (responce : RdmaOperationResponce)
  | exited
  deriving DecidableEq

/-- Where a call of `SubmitOperation` stands. -/
inductive Caller
  | outside
  /-- the request is in the queue, and the worker is to be notified -/
  | notifying
  | returned (err : error)
  deriving DecidableEq

/-- Where the call of `Stop`, or of the destructor, stands. -/
inductive Stopper
  | outside
  | lower (destroying : Bool)
  | notify (destroying : Bool)
  | join (destroying : Bool)
  | clear
  | returned
  deriving DecidableEq

/-- `RdmaExecutor`, as far as its queue is concerned, with the threads that use it. -/
structure RdmaExecutor (ι : Type) where
  workerRunning : Bool
  operationQueue : List ι
  worker : Worker ι
  caller : ι → Caller
  /-- the values each promise was set to -/
  responcePromise : ι → List RdmaOperationResponce
  stopper : Stopper

/-- What a thread can do next. -/
inductive ExecutorLabel (ι : Type)
  /-- the critical section of `SubmitOperation`, with the error it returns -/
  | submit (i : ι) (err : error)
  | notify (i : ι)
  /-- the critical section of `workerLoop` -/
  | loop
  /-- the worker wakes up with nobody having notified it -/
  | wake
  | execute (i : ι) (responce : RdmaOperationResponce)
  | answer (i : ι) (responce : RdmaOperationResponce)
  /-- `Stop` is called -/
  | stop
  /-- the destructor is called -/
  | destroy
  | lower
  | notifyWorker
  | join
  | clear

namespace RdmaExecutor

variable {ι : Type} [DecidableEq ι]

/-- The error of a refused request. -/
def shutDown : Err := .new "Executor is shut down"

/-- An executor that has been started. -/
def start (ι : Type) : RdmaExecutor ι where
  workerRunning := true
  operationQueue := []
  worker := .head
  caller := fun _ => .outside
  responcePromise := fun _ => []
  stopper := .outside

/-- `responcePromise->set_value`. -/
def setValue (x : RdmaExecutor ι) (i : ι) (responce : RdmaOperationResponce) : RdmaExecutor ι :=
  { x with responcePromise :=
      Function.update x.responcePromise i (x.responcePromise i ++ [responce]) }

/-- `RdmaExecutor::SubmitOperation`, under the mutex. -/
def submitOperation (x : RdmaExecutor ι) (i : ι) : RdmaExecutor ι × error :=
  if !x.workerRunning then
    ({ x.setValue i (none, some shutDown) with
        caller := Function.update x.caller i (.returned (some shutDown)) }, some shutDown)
  else
    ({ x with
        operationQueue := x.operationQueue ++ [i]
        caller := Function.update x.caller i .notifying }, none)

/-- `queueCondVar.notify_one`: only the worker ever waits. -/
def notifyOne (x : RdmaExecutor ι) : RdmaExecutor ι :=
  { x with worker := if x.worker = .waiting then .head else x.worker }

/-- `RdmaExecutor::workerLoop`, under the mutex. -/
def workerLoop (x : RdmaExecutor ι) : RdmaExecutor ι :=
  if !(!x.workerRunning || !x.operationQueue.isEmpty) then { x with worker := .waiting }
  else if !x.workerRunning && x.operationQueue.isEmpty then { x with worker := .exited }
  else
    match x.operationQueue with
    | [] => x
    | i :: rest => { x with operationQueue := rest, worker := .executing i }

/-- One step of one thread. -/
def step (x : RdmaExecutor ι) : ExecutorLabel ι → Option (RdmaExecutor ι)
  | .submit i err =>
    if x.caller i = .outside ∧ err = (x.submitOperation i).2 then some (x.submitOperation i).1
    else none
  | .notify i =>
    if x.caller i = .notifying then
      some { x.notifyOne with caller := Function.update x.caller i (.returned none) }
    else none
  | .loop => if x.worker = .head then some x.workerLoop else none
  | .wake => if x.worker = .waiting then some { x with worker := .head } else none
  | .execute i responce =>
    if x.worker = .executing i then some { x with worker := .answering i responce } else none
  | .answer i responce =>
    if x.worker = .answering i responce then
      some { x.setValue i responce with worker := .head }
    else none
  | .stop =>
    if x.stopper = .outside then
      some { x with stopper := if !x.workerRunning then .returned else .lower false }
    else none
  | .destroy => if x.stopper = .outside then some { x with stopper := .lower true } else none
  | .lower =>
    match x.stopper with
    | .lower destroying => some { x with workerRunning := false, stopper := .notify destroying }
    | _ => none
  | .notifyWorker =>
    match x.stopper with
    | .notify destroying => some { x.notifyOne with stopper := .join destroying }
    | _ => none
  | .join =>
    match x.stopper with
    | .join destroying =>
      if x.worker = .exited then
        some { x with stopper := if destroying then .returned else .clear }
      else none
    | _ => none
  | .clear =>
    if x.stopper = .clear then some { x with operationQueue := [], stopper := .returned } else none

end RdmaExecutor

/-- The executor, as a machine. -/
def executor (ι : Type) [DecidableEq ι] : Machine (RdmaExecutor ι) (ExecutorLabel ι) :=
  ⟨RdmaExecutor.step⟩

/-! ## 2. What the steps can do -/

namespace RdmaExecutor

variable {ι : Type} [DecidableEq ι] {x y : RdmaExecutor ι}

/-- What the steps can do, label by label. -/
inductive Moves (x : RdmaExecutor ι) : ExecutorLabel ι → RdmaExecutor ι → Prop
  | submit (i : ι) (hout : x.caller i = .outside) :
      Moves x (.submit i (x.submitOperation i).2) (x.submitOperation i).1
  | notify (i : ι) (hcaller : x.caller i = .notifying) :
      Moves x (.notify i) { x.notifyOne with caller := Function.update x.caller i (.returned none) }
  | loop (hw : x.worker = .head) : Moves x .loop x.workerLoop
  | wake (hw : x.worker = .waiting) : Moves x .wake { x with worker := .head }
  | execute (i : ι) (responce : RdmaOperationResponce) (hw : x.worker = .executing i) :
      Moves x (.execute i responce) { x with worker := .answering i responce }
  | answer (i : ι) (responce : RdmaOperationResponce) (hw : x.worker = .answering i responce) :
      Moves x (.answer i responce) { x.setValue i responce with worker := .head }
  | stop (hst : x.stopper = .outside) :
      Moves x .stop { x with stopper := if !x.workerRunning then .returned else .lower false }
  | destroy (hst : x.stopper = .outside) : Moves x .destroy { x with stopper := .lower true }
  | lower (destroying : Bool) (hst : x.stopper = .lower destroying) :
      Moves x .lower { x with workerRunning := false, stopper := .notify destroying }
  | notifyWorker (destroying : Bool) (hst : x.stopper = .notify destroying) :
      Moves x .notifyWorker { x.notifyOne with stopper := .join destroying }
  | join (destroying : Bool) (hst : x.stopper = .join destroying) (hw : x.worker = .exited) :
      Moves x .join { x with stopper := if destroying then .returned else .clear }
  | clear (hst : x.stopper = .clear) :
      Moves x .clear { x with operationQueue := [], stopper := .returned }

/-- A step is one of these moves. -/
theorem step_moves {l : ExecutorLabel ι} (hs : x.step l = some y) : Moves x l y := by
  cases l with
  | submit i err =>
    obtain ⟨⟨hout, herr⟩, hy⟩ := Option.ite_none_right_eq_some.mp hs
    cases hy
    rw [herr]
    exact .submit i hout
  | notify i =>
    obtain ⟨hcaller, hy⟩ := Option.ite_none_right_eq_some.mp hs
    cases hy
    exact .notify i hcaller
  | loop =>
    obtain ⟨hw, hy⟩ := Option.ite_none_right_eq_some.mp hs
    cases hy
    exact .loop hw
  | wake =>
    obtain ⟨hw, hy⟩ := Option.ite_none_right_eq_some.mp hs
    cases hy
    exact .wake hw
  | execute i responce =>
    obtain ⟨hw, hy⟩ := Option.ite_none_right_eq_some.mp hs
    cases hy
    exact .execute i responce hw
  | answer i responce =>
    obtain ⟨hw, hy⟩ := Option.ite_none_right_eq_some.mp hs
    cases hy
    exact .answer i responce hw
  | stop =>
    obtain ⟨hst, hy⟩ := Option.ite_none_right_eq_some.mp hs
    cases hy
    exact .stop hst
  | destroy =>
    obtain ⟨hst, hy⟩ := Option.ite_none_right_eq_some.mp hs
    cases hy
    exact .destroy hst
  | lower =>
    simp only [step] at hs
    split at hs
    next destroying hst => cases hs; exact .lower destroying hst
    next => exact nomatch hs
  | notifyWorker =>
    simp only [step] at hs
    split at hs
    next destroying hst => cases hs; exact .notifyWorker destroying hst
    next => exact nomatch hs
  | join =>
    simp only [step] at hs
    split at hs
    next destroying hst =>
      obtain ⟨hw, hy⟩ := Option.ite_none_right_eq_some.mp hs
      cases hy
      exact .join destroying hst hw
    next => exact nomatch hs
  | clear =>
    obtain ⟨hst, hy⟩ := Option.ite_none_right_eq_some.mp hs
    cases hy
    exact .clear hst

/-! ## 3. What every state says about the threads -/

/-- **What every state says about the threads.** -/
structure Guided (x : RdmaExecutor ι) : Prop where
  running : x.workerRunning = true ↔ x.stopper = .outside ∨ ∃ d, x.stopper = .lower d
  exited : x.worker = .exited → x.workerRunning = false ∧ x.operationQueue = []
  joined : x.stopper = .clear ∨ x.stopper = .returned → x.worker = .exited
  /-- whatever a sleeping worker missed, somebody is about to tell it -/
  woken : x.worker = .waiting →
    (x.operationQueue = [] ∨ ∃ i, x.caller i = .notifying) ∧
      (x.workerRunning = false → ∃ d, x.stopper = .notify d)

omit [DecidableEq ι] in
/-- A freshly started executor has an awake worker and nobody stopping it. -/
theorem guided_start : Guided (start ι) where
  running := by simp [start]
  exited := by simp [start]
  joined := by simp [start]
  woken := by simp [start]

/-- A worker that has just been notified is awake. -/
theorem notifyOne_worker (x : RdmaExecutor ι) : x.notifyOne.worker ≠ .waiting := by
  unfold notifyOne
  split <;> simp_all

theorem notifyOne_exited {x : RdmaExecutor ι} :
    x.notifyOne.worker = .exited ↔ x.worker = .exited := by
  unfold notifyOne
  split <;> simp_all

/-- A submission keeps the threads guided: whoever fills the queue is about to notify. -/
theorem Guided.submit {i : ι} (h : Guided x) (hout : x.caller i = .outside) :
    Guided (x.submitOperation i).1 := by
  have hnotifying : ∀ c, (∃ j, x.caller j = .notifying) →
      ∃ j, Function.update x.caller i c j = .notifying := by
    rintro c ⟨j, hj⟩
    refine ⟨j, ?_⟩
    rw [Function.update_of_ne (fun hji => by simp [hji ▸ hj] at hout), hj]
  unfold submitOperation
  split
  next hrun =>
    exact ⟨h.running, h.exited, h.joined, fun hw =>
      ⟨(h.woken hw).1.imp_right (hnotifying _), (h.woken hw).2⟩⟩
  next hrun =>
    have hrun : x.workerRunning = true := by simpa using hrun
    refine ⟨h.running, fun hw => ?_, h.joined, fun hw => ⟨.inr ⟨i, ?_⟩, (h.woken hw).2⟩⟩
    · exact absurd hrun (by simp [(h.exited hw).1])
    · exact Function.update_self ..

omit [DecidableEq ι] in
/-- A step after which the worker is awake keeps the threads guided, if the worker has neither
exited nor come back by it. -/
theorem Guided.awake (h : Guided x) (hrunning : y.workerRunning = x.workerRunning)
    (hstopper : y.stopper = x.stopper) (hawake : y.worker ≠ .waiting)
    (hexited : y.worker = .exited ↔ x.worker = .exited)
    (hqueue : x.operationQueue = [] → y.operationQueue = []) : Guided y where
  running := by rw [hrunning, hstopper]; exact h.running
  exited := by
    rw [hexited, hrunning]
    exact fun hw => (h.exited hw).imp_right hqueue
  joined := by rw [hexited, hstopper]; exact h.joined
  woken := fun hw => absurd hw hawake

omit [DecidableEq ι] in
/-- The worker's critical section keeps the threads guided: it falls asleep with nothing to do and
exits with nothing left. -/
theorem Guided.loop (h : Guided x) (hw : x.worker = .head) : Guided x.workerLoop := by
  have hjoined : ¬ (x.stopper = .clear ∨ x.stopper = .returned) := by
    intro hs
    simpa [hw] using h.joined hs
  unfold workerLoop
  split
  next hsleep =>
    simp only [Bool.not_or, Bool.not_not, Bool.and_eq_true, List.isEmpty_iff] at hsleep
    exact ⟨h.running, nofun, fun hs => absurd hs hjoined, fun _ =>
      ⟨.inl hsleep.2, fun hstopped => absurd hsleep.1 (Bool.eq_false_iff.mp hstopped)⟩⟩
  next =>
    split
    next hleave =>
      simp only [Bool.and_eq_true, Bool.not_eq_true', List.isEmpty_iff] at hleave
      exact ⟨h.running, fun _ => hleave, fun _ => rfl, nofun⟩
    next =>
      split
      next => exact h
      next i rest hq =>
        exact h.awake rfl rfl (by simp) (by simp [hw]) (by simp [hq])

omit [DecidableEq ι] in
/-- The stopper's first step finds the executor running. -/
theorem Guided.begin (h : Guided x) (hst : x.stopper = .outside) (destroying : Bool) :
    x.workerRunning = true ∧ Guided { x with stopper := .lower destroying } := by
  have hrun : x.workerRunning = true := h.running.mpr (.inl hst)
  exact ⟨hrun, by simp [hrun], h.exited, by simp,
    fun hw => ⟨(h.woken hw).1, fun hstopped => absurd hrun (Bool.eq_false_iff.mp hstopped)⟩⟩

omit [DecidableEq ι] in
/-- Once the flag is lowered a notification is due. -/
theorem Guided.lower (h : Guided x) (destroying : Bool) :
    Guided { x with workerRunning := false, stopper := .notify destroying } where
  running := by simp
  exited := fun hw => ⟨rfl, (h.exited hw).2⟩
  joined := by simp
  woken := fun hw => ⟨(h.woken hw).1, fun _ => ⟨destroying, rfl⟩⟩

/-- The stopper's notification. -/
theorem Guided.notifyWorker {destroying : Bool} (h : Guided x)
    (hst : x.stopper = .notify destroying) :
    Guided { x.notifyOne with stopper := .join destroying } where
  running := by
    have hrunning := h.running
    simp only [hst, reduceCtorEq, exists_const, or_self, iff_false] at hrunning
    simpa [notifyOne] using hrunning
  exited := fun hw => h.exited (notifyOne_exited.mp hw)
  joined := by simp
  woken := fun hw => absurd hw (notifyOne_worker x)

omit [DecidableEq ι] in
/-- Once the worker has exited the stopper finishes, with an empty queue. -/
theorem Guided.finish (h : Guided x) (hw : x.worker = .exited) (stopper : Stopper)
    (hst : stopper = .clear ∨ stopper = .returned) :
    Guided { x with operationQueue := [], stopper := stopper } where
  running := by
    have := (h.exited hw).1
    rcases hst with rfl | rfl <;> simp [this]
  exited := fun _ => ⟨(h.exited hw).1, rfl⟩
  joined := fun _ => hw
  woken := fun hwait => by simp [hw] at hwait

/-- **Every step keeps the threads guided.** -/
theorem Guided.step {l : ExecutorLabel ι} (h : Guided x) (hs : x.step l = some y) : Guided y := by
  cases step_moves hs with
  | submit i hout => exact h.submit hout
  | notify i hcaller => exact h.awake rfl rfl (notifyOne_worker x) notifyOne_exited id
  | loop hw => exact h.loop hw
  | wake hw => exact h.awake rfl rfl (by simp) (by simp [hw]) id
  | execute i responce hw => exact h.awake rfl rfl (by simp) (by simp [hw]) id
  | answer i responce hw => exact h.awake rfl rfl (by simp) (by simp [hw]) id
  | stop hst =>
    obtain ⟨hrun, hnext⟩ := h.begin hst false
    rw [if_neg (by simp [hrun])]
    exact hnext
  | destroy hst => exact (h.begin hst true).2
  | lower destroying hst => exact h.lower destroying
  | notifyWorker destroying hst => exact h.notifyWorker hst
  | join destroying hst hw =>
    have hfinish := h.finish hw (if destroying then .returned else .clear)
      (by cases destroying <;> simp)
    rwa [← (h.exited hw).2] at hfinish
  | clear hst => exact h.finish (h.joined (.inl hst)) .returned (.inr rfl)

end RdmaExecutor

end DocaCpp
