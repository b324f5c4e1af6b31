/-
# Stopping the worker

`Stop` and the destructor lower the flag and join the worker, and the worker leaves its loop once
the queue is empty.  In between it executes what is in the queue, and waits for each task in a loop
of its own, which it leaves when it reads that the task is over.  The loop has a timeout, and both
operations take its default of zero, with which it never expires.

So the worker comes to its end exactly if every task it still has to wait for is over at some time:
a rank bounds its steps (`Ending.step`), and a task whose completion never comes keeps it polling
for ever (`Stuck.progress`).
-/
import DocaCpp.Executor.Execute
import DocaCpp.Executor.Operations

namespace DocaCpp

/-! ## 1. Waiting for a task -/

/-- The default of `waitForTaskState`, which both operations take. -/
def waitTimeout : ℕ := 0

/-- What the worker reads while it waits for a task: its state, one time after the other, and what
the clock says at each iteration. -/
structure TaskReads where
  states : ℕ → TaskState
  elapsed : ℕ → ℕ

/-- One iteration of `RdmaExecutor::waitForTaskState`: what it returns, if it leaves the loop. -/
def TaskReads.iteration (reads : TaskReads) (n : ℕ) : Option error :=
  if reads.states (2 * n) = .completed then some none
  else if timeoutExpired (reads.elapsed n) waitTimeout then some (some .timeoutExpired)
  -- `Progress` calls the callbacks, and the state is read again
  else if reads.states (2 * n + 1) = .error then some (some (.new "Task completed with error"))
  else none

/-- The operation returns in this iteration; one that does not wait returns at once. -/
def endsAt : Option TaskReads → ℕ → Bool
  | none, _ => true
  | some reads, n => (reads.iteration n).isSome

/-- The worker waits for the task, and never reads that it is over. -/
def Lost (operation : Option TaskReads) : Prop :=
  ∃ reads, operation = some reads ∧
    ∀ n, reads.states (2 * n) ≠ .completed ∧ reads.states (2 * n + 1) ≠ .error

/-- The loop is left in an iteration exactly if the task is found to be over, for the timeout does
not expire. -/
theorem TaskReads.iteration_none {reads : TaskReads} {n : ℕ} :
    reads.iteration n = none ↔
      reads.states (2 * n) ≠ .completed ∧ reads.states (2 * n + 1) ≠ .error := by
  have hnever : timeoutExpired (reads.elapsed n) waitTimeout = false := rfl
  unfold iteration
  rw [hnever]
  split
  next hc => simp [hc]
  next hc =>
    rw [if_neg Bool.false_ne_true]
    split
    next he => simp [he]
    next he => exact iff_of_true rfl ⟨hc, he⟩

/-- **The lost tasks** are those whose wait no iteration ends. -/
theorem lost_iff {operation : Option TaskReads} :
    Lost operation ↔ ∀ n, endsAt operation n = false := by
  cases operation with
  | none => exact iff_of_false (fun ⟨_, h, _⟩ => nomatch h) fun h => nomatch h 0
  | some reads =>
    have hends : ∀ n, endsAt (some reads) n = false ↔
        reads.states (2 * n) ≠ .completed ∧ reads.states (2 * n + 1) ≠ .error := by
      intro n
      rw [← TaskReads.iteration_none]
      exact Option.isSome_eq_false_iff.trans Option.isNone_iff_eq_none
    simp only [hends]
    constructor
    · rintro ⟨_, ⟨⟩, h⟩
      exact h
    · intro h
      exact ⟨reads, rfl, h⟩

/-- What is read from the second iteration on. -/
def TaskReads.later (reads : TaskReads) : TaskReads :=
  ⟨fun n => reads.states (n + 2), fun n => reads.elapsed (n + 1)⟩

/-- Two reads that do not end the wait. -/
theorem waitLoop_cons_none {inv : BufferInventory} {state state' : TaskState}
    {rest : List TaskState} :
    (Executing.waitLoop (state :: state' :: rest)).on inv = none ↔
      (state ≠ .completed ∧ state' ≠ .error) ∧ (Executing.waitLoop rest).on inv = none := by
  rw [Executing.waitLoop]
  by_cases hc : state = .completed
  · rw [if_pos hc]
    exact iff_of_false nofun fun h => h.1.1 hc
  · rw [if_neg hc]
    by_cases he : state' = .error
    · rw [if_pos he]
      exact iff_of_false nofun fun h => h.1.2 he
    · rw [if_neg he]
      exact (and_iff_right ⟨hc, he⟩).symm

/-- **The loop, iteration by iteration**: `waitLoop` does not come back from as many reads exactly
if no iteration ends it. -/
theorem waitLoop_none_iff (inv : BufferInventory) (m : ℕ) (reads : TaskReads) :
    (Executing.waitLoop ((List.range (2 * m)).map reads.states)).on inv = none ↔
      ∀ n < m, reads.iteration n = none := by
  induction m generalizing reads with
  | zero => exact iff_of_true rfl nofun
  | succ m ih =>
    have hlist : (List.range (2 * (m + 1))).map reads.states =
        reads.states 0 :: reads.states 1 :: (List.range (2 * m)).map reads.later.states := by
      rw [Nat.mul_succ, List.range_succ_eq_map, List.range_succ_eq_map]
      simp [TaskReads.later, Function.comp_def]
    have hlater : ∀ n, reads.iteration (n + 1) = none ↔ reads.later.iteration n = none := by
      intro n
      rw [TaskReads.iteration_none, TaskReads.iteration_none]
      rfl
    rw [hlist, waitLoop_cons_none, ih, Nat.forall_lt_succ_left, TaskReads.iteration_none]
    simp only [hlater]

/-- **A lost task is one whose wait never comes back**, however often the state is read. -/
theorem lost_waits (inv : BufferInventory) (reads : TaskReads) :
    Lost (some reads) ↔
      ∀ m, (Executing.waitLoop ((List.range (2 * m)).map reads.states)).on inv = none := by
  simp only [waitLoop_none_iff, TaskReads.iteration_none]
  constructor
  · rintro ⟨_, ⟨⟩, h⟩ m n _
    exact h n
  · intro h
    exact ⟨reads, rfl, fun n => h (n + 1) n (Nat.lt_succ_self n)⟩

/-! ## 2. The executor, with a worker that waits -/

/-- An executor, and how many iterations its worker has spent on the task it waits for. -/
structure PollingExecutor (ι : Type) where
  executor : RdmaExecutor ι
  polls : ℕ := 0

/-- What a thread can do next; `poll` is an iteration that does not end the wait. -/
inductive PollingLabel (ι : Type)
  | thread (l : ExecutorLabel ι)
  | poll

/-- The step is one of the worker thread. -/
def PollingLabel.ofWorker {ι : Type} : PollingLabel ι → Bool
  | .poll | .thread .wake => true
  | .thread l => l.works

/-- The operation in hand returns. -/
def ExecutorLabel.executes {ι : Type} : ExecutorLabel ι → Bool
  | .execute _ _ => true
  | _ => false

namespace PollingExecutor

variable {ι : Type} [DecidableEq ι]

/-- An executor that has been started. -/
def start (ι : Type) : PollingExecutor ι := { executor := RdmaExecutor.start ι }

/-- The operation in hand returns in this iteration. -/
def returns (operations : ι → Option TaskReads) (x : PollingExecutor ι) : Bool :=
  match x.executor.worker with
  | .executing i => endsAt (operations i) x.polls
  | _ => true

/-- One step of one thread, where the operations wait as they do. -/
def step (operations : ι → Option TaskReads) (x : PollingExecutor ι) :
    PollingLabel ι → Option (PollingExecutor ι)
  | .poll => if x.returns operations then none else some { x with polls := x.polls + 1 }
  | .thread l =>
    if l.executes && !x.returns operations then none
    else
      (x.executor.step l).map fun e =>
        { executor := e, polls := if l.executes then 0 else x.polls }

end PollingExecutor

/-- The executor with a worker that waits, as a machine. -/
def polling {ι : Type} [DecidableEq ι] (operations : ι → Option TaskReads) :
    Machine (PollingExecutor ι) (PollingLabel ι) :=
  ⟨PollingExecutor.step operations⟩

namespace PollingExecutor

variable {ι : Type} [DecidableEq ι] {operations : ι → Option TaskReads}
  {x y : PollingExecutor ι} {l : PollingLabel ι} {ls : List (PollingLabel ι)}

omit [DecidableEq ι] in
theorem returns_executing {i : ι} (h : x.executor.worker = .executing i) :
    x.returns operations = endsAt (operations i) x.polls := by
  rw [returns, h]

/-- **What the steps can do**: an iteration of the wait, the end of one, or a move of the executor
that is neither. -/
theorem step_cases (h : (polling operations).step x l = some y) :
    (∃ i, l = .poll ∧ x.executor.worker = .executing i ∧ endsAt (operations i) x.polls = false ∧
        y = { x with polls := x.polls + 1 }) ∨
      (∃ i responce, l = .thread (.execute i responce) ∧ x.executor.worker = .executing i ∧
        endsAt (operations i) x.polls = true ∧
        y = { executor := { x.executor with worker := .answering i responce }, polls := 0 }) ∨
      ∃ m e, l = .thread m ∧ m.executes = false ∧ x.executor.step m = some e ∧
        y = { x with executor := e } := by
  cases l with
  | poll =>
    obtain ⟨hreturns, hy⟩ := Option.ite_none_left_eq_some.mp h
    cases hy
    cases hw : x.executor.worker with
    | executing i =>
      rw [returns_executing hw, Bool.not_eq_true] at hreturns
      exact .inl ⟨i, rfl, rfl, hreturns, rfl⟩
    | head => simp [returns, hw] at hreturns
    | waiting => simp [returns, hw] at hreturns
    | answering i responce => simp [returns, hw] at hreturns
    | exited => simp [returns, hw] at hreturns
  | thread m =>
    obtain ⟨hreturns, hy⟩ := Option.ite_none_left_eq_some.mp h
    obtain ⟨e, he, rfl⟩ := Option.map_eq_some_iff.mp hy
    cases hm : m.executes with
    | false => exact .inr (.inr ⟨m, e, rfl, hm, he, rfl⟩)
    | true =>
      right; left
      cases RdmaExecutor.step_moves he with
      | execute i responce hw =>
        rw [hm, returns_executing hw, Bool.true_and, Bool.not_eq_true', Bool.not_eq_false]
          at hreturns
        exact ⟨i, responce, rfl, hw, hreturns, rfl⟩
      | _ => cases hm

/-- What an executor does that is not an iteration of the wait. -/
def ofThread : PollingLabel ι → Option (ExecutorLabel ι)
  | .thread l => some l
  | .poll => none

/-- **The executor is the one of the threads**: without the iterations of the wait, a run is a run
of that machine. -/
theorem polling_refines (h : (polling operations).Run (start ι) ls x) :
    (DocaCpp.executor ι).Run (RdmaExecutor.start ι) (ls.filterMap ofThread) x.executor := by
  refine h.project PollingExecutor.executor ofThread fun ms t l u _ _ hs => ?_
  cases l with
  | poll =>
    obtain ⟨-, hu⟩ := Option.ite_none_left_eq_some.mp hs
    cases hu
    rfl
  | thread m =>
    obtain ⟨-, hu⟩ := Option.ite_none_left_eq_some.mp hs
    obtain ⟨e, he, rfl⟩ := Option.map_eq_some_iff.mp hu
    exact ⟨trivial, he⟩

/-! ## 3. What every state says -/

/-- What every state says about the worker and its wait. -/
structure Kept (operations : ι → Option TaskReads) (x : PollingExecutor ι) : Prop where
  guided : RdmaExecutor.Guided x.executor
  fresh : (∀ i, x.executor.worker ≠ .executing i) → x.polls = 0
  waited : ∀ i, x.executor.worker = .executing i → ∀ n < x.polls, endsAt (operations i) n = false

omit [DecidableEq ι] in
/-- The worker's critical section, by what it finds. -/
theorem workerLoop_cases (e : RdmaExecutor ι) :
    (e.workerRunning = true ∧ e.operationQueue = [] ∧
        e.workerLoop = { e with worker := .waiting }) ∨
      (e.workerRunning = false ∧ e.operationQueue = [] ∧
        e.workerLoop = { e with worker := .exited }) ∨
      ∃ i rest, e.operationQueue = i :: rest ∧
        e.workerLoop = { e with operationQueue := rest, worker := .executing i } := by
  cases hq : e.operationQueue with
  | nil => cases hr : e.workerRunning <;> simp [RdmaExecutor.workerLoop, hq, hr]
  | cons i rest => simp [RdmaExecutor.workerLoop, hq]

/-- Notifying at most wakes the worker. -/
theorem notifyOne_cases (e : RdmaExecutor ι) :
    e.notifyOne.worker = e.worker ∨ e.worker = .waiting ∧ e.notifyOne.worker = .head := by
  unfold RdmaExecutor.notifyOne
  by_cases hw : e.worker = .waiting
  · exact .inr ⟨hw, if_pos hw⟩
  · exact .inl (if_neg hw)

theorem notifyOne_executing {e : RdmaExecutor ι} {i : ι} :
    e.notifyOne.worker = .executing i ↔ e.worker = .executing i := by
  rcases notifyOne_cases e with hsame | ⟨hw, hhead⟩
  · rw [hsame]
  · rw [hhead, hw]
    exact iff_of_false nofun nofun

@[simp] theorem submitOperation_worker (e : RdmaExecutor ι) (i : ι) :
    (e.submitOperation i).1.worker = e.worker := by
  unfold RdmaExecutor.submitOperation
  split <;> rfl

omit [DecidableEq ι] in
/-- A move after which the worker has the same in hand. -/
theorem Kept.idle {e : RdmaExecutor ι} (h : Kept operations x) (hguided : RdmaExecutor.Guided e)
    (hsame : ∀ i, e.worker = .executing i ↔ x.executor.worker = .executing i) :
    Kept operations { x with executor := e } where
  guided := hguided
  fresh := fun hne => h.fresh fun i hi => hne i ((hsame i).mpr hi)
  waited := fun i hi => h.waited i ((hsame i).mp hi)

/-- **Every step keeps it.** -/
theorem Kept.step (h : Kept operations x) (hs : (polling operations).step x l = some y) :
    Kept operations y := by
  rcases step_cases hs with ⟨i, rfl, hw, hends, rfl⟩ | ⟨i, responce, rfl, hw, hends, rfl⟩ |
    ⟨m, e, rfl, hm, he, rfl⟩
  · refine ⟨h.guided, fun hne => absurd hw (hne i), fun j hj n hn => ?_⟩
    cases hw.symm.trans hj
    rcases Nat.lt_succ_iff_lt_or_eq.mp hn with hn | rfl
    · exact h.waited i hw n hn
    · exact hends
  · exact ⟨h.guided.awake rfl rfl (by simp) (by simp [hw]) id, fun _ => rfl, nofun⟩
  · have hguided := h.guided.step he
    cases RdmaExecutor.step_moves he with
    | loop hw =>
      have hpolls : x.polls = 0 := h.fresh (by simp [hw])
      exact ⟨hguided, fun _ => hpolls, fun i _ n hn => by simp [hpolls] at hn⟩
    | execute i responce hw => cases hm
    | answer i responce hw => exact h.idle hguided (by simp [hw])
    | wake hw => exact h.idle hguided (by simp [hw])
    | notify i hcaller => exact h.idle hguided fun _ => notifyOne_executing
    | notifyWorker destroying hst => exact h.idle hguided fun _ => notifyOne_executing
    | submit i hout => exact h.idle hguided (by simp)
    | stop hst => exact h.idle hguided fun _ => Iff.rfl
    | destroy hst => exact h.idle hguided fun _ => Iff.rfl
    | lower destroying hst => exact h.idle hguided fun _ => Iff.rfl
    | join destroying hst hw => exact h.idle hguided fun _ => Iff.rfl
    | clear hst => exact h.idle hguided fun _ => Iff.rfl

omit [DecidableEq ι] in
theorem kept_start : Kept operations (start ι) where
  guided := RdmaExecutor.guided_start
  fresh := fun _ => rfl
  waited := nofun

theorem kept_run (h : (polling operations).Run (start ι) ls x) : Kept operations x :=
  h.invariant (I := fun _ => Kept operations) kept_start fun _ _ _ _ _ hkept _ hs => hkept.step hs

/-- A lowered flag stays lowered. -/
theorem stopped_step (h : x.executor.workerRunning = false)
    (hs : (polling operations).step x l = some y) : y.executor.workerRunning = false := by
  rcases step_cases hs with ⟨i, rfl, hw, hends, rfl⟩ | ⟨i, responce, rfl, hw, hends, rfl⟩ |
    ⟨m, e, rfl, hm, he, rfl⟩
  · exact h
  · exact h
  · cases RdmaExecutor.step_moves he with
    | submit i hout => simp [RdmaExecutor.submitOperation, h, RdmaExecutor.setValue]
    | loop hw =>
      rcases workerLoop_cases x.executor with ⟨_, _, heq⟩ | ⟨_, _, heq⟩ | ⟨i, rest, _, heq⟩
      all_goals
        dsimp only
        rw [heq]
        exact h
    | lower destroying hst => rfl
    | _ => exact h

/-! ## 4. Tasks that are over at some time -/

/-- The most iterations the worker still takes for what it has in hand, and some more steps to get
to the end of its loop. -/
def ahead (waits : ι → ℕ) (x : PollingExecutor ι) : ℕ :=
  match x.executor.worker with
  | .waiting => 2
  | .head => 1
  | .executing i => waits i - x.polls + 3
  | .answering _ _ => 2
  | .exited => 0

/-- A bound on the steps of the worker, where each task is over after so many iterations. -/
def rank (waits : ι → ℕ) (x : PollingExecutor ι) : ℕ :=
  x.ahead waits + (x.executor.operationQueue.map fun i => waits i + 3).sum

/-- The flag is lowered, and every task the worker still has to wait for is over after so many
iterations. -/
structure Ending (operations : ι → Option TaskReads) (waits : ι → ℕ) (x : PollingExecutor ι) :
    Prop where
  stopped : x.executor.workerRunning = false
  fresh : (∀ i, x.executor.worker ≠ .executing i) → x.polls = 0
  queued : ∀ i ∈ x.executor.operationQueue, endsAt (operations i) (waits i) = true
  inHand : ∀ i, x.executor.worker = .executing i →
    endsAt (operations i) (waits i) = true ∧ x.polls ≤ waits i

omit [DecidableEq ι] in
/-- A move that does not bring the worker on. -/
theorem Ending.idle {waits : ι → ℕ} {e : RdmaExecutor ι} (h : Ending operations waits x)
    (hstopped : e.workerRunning = false)
    (hworker : e.worker = x.executor.worker ∨ x.executor.worker = .waiting ∧ e.worker = .head)
    (hqueue : e.operationQueue = x.executor.operationQueue ∨ e.operationQueue = []) :
    Ending operations waits { x with executor := e } ∧
      rank waits { x with executor := e } ≤ rank waits x := by
  have hsame : ∀ i, e.worker = .executing i ↔ x.executor.worker = .executing i := by
    intro i
    rcases hworker with hsame | ⟨hw, hhead⟩
    · rw [hsame]
    · rw [hhead, hw]
      exact iff_of_false nofun nofun
  have hahead : ahead waits { x with executor := e } ≤ ahead waits x := by
    rcases hworker with hsame | ⟨hw, hhead⟩
    · simp [ahead, hsame]
    · simp [ahead, hw, hhead]
  refine ⟨⟨hstopped, fun hne => h.fresh fun i hi => hne i ((hsame i).mpr hi), fun i hi => ?_,
    fun i hi => h.inHand i ((hsame i).mp hi)⟩, ?_⟩
  · rcases hqueue with hqueue | hqueue
    · exact h.queued i (hqueue ▸ hi)
    · dsimp only at hi
      simp [hqueue] at hi
  · unfold rank
    dsimp only
    rcases hqueue with hqueue | hqueue
    · rw [hqueue]
      omega
    · rw [hqueue, List.map_nil, List.sum_nil]
      omega

/-- **Every step keeps the end in sight, and every step of the worker brings it nearer.** -/
theorem Ending.step {waits : ι → ℕ} (h : Ending operations waits x)
    (hs : (polling operations).step x l = some y) :
    Ending operations waits y ∧ rank waits y ≤ rank waits x ∧
      (l.ofWorker = true → rank waits y < rank waits x) := by
  have hstopped := stopped_step h.stopped hs
  have hidle : ∀ {m : ExecutorLabel ι} {z : PollingExecutor ι},
      Ending operations waits z ∧ rank waits z ≤ rank waits x →
      PollingLabel.ofWorker (.thread m) = false →
      Ending operations waits z ∧ rank waits z ≤ rank waits x ∧
        (PollingLabel.ofWorker (.thread m) = true → rank waits z < rank waits x) := by
    rintro m z ⟨hz, hle⟩ hm
    exact ⟨hz, hle, fun hw => absurd hw (Bool.eq_false_iff.mp hm)⟩
  have hbusy : ∀ {z : PollingExecutor ι} {m : PollingLabel ι}, Ending operations waits z →
      rank waits z < rank waits x →
      Ending operations waits z ∧ rank waits z ≤ rank waits x ∧
        (m.ofWorker = true → rank waits z < rank waits x) :=
    fun hz hlt => ⟨hz, hlt.le, fun _ => hlt⟩
  rcases step_cases hs with ⟨i, rfl, hw, hends, rfl⟩ | ⟨i, responce, rfl, hw, hends, rfl⟩ |
    ⟨m, e, rfl, hm, he, rfl⟩
  · -- one iteration more, and not the last
    obtain ⟨hover, hle⟩ := h.inHand i hw
    have hlt : x.polls < waits i := by
      refine lt_of_le_of_ne hle fun heq => ?_
      rw [heq, hover] at hends
      cases hends
    refine hbusy ⟨h.stopped, fun hne => absurd hw (hne i), h.queued, fun j hj => ?_⟩ ?_
    · cases hw.symm.trans hj
      exact ⟨hover, hlt⟩
    · simp only [rank, ahead, hw]
      omega
  · refine hbusy ⟨h.stopped, fun _ => rfl, h.queued, by simp⟩ ?_
    simp only [rank, ahead, hw]
    omega
  · cases RdmaExecutor.step_moves he with
    | loop hw =>
      have hpolls : x.polls = 0 := h.fresh (by simp [hw])
      rcases workerLoop_cases x.executor with ⟨hrunning, _⟩ | ⟨_, hq, heq⟩ | ⟨i, rest, hq, heq⟩
      · rw [h.stopped] at hrunning
        cases hrunning
      · rw [heq]
        refine hbusy ⟨h.stopped, fun _ => hpolls, h.queued, by simp⟩ ?_
        simp [rank, ahead, hw]
      · rw [heq]
        have hmem : ∀ j ∈ i :: rest, endsAt (operations j) (waits j) = true := hq ▸ h.queued
        refine hbusy ⟨h.stopped, fun _ => hpolls, ?_, ?_⟩ ?_
        · exact fun j hj => hmem j (List.mem_cons_of_mem i hj)
        · rintro j ⟨⟩
          exact ⟨hmem i List.mem_cons_self, by simp [hpolls]⟩
        · simp only [rank, ahead, hw, hq, List.map_cons, List.sum_cons]
          omega
    | execute i responce hw => cases hm
    | answer i responce hw =>
      refine hbusy ⟨h.stopped, fun _ => h.fresh (by simp [hw]), h.queued, by simp⟩ ?_
      simp [rank, ahead, hw, RdmaExecutor.setValue]
    | wake hw =>
      refine hbusy ⟨h.stopped, fun _ => h.fresh (by simp [hw]), h.queued, by simp⟩ ?_
      simp [rank, ahead, hw]
    | notify i hcaller =>
      exact hidle (h.idle hstopped (notifyOne_cases x.executor) (.inl rfl)) rfl
    | notifyWorker destroying hst =>
      exact hidle (h.idle hstopped (notifyOne_cases x.executor) (.inl rfl)) rfl
    | submit i hout =>
      have hrefused : (x.executor.submitOperation i).1.operationQueue
          = x.executor.operationQueue := by
        simp [RdmaExecutor.submitOperation, h.stopped, RdmaExecutor.setValue]
      exact hidle (h.idle hstopped (.inl (submitOperation_worker _ i)) (.inl hrefused)) rfl
    | stop hst => exact hidle (h.idle hstopped (.inl rfl) (.inl rfl)) rfl
    | destroy hst => exact hidle (h.idle hstopped (.inl rfl) (.inl rfl)) rfl
    | lower destroying hst => exact hidle (h.idle hstopped (.inl rfl) (.inl rfl)) rfl
    | join destroying hst hw => exact hidle (h.idle hstopped (.inl rfl) (.inl rfl)) rfl
    | clear hst => exact hidle (h.idle hstopped (.inl rfl) (.inr rfl)) rfl

/-- The operations the worker still has to execute. -/
def Outstanding (x : PollingExecutor ι) (i : ι) : Prop :=
  x.executor.worker = .executing i ∨ i ∈ x.executor.operationQueue

/-- **The worker's steps are bounded** if no outstanding task is lost. -/
theorem Kept.bounded (h : Kept operations x) (hstopped : x.executor.workerRunning = false)
    (hnone : ∀ i, x.Outstanding i → ¬ Lost (operations i)) :
    ∃ n, ∀ ls y, (polling operations).Run x ls y → ls.countP PollingLabel.ofWorker ≤ n := by
  have hexists : ∀ i, ∃ n, x.Outstanding i → endsAt (operations i) n = true := by
    intro i
    by_cases hi : x.Outstanding i
    · have hnot := hnone i hi
      rw [lost_iff] at hnot
      push Not at hnot
      obtain ⟨n, hn⟩ := hnot
      exact ⟨n, fun _ => by simpa using hn⟩
    · exact ⟨0, fun hi' => absurd hi' hi⟩
  choose waits hwaits using hexists
  have hending : Ending operations waits x := by
    refine ⟨hstopped, h.fresh, fun i hi => hwaits i (.inr hi), fun i hi => ?_⟩
    have hends := hwaits i (.inl hi)
    refine ⟨hends, ?_⟩
    -- an iteration that ends the wait has not been taken yet
    by_contra hlt
    rw [h.waited i hi (waits i) (Nat.lt_of_not_le hlt)] at hends
    cases hends
  exact ⟨rank waits x, fun ls y hrun =>
    hrun.countP_le _ _ (rank waits) (fun t l u ht hs => ht.step hs) hending⟩

/-! ## 5. A task that is lost -/

/-- An executor that is stopped while a task that is lost is still to be waited for. -/
structure Stuck (operations : ι → Option TaskReads) (i : ι) (x : PollingExecutor ι) : Prop where
  kept : Kept operations x
  stopped : x.executor.workerRunning = false
  lost : Lost (operations i)
  outstanding : x.Outstanding i

theorem thread_step {m : ExecutorLabel ι} {e : RdmaExecutor ι}
    (hm : m.executes = false ∨ x.returns operations = true) (he : x.executor.step m = some e) :
    (polling operations).step x (.thread m)
      = some { executor := e, polls := if m.executes then 0 else x.polls } := by
  have hpass : ¬ (m.executes && !x.returns operations) = true := by
    rcases hm with hm | hm <;> simp [hm]
  simp only [polling, step]
  rw [if_neg hpass, he]
  rfl

theorem thread_enabled {m : ExecutorLabel ι}
    (hm : m.executes = false ∨ x.returns operations = true)
    (he : (x.executor.step m).isSome = true) :
    ((polling operations).step x (.thread m)).isSome = true := by
  obtain ⟨e, he⟩ := Option.isSome_iff_exists.mp he
  rw [thread_step hm he]
  rfl

theorem poll_step (h : x.returns operations = false) :
    (polling operations).step x .poll = some { x with polls := x.polls + 1 } :=
  if_neg (Bool.eq_false_iff.mp h)

/-- **The worker can always go on, and the task stays outstanding.** -/
theorem Stuck.progress {i : ι} (h : Stuck operations i x) :
    ∃ l y, l.ofWorker = true ∧ (polling operations).step x l = some y ∧
      Stuck operations i y := by
  have hnext : ∀ {l : PollingLabel ι} {y : PollingExecutor ι}, l.ofWorker = true →
      (polling operations).step x l = some y → y.Outstanding i →
      ∃ l y, l.ofWorker = true ∧ (polling operations).step x l = some y ∧
        Stuck operations i y :=
    fun hl hs hout =>
      ⟨_, _, hl, hs, h.kept.step hs, stopped_step h.stopped hs, h.lost, hout⟩
  cases hw : x.executor.worker with
  | head =>
    have hmem : i ∈ x.executor.operationQueue := by
      simpa [Outstanding, hw] using h.outstanding
    have hs : (polling operations).step x (.thread .loop) = some _ :=
      thread_step (.inl rfl) (if_pos hw)
    refine hnext rfl hs ?_
    rcases workerLoop_cases x.executor with ⟨_, hq, _⟩ | ⟨_, hq, _⟩ | ⟨j, rest, hq, heq⟩
    · rw [hq] at hmem
      cases hmem
    · rw [hq] at hmem
      cases hmem
    · rw [hq, List.mem_cons] at hmem
      rw [heq]
      rcases hmem with rfl | hmem
      · exact .inl rfl
      · exact .inr hmem
  | waiting =>
    have hmem : i ∈ x.executor.operationQueue := by
      simpa [Outstanding, hw] using h.outstanding
    exact hnext rfl (thread_step (m := .wake) (.inl rfl) (if_pos hw)) (.inr hmem)
  | executing j =>
    cases hends : endsAt (operations j) x.polls with
    | false =>
      exact hnext rfl (poll_step ((returns_executing hw).trans hends)) h.outstanding
    | true =>
      have hne : j ≠ i := by
        rintro rfl
        rw [lost_iff.mp h.lost] at hends
        cases hends
      have hmem : i ∈ x.executor.operationQueue := by
        have hout := h.outstanding
        rw [Outstanding, hw] at hout
        refine hout.resolve_left fun hi => hne ?_
        cases hi
        rfl
      have hreturns : x.returns operations = true := (returns_executing hw).trans hends
      exact hnext rfl (thread_step (m := .execute j (none, none)) (.inr hreturns) (if_pos hw))
        (.inr hmem)
  | answering j responce =>
    have hmem : i ∈ x.executor.operationQueue := by
      simpa [Outstanding, hw] using h.outstanding
    exact hnext rfl (thread_step (m := .answer j responce) (.inl rfl) (if_pos hw)) (.inr hmem)
  | exited =>
    have hout := h.outstanding
    rw [Outstanding, hw, (h.kept.guided.exited hw).2] at hout
    rcases hout with hout | hout <;> cases hout

/-- **A lost task keeps the worker busy for ever.** -/
theorem Stuck.endless {i : ι} (h : Stuck operations i x) :
    (polling operations).Endless (fun l => l.ofWorker = true) x :=
  Machine.endless_of_progress (Stuck operations i) (fun _ ht => ht.progress) h

/-! ## 6. The result -/

/-- The worker has exited, and the thread that joins it can go on; or it can take a step itself; or
it is asleep, and the stopping thread is about to notify it. -/
def CanGoOn (operations : ι → Option TaskReads) (x : PollingExecutor ι) : Prop :=
  match x.executor.worker with
  | .exited => ∀ destroying, x.executor.stopper = .join destroying →
      ((polling operations).step x (.thread .join)).isSome = true
  | .waiting => ((polling operations).step x (.thread .notifyWorker)).isSome = true
  | _ => ∃ l, l.ofWorker = true ∧ ((polling operations).step x l).isSome = true

/-- **The worker comes to its end**: it takes a bounded number of steps, whatever the other threads
do, and nothing keeps it from taking them. -/
structure WorkerEnds (operations : ι → Option TaskReads) (x : PollingExecutor ι) : Prop where
  bounded : ∃ n, ∀ ls y, (polling operations).Run x ls y → ls.countP PollingLabel.ofWorker ≤ n
  goesOn : ∀ ls y, (polling operations).Run x ls y → y.CanGoOn operations

theorem Kept.canGoOn (h : Kept operations x) (hstopped : x.executor.workerRunning = false) :
    x.CanGoOn operations := by
  unfold CanGoOn
  cases hw : x.executor.worker with
  | head => exact ⟨.thread .loop, rfl, thread_enabled (.inl rfl) (by simp [RdmaExecutor.step, hw])⟩
  | waiting =>
    obtain ⟨destroying, hst⟩ := (h.guided.woken hw).2 hstopped
    exact thread_enabled (.inl rfl) (by simp [RdmaExecutor.step, hst])
  | executing i =>
    cases hends : endsAt (operations i) x.polls with
    | false =>
      have hs : (polling operations).step x .poll = some _ :=
        poll_step ((returns_executing hw).trans hends)
      exact ⟨.poll, rfl, Option.isSome_of_eq_some hs⟩
    | true =>
      refine ⟨.thread (.execute i (none, none)), rfl, thread_enabled (.inr ?_) ?_⟩
      · exact (returns_executing hw).trans hends
      · simp [RdmaExecutor.step, hw]
  | answering i responce =>
    exact ⟨.thread (.answer i responce), rfl,
      thread_enabled (.inl rfl) (by simp [RdmaExecutor.step, hw])⟩
  | exited =>
    intro destroying hst
    exact thread_enabled (.inl rfl) (by simp [RdmaExecutor.step, hst, hw])

/-- A lost task that is outstanding keeps the worker from its end. -/
theorem Stuck.not_ends {i : ι} (h : Stuck operations i x) : ¬ x.WorkerEnds operations := by
  rintro ⟨⟨n, hn⟩, -⟩
  obtain ⟨ls, y, hrun, hlength, hall⟩ := h.endless.run (n + 1)
  have hcount : ls.countP PollingLabel.ofWorker = n + 1 := by
    rw [List.countP_eq_length.mpr hall, hlength]
  have hle := hn ls y hrun
  omega

/-- **Stopping ends the worker exactly if none of the tasks it still has to wait for is lost.** -/
theorem stopping_ends_iff (h : (polling operations).Run (start ι) ls x)
    (hstopped : x.executor.workerRunning = false) :
    x.WorkerEnds operations ↔ ∀ i, x.Outstanding i → ¬ Lost (operations i) := by
  have hkept := kept_run h
  constructor
  · intro hends i hout hlost
    exact Stuck.not_ends ⟨hkept, hstopped, hlost, hout⟩ hends
  · intro hnone
    refine ⟨hkept.bounded hstopped hnone, fun ms y hrun => ?_⟩
    have hlowered : y.executor.workerRunning = false :=
      hrun.invariant (I := fun _ z => z.executor.workerRunning = false) hstopped
        fun _ _ _ _ _ hz _ hs => stopped_step hz hs
    exact (kept_run (h.append hrun)).canGoOn hlowered

/-- The reads of a worker whose task completes while it waits. -/
def completing : TaskReads := ⟨fun n => if n < 2 then .submitted else .completed, fun n => n⟩

/-- The reads of a worker whose task is never completed. -/
def unanswered : TaskReads := ⟨fun _ => .submitted, fun n => n⟩

/-- An operation is handed in and begun, and the executor is destroyed. -/
def destroyedLabels : List (PollingLabel Unit) :=
  [.thread (.submit () none), .thread (.notify ()), .thread .loop, .poll, .thread .destroy,
    .thread .lower]

theorem stopping_ends_sample :
    ∃ x, (polling fun _ : Unit => some completing).Run (start Unit) destroyedLabels x ∧
      (x.WorkerEnds (fun _ => some completing) ↔
        ∀ i, x.Outstanding i → ¬ Lost (some completing)) := by
  have hexec : ((polling fun _ : Unit => some completing).exec (start Unit) destroyedLabels).any
      (fun x => !x.executor.workerRunning) = true := by decide
  obtain ⟨x, hx, hstopped⟩ := (Option.any_eq_true _ _).mp hexec
  exact ⟨x, Machine.exec_run hx, stopping_ends_iff (Machine.exec_run hx) (by simpa using hstopped)⟩

/-- The completion of the task is lost, and the destructor never gets to the end of its join. -/
theorem stopping_stuck :
    ∃ x, (polling fun _ : Unit => some unanswered).Run (start Unit) destroyedLabels x ∧
      x.executor.workerRunning = false ∧ ¬ x.WorkerEnds (fun _ => some unanswered) := by
  have hexec : ((polling fun _ : Unit => some unanswered).exec (start Unit) destroyedLabels).any
      (fun x => decide (x.executor.workerRunning = false ∧ x.executor.worker = .executing ()))
      = true := by decide
  obtain ⟨x, hx, hend⟩ := (Option.any_eq_true _ _).mp hexec
  obtain ⟨hstopped, hw⟩ := of_decide_eq_true hend
  have hlost : Lost (some unanswered) := ⟨unanswered, rfl, fun _ => ⟨nofun, nofun⟩⟩
  have hrun := Machine.exec_run hx
  exact ⟨x, hrun, hstopped, Stuck.not_ends ⟨kept_run hrun, hstopped, hlost, .inl hw⟩⟩

end PollingExecutor

end DocaCpp
