/-
# The life of an executor

What the public calls of an executor dereference is stored by `Start`, and only `Stop` looks whether
`Start` has come that far: the destructor dereferences the worker thread, `Progress` and the wait
for a connection dereference the progress engine, and an operation that gets as far as its buffers
dereferences the buffer inventory on the worker thread.

`lifecycle_safe_iff` says which sequences of calls dereference no null pointer and join every worker
thread once.
-/
import DocaCpp.Executor.Start
import DocaCpp.Lib.History

namespace DocaCpp

/-! ## 1. The calls -/

/-- `RdmaExecutor::Create`, by what comes of the RDMA engine. -/
def RdmaExecutor.create (initialDevice : Option Nat) (engine : error) :
    Except Err ExecutorMembers :=
  match initialDevice with
  | none => .error (.new "Device is null")
  | some _ =>
    match engine with
    | some err => .error (.wrap err "Failed to create RDMA Engine")
    | none => .ok { rdmaEngine := true }

/-- An executor, with what has become of it. -/
structure ExecutorLife where
  members : ExecutorMembers
  /-- the operations in the queue, by whether they get as far as the buffer inventory -/
  operationQueue : List Bool := []
  /-- how many calls of `Start` have succeeded -/
  started : Nat := 0
  /-- how many times the worker thread was joined -/
  joined : Nat := 0
  destroyed : Bool := false
  /-- a null pointer has been dereferenced, and nothing else matters -/
  crashed : Bool := false
  deriving DecidableEq

/-- What is called, and what the worker does by itself. -/
inductive ExecutorCall
  | start (o : StartOutcomes)
  | stop
  | submitOperation (reachesInventory : Bool)
  /-- the worker takes an operation and executes it -/
  | execute
  | progress
  /-- `polls`: no connection is active, and the timeout has not expired at once -/
  | waitForEstablishedConnection (polls : Bool)
  | destroy

namespace ExecutorLife

/-- A null pointer is dereferenced. -/
def crash (x : ExecutorLife) : ExecutorLife := { x with crashed := true }

/-- Some operation in the queue will dereference a buffer inventory that is null. -/
def lacksInventory (x : ExecutorLife) : Bool :=
  x.operationQueue.any id && !x.members.bufferInventory

/-- `workerRunning` is cleared and the worker thread joined, which it can be once the worker has
executed what is in the queue. -/
def joinWorker (x : ExecutorLife) : ExecutorLife :=
  match x.members.workerThread with
  | none => x.crash
  | some false => { x with members := { x.members with workerRunning := false } }
  | some true =>
    if x.lacksInventory then x.crash
    else
      { x with
        members := { x.members with workerRunning := false, workerThread := some false }
        operationQueue := []
        joined := x.joined + 1 }

/-- One call. -/
def step (x : ExecutorLife) (call : ExecutorCall) : Option ExecutorLife :=
  if x.crashed || x.destroyed then none
  else
    match call with
    | .start o =>
      match x.members.start o with
      | none => some x.crash
      | some (some _, members) => some { x with members := members }
      | some (none, members) => some { x with members := members, started := x.started + 1 }
    | .stop =>
      if x.members.workerRunning then some { x.joinWorker with operationQueue := [] } else some x
    | .submitOperation reachesInventory =>
      if x.members.workerRunning then
        some { x with operationQueue := x.operationQueue ++ [reachesInventory] }
      else some x
    | .execute =>
      match x.members.workerThread, x.operationQueue with
      | some true, reachesInventory :: rest =>
        if reachesInventory && !x.members.bufferInventory then some x.crash
        else some { x with operationQueue := rest }
      | _, _ => none
    | .progress => some (if x.members.progressEngine then x else x.crash)
    | .waitForEstablishedConnection polls =>
      some (if polls && !x.members.progressEngine then x.crash else x)
    | .destroy => some { x.joinWorker with destroyed := true }

/-- The life of an executor begins. -/
def created : ExecutorLife := { members := createdExecutor }

end ExecutorLife

/-- The life of an executor, as a machine. -/
def executorLife : Machine ExecutorLife ExecutorCall := ⟨ExecutorLife.step⟩

theorem create_ok {initialDevice : Option Nat} {engine : error} {members : ExecutorMembers}
    (h : RdmaExecutor.create initialDevice engine = .ok members) :
    { members := members } = ExecutorLife.created := by
  unfold RdmaExecutor.create at h
  split at h
  · cases h
  · split at h
    · cases h
    · cases h
      rfl

/-! ## 2. What the calls have stored -/

section Life

variable {x y : ExecutorLife} {call : ExecutorCall} {calls : List ExecutorCall} {o : StartOutcomes}

/-- Some `Start` has been called whose steps came to this, whether the executor was running already
or not. -/
def StartedWith (P : StartOutcomes → Prop) (calls : List ExecutorCall) : Prop :=
  ∃ o, ExecutorCall.start o ∈ calls ∧ P o

/-- Some `Start` has created the progress engine. -/
def EngineCreated (calls : List ExecutorCall) : Prop :=
  StartedWith (fun o => o.answer .progressEngine = none) calls

/-- Some `Start` has succeeded. -/
def StartSucceeded (calls : List ExecutorCall) : Prop :=
  StartedWith StartOutcomes.Succeeds calls

theorem startedWith_snoc {P : StartOutcomes → Prop} :
    StartedWith P (calls ++ [call]) ↔ StartedWith P calls ∨ ∃ o, call = .start o ∧ P o := by
  constructor
  · rintro ⟨o, ho, hP⟩
    rcases List.mem_append.mp ho with ho | ho
    · exact .inl ⟨o, ho, hP⟩
    · exact .inr ⟨o, (List.mem_singleton.mp ho).symm, hP⟩
  · rintro (⟨o, ho, hP⟩ | ⟨o, rfl, hP⟩)
    · exact ⟨o, List.mem_append_left _ ho, hP⟩
    · exact ⟨o, by simp, hP⟩

/-- A call that is not a start starts nothing. -/
theorem startedWith_other {P : StartOutcomes → Prop} (h : ∀ o, call ≠ .start o) :
    StartedWith P (calls ++ [call]) ↔ StartedWith P calls :=
  startedWith_snoc.trans (or_iff_left fun ⟨o, ho, _⟩ => h o ho)

/-- What the members say about the calls so far. -/
structure ExecutorLife.Recorded (calls : List ExecutorCall) (x : ExecutorLife) : Prop where
  engine : x.members.progressEngine = true ↔ EngineCreated calls
  thread : x.members.workerThread ≠ none ↔ StartSucceeded calls
  running : x.members.workerRunning = true ↔ x.members.workerThread = some true
  supplied : x.members.workerRunning = true → x.members.progressEngine = true
  rdmaEngine : x.members.rdmaEngine = true
  queue : x.operationQueue ≠ [] → x.members.workerRunning = true

/-- The executor is safe: no null pointer has been dereferenced, and every worker thread that is not
running was joined once. -/
structure ExecutorLife.Safe (x : ExecutorLife) : Prop where
  alive : x.crashed = false
  joined : x.started = x.joined + if x.members.workerRunning then 1 else 0
  destroyed : x.destroyed = true → x.joined = x.started

/-- The call is allowed: nothing polls before a progress engine was created, and the executor is not
destroyed before some `Start` has succeeded; where the worker executes an operation that gets as far
as the buffer inventory, or a call waits for it to do so, there is one. -/
def CallAllowed (calls : List ExecutorCall) (x : ExecutorLife) : ExecutorCall → Prop
  | .progress => EngineCreated calls
  | .waitForEstablishedConnection polls => polls = true → EngineCreated calls
  | .execute => x.operationQueue.head? = some true → x.members.bufferInventory = true
  | .stop => true ∈ x.operationQueue → x.members.bufferInventory = true
  | .destroy => StartSucceeded calls ∧
      (true ∈ x.operationQueue → x.members.bufferInventory = true)
  | _ => True

/-- Something is needed that is not there. -/
theorem and_not_iff {needed there : Bool} :
    (needed && !there) = true ↔ ¬ (needed = true → there = true) := by
  cases needed <;> cases there <;> simp

theorem lacksInventory_iff :
    x.lacksInventory = false ↔ (true ∈ x.operationQueue → x.members.bufferInventory = true) := by
  rw [ExecutorLife.lacksInventory, ← Bool.not_eq_true, and_not_iff, not_not]
  simp

/-! ## 3. What one call does -/

/-- What the members say does not depend on the rest, nor on calls that are not a start. -/
theorem ExecutorLife.Recorded.congr (h : x.Recorded calls) (hother : ∀ o, call ≠ .start o)
    (hmembers : y.members = x.members)
    (hqueue : y.operationQueue ≠ [] → x.members.workerRunning = true) :
    y.Recorded (calls ++ [call]) where
  engine := by rw [hmembers, h.engine, EngineCreated, EngineCreated, startedWith_other hother]
  thread := by rw [hmembers, h.thread, StartSucceeded, StartSucceeded, startedWith_other hother]
  running := hmembers ▸ h.running
  supplied := hmembers ▸ h.supplied
  rdmaEngine := hmembers ▸ h.rdmaEngine
  queue := hmembers ▸ hqueue

/-- What joins the worker thread. -/
theorem ExecutorLife.Recorded.joinWorker (h : x.Recorded calls) (hother : ∀ o, call ≠ .start o) :
    x.joinWorker.Recorded (calls ++ [call]) := by
  unfold ExecutorLife.joinWorker
  split
  next => exact h.congr hother rfl h.queue
  next hjoined =>
    have hidle : ¬ x.members.workerRunning = true := by
      rw [h.running, hjoined]
      decide
    have hsame : x.members.workerRunning = false := Bool.eq_false_iff.mpr hidle
    exact h.congr hother (by rw [← hsame]) h.queue
  next hrunning =>
    split
    next => exact h.congr hother rfl h.queue
    next =>
      have hthread : StartSucceeded calls := by
        rw [← h.thread, hrunning]
        exact Option.some_ne_none _
      exact {
        engine := by
          rw [h.engine, EngineCreated, EngineCreated, startedWith_other hother]
        thread := by
          rw [StartSucceeded, startedWith_other hother]
          exact iff_of_true (Option.some_ne_none _) hthread
        running := iff_of_false Bool.false_ne_true nofun
        supplied := nofun
        rdmaEngine := h.rdmaEngine
        queue := fun hne => absurd rfl hne }

/-- **What a call of `Start` does**: it is refused, it fails and leaves what its steps have stored, or
it succeeds. -/
theorem start_step (h : x.Recorded calls) (hstep : x.step (.start o) = some y) :
    (x.members.workerRunning = true ∧ y = x) ∨
      (x.members.workerRunning = false ∧ ∃ pre s err post,
        FirstTested o StartStep.all pre s err post ∧
          y = { x with members := assigned o pre x.members }) ∨
      (x.members.workerRunning = false ∧ o.Succeeds ∧
        y = { x with members := started o x.members, started := x.started + 1 }) := by
  obtain ⟨-, hstep⟩ := Option.ite_none_left_eq_some.mp hstep
  dsimp only at hstep
  cases hrunning : x.members.workerRunning with
  | true =>
    rw [start_running hrunning] at hstep
    cases hstep
    exact .inl ⟨rfl, rfl⟩
  | false =>
    rcases start_cases hrunning h.rdmaEngine o with ⟨pre, s, err, post, hfirst, heq⟩ | ⟨hall, heq⟩
    · rw [heq] at hstep
      cases hstep
      exact .inr (.inl ⟨rfl, pre, s, err, post, hfirst, rfl⟩)
    · rw [heq] at hstep
      cases hstep
      exact .inr (.inr ⟨rfl, hall, rfl⟩)

/-- Whether some `Start` has come to something, behind one more. -/
theorem startedWith_start {P : StartOutcomes → Prop} :
    StartedWith P (calls ++ [.start o]) ↔ StartedWith P calls ∨ P o := by
  rw [startedWith_snoc]
  refine or_congr_right ⟨?_, fun hP => ⟨o, rfl, hP⟩⟩
  rintro ⟨o', ho, hP⟩
  cases ho
  exact hP

/-- What `Start` stores. -/
theorem ExecutorLife.Recorded.start (h : x.Recorded calls)
    (hstep : x.step (.start o) = some y) : y.Recorded (calls ++ [.start o]) := by
  rcases start_step h hstep with ⟨hrunning, rfl⟩ | ⟨hstopped, pre, s, err, post, hfirst, rfl⟩ |
    ⟨hstopped, hall, rfl⟩
  · have hthread : y.members.workerThread ≠ none := by
      rw [h.running.mp hrunning]
      exact Option.some_ne_none _
    exact { h with
      engine := iff_of_true (h.supplied hrunning)
        (startedWith_start.mpr (.inl (h.engine.mp (h.supplied hrunning))))
      thread := iff_of_true hthread (startedWith_start.mpr (.inl (h.thread.mp hthread))) }
  · obtain ⟨hsame, hthread, hengine⟩ := assigned_frame (o := o) pre x.members
    have hidle : ¬ x.members.workerRunning = true := Bool.eq_false_iff.mp hstopped
    exact {
      engine := by
        rw [assigned_progressEngine hfirst, h.engine, EngineCreated, EngineCreated,
          startedWith_start]
      thread := by
        rw [hthread, h.thread, StartSucceeded, StartSucceeded, startedWith_start]
        exact (or_iff_left hfirst.not_succeeds).symm
      running := by
        rw [hsame, hthread]
        exact h.running
      supplied := fun hz => absurd (hsame ▸ hz) hidle
      rdmaEngine := hengine.trans h.rdmaEngine
      queue := fun hne => absurd (h.queue hne) hidle }
  · have hcreated : o.answer .progressEngine = none :=
      (tested_of_ne (by decide)).symm.trans (hall .progressEngine)
    exact {
      engine := iff_of_true rfl (startedWith_start.mpr (.inr hcreated))
      thread := iff_of_true (Option.some_ne_none _) (startedWith_start.mpr (.inr hall))
      running := iff_of_true rfl rfl
      supplied := fun _ => rfl
      rdmaEngine := h.rdmaEngine
      queue := fun _ => rfl }

/-- What any call stores. -/
theorem ExecutorLife.Recorded.step (h : x.Recorded calls) (hstep : x.step call = some y) :
    y.Recorded (calls ++ [call]) := by
  have hstep' := (Option.ite_none_left_eq_some.mp hstep).2
  cases call with
  | start o => exact h.start hstep
  | stop =>
    dsimp only at hstep'
    split at hstep'
    · cases hstep'
      have hjoined : x.joinWorker.Recorded (calls ++ [.stop]) := h.joinWorker nofun
      exact { hjoined with queue := fun hne => absurd rfl hne }
    · cases hstep'
      exact h.congr nofun rfl h.queue
  | submitOperation reachesInventory =>
    dsimp only at hstep'
    split at hstep'
    next hrunning =>
      cases hstep'
      exact h.congr nofun rfl fun _ => hrunning
    next =>
      cases hstep'
      exact h.congr nofun rfl h.queue
  | execute =>
    dsimp only at hstep'
    split at hstep'
    next hrunning hqueue =>
      split at hstep'
      · cases hstep'
        exact h.congr nofun rfl h.queue
      · cases hstep'
        exact h.congr nofun rfl fun _ => h.running.mpr hrunning
    next => cases hstep'
  | progress =>
    cases hstep'
    split
    · exact h.congr nofun rfl h.queue
    · exact h.congr nofun rfl h.queue
  | waitForEstablishedConnection polls =>
    cases hstep'
    split
    · exact h.congr nofun rfl h.queue
    · exact h.congr nofun rfl h.queue
  | destroy =>
    cases hstep'
    have hjoined : x.joinWorker.Recorded (calls ++ [.destroy]) := h.joinWorker nofun
    exact { hjoined with }

theorem ExecutorLife.recorded_created : ExecutorLife.created.Recorded [] where
  engine := iff_of_false Bool.false_ne_true fun ⟨_, ho, _⟩ => List.not_mem_nil ho
  thread := iff_of_false (fun hne => hne rfl) fun ⟨_, ho, _⟩ => List.not_mem_nil ho
  running := iff_of_false Bool.false_ne_true nofun
  supplied := nofun
  rdmaEngine := rfl
  queue := fun hne => absurd rfl hne

/-- What the members say, along a run. -/
theorem recorded_run (h : executorLife.Run .created calls x) : x.Recorded calls :=
  h.invariant ExecutorLife.recorded_created fun _ _ _ _ _ hrecorded _ hstep => hrecorded.step hstep

/-! ## 4. Safety -/

/-- Joining the worker is safe where there has been a worker and it has what it needs. -/
theorem ExecutorLife.Recorded.joinWorker_safe (h : x.Recorded calls) (hsafe : x.Safe) :
    (x.joinWorker.crashed = false ↔ StartSucceeded calls ∧
        (true ∈ x.operationQueue → x.members.bufferInventory = true)) ∧
      (x.joinWorker.crashed = false →
        x.joinWorker.started = x.joinWorker.joined ∧
          x.joinWorker.members.workerRunning = false) := by
  have hjoined := hsafe.joined
  rw [← h.thread, ← lacksInventory_iff]
  unfold ExecutorLife.joinWorker
  split
  next hthread =>
    refine ⟨iff_of_false nofun fun hs => hs.1 hthread, nofun⟩
  next hthread =>
    have hidle : x.members.workerRunning = false := by
      rw [← Bool.not_eq_true, h.running, hthread]
      decide
    have hempty : x.operationQueue = [] := by
      by_contra hne
      exact absurd (h.queue hne) (Bool.eq_false_iff.mp hidle)
    have hhas : x.lacksInventory = false := by
      rw [ExecutorLife.lacksInventory, hempty]
      rfl
    rw [hidle] at hjoined
    exact ⟨iff_of_true hsafe.alive ⟨by rw [hthread]; exact Option.some_ne_none _, hhas⟩,
      fun _ => ⟨hjoined, rfl⟩⟩
  next hthread =>
    rw [h.running.mpr hthread] at hjoined
    have hsome : x.members.workerThread ≠ none := by
      rw [hthread]
      exact Option.some_ne_none _
    split
    next hlacks =>
      refine ⟨iff_of_false nofun fun hs => ?_, nofun⟩
      rw [hlacks] at hs
      cases hs.2
    next hhas =>
      exact ⟨iff_of_true hsafe.alive ⟨hsome, Bool.eq_false_iff.mpr hhas⟩, fun _ => ⟨hjoined, rfl⟩⟩

/-- An executor is safe whose worker threads have all been joined. -/
theorem ExecutorLife.Safe.of_joined (halive : y.crashed = false) (hjoined : y.started = y.joined)
    (hstopped : y.members.workerRunning = false) : y.Safe where
  alive := halive
  joined := by
    rw [hstopped]
    exact hjoined
  destroyed := fun _ => hjoined.symm

/-- An executor that has crashed is not safe. -/
theorem ExecutorLife.not_safe_crash : ¬ x.crash.Safe := fun h => Bool.noConfusion h.alive

/-- `Start` keeps the executor safe, whatever its steps come to. -/
theorem ExecutorLife.Safe.start (hsafe : x.Safe) (h : x.Recorded calls)
    (hstep : x.step (.start o) = some y) (hfresh : x.destroyed = false) : y.Safe := by
  rcases start_step h hstep with ⟨-, rfl⟩ | ⟨-, pre, s, err, post, -, rfl⟩ | ⟨hstopped, -, rfl⟩
  · exact hsafe
  · refine ⟨hsafe.alive, ?_, hsafe.destroyed⟩
    rw [(assigned_frame (o := o) pre x.members).1]
    exact hsafe.joined
  · have hjoined := hsafe.joined
    rw [hstopped] at hjoined
    refine ⟨hsafe.alive, congrArg (· + 1) hjoined, fun hdestroyed => ?_⟩
    rw [hfresh] at hdestroyed
    cases hdestroyed

/-- **One call keeps the executor safe exactly if it is allowed.** -/
theorem step_safe (h : x.Recorded calls) (hsafe : x.Safe) (hstep : x.step call = some y) :
    y.Safe ↔ CallAllowed calls x call := by
  obtain ⟨hlive, hstep'⟩ := Option.ite_none_left_eq_some.mp hstep
  have hfresh : x.destroyed = false := by
    rw [Bool.or_eq_true, not_or] at hlive
    exact Bool.eq_false_iff.mpr hlive.2
  cases call with
  | start o => exact iff_of_true (hsafe.start h hstep hfresh) trivial
  | stop =>
    dsimp only at hstep'
    obtain ⟨hcrash, hends⟩ := h.joinWorker_safe hsafe
    split at hstep'
    next hrunning =>
      cases hstep'
      have hsome : StartSucceeded calls := by
        rw [← h.thread, h.running.mp hrunning]
        exact Option.some_ne_none _
      constructor
      · intro hy
        exact (hcrash.mp hy.alive).2
      · intro hallowed
        have halive := hcrash.mpr ⟨hsome, hallowed⟩
        obtain ⟨hjoined, hstopped⟩ := hends halive
        exact .of_joined halive hjoined hstopped
    next hstopped =>
      cases hstep'
      refine iff_of_true hsafe fun hmem => ?_
      exact absurd (h.queue (List.ne_nil_of_mem hmem)) hstopped
  | submitOperation reachesInventory =>
    refine iff_of_true ?_ trivial
    dsimp only at hstep'
    split at hstep'
    · cases hstep'
      exact ⟨hsafe.alive, hsafe.joined, hsafe.destroyed⟩
    · cases hstep'
      exact hsafe
  | execute =>
    dsimp only at hstep'
    split at hstep'
    next reachesInventory rest hthread hqueue =>
      have hallowed : CallAllowed calls x .execute ↔
          (reachesInventory = true → x.members.bufferInventory = true) := by
        simp [CallAllowed, hqueue]
      rw [hallowed]
      split at hstep'
      next hlacks =>
        cases hstep'
        exact iff_of_false ExecutorLife.not_safe_crash (and_not_iff.mp hlacks)
      next hhas =>
        cases hstep'
        rw [and_not_iff, not_not] at hhas
        exact iff_of_true ⟨hsafe.alive, hsafe.joined, hsafe.destroyed⟩ hhas
    next => cases hstep'
  | progress =>
    cases hstep'
    refine Iff.trans ?_ h.engine
    split
    next hengine => exact iff_of_true hsafe hengine
    next hengine => exact iff_of_false ExecutorLife.not_safe_crash hengine
  | waitForEstablishedConnection polls =>
    cases hstep'
    rw [CallAllowed, ← h.engine]
    split
    next hlacks => exact iff_of_false ExecutorLife.not_safe_crash (and_not_iff.mp hlacks)
    next hhas =>
      rw [and_not_iff, not_not] at hhas
      exact iff_of_true hsafe hhas
  | destroy =>
    cases hstep'
    obtain ⟨hcrash, hends⟩ := h.joinWorker_safe hsafe
    constructor
    · intro hy
      exact hcrash.mp hy.alive
    · intro hallowed
      have halive := hcrash.mpr hallowed
      obtain ⟨hjoined, hstopped⟩ := hends halive
      exact .of_joined halive hjoined hstopped

/-- **Which lives of an executor are safe**: those whose every call is allowed. -/
theorem lifecycle_safe_iff (calls : List ExecutorCall) :
    executorLife.AlwaysIn .created (fun _ x => x.Safe) calls ↔
      executorLife.EveryStep .created CallAllowed calls :=
  Machine.alwaysIn_iff ⟨rfl, rfl, nofun⟩ fun _ _ _ _ hrun hsafe hstep =>
    step_safe (recorded_run hrun) hsafe hstep

/-- Everything fails. -/
def failing : StartOutcomes := ⟨fun _ => some (.native 4), none⟩

/-- An executor that is destroyed without having been started dereferences a null worker thread; one
whose progress engine could not be created dereferences a null progress engine. -/
theorem lifecycle_unsafe :
    ¬ executorLife.AlwaysIn .created (fun _ x => x.Safe) [.destroy] ∧
      ¬ executorLife.AlwaysIn .created (fun _ x => x.Safe) [.start failing, .progress] := by
  constructor
  · intro h
    exact ExecutorLife.not_safe_crash (x := { ExecutorLife.created with destroyed := true })
      (h.now _ rfl)
  · intro h
    exact ExecutorLife.not_safe_crash (x := ExecutorLife.created) (h.now _ rfl)

end Life

end DocaCpp
