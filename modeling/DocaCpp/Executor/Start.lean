/-
# Starting an executor

`Start` is a list of fallible steps.  Each dereferences what the steps before it have stored, and
behind each stands a test of an error variable that returns early with a text of its own.  All steps
but one hand their error to the variable that is tested: behind the buffer inventory the test is of
`err`, which the callbacks have left null, and not of `invErr`.

`startSteps_spec` says once what comes of the steps: the first tested error, or the worker thread.
-/
import DocaCpp.Base

namespace DocaCpp

/-! ## 1. The buffer inventory -/

namespace BufferInventory

/-- `BufferInventory::Builder`: the native inventory, by its handle, and the error so far. -/
structure Builder where
  inventory : Option Nat
  buildErr : error := none

/-- `BufferInventory::Create`, by what `doca_buf_inventory_create` hands out. -/
def create (inventory : Option Nat) : Builder := { inventory := inventory }

/-- `BufferInventory::Builder::Start`, by what `doca_buf_inventory_start` answers. -/
def Builder.start (builder : Builder) (native : error) : Option Nat × error :=
  match builder.buildErr with
  | some err => (none, some err)
  | none =>
    match builder.inventory with
    | none => (none, some (.new "Buffer inventory is null"))
    | some inventory =>
      match native with
      | some err => (none, some (.wrap err "Failed to start inventory"))
      | none => (some inventory, none)

/-- **The builder gives an inventory or an error.** -/
theorem Builder.start_isSome (builder : Builder) (native : error) :
    (builder.start native).1.isSome = (builder.start native).2.isNone := by
  unfold start
  split
  · rfl
  · split
    · rfl
    · split <;> rfl

end BufferInventory

/-! ## 2. `Start` -/

/-- The members of an executor that its calls dereference, the pointers by whether they are not
null. -/
structure ExecutorMembers where
  workerRunning : Bool := false
  /-- null, or a thread, by whether it is joinable -/
  workerThread : Option Bool := none
  rdmaEngine : Bool := false
  rdmaContext : Bool := false
  progressEngine : Bool := false
  bufferInventory : Bool := false
  deriving DecidableEq

/-- The fallible steps of `Start`. -/
inductive StartStep
  | progressEngine
  | context
  | connect
  | userData
  | stateCallback
  | receiveCallbacks
  | sendCallbacks
  | readCallbacks
  | writeCallbacks
  | connectionCallbacks
  | inventory
  | startContext
  | wait
  deriving DecidableEq

/-- What the steps come to: null, or their errors; and the inventory that is handed out. -/
structure StartOutcomes where
  result : StartStep → error
  inventory : Option Nat

/-- What the builder of the buffer inventory gives. -/
def StartOutcomes.built (o : StartOutcomes) : Option Nat × error :=
  (BufferInventory.create o.inventory).start (o.result .inventory)

/-- The error of a step. -/
def StartOutcomes.answer (o : StartOutcomes) (s : StartStep) : error :=
  if s = .inventory then o.built.2 else o.result s

namespace StartStep

/-- The steps in front of the buffer inventory, in order. -/
def callbacks : List StartStep :=
  [progressEngine, context, connect, userData, stateCallback, receiveCallbacks, sendCallbacks,
    readCallbacks, writeCallbacks, connectionCallbacks]

/-- The steps behind it. -/
def running : List StartStep := [startContext, wait]

/-- The steps, in order. -/
def all : List StartStep := callbacks ++ inventory :: running

/-- What the error of a step is wrapped with. -/
def text (err : Err) : StartStep → String
  | progressEngine => "Failed to create RDMA progress engine"
  | context => "Failed to get RDMA context"
  | connect => "Failed to connect RDMA context to progress engine"
  | userData => "Failed to set executor to user data of RDMA context"
  | stateCallback => "Failed to set RDMA context state change callback"
  | receiveCallbacks => "Failed to set RDMA receive task state change callback"
  | sendCallbacks => "Failed to set RDMA send task state change callback"
  | readCallbacks => "Failed to set RDMA read task state change callback"
  | writeCallbacks => "Failed to set RDMA write task state change callback"
  | connectionCallbacks => "Failed to set RDMA connection state change callback"
  | inventory => "Failed to create and start buffer inventory"
  | startContext => "Failed to start RDMA context"
  | wait =>
    if err.is .timeoutExpired then "Failed to wait for desired context state due to timeout"
    else "Failed to wait for desired context state"

/-- The pointers the step dereferences are not null. -/
def derefs (x : ExecutorMembers) : StartStep → Bool
  | connect => x.progressEngine && x.rdmaContext
  | userData | stateCallback | startContext => x.rdmaContext
  | context | receiveCallbacks | sendCallbacks | readCallbacks | writeCallbacks
  | connectionCallbacks => x.rdmaEngine
  -- the wait checks its pointer itself
  | progressEngine | inventory | wait => true

/-- What the step stores. -/
def assign (o : StartOutcomes) (x : ExecutorMembers) : StartStep → ExecutorMembers
  | progressEngine => { x with progressEngine := true }
  | context => { x with rdmaContext := true }
  | inventory => { x with bufferInventory := o.built.1.isSome }
  | _ => x

end StartStep

/-- The body of `Start`, from a step on, with the variable `err`.  `none`: it dereferences a null
pointer. -/
def startSteps (o : StartOutcomes) :
    List StartStep → error → ExecutorMembers → Option (error × ExecutorMembers)
  | [], _, x => some (none, { x with workerRunning := true, workerThread := some true })
  | s :: rest, err, x =>
    if s.derefs x then
      -- the error of the inventory goes to a variable that is not tested
      match if s = .inventory then err else o.answer s with
      | some err => some (some (.wrap err (s.text err)), x)
      | none => startSteps o rest none (s.assign o x)
    else none

/-- `RdmaExecutor::Start`. -/
def ExecutorMembers.start (x : ExecutorMembers) (o : StartOutcomes) :
    Option (error × ExecutorMembers) :=
  if x.workerRunning then some (some (.new "Executor is already running"), x)
  else if x.rdmaEngine then startSteps o StartStep.all none x
  else some (some (.new "RDMA engine is not initialized"), x)

/-! ## 3. What comes of it -/

section Start

variable {o : StartOutcomes} {x : ExecutorMembers}

/-- What the test behind a step looks at, in a run in which no step before it was found to fail. -/
def StartOutcomes.tested (o : StartOutcomes) (s : StartStep) : error :=
  if s = .inventory then none else o.answer s

/-- No step dereferences a null pointer if those before it have stored what they store. -/
def Supplied (o : StartOutcomes) : List StartStep → ExecutorMembers → Prop
  | [], _ => True
  | s :: rest, x => s.derefs x = true ∧ Supplied o rest (s.assign o x)

/-- The members once the steps have stored what they store. -/
def assigned (o : StartOutcomes) (steps : List StartStep) (x : ExecutorMembers) : ExecutorMembers :=
  steps.foldl (fun x s => s.assign o x) x

/-- The first step whose error is tested and not null. -/
structure FirstTested (o : StartOutcomes) (steps pre : List StartStep) (s : StartStep) (err : Err)
    (post : List StartStep) : Prop where
  split : steps = pre ++ s :: post
  error : o.tested s = some err
  before : ∀ t ∈ pre, o.tested t = none

/-- **What comes of the steps**: the first tested error ends them, and without one the worker thread
is started. -/
theorem startSteps_spec (o : StartOutcomes) (steps : List StartStep) (x : ExecutorMembers)
    (h : Supplied o steps x) :
    (∃ pre s err post, FirstTested o steps pre s err post ∧
        startSteps o steps none x = some (some (.wrap err (s.text err)), assigned o pre x)) ∨
      ((∀ s ∈ steps, o.tested s = none) ∧
        startSteps o steps none x = some (none,
          { assigned o steps x with workerRunning := true, workerThread := some true })) := by
  induction steps generalizing x with
  | nil => exact .inr ⟨nofun, rfl⟩
  | cons s steps ih =>
    obtain ⟨hderefs, hrest⟩ := h
    have htested : (if s = .inventory then none else o.answer s) = o.tested s := rfl
    rw [startSteps, if_pos hderefs, htested]
    cases ht : o.tested s with
    | some err => exact .inl ⟨[], s, err, steps, ⟨rfl, ht, nofun⟩, rfl⟩
    | none =>
      rcases ih (s.assign o x) hrest with ⟨pre, t, err, post, hfirst, heq⟩ | ⟨hall, heq⟩
      · refine .inl ⟨s :: pre, t, err, post, ⟨?_, hfirst.error, ?_⟩, heq⟩
        · rw [hfirst.split]
          rfl
        · exact List.forall_mem_cons.mpr ⟨ht, hfirst.before⟩
      · exact .inr ⟨List.forall_mem_cons.mpr ⟨ht, hall⟩, heq⟩

theorem mem_all (s : StartStep) : s ∈ StartStep.all := by
  cases s <;> decide

theorem supplied_all (h : x.rdmaEngine = true) : Supplied o StartStep.all x := by
  simp [Supplied, StartStep.all, StartStep.callbacks, StartStep.running, StartStep.derefs,
    StartStep.assign, h]

/-- Every step succeeds but for the buffer inventory, whose error is not tested. -/
def StartOutcomes.Succeeds (o : StartOutcomes) : Prop := ∀ s, o.tested s = none

/-- The members once `Start` has succeeded. -/
def started (o : StartOutcomes) (x : ExecutorMembers) : ExecutorMembers :=
  { x with
    workerRunning := true, workerThread := some true, rdmaContext := true, progressEngine := true,
    bufferInventory := o.built.1.isSome }

/-- A running executor refuses to start. -/
theorem start_running (h : x.workerRunning = true) (o : StartOutcomes) :
    x.start o = some (some (.new "Executor is already running"), x) := if_pos h

/-- **What `Start` does** on an executor that is not running: it fails at the first tested error, or
it succeeds. -/
theorem start_cases (hstopped : x.workerRunning = false) (hengine : x.rdmaEngine = true)
    (o : StartOutcomes) :
    (∃ pre s err post, FirstTested o StartStep.all pre s err post ∧
        x.start o = some (some (.wrap err (s.text err)), assigned o pre x)) ∨
      (o.Succeeds ∧ x.start o = some (none, started o x)) := by
  have hstart : x.start o = startSteps o StartStep.all none x := by
    simp [ExecutorMembers.start, hstopped, hengine]
  rw [hstart]
  refine (startSteps_spec o StartStep.all x (supplied_all hengine)).imp_right fun ⟨hall, heq⟩ => ?_
  exact ⟨fun s => hall s (mem_all s), heq⟩

/-- A `Start` that returns null has found the executor stopped, and its steps have succeeded. -/
theorem start_null {y : ExecutorMembers} (h : x.start o = some (none, y)) :
    x.workerRunning = false ∧ x.rdmaEngine = true ∧ o.Succeeds ∧ y = started o x := by
  cases hrunning : x.workerRunning with
  | true =>
    rw [start_running hrunning] at h
    cases h
  | false =>
    cases hengine : x.rdmaEngine with
    | false =>
      rw [ExecutorMembers.start, hrunning, hengine] at h
      cases h
    | true =>
      rcases start_cases hrunning hengine o with ⟨pre, s, err, post, -, heq⟩ | ⟨hall, heq⟩
      · cases heq.symm.trans h
      · cases heq.symm.trans h
        exact ⟨rfl, rfl, hall, rfl⟩

/-- The steps leave alone what `Start` has not come to. -/
theorem assigned_frame (steps : List StartStep) (x : ExecutorMembers) :
    (assigned o steps x).workerRunning = x.workerRunning ∧
      (assigned o steps x).workerThread = x.workerThread ∧
      (assigned o steps x).rdmaEngine = x.rdmaEngine := by
  induction steps generalizing x with
  | nil => exact ⟨rfl, rfl, rfl⟩
  | cons s steps ih =>
    rw [assigned, List.foldl_cons, ← assigned]
    obtain ⟨hrunning, hthread, hengine⟩ := ih (s.assign o x)
    rw [hrunning, hthread, hengine]
    cases s <;> exact ⟨rfl, rfl, rfl⟩

/-- Behind a `Start` that fails there is a progress engine if there was one or it was created. -/
theorem assigned_progressEngine {pre post : List StartStep} {s : StartStep} {err : Err}
    (h : FirstTested o StartStep.all pre s err post) :
    (assigned o pre x).progressEngine = true ↔
      x.progressEngine = true ∨ o.answer .progressEngine = none := by
  have hkeep : ∀ (steps : List StartStep) (x : ExecutorMembers), x.progressEngine = true →
      (assigned o steps x).progressEngine = true := by
    intro steps
    induction steps with
    | nil => exact fun _ hx => hx
    | cons t steps ih =>
      intro x hx
      refine ih _ ?_
      cases t <;> first | exact hx | rfl
  cases pre with
  | nil =>
    have hsplit := h.split
    cases hsplit
    have hanswer : o.answer .progressEngine = some err := h.error
    simp [assigned, hanswer]
  | cons t pre =>
    obtain ⟨rfl, -⟩ := List.cons_eq_cons.mp h.split
    refine iff_of_true (hkeep pre _ rfl) (.inr ?_)
    exact h.before _ List.mem_cons_self

/-- A `Start` that fails has not succeeded. -/
theorem FirstTested.not_succeeds {pre post : List StartStep} {s : StartStep} {err : Err}
    (h : FirstTested o StartStep.all pre s err post) : ¬ o.Succeeds := by
  intro hall
  have herror := h.error
  rw [hall s] at herror
  cases herror

theorem tested_of_ne {s : StartStep} (h : s ≠ .inventory) : o.tested s = o.answer s := if_neg h

/-! ## 4. The result -/

/-- The first step that fails. -/
structure FirstFailed (o : StartOutcomes) (s : StartStep) (err : Err) : Prop where
  error : o.answer s = some err
  before : ∃ pre post, StartStep.all = pre ++ s :: post ∧ ∀ t ∈ pre, o.answer t = none

/-- `Start` reports what came of its steps. -/
structure StartReports (o : StartOutcomes) (r : error × ExecutorMembers) : Prop where
  null_iff : r.1 = none ↔ ∀ s, o.answer s = none
  started : r.1 = none → r.2.progressEngine = true ∧ r.2.rdmaContext = true ∧
    r.2.bufferInventory = true ∧ r.2.workerRunning = true
  failed : r.1 ≠ none → r.2.workerRunning = false ∧
    ∃ s err, FirstFailed o s err ∧ r.1 = some (.wrap err (s.text err))

/-- Where a step stands. -/
theorem split_all {pre post : List StartStep} {s : StartStep}
    (h : StartStep.all = pre ++ s :: post) :
    s ∈ StartStep.callbacks ∧ .inventory ∉ pre ∨ s = .inventory ∧ pre = StartStep.callbacks ∨
      s ∈ StartStep.running ∧ StartStep.callbacks ⊆ pre ∧ .inventory ∈ pre := by
  have hnew : StartStep.inventory ∉ StartStep.callbacks := by decide
  rcases List.append_eq_append_iff.mp h with ⟨more, rfl, hmore⟩ | ⟨more, hpre, hmore⟩
  · cases more with
    | nil =>
      cases hmore
      exact .inr (.inl ⟨rfl, List.append_nil _⟩)
    | cons t more =>
      obtain ⟨rfl, hrunning⟩ := List.cons_eq_cons.mp hmore
      refine .inr (.inr ⟨by rw [hrunning]; simp, List.subset_append_left _ _, by simp⟩)
  · cases more with
    | nil =>
      cases hmore
      exact .inr (.inl ⟨rfl, by rw [hpre, List.append_nil]⟩)
    | cons t more =>
      obtain ⟨rfl, -⟩ := List.cons_eq_cons.mp hmore
      refine .inl ⟨by rw [hpre]; simp, fun hmem => hnew ?_⟩
      rw [hpre]
      exact List.mem_append_left _ hmem

/-- No step behind the buffer inventory has its text. -/
theorem text_running {s : StartStep} (h : s ∈ StartStep.running) (err err' : Err) :
    s.text err ≠ StartStep.inventory.text err' := by
  have hs : s = .startContext ∨ s = .wait := by simpa [StartStep.running] using h
  rcases hs with rfl | rfl
  · simp [StartStep.text]
  · simp only [StartStep.text]
    split <;> simp

/-- With a buffer inventory nothing fails untested. -/
theorem answer_of_tested {s : StartStep} (h : o.tested s = none)
    (hinventory : o.answer .inventory = none) : o.answer s = none := by
  by_cases hs : s = .inventory
  · rw [hs, hinventory]
  · rw [← h, tested_of_ne hs]

/-- No callback fails untested. -/
theorem answer_of_callback {s : StartStep} (hs : s ∈ StartStep.callbacks)
    (h : o.tested s = none) : o.answer s = none := by
  rw [← h, tested_of_ne]
  rintro rfl
  exact absurd hs (by decide)

/-- The error of the step that ends `Start`. -/
theorem FirstTested.answer {pre post : List StartStep} {s : StartStep} {err : Err}
    (h : FirstTested o StartStep.all pre s err post) : s ≠ .inventory ∧ o.answer s = some err := by
  have hnot : s ≠ .inventory := by
    rintro rfl
    cases h.error
  exact ⟨hnot, (tested_of_ne hnot).symm.trans h.error⟩

/-- A `Start` that fails with nothing untested in front of the step that ends it. -/
theorem FirstTested.reports {pre post : List StartStep} {s : StartStep} {err : Err}
    (h : FirstTested o StartStep.all pre s err post) (hstopped : x.workerRunning = false)
    (hpre : ∀ t ∈ pre, o.answer t = none) :
    StartReports o (some (.wrap err (s.text err)), assigned o pre x) := by
  have hanswer := h.answer.2
  refine ⟨iff_of_false (Option.some_ne_none _) fun hall => ?_, nofun, fun _ => ⟨?_, ?_⟩⟩
  · rw [hall s] at hanswer
    cases hanswer
  · rw [(assigned_frame pre x).1, hstopped]
  · exact ⟨s, err, ⟨hanswer, pre, post, h.split, hpre⟩, rfl⟩

/-- A `Start` that fails behind an inventory that could not be had does not say so. -/
theorem inventory_of_reports {pre : List StartStep} {s : StartStep} {err : Err}
    (hs : s ∈ StartStep.running) (hnone : ∀ t ∈ StartStep.callbacks, o.answer t = none)
    (h : StartReports o (some (.wrap err (s.text err)), assigned o pre x)) :
    o.answer .inventory = none := by
  obtain ⟨-, s', err', hfailed, htext⟩ := h.failed (Option.some_ne_none _)
  obtain ⟨pre', post', hsplit, hbefore⟩ := hfailed.before
  rcases split_all hsplit with ⟨hs', -⟩ | ⟨rfl, -⟩ | ⟨-, -, hmem⟩
  · have herror := hfailed.error
    rw [hnone s' hs'] at herror
    cases herror
  · exact absurd (Err.wrap.inj (Option.some.inj htext)).2 (text_running hs err err')
  · exact hbefore _ hmem

/-- A `Start` that fails. -/
theorem FirstTested.reports_iff {pre post : List StartStep} {s : StartStep} {err : Err}
    (h : FirstTested o StartStep.all pre s err post) (hstopped : x.workerRunning = false) :
    StartReports o (some (.wrap err (s.text err)), assigned o pre x) ↔
      o.answer .inventory = none ∨ ∃ s ∈ StartStep.callbacks, o.answer s ≠ none := by
  obtain ⟨hnot, hanswer⟩ := h.answer
  rcases split_all h.split with ⟨hs, hpre⟩ | ⟨hs, -⟩ | ⟨hs, hcallbacks, -⟩
  · refine iff_of_true (h.reports hstopped fun t ht => ?_) (.inr ⟨s, hs, ?_⟩)
    · rw [← h.before t ht, tested_of_ne fun hi => hpre (hi ▸ ht)]
    · rw [hanswer]
      exact Option.some_ne_none _
  · exact absurd hs hnot
  · have hnone : ∀ t ∈ StartStep.callbacks, o.answer t = none := by
      intro t ht
      exact answer_of_callback ht (h.before t (hcallbacks ht))
    rw [or_iff_left fun ⟨t, ht, hne⟩ => hne (hnone t ht)]
    constructor
    · exact inventory_of_reports hs hnone
    · intro hinventory
      exact h.reports hstopped fun t ht => answer_of_tested (h.before t ht) hinventory

/-- A `Start` that succeeds. -/
theorem StartOutcomes.Succeeds.reports_iff (hall : o.Succeeds) :
    StartReports o (none, started o x) ↔
      o.answer .inventory = none ∨ ∃ s ∈ StartStep.callbacks, o.answer s ≠ none := by
  have hcallbacks : ¬ ∃ s ∈ StartStep.callbacks, o.answer s ≠ none := by
    rintro ⟨s, hs, hne⟩
    exact hne (answer_of_callback hs (hall s))
  rw [or_iff_left hcallbacks]
  constructor
  · intro h
    exact h.null_iff.mp rfl .inventory
  · intro hinventory
    have hbuilt : o.built.1.isSome = true := by
      rw [StartOutcomes.built, BufferInventory.Builder.start_isSome]
      exact Option.isNone_iff_eq_none.mpr hinventory
    refine ⟨iff_of_true rfl ?_, fun _ => ⟨rfl, rfl, hbuilt, rfl⟩, fun hne => absurd rfl hne⟩
    intro s
    exact answer_of_tested (hall s) hinventory

/-- **Which outcomes `Start` reports**: those in which the buffer inventory is created, and those in
which a step in front of it fails. -/
theorem start_reports_iff (hstopped : x.workerRunning = false) (hengine : x.rdmaEngine = true)
    (o : StartOutcomes) :
    ∃ r, x.start o = some r ∧
      (StartReports o r ↔
        o.answer .inventory = none ∨ ∃ s ∈ StartStep.callbacks, o.answer s ≠ none) := by
  rcases start_cases hstopped hengine o with ⟨pre, s, err, post, hfirst, heq⟩ | ⟨hall, heq⟩
  · exact ⟨_, heq, hfirst.reports_iff hstopped⟩
  · exact ⟨_, heq, hall.reports_iff⟩

/-- Everything succeeds except for the start of the buffer inventory. -/
def unstartedInventory : StartOutcomes :=
  ⟨fun s => if s = .inventory then some (.native 4) else none, some 0⟩

/-- Everything succeeds. -/
def succeeding : StartOutcomes := ⟨fun _ => none, some 0⟩

/-- An executor that has been created. -/
def createdExecutor : ExecutorMembers := { rdmaEngine := true }

theorem start_reports_sample :
    ∃ r, createdExecutor.start succeeding = some r ∧
      (StartReports succeeding r ↔
        succeeding.answer .inventory = none ∨
          ∃ s ∈ StartStep.callbacks, succeeding.answer s ≠ none) :=
  start_reports_iff rfl rfl succeeding

/-- `Start` returns null, and the worker runs without an inventory. -/
theorem start_unreported :
    ∃ r, createdExecutor.start unstartedInventory = some r ∧
      ¬ StartReports unstartedInventory r ∧ r.1 = none ∧ r.2.workerRunning = true ∧
      r.2.bufferInventory = false := by
  have hexec : (createdExecutor.start unstartedInventory).any (fun r => decide (r.1 = none ∧
      r.2.workerRunning = true ∧ r.2.bufferInventory = false)) = true := by decide
  obtain ⟨r, hr, hend⟩ := (Option.any_eq_true _ _).mp hexec
  obtain ⟨hnull, hrunning, hinventory⟩ := of_decide_eq_true hend
  refine ⟨r, hr, fun h => ?_, hnull, hrunning, hinventory⟩
  rw [(h.started hnull).2.2.1] at hinventory
  cases hinventory

end Start

end DocaCpp
