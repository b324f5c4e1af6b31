/-
# How long an RDMA operation lasts

A client session hands its RDMA operation to the executor and waits for the promise with a timeout
of its own.  When that timeout runs out the session acknowledges and returns, and nobody takes the
request back: the queue, the worker and the NIC go on with it.

§1 puts one client session beside the executor it uses and the tasks the NIC has been given.  The
other callers of the executor, and whoever stops it, are steps of the executor that are free.
`operation_settled` says that a session whose wait was answered leaves nothing behind;
`operation_outlives` is a session whose wait was not.
-/
import DocaCpp.Executor.Execute
import DocaCpp.Executor.Operations
import DocaCpp.Net.Frames
import DocaCpp.Session.ClientHistory

namespace DocaCpp

/-! ## 1. The client's host -/

/-- A client session, the executor it hands its operation to, and the tasks at the NIC. -/
structure ClientHost (ι : Type) where
  session : Session := .head
  executor : RdmaExecutor ι := RdmaExecutor.start ι
  inventory : BufferInventory := { size := BufferInventory.initialBufferInventorySize }
  /-- the requests whose task the worker has submitted -/
  submitted : List ι := []
  /-- those whose task the NIC has completed, with an error or without -/
  completed : List ι := []

/-- What can happen next. -/
inductive HostLabel (ι : Type)
  | session (ev : SessionEvent)
  /-- a step of the executor that is neither the session's nor an execution -/
  | executor (l : ExecutorLabel ι)
  /-- the worker submits the task of the request it has in hand -/
  | submitTask (i : ι)
  | complete (i : ι)
  /-- `executeOperation` returns -/
  | execute (i : ι) (request : OperationRequest) (o : Outcomes) (responce : RdmaOperationResponce)

variable {ι : Type}

/-- The step a call of the session is for the executor, the session's own request being `me`. -/
def submission (me : ι) : SessionEvent → Option (ExecutorLabel ι)
  | ⟨.submitOperation _, err⟩ => some (.submit me err)
  | _ => none

/-- What a step is for the session. -/
def HostLabel.ofSession : HostLabel ι → Option SessionEvent
  | .session ev => some ev
  | _ => none

/-- What a step is for the executor. -/
def HostLabel.ofExecutor (me : ι) : HostLabel ι → Option (ExecutorLabel ι)
  | .session ev => submission me ev
  | .executor l => some l
  | .execute i _ _ responce => some (.execute i responce)
  | _ => none

/-- The log of the session. -/
def hostSays (ls : List (HostLabel ι)) : ClientLog := clientLog (ls.filterMap HostLabel.ofSession)

/-- What the executor has done. -/
def hostServes (me : ι) (ls : List (HostLabel ι)) : List (ExecutorLabel ι) :=
  ls.filterMap (HostLabel.ofExecutor me)

variable [DecidableEq ι]

/-- The steps of the executor that are its own affair. -/
def ExecutorLabel.free (me : ι) : ExecutorLabel ι → Bool
  | .submit i _ => i ≠ me
  | .execute _ _ => false
  | _ => true

/-- `AwaitWithTimeout` returns the value of the promise if it was set, and its own error if not. -/
def awaits (responcePromise : List RdmaOperationResponce) : SessionEvent → Bool
  | ⟨.awaitWithTimeout _, .ready err⟩ => responcePromise.head?.map Prod.snd = some err
  | ⟨.awaitWithTimeout _, .timedOut⟩ => responcePromise = []
  | _ => true

namespace ClientHost

/-- The worker comes back with this response: it submitted the task if it got that far, and read
that the task was over only behind its completion. -/
def Returns (x : ClientHost ι) (i : ι) (request : OperationRequest) (o : Outcomes)
    (responce : RdmaOperationResponce) : Prop :=
  o.progressEngine = true ∧ (i ∈ x.submitted ↔ Submits request o x.inventory) ∧
    (i ∈ x.submitted → o.Over → i ∈ x.completed) ∧
    (executeOperation request o x.inventory).map Prod.fst = some responce

instance (x : ClientHost ι) (i : ι) (request : OperationRequest) (o : Outcomes)
    (responce : RdmaOperationResponce) : Decidable (x.Returns i request o responce) :=
  inferInstanceAs (Decidable (_ ∧ _ ∧ _ ∧ _))

variable [Platform]

/-- The session is not inside of `SubmitOperation`, and is answered as its executor answers. -/
def Answers (me : ι) (x : ClientHost ι) (ev : SessionEvent) : Prop :=
  ev.computed = true ∧ x.executor.caller me ≠ .notifying ∧
    awaits (x.executor.responcePromise me) ev = true

instance (me : ι) (x : ClientHost ι) (ev : SessionEvent) : Decidable (x.Answers me ev) :=
  inferInstanceAs (Decidable (_ ∧ _ ∧ _))

/-- One step. -/
def step (endpoint : RdmaEndpoint) (me : ι) (x : ClientHost ι) :
    HostLabel ι → Option (ClientHost ι)
  | .session ev =>
    if x.Answers me ev then
      (x.session.resume (clientPass true endpoint) ev).bind fun session =>
        match submission me ev with
        | none => some { x with session := session }
        | some l =>
          (x.executor.step l).map fun executor =>
            { x with session := session, executor := executor }
    else none
  | .executor l =>
    if l.free me = true then
      (x.executor.step l).map fun executor => { x with executor := executor }
    else none
  | .submitTask i =>
    if x.executor.worker = .executing i ∧ i ∉ x.submitted then
      some { x with submitted := i :: x.submitted }
    else none
  | .complete i =>
    if i ∈ x.submitted ∧ i ∉ x.completed then some { x with completed := i :: x.completed }
    else none
  | .execute i request o responce =>
    if x.Returns i request o responce then
      (executeOperation request o x.inventory).bind fun r =>
        (x.executor.step (.execute i responce)).map fun executor =>
          { x with executor := executor, inventory := r.2 }
    else none

end ClientHost

variable [Platform]

/-- The client's host, as a machine. -/
def clientHost (endpoint : RdmaEndpoint) (me : ι) : Machine (ClientHost ι) (HostLabel ι) :=
  ⟨ClientHost.step endpoint me⟩

/-! ## 2. What the steps can do -/

namespace ClientHost

variable {endpoint : RdmaEndpoint} {me : ι} {x y : ClientHost ι}

/-- What the steps can do, label by label. -/
inductive Moves (endpoint : RdmaEndpoint) (me : ι) (x : ClientHost ι) :
    HostLabel ι → ClientHost ι → Prop
  | call (ev : SessionEvent) (session : Session) (ha : x.Answers me ev)
      (hr : x.session.resume (clientPass true endpoint) ev = some session)
      (hsub : submission me ev = none) :
      Moves endpoint me x (.session ev) { x with session := session }
  | submit (ev : SessionEvent) (session : Session) (l : ExecutorLabel ι)
      (executor : RdmaExecutor ι) (ha : x.Answers me ev)
      (hr : x.session.resume (clientPass true endpoint) ev = some session)
      (hsub : submission me ev = some l) (he : x.executor.step l = some executor) :
      Moves endpoint me x (.session ev) { x with session := session, executor := executor }
  | executor (l : ExecutorLabel ι) (executor : RdmaExecutor ι) (hfree : l.free me = true)
      (he : x.executor.step l = some executor) :
      Moves endpoint me x (.executor l) { x with executor := executor }
  | submitTask (i : ι) (hw : x.executor.worker = .executing i) (hn : i ∉ x.submitted) :
      Moves endpoint me x (.submitTask i) { x with submitted := i :: x.submitted }
  | complete (i : ι) (hs : i ∈ x.submitted) (hn : i ∉ x.completed) :
      Moves endpoint me x (.complete i) { x with completed := i :: x.completed }
  | execute (i : ι) (request : OperationRequest) (o : Outcomes) (responce : RdmaOperationResponce)
      (inventory : BufferInventory) (executor : RdmaExecutor ι)
      (hr : x.Returns i request o responce)
      (he : x.executor.step (.execute i responce) = some executor) :
      Moves endpoint me x (.execute i request o responce)
        { x with executor := executor, inventory := inventory }

/-- A step is one of these moves. -/
theorem step_moves {l : HostLabel ι} (h : x.step endpoint me l = some y) :
    Moves endpoint me x l y := by
  cases l with
  | session ev =>
    obtain ⟨ha, h⟩ := Option.ite_none_right_eq_some.mp h
    obtain ⟨session, hr, h⟩ := Option.bind_eq_some_iff.mp h
    cases hsub : submission me ev with
    | none =>
      rw [hsub] at h
      cases h
      exact .call ev session ha hr hsub
    | some l =>
      rw [hsub] at h
      obtain ⟨executor, he, rfl⟩ := Option.map_eq_some_iff.mp h
      exact .submit ev session l executor ha hr hsub he
  | executor l =>
    obtain ⟨hfree, h⟩ := Option.ite_none_right_eq_some.mp h
    obtain ⟨executor, he, rfl⟩ := Option.map_eq_some_iff.mp h
    exact .executor l executor hfree he
  | submitTask i =>
    obtain ⟨⟨hw, hn⟩, h⟩ := Option.ite_none_right_eq_some.mp h
    cases h
    exact .submitTask i hw hn
  | complete i =>
    obtain ⟨⟨hs, hn⟩, h⟩ := Option.ite_none_right_eq_some.mp h
    cases h
    exact .complete i hs hn
  | execute i request o responce =>
    obtain ⟨hr, h⟩ := Option.ite_none_right_eq_some.mp h
    obtain ⟨r, -, h⟩ := Option.bind_eq_some_iff.mp h
    obtain ⟨executor, he, rfl⟩ := Option.map_eq_some_iff.mp h
    exact .execute i request o responce r.2 executor hr he

omit [DecidableEq ι] [Platform] in
/-- **A worker that comes back leaves no task at the NIC.** -/
theorem Returns.over {i : ι} {request : OperationRequest} {o : Outcomes}
    {responce : RdmaOperationResponce} (h : x.Returns i request o responce) :
    i ∈ x.submitted → i ∈ x.completed := by
  intro hi
  obtain ⟨hengine, hsub, hover, hresult⟩ := h
  obtain ⟨⟨r, inv⟩, hr, -⟩ := Option.map_eq_some_iff.mp hresult
  exact hover hi (executeOperation_over hr hengine (hsub.mp hi))

/-- What the session does is a run of a client session. -/
theorem session_run {ls : List (HostLabel ι)} (h : (clientHost endpoint me).Run {} ls x) :
    (handleClientSession true endpoint).Run .head (ls.filterMap HostLabel.ofSession)
      x.session := by
  refine Machine.RunWith.project ClientHost.session HostLabel.ofSession ?_ h
  intro ls x l y _ _ hstep
  cases step_moves hstep with
  | call ev session ha hr hsub => exact ⟨trivial, hr⟩
  | submit ev session l executor ha hr hsub he => exact ⟨trivial, hr⟩
  | executor | submitTask | complete | execute => rfl

/-- What the executor does is a run of an executor. -/
theorem executor_run {ls : List (HostLabel ι)} (h : (clientHost endpoint me).Run {} ls x) :
    (DocaCpp.executor ι).Run (RdmaExecutor.start ι) (hostServes me ls) x.executor := by
  refine Machine.RunWith.project ClientHost.executor (HostLabel.ofExecutor me) ?_ h
  intro ls x l y _ _ hstep
  cases step_moves hstep with
  | call ev session ha hr hsub =>
    simp only [HostLabel.ofExecutor, hsub]
  | submit ev session l executor ha hr hsub he =>
    simp only [HostLabel.ofExecutor, hsub]
    exact ⟨trivial, he⟩
  | executor l executor hfree he => exact ⟨trivial, he⟩
  | execute i request o responce inventory executor hr he => exact ⟨trivial, he⟩
  | submitTask | complete => rfl

end ClientHost

/-! ## 3. What a request leaves behind -/

namespace RdmaExecutor

variable {x y : RdmaExecutor ι} {i : ι}

omit [Platform] in
/-- A promise that was set stays set. -/
theorem promise_kept {l : ExecutorLabel ι} (h : x.step l = some y)
    (hset : x.responcePromise i ≠ []) : y.responcePromise i ≠ [] := by
  have hvalue : ∀ j responce, (x.setValue j responce).responcePromise i ≠ [] := by
    intro j responce
    unfold setValue
    by_cases hj : i = j
    · subst hj
      simp
    · simpa [Function.update_of_ne hj] using hset
  cases step_moves h with
  | submit j hout =>
    unfold submitOperation
    split
    · exact hvalue j _
    · exact hset
  | answer j responce hw => exact hvalue j responce
  | loop hw =>
    unfold workerLoop
    repeat' split
    all_goals exact hset
  | _ => exact hset

omit [Platform] in
/-- An execution ends by the step that says so. -/
theorem executing_kept {l : ExecutorLabel ι} (h : x.step l = some y)
    (hw : x.worker = .executing i) (hl : ∀ j responce, l ≠ .execute j responce) :
    y.worker = .executing i := by
  cases step_moves h with
  | submit j hout =>
    unfold submitOperation
    split <;> exact hw
  | notify j hcaller => simp [notifyOne, hw]
  | notifyWorker destroying hst => simp [notifyOne, hw]
  | execute j responce hj => exact absurd rfl (hl j responce)
  | loop hj | wake hj | answer j responce hj =>
    rw [hw] at hj
    cases hj
  | _ => exact hw

omit [Platform] in
/-- **A request whose promise was set, or that was never accepted, is nowhere to be found.** -/
theorem Accounted.gone {ls : List (ExecutorLabel ι)} (h : Accounted x ls)
    (hi : i ∉ accepted ls ∨ x.responcePromise i ≠ []) :
    i ∉ x.operationQueue ∧ x.worker ≠ .executing i := by
  have htaken : i ∉ x.worker.taken → x.worker ≠ .executing i := by
    intro hn hw
    exact hn (by simp [hw, Worker.taken])
  suffices hnone : i ∉ x.worker.taken ++ x.operationQueue by
    rw [List.mem_append, not_or] at hnone
    exact ⟨hnone.2, htaken hnone.1⟩
  by_cases hacc : i ∈ accepted ls
  · -- it was answered, and so cannot be taken or waiting a second time
    have hset := hi.resolve_left (not_not_intro hacc)
    rw [h.promises i (h.not_refused hacc)] at hset
    obtain ⟨e, he⟩ := List.exists_mem_of_ne_nil _ (mt List.map_eq_nil_iff.mpr hset)
    obtain ⟨hmem, hkey⟩ := List.mem_filter.mp he
    have hnodup : (accepted ls).Nodup := (List.nodup_append.mp h.distinct).1
    rw [h.queued, h.answers, List.map_append, List.append_assoc, List.append_assoc] at hnodup
    have hdisjoint := (List.nodup_append.mp hnodup).2.2 e.1 (List.mem_map_of_mem hmem)
    intro hagain
    refine hdisjoint i ?_ (of_decide_eq_true hkey)
    exact List.mem_append_right _ hagain
  · intro hmem
    refine hacc ?_
    rw [h.queued, List.append_assoc]
    exact List.mem_append_right _ hmem

end RdmaExecutor

/-! ### What the session knows -/

section Session

variable {endpoint : RdmaEndpoint} {log : ClientLog} {ev : SessionEvent}

omit [Platform] in
theorem ClientLog.note_operation {result : Awaited} (h : (log.note ev).operation = some result) :
    log.operation = some result ∨ ∃ n, ev = ⟨.awaitWithTimeout n, result⟩ := by
  obtain ⟨op, r⟩ := ev
  cases op with
  | awaitWithTimeout n =>
    cases h
    exact .inr ⟨n, rfl⟩
  | submitOperation operation => cases r <;> exact .inl h
  | deserializeResponse buffer => cases r <;> exact .inl h
  | _ => exact .inl h

/-- An operation that was submitted and not answered is being awaited. -/
def ClientPhase.Waits (log : ClientLog) (g : ClientPhase) : Prop :=
  log.submitted = true → log.operation = none → ∃ type, g = .await type

theorem ClientPhase.Waits.step {g g' : ClientPhase} (h : g.Waits log)
    (hs : ClientStep endpoint g ev g') : g'.Waits (log.note ev) := by
  intro hsub hop
  cases hs with
  | submitted type descriptor => exact ⟨type, rfl⟩
  | awaited type result => cases hop
  | _ =>
    obtain ⟨type, hg⟩ := h hsub hop
    cases hg

/-- **A session that has acknowledged or is over has no operation it is waiting for.** -/
theorem client_settled {evs : List SessionEvent} {c : Session}
    (h : (handleClientSession true endpoint).Run .head evs c)
    (hover : (clientLog evs).acks ≠ [] ∨
      Connection.finished (c.pending (clientPass true endpoint)) = true) :
    (clientLog evs).submitted = false ∨ (clientLog evs).operation ≠ none := by
  obtain ⟨g, rfl, hknows, hwaits⟩ :=
    (client_refines endpoint).run .start
      (I := fun evs g => g.Knows (clientLog evs) ∧ g.Waits (clientLog evs))
      ⟨rfl, fun hsub => nomatch hsub⟩ (fun evs g ev g' hI _ hs => by
        rw [clientLog_snoc]
        exact ⟨hI.1.step hs, hI.2.step hs⟩) h
  by_contra hnot
  rw [not_or, Bool.not_eq_false, not_not] at hnot
  obtain ⟨type, rfl⟩ := hwaits hnot.1 hnot.2
  rcases hover with hacks | hfinished
  · obtain ⟨descriptor, hlog⟩ := hknows
    rw [hlog] at hacks
    exact hacks rfl
  · cases hfinished

end Session

/-! ## 4. The result -/

section Settled

variable {endpoint : RdmaEndpoint} {me : ι} {x y : ClientHost ι} {ls : List (HostLabel ι)}

/-- **What every run says about the session's request.** -/
structure Tracked (me : ι) (x : ClientHost ι) (ls : List (HostLabel ι)) : Prop where
  told : me ∈ accepted (hostServes me ls) → (hostSays ls).submitted = true
  answered : ∀ err, (hostSays ls).operation = some (.ready err) →
    x.executor.responcePromise me ≠ []
  inFlight : ∀ i ∈ x.submitted, i ∉ x.completed → x.executor.worker = .executing i

omit [DecidableEq ι] [Platform] in
/-- The session's request is accepted when the session is told so. -/
theorem submission_inv {ev : SessionEvent} {l : ExecutorLabel ι} (h : submission me ev = some l) :
    ∃ operation err, ev = ⟨.submitOperation operation, err⟩ ∧ l = .submit me err := by
  obtain ⟨op, r⟩ := ev
  cases op with
  | submitOperation operation =>
    cases h
    exact ⟨operation, r, rfl, rfl⟩
  | _ => cases h

omit [Platform] in
/-- No other step of the executor accepts the session's request. -/
theorem accepted_free {l : ExecutorLabel ι} (h : l.free me = true) : me ∉ accepted [l] := by
  cases l with
  | submit i err =>
    have hne : i ≠ me := by simpa [ExecutorLabel.free] using h
    cases err <;> simp [accepted, Ne.symm hne]
  | _ => simp [accepted]

omit [DecidableEq ι] [Platform] in
theorem hostSays_snoc (ls : List (HostLabel ι)) (l : HostLabel ι) :
    hostSays (ls ++ [l]) = l.ofSession.elim (hostSays ls) (hostSays ls).note := by
  unfold hostSays
  rw [List.filterMap_append]
  cases h : l.ofSession with
  | none => simp [h]
  | some ev => simp [h]

omit [DecidableEq ι] [Platform] in
theorem hostServes_snoc (me : ι) (ls : List (HostLabel ι)) (l : HostLabel ι) :
    hostServes me (ls ++ [l]) = hostServes me ls ++ (l.ofExecutor me).toList := by
  unfold hostServes
  rw [List.filterMap_append]
  cases h : l.ofExecutor me with
  | none => simp [h]
  | some l => simp [h]

/-- What a step accepts is the session's own request only if it was the session that submitted
it. -/
theorem Tracked.told_step {l : HostLabel ι} (h : Tracked me x ls)
    (hm : ClientHost.Moves endpoint me x l y) :
    me ∈ accepted (hostServes me (ls ++ [l])) → (hostSays (ls ++ [l])).submitted = true := by
  intro hacc
  rw [hostServes_snoc, accepted_append, List.mem_append] at hacc
  have hmono : (hostSays ls).submitted = true → (hostSays (ls ++ [l])).submitted = true := by
    intro hsub
    rw [hostSays_snoc]
    cases l.ofSession with
    | none => exact hsub
    | some ev =>
      obtain ⟨op, r⟩ := ev
      cases op <;> first | exact hsub | (cases r <;> first | exact hsub | rfl)
  refine hacc.elim (fun hbefore => hmono (h.told hbefore)) fun hnow => ?_
  cases hm with
  | call ev session ha hr hsub =>
    rw [HostLabel.ofExecutor, hsub] at hnow
    cases hnow
  | submit ev session l executor ha hr hsub he =>
    rw [HostLabel.ofExecutor, hsub] at hnow
    obtain ⟨operation, err, rfl, rfl⟩ := submission_inv hsub
    cases err with
    | none =>
      rw [hostSays_snoc]
      rfl
    | some err => cases hnow
  | executor l executor hfree he => exact absurd hnow (accepted_free hfree)
  | submitTask | complete | execute => cases hnow

/-- **Every step keeps track of the request.** -/
theorem Tracked.step {l : HostLabel ι} (h : Tracked me x ls)
    (hm : ClientHost.Moves endpoint me x l y) : Tracked me y (ls ++ [l]) := by
  refine ⟨h.told_step hm, fun err => ?_, fun i => ?_⟩
  · rw [hostSays_snoc]
    intro hop
    cases hm with
    | call ev session ha hr hsub =>
      rcases ClientLog.note_operation hop with hbefore | ⟨n, rfl⟩
      · exact h.answered err hbefore
      · -- the session was answered, so the promise was set
        intro hempty
        have hawaits := ha.2.2
        rw [hempty] at hawaits
        cases hawaits
    | submit ev session l executor ha hr hsub he =>
      refine RdmaExecutor.promise_kept he ?_
      obtain ⟨operation, err', rfl, rfl⟩ := submission_inv hsub
      rcases ClientLog.note_operation hop with hbefore | ⟨n, hn⟩
      · exact h.answered err hbefore
      · cases hn
    | executor l executor hfree he => exact RdmaExecutor.promise_kept he (h.answered err hop)
    | execute i request o responce inventory executor hr he =>
      exact RdmaExecutor.promise_kept he (h.answered err hop)
    | submitTask i hw hn | complete i hs hn => exact h.answered err hop
  · intro hs hc
    cases hm with
    | call ev session ha hr hsub => exact h.inFlight i hs hc
    | submit ev session l executor ha hr hsub he =>
      obtain ⟨operation, err, rfl, rfl⟩ := submission_inv hsub
      exact RdmaExecutor.executing_kept he (h.inFlight i hs hc) fun _ _ heq => nomatch heq
    | executor l executor hfree he =>
      refine RdmaExecutor.executing_kept he (h.inFlight i hs hc) fun j responce hl => ?_
      subst hl
      cases hfree
    | submitTask j hw hn =>
      rcases List.mem_cons.mp hs with rfl | hs
      · exact hw
      · exact h.inFlight i hs hc
    | complete j hsub hn =>
      exact h.inFlight i hs fun hmem => hc (List.mem_cons_of_mem _ hmem)
    | execute j request o responce inventory executor hr he =>
      -- the worker was executing `i`, so it is `i` that came back
      have hw := h.inFlight i hs hc
      cases RdmaExecutor.step_moves he with
      | execute _ _ hj =>
        rw [hw] at hj
        cases hj
        exact absurd (hr.over hs) hc

theorem host_tracked (h : (clientHost endpoint me).Run {} ls x) : Tracked me x ls := by
  refine Machine.RunWith.invariant (I := fun ls x => Tracked me x ls) ?_ ?_ h
  · exact ⟨fun hmem => (nomatch hmem), fun _ hop => (nomatch hop), fun _ hmem => (nomatch hmem)⟩
  · intro ls x l y _ hI _ hstep
    exact hI.step (ClientHost.step_moves hstep)

/-- **A session whose wait was answered leaves no operation behind.**  Whatever the worker, the NIC,
the other callers and the stopper do, and however many requests were queued: once the session has
made its acknowledge, or has returned, and unless its wait has timed out, its request is not in the
queue, not in the worker's hands, and not at the NIC without having completed. -/
theorem operation_settled (h : (clientHost endpoint me).Run {} ls x)
    (hover : (hostSays ls).acks ≠ [] ∨
      Connection.finished (x.session.pending (clientPass true endpoint)) = true)
    (htime : (hostSays ls).operation ≠ some .timedOut) :
    me ∉ x.executor.operationQueue ∧ x.executor.worker ≠ .executing me ∧
      (me ∈ x.submitted → me ∈ x.completed) := by
  have htracked := host_tracked h
  have hacc := (RdmaExecutor.executor_accounted (ClientHost.executor_run h)).1
  have hgone : me ∉ accepted (hostServes me ls) ∨ x.executor.responcePromise me ≠ [] := by
    rcases client_settled (ClientHost.session_run h) hover with hsub | hop
    · left
      intro hmem
      have htold : (hostSays ls).submitted = true := htracked.told hmem
      exact absurd (hsub.symm.trans htold) Bool.false_ne_true
    · right
      obtain ⟨result, hresult⟩ := Option.ne_none_iff_exists'.mp hop
      cases result with
      | ready err => exact htracked.answered err hresult
      | timedOut => exact absurd hresult htime
  obtain ⟨hqueue, hworker⟩ := hacc.gone hgone
  refine ⟨hqueue, hworker, fun hmem => ?_⟩
  by_contra hc
  exact hworker (htracked.inFlight me hmem hc)

/-- The session up to and with its submission, and the notification that goes with it. -/
def submittingLabels : List (HostLabel (Fin 2)) :=
  (List.flatten [asking sampleWriteEndpoint, granting sampleWriteEndpoint [7], permitted [7],
    operating sampleWriteEndpoint [7]]).filterMap (fun l => l.ofClient.map .session)
    ++ [.executor (.notify 0)]

/-- The worker takes a request, and its task is submitted, completed and answered. -/
def workingLabels (i : Fin 2) : List (HostLabel (Fin 2)) :=
  [.executor .loop, .submitTask i, .complete i,
    .execute i ⟨.write, some 0, some 0⟩ {} (some 0, none), .executor (.answer i (some 0, none))]

/-- The session is answered and reports. -/
def reportingLabels (result : Awaited) (ack : Acknowledge) : List (HostLabel (Fin 2)) :=
  .session ⟨.awaitWithTimeout 5000, result⟩
    :: (acknowledging ack).filterMap fun l => l.ofClient.map .session

omit [Platform] in
/-- A session whose operation completes in time. -/
theorem operation_settled_sample :
    letI := Platform.littleEndian
    ∃ x ls, (clientHost sampleWriteEndpoint (0 : Fin 2)).Run {} ls x ∧
      (hostSays ls).acks ≠ [] ∧ 0 ∉ x.executor.operationQueue ∧
        x.executor.worker ≠ .executing 0 ∧ (0 ∈ x.submitted → 0 ∈ x.completed) := by
  let _ := Platform.littleEndian
  have hexec : ((clientHost sampleWriteEndpoint (0 : Fin 2)).exec {}
      (List.flatten [submittingLabels, workingLabels 0,
        reportingLabels (.ready none) ⟨.operationCompleted⟩])).isSome = true := by decide +kernel
  obtain ⟨x, hx⟩ := Option.isSome_iff_exists.mp hexec
  have hacks : (hostSays (List.flatten [submittingLabels, workingLabels 0,
      reportingLabels (.ready none) ⟨.operationCompleted⟩])).acks ≠ [] := by decide +kernel
  exact ⟨x, _, Machine.exec_run hx, hacks,
    operation_settled (Machine.exec_run hx) (.inl hacks) (by decide +kernel)⟩

omit [Platform] in
/-- Another request keeps the worker busy until the session's wait has timed out.  The session
reports a failure and is over, its request is still in the queue, and its task is submitted to the
NIC after that. -/
theorem operation_outlives :
    letI := Platform.littleEndian
    ∃ x y ls ms, (clientHost sampleWriteEndpoint (0 : Fin 2)).Run {} ls x ∧
      (hostSays ls).acks = [⟨.operationFailed⟩] ∧
      Connection.finished (x.session.pending (clientPass true sampleWriteEndpoint)) = true ∧
      0 ∈ x.executor.operationQueue ∧
      (clientHost sampleWriteEndpoint (0 : Fin 2)).Run x ms y ∧
      0 ∈ y.submitted ∧ 0 ∉ y.completed := by
  let _ := Platform.littleEndian
  have hexec : ((clientHost sampleWriteEndpoint (0 : Fin 2)).exec {}
      (List.flatten [[.executor (.submit 1 none), .executor (.notify 1), .executor .loop],
        submittingLabels, reportingLabels .timedOut ⟨.operationFailed⟩])).any (fun x =>
          decide (Connection.finished (x.session.pending (clientPass true sampleWriteEndpoint))
            = true ∧ 0 ∈ x.executor.operationQueue) &&
          ((clientHost sampleWriteEndpoint (0 : Fin 2)).exec x
            ((workingLabels 1).tail ++ [.executor .loop, .submitTask 0])).any fun y =>
              decide (0 ∈ y.submitted ∧ 0 ∉ y.completed)) = true := by decide +kernel
  obtain ⟨x, hx, hrest⟩ := (Option.any_eq_true _ _).mp hexec
  obtain ⟨hleft, hmore⟩ := Bool.and_eq_true_iff.mp hrest
  obtain ⟨y, hy, hflight⟩ := (Option.any_eq_true _ _).mp hmore
  obtain ⟨hfinished, hqueue⟩ := of_decide_eq_true hleft
  exact ⟨x, y, _, _, Machine.exec_run hx, by decide +kernel, hfinished, hqueue,
    Machine.exec_run hy, of_decide_eq_true hflight⟩

end Settled

end DocaCpp
