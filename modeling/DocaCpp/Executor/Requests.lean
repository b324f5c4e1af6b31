/-
# The executor's requests

§1 reads off a run which requests were accepted, refused, executed and answered, in order.  §2 has
what every state says about them (`Accounted`): what was accepted is what was executed, then what
the worker has in hand, then the queue, and every promise was set to what was answered.
-/
import DocaCpp.Executor.Threads
import Mathlib.Data.List.Nodup

namespace DocaCpp

/-! ## 1. The requests of a run -/

section History

variable {ι : Type}

/-- The requests accepted, in order. -/
def accepted (ls : List (ExecutorLabel ι)) : List ι :=
  ls.filterMap fun
    | .submit i none => some i
    | _ => none

/-- The requests refused, in order. -/
def refused (ls : List (ExecutorLabel ι)) : List ι :=
  ls.filterMap fun
    | .submit i (some _) => some i
    | _ => none

/-- The requests executed, in order, with their results. -/
def executed (ls : List (ExecutorLabel ι)) : List (ι × RdmaOperationResponce) :=
  ls.filterMap fun
    | .execute i responce => some (i, responce)
    | _ => none

/-- The requests the worker has answered, in order. -/
def answered (ls : List (ExecutorLabel ι)) : List (ι × RdmaOperationResponce) :=
  ls.filterMap fun
    | .answer i responce => some (i, responce)
    | _ => none

theorem accepted_append (ls ms : List (ExecutorLabel ι)) :
    accepted (ls ++ ms) = accepted ls ++ accepted ms := List.filterMap_append

theorem refused_append (ls ms : List (ExecutorLabel ι)) :
    refused (ls ++ ms) = refused ls ++ refused ms := List.filterMap_append

theorem executed_append (ls ms : List (ExecutorLabel ι)) :
    executed (ls ++ ms) = executed ls ++ executed ms := List.filterMap_append

theorem answered_append (ls ms : List (ExecutorLabel ι)) :
    answered (ls ++ ms) = answered ls ++ answered ms := List.filterMap_append

/-- The request the worker has taken off the queue and not executed yet. -/
def Worker.taken : Worker ι → List ι
  | .executing i => [i]
  | _ => []

/-- The request the worker has executed and not answered yet. -/
def Worker.pending : Worker ι → List (ι × RdmaOperationResponce)
  | .answering i responce => [(i, responce)]
  | _ => []

/-- A label that is neither a submission nor an execution nor an answer. -/
def ExecutorLabel.Silent : ExecutorLabel ι → Prop
  | .submit _ _ | .execute _ _ | .answer _ _ => False
  | _ => True

/-- A silent label adds nothing to any history. -/
theorem ExecutorLabel.Silent.history {l : ExecutorLabel ι} (h : l.Silent)
    (ls : List (ExecutorLabel ι)) :
    accepted (ls ++ [l]) = accepted ls ∧ refused (ls ++ [l]) = refused ls ∧
      executed (ls ++ [l]) = executed ls ∧ answered (ls ++ [l]) = answered ls := by
  have hnil : accepted [l] = [] ∧ refused [l] = [] ∧ executed [l] = [] ∧ answered [l] = [] := by
    cases l with
    | submit | execute | answer => exact h.elim
    | _ => exact ⟨rfl, rfl, rfl, rfl⟩
  obtain ⟨ha, hr, he, hn⟩ := hnil
  rw [accepted_append, refused_append, executed_append, answered_append, ha, hr, he, hn]
  simp only [List.append_nil, and_self]

end History

/-! ## 2. What every state says about the requests -/

namespace RdmaExecutor

variable {ι : Type} [DecidableEq ι] {x y : RdmaExecutor ι} {ls : List (ExecutorLabel ι)}

/-- **What every state says about the requests.** -/
structure Accounted (x : RdmaExecutor ι) (ls : List (ExecutorLabel ι)) : Prop where
  /-- the order of execution is the order of acceptance -/
  queued : accepted ls = (executed ls).map Prod.fst ++ x.worker.taken ++ x.operationQueue
  answers : executed ls = answered ls ++ x.worker.pending
  callers : ∀ i, x.caller i = .outside ↔ i ∉ accepted ls ∧ i ∉ refused ls
  distinct : (accepted ls ++ refused ls).Nodup
  refusals : ∀ i ∈ refused ls, x.responcePromise i = [(none, some shutDown)]
  promises : ∀ i ∉ refused ls,
    x.responcePromise i = ((answered ls).filter (·.1 = i)).map Prod.snd

/-- Before anything is submitted there is nothing to account for. -/
theorem accounted_start : Accounted (start ι) [] where
  queued := rfl
  answers := rfl
  callers := fun _ => by simp [start, accepted, refused]
  distinct := .nil
  refusals := fun _ h => by simp [refused] at h
  promises := fun _ _ => rfl

/-- A silent step leaves the account alone, if it takes nothing off the queue that it does not hand
to the worker. -/
theorem Accounted.silent {l : ExecutorLabel ι} (h : Accounted x ls) (hl : l.Silent)
    (hqueue : y.worker.taken ++ y.operationQueue = x.worker.taken ++ x.operationQueue)
    (hpending : y.worker.pending = x.worker.pending)
    (hcaller : ∀ i, y.caller i = .outside ↔ x.caller i = .outside)
    (hpromise : y.responcePromise = x.responcePromise) : Accounted y (ls ++ [l]) := by
  obtain ⟨ha, hr, he, hn⟩ := hl.history ls
  constructor
  · rw [ha, he, List.append_assoc, hqueue, ← List.append_assoc, h.queued]
  · rw [he, hn, hpending, h.answers]
  · rw [ha, hr]
    exact fun i => (hcaller i).trans (h.callers i)
  · rw [ha, hr]
    exact h.distinct
  · rw [hr, hpromise]
    exact h.refusals
  · rw [hr, hn, hpromise]
    exact h.promises

/-- Only the call's own request leaves the outside. -/
theorem update_outside {c : ι → Caller} {i : ι} {new : Caller} (hnew : new ≠ .outside) (j : ι) :
    Function.update c i new j = .outside ↔ c j = .outside ∧ j ≠ i := by
  rw [Function.update_apply]
  split
  next hj => simp [hj, hnew]
  next hj => simp [hj]

/-- A request that is not refused joins the queue. -/
theorem Accounted.accept {i : ι} (h : Accounted x ls) (hout : x.caller i = .outside) :
    Accounted { x with
        operationQueue := x.operationQueue ++ [i]
        caller := Function.update x.caller i .notifying } (ls ++ [.submit i none]) := by
  obtain ⟨hna, hnr⟩ := (h.callers i).mp hout
  have ha : accepted (ls ++ [.submit i none]) = accepted ls ++ [i] := accepted_append _ _
  have hr : refused (ls ++ [.submit i none]) = refused ls := by simp [refused]
  have he : executed (ls ++ [.submit i none]) = executed ls := by simp [executed]
  have hn : answered (ls ++ [.submit i none]) = answered ls := by simp [answered]
  constructor
  · rw [ha, he, h.queued, List.append_assoc, List.append_assoc]
  · rw [he, hn]
    exact h.answers
  · intro j
    rw [ha, hr, update_outside (by simp), h.callers j]
    simp only [List.mem_append, List.mem_singleton, not_or]
    exact and_right_comm
  · rw [ha, hr, List.append_assoc, List.singleton_append, List.nodup_middle, List.nodup_cons,
      List.mem_append]
    exact ⟨not_or.mpr ⟨hna, hnr⟩, h.distinct⟩
  · rw [hr]
    exact h.refusals
  · rw [hr, hn]
    exact h.promises

/-- A request that was never handed to anybody has an untouched promise. -/
theorem Accounted.fresh {i : ι} (h : Accounted x ls) (hout : x.caller i = .outside) :
    x.responcePromise i = [] := by
  obtain ⟨hna, hnr⟩ := (h.callers i).mp hout
  rw [h.promises i hnr, List.map_eq_nil_iff, List.filter_eq_nil_iff]
  rintro ⟨j, r⟩ hmem hj
  refine hna ?_
  rw [h.queued, h.answers, ← of_decide_eq_true hj]
  exact List.mem_append_left _ (List.mem_append_left _
    (List.mem_map_of_mem (List.mem_append_left _ hmem)))

/-- A refused request has its promise set to the shutdown error. -/
theorem Accounted.refuse {i : ι} (h : Accounted x ls) (hout : x.caller i = .outside) :
    Accounted { x.setValue i (none, some shutDown) with
        caller := Function.update x.caller i (.returned (some shutDown)) }
      (ls ++ [.submit i (some shutDown)]) := by
  obtain ⟨hna, hnr⟩ := (h.callers i).mp hout
  have ha : accepted (ls ++ [.submit i (some shutDown)]) = accepted ls := by simp [accepted]
  have hr : refused (ls ++ [.submit i (some shutDown)]) = refused ls ++ [i] := refused_append _ _
  have he : executed (ls ++ [.submit i (some shutDown)]) = executed ls := by simp [executed]
  have hn : answered (ls ++ [.submit i (some shutDown)]) = answered ls := by simp [answered]
  constructor
  · rw [ha, he]
    exact h.queued
  · rw [he, hn]
    exact h.answers
  · intro j
    rw [ha, hr, update_outside (by simp), h.callers j, List.mem_append, List.mem_singleton, not_or,
      and_assoc]
  · rw [ha, hr, ← List.append_assoc, ← List.concat_eq_append, List.nodup_concat]
    exact ⟨by rw [List.mem_append]; exact not_or.mpr ⟨hna, hnr⟩, h.distinct⟩
  · intro j hj
    rw [hr, List.mem_append, List.mem_singleton] at hj
    change Function.update x.responcePromise i _ j = _
    rcases hj with hj | rfl
    · rw [Function.update_of_ne (ne_of_mem_of_not_mem hj hnr)]
      exact h.refusals j hj
    · rw [Function.update_self, h.fresh hout]
      rfl
  · intro j hj
    rw [hr, List.mem_append, List.mem_singleton, not_or] at hj
    change Function.update x.responcePromise i _ j = _
    rw [hn, Function.update_of_ne hj.2]
    exact h.promises j hj.1

/-- A submission keeps the account. -/
theorem Accounted.submit {i : ι} (h : Accounted x ls) (hout : x.caller i = .outside) :
    Accounted (x.submitOperation i).1 (ls ++ [.submit i (x.submitOperation i).2]) := by
  unfold submitOperation
  split
  · exact h.refuse hout
  · exact h.accept hout

/-- The worker's critical section hands the front of the queue to the worker. -/
theorem Accounted.loop (h : Accounted x ls) (hw : x.worker = .head) :
    Accounted x.workerLoop (ls ++ [.loop]) := by
  refine h.silent trivial ?_ ?_ ?_ ?_
  all_goals
    unfold workerLoop
    repeat' split
    all_goals simp_all [Worker.taken, Worker.pending]

/-- Execution moves the request from what the worker has taken to what was executed. -/
theorem Accounted.execute {i : ι} {responce : RdmaOperationResponce} (h : Accounted x ls)
    (hw : x.worker = .executing i) :
    Accounted { x with worker := .answering i responce } (ls ++ [.execute i responce]) := by
  have he : executed (ls ++ [.execute i responce]) = executed ls ++ [(i, responce)] :=
    executed_append _ _
  have ha : accepted (ls ++ [.execute i responce]) = accepted ls := by simp [accepted]
  have hr : refused (ls ++ [.execute i responce]) = refused ls := by simp [refused]
  have hn : answered (ls ++ [.execute i responce]) = answered ls := by simp [answered]
  have hq := h.queued
  have hx := h.answers
  rw [hw] at hq hx
  constructor
  · rw [ha, he, hq, List.map_append]
    simp [Worker.taken]
  · rw [he, hn, hx]
    simp [Worker.pending]
  · rw [ha, hr]
    exact h.callers
  · rw [ha, hr]
    exact h.distinct
  · rw [hr]
    exact h.refusals
  · rw [hr, hn]
    exact h.promises

/-- The answer sets the promise of the request the worker has executed. -/
theorem Accounted.answer {i : ι} {responce : RdmaOperationResponce} (h : Accounted x ls)
    (hw : x.worker = .answering i responce) :
    Accounted { x.setValue i responce with worker := .head } (ls ++ [.answer i responce]) := by
  have hn : answered (ls ++ [.answer i responce]) = answered ls ++ [(i, responce)] :=
    answered_append _ _
  have ha : accepted (ls ++ [.answer i responce]) = accepted ls := by simp [accepted]
  have hr : refused (ls ++ [.answer i responce]) = refused ls := by simp [refused]
  have he : executed (ls ++ [.answer i responce]) = executed ls := by simp [executed]
  have hq := h.queued
  have hx := h.answers
  rw [hw] at hq hx
  have hacc : i ∈ accepted ls := by
    rw [hq, hx]
    simp [Worker.pending]
  have hnr : i ∉ refused ls := fun hmem => (List.nodup_append.mp h.distinct).2.2 i hacc i hmem rfl
  constructor
  · rw [ha, he, hq]
    rfl
  · rw [he, hn, hx]
    simp [Worker.pending]
  · rw [ha, hr]
    exact h.callers
  · rw [ha, hr]
    exact h.distinct
  · intro j hj
    rw [hr] at hj
    change Function.update x.responcePromise i _ j = _
    rw [Function.update_of_ne (ne_of_mem_of_not_mem hj hnr)]
    exact h.refusals j hj
  · intro j hj
    rw [hr] at hj
    change Function.update x.responcePromise i _ j = _
    rw [hn, List.filter_append, List.map_append, ← h.promises j hj, Function.update_apply]
    split
    next hji => simp [hji]
    next hji => simp [Ne.symm hji]

theorem notifyOne_taken {x : RdmaExecutor ι} : x.notifyOne.worker.taken = x.worker.taken := by
  unfold notifyOne
  split <;> simp_all [Worker.taken]

theorem notifyOne_pending {x : RdmaExecutor ι} : x.notifyOne.worker.pending = x.worker.pending := by
  unfold notifyOne
  split <;> simp_all [Worker.pending]

/-- **Every step keeps the account**, between threads that are guided. -/
theorem Accounted.step {l : ExecutorLabel ι} (h : Accounted x ls) (hguided : Guided x)
    (hs : x.step l = some y) : Accounted y (ls ++ [l]) := by
  cases step_moves hs with
  | submit i hout => exact h.submit hout
  | notify i hcaller =>
    refine h.silent trivial ?_ notifyOne_pending (fun j => ?_) rfl
    · exact congrArg (· ++ x.operationQueue) notifyOne_taken
    · rw [update_outside (by simp)]
      exact and_iff_left_of_imp fun hj hji => by simp [← hji, hj] at hcaller
  | loop hw => exact h.loop hw
  | wake hw => exact h.silent trivial (by rw [hw]; rfl) (by rw [hw]; rfl) (fun _ => .rfl) rfl
  | execute i responce hw => exact h.execute hw
  | answer i responce hw => exact h.answer hw
  | stop hst => exact h.silent trivial rfl rfl (fun _ => .rfl) rfl
  | destroy hst => exact h.silent trivial rfl rfl (fun _ => .rfl) rfl
  | lower destroying hst => exact h.silent trivial rfl rfl (fun _ => .rfl) rfl
  | notifyWorker destroying hst =>
    refine h.silent trivial ?_ notifyOne_pending (fun _ => .rfl) rfl
    exact congrArg (· ++ x.operationQueue) notifyOne_taken
  | join destroying hst hw => exact h.silent trivial rfl rfl (fun _ => .rfl) rfl
  | clear hst =>
    -- the worker has exited, so there is nothing left to clear
    have hempty := (hguided.exited (hguided.joined (.inl hst))).2
    exact h.silent trivial (by rw [hempty]) rfl (fun _ => .rfl) rfl

/-- **Every state a started executor reaches is accounted for and guided.** -/
theorem executor_accounted (h : (executor ι).Run (start ι) ls x) : Accounted x ls ∧ Guided x :=
  Machine.RunWith.invariant (I := fun ls x => Accounted x ls ∧ Guided x)
    ⟨accounted_start, guided_start⟩
    (fun _ _ _ _ _ hI _ hs => ⟨hI.1.step hI.2 hs, hI.2.step hs⟩) h

end RdmaExecutor

end DocaCpp
