/-
# Every accepted request is answered

An accepted request has its promise untouched until it is delivered (§1).  It does not wait for
ever: `due` bounds the steps the worker is away from answering it, no step of any thread puts it
off, and the worker can always take the next one or is about to be woken up for it (§2).
-/
import DocaCpp.Executor.Requests

namespace DocaCpp

/-- The steps the worker needs to get back to its queue. -/
def Worker.ahead : Worker ι → ℕ
  | .executing _ => 2
  | .answering _ _ => 1
  | _ => 0

/-- The labels by which the worker gets on. -/
def ExecutorLabel.works : ExecutorLabel ι → Bool
  | .loop | .execute _ _ | .answer _ _ => true
  | _ => false

namespace RdmaExecutor

variable {ι : Type} [DecidableEq ι] {x y : RdmaExecutor ι} {ls : List (ExecutorLabel ι)}

/-! ## 1. Delivery -/

/-- The request was executed, and its promise set once, to the result. -/
def Delivered (x : RdmaExecutor ι) (ls : List (ExecutorLabel ι)) (i : ι) : Prop :=
  ∃ responce, (i, responce) ∈ executed ls ∧ x.responcePromise i = [responce]

/-- What is filtered by a key that occurs once. -/
theorem filter_key {l : List (ι × RdmaOperationResponce)} {i : ι} {r : RdmaOperationResponce}
    (hnodup : (l.map Prod.fst).Nodup) (hmem : (i, r) ∈ l) :
    (l.filter (·.1 = i)).map Prod.snd = [r] := by
  induction l with
  | nil => simp at hmem
  | cons e l ih =>
    rw [List.map_cons, List.nodup_cons] at hnodup
    rcases List.mem_cons.mp hmem with rfl | hmem
    · have hnone : l.filter (·.1 = i) = [] := by
        rw [List.filter_eq_nil_iff]
        intro e he hj
        exact hnodup.1 (List.mem_map.mpr ⟨e, he, of_decide_eq_true hj⟩)
      simp [hnone]
    · have hne : e.1 ≠ i := fun he => hnodup.1 (he ▸ List.mem_map_of_mem hmem)
      rw [List.filter_cons_of_neg (by simpa using hne)]
      exact ih hnodup.2 hmem

/-- An accepted request is not a refused one. -/
theorem Accounted.not_refused {i : ι} (h : Accounted x ls) (hi : i ∈ accepted ls) :
    i ∉ refused ls := fun hmem => (List.nodup_append.mp h.distinct).2.2 i hi i hmem rfl

/-- Whatever the worker has answered is delivered. -/
theorem Accounted.delivered {i : ι} {responce : RdmaOperationResponce} (h : Accounted x ls)
    (hmem : (i, responce) ∈ answered ls) : Delivered x ls i := by
  have hex : (i, responce) ∈ executed ls := by
    rw [h.answers]
    exact List.mem_append_left _ hmem
  have hacc : (accepted ls).Nodup := (List.nodup_append.mp h.distinct).1
  have hi : i ∈ accepted ls := by
    rw [h.queued]
    exact List.mem_append_left _ (List.mem_append_left _ (List.mem_map_of_mem hex))
  refine ⟨responce, hex, ?_⟩
  rw [h.promises i (h.not_refused hi)]
  refine filter_key ?_ hmem
  rw [h.queued, h.answers, List.map_append] at hacc
  exact hacc.of_append_left.of_append_left.of_append_left

/-- An accepted request is delivered, or the worker has it in hand, or it is in the queue; the last
two with its promise untouched. -/
theorem Accounted.whereabouts {i : ι} (h : Accounted x ls) (hi : i ∈ accepted ls) :
    Delivered x ls i ∨ x.responcePromise i = [] ∧
      (i ∈ x.worker.pending.map Prod.fst ∨ i ∈ x.worker.taken ∨ i ∈ x.operationQueue) := by
  by_cases hmem : i ∈ (answered ls).map Prod.fst
  · obtain ⟨⟨j, r⟩, hr, rfl⟩ := List.mem_map.mp hmem
    exact .inl (h.delivered hr)
  · right
    constructor
    · rw [h.promises i (h.not_refused hi), List.map_eq_nil_iff, List.filter_eq_nil_iff]
      intro e he hj
      exact hmem (List.mem_map.mpr ⟨e, he, of_decide_eq_true hj⟩)
    · rw [h.queued, h.answers, List.map_append, List.mem_append, List.mem_append,
        List.mem_append] at hi
      rcases hi with ((hi | hi) | hi) | hi
      · exact absurd hi hmem
      · exact .inl hi
      · exact .inr (.inl hi)
      · exact .inr (.inr hi)

/-! ## 2. Progress -/

/-- **A bound on the steps the worker is away from answering a request.**  It answers one in three:
it takes it, executes it and sets the promise. -/
def due (x : RdmaExecutor ι) (i : ι) : ℕ :=
  if i ∈ x.operationQueue then x.worker.ahead + 3 * (x.operationQueue.idxOf i + 1)
  else if i ∈ x.worker.taken ∨ i ∈ x.worker.pending.map Prod.fst then x.worker.ahead
  else 0

/-- Notifying does not change what is due. -/
theorem due_notifyOne {i : ι} : due x.notifyOne i = due x i := by
  have hahead : x.notifyOne.worker.ahead = x.worker.ahead := by
    unfold notifyOne
    split <;> simp_all [Worker.ahead]
  unfold due
  rw [notifyOne_taken, notifyOne_pending, hahead]
  rfl

/-- The worker's critical section brings it nearer to every request. -/
theorem due_loop {i : ι} (hw : x.worker = .head) (hnodup : x.operationQueue.Nodup) :
    due x.workerLoop i = 0 ∨ due x.workerLoop i < due x i := by
  unfold workerLoop
  split
  next hsleep =>
    simp only [Bool.not_or, Bool.not_not, Bool.and_eq_true, List.isEmpty_iff] at hsleep
    simp [due, hsleep.2, Worker.taken, Worker.pending]
  next =>
    split
    next hleave =>
      simp only [Bool.and_eq_true, Bool.not_eq_true', List.isEmpty_iff] at hleave
      simp [due, hleave.2, Worker.taken, Worker.pending]
    next =>
      split
      next hq => simp [due, hq, hw, Worker.taken, Worker.pending]
      next j rest hq =>
        rw [hq, List.nodup_cons] at hnodup
        by_cases hj : j = i
        · subst hj
          right
          simp [due, hq, hw, hnodup.1, Worker.taken, Worker.ahead]
        · have hne : i ≠ j := Ne.symm hj
          by_cases hi : i ∈ rest
          · right
            simp only [due, hq, hw, hi, List.mem_cons, or_true, if_true, Worker.ahead,
              List.idxOf_cons_ne _ hj]
            omega
          · left
            simp [due, hi, hne, Worker.taken, Worker.pending]

/-- Another submission does not put an accepted request off: it joins the queue behind it. -/
theorem due_submit {i j : ι} (hne : i ≠ j) : due (x.submitOperation j).1 i = due x i := by
  unfold submitOperation
  split
  next => rfl
  next =>
    unfold due
    by_cases hi : i ∈ x.operationQueue
    · simp [hi, List.idxOf_append_of_mem hi]
    · simp [hi, hne]

/-- **No step puts a request off**, and every step the worker gets on by brings its answer
nearer. -/
theorem due_step {i : ι} {l : ExecutorLabel ι} (h : Accounted x ls) (hguided : Guided x)
    (hi : i ∈ accepted ls) (hs : x.step l = some y) :
    due y i ≤ due x i ∧ (l.works = true → due y i = 0 ∨ due y i < due x i) := by
  have hidle : ∀ {z : RdmaExecutor ι} {m : ExecutorLabel ι}, due z i ≤ due x i →
      m.works = false →
      due z i ≤ due x i ∧ (m.works = true → due z i = 0 ∨ due z i < due x i) := by
    intro z m hle hm
    exact ⟨hle, fun hw => absurd hw (Bool.eq_false_iff.mp hm)⟩
  cases step_moves hs with
  | submit j hout =>
    have hne : i ≠ j := fun hij => ((h.callers j).mp hout).1 (hij ▸ hi)
    exact hidle (due_submit hne).le rfl
  | notify j hcaller => exact hidle (due_notifyOne (x := x)).le rfl
  | loop hw =>
    have hnodup : x.operationQueue.Nodup := by
      have hacc := (List.nodup_append.mp h.distinct).1
      rw [h.queued] at hacc
      exact hacc.of_append_right
    have hloop := due_loop (i := i) hw hnodup
    exact ⟨by omega, fun _ => hloop⟩
  | wake hw => exact hidle (by simp [due, hw, Worker.taken, Worker.pending, Worker.ahead]) rfl
  | execute j responce hw =>
    by_cases hq : i ∈ x.operationQueue <;> rcases eq_or_ne i j with rfl | hj <;>
      simp [due, *, Worker.taken, Worker.pending, Worker.ahead]
  | answer j responce hw =>
    by_cases hq : i ∈ x.operationQueue <;> rcases eq_or_ne i j with rfl | hj <;>
      simp [due, setValue, *, Worker.taken, Worker.pending, Worker.ahead]
  | stop hst => exact hidle le_rfl rfl
  | destroy hst => exact hidle le_rfl rfl
  | lower destroying hst => exact hidle le_rfl rfl
  | notifyWorker destroying hst => exact hidle (due_notifyOne (x := x)).le rfl
  | join destroying hst hw => exact hidle le_rfl rfl
  | clear hst =>
    have hempty := (hguided.exited (hguided.joined (.inl hst))).2
    exact hidle (by simp [due, hempty]) rfl

/-- Once nothing is due, an accepted request is delivered. -/
theorem Accounted.due_zero {i : ι} (h : Accounted x ls) (hi : i ∈ accepted ls)
    (hdue : due x i = 0) : Delivered x ls i := by
  rcases h.whereabouts hi with hdelivered | ⟨-, hmem⟩
  · exact hdelivered
  · exfalso
    unfold due at hdue
    split at hdue
    · omega
    next hq =>
      rw [if_pos (by tauto)] at hdue
      rcases hmem with hmem | hmem | hmem
      · cases hw : x.worker <;> simp_all [Worker.pending, Worker.ahead]
      · cases hw : x.worker <;> simp_all [Worker.taken, Worker.ahead]
      · exact hq hmem

/-- Execution follows the order of acceptance. -/
theorem Accounted.inOrder (h : Accounted x ls) :
    (executed ls).map Prod.fst <+: accepted ls := by
  rw [h.queued, List.append_assoc]
  exact List.prefix_append _ _

/-- Once the worker has taken as many steps as are due, an accepted request is delivered. -/
theorem due_run {i : ι} {ms : List (ExecutorLabel ι)} (h : (executor ι).Run (start ι) ls x)
    (hi : i ∈ accepted ls) (hrun : (executor ι).Run x ms y)
    (hdue : due x i ≤ ms.countP ExecutorLabel.works) : Delivered y (ls ++ ms) i := by
  have hstart : ∃ ks, i ∈ accepted ks ∧ Accounted x ks ∧ Guided x :=
    ⟨ls, hi, executor_accounted h⟩
  have hrank := Machine.Run.rank_le (fun t => ∃ ks, i ∈ accepted ks ∧ Accounted t ks ∧ Guided t)
    ExecutorLabel.works (due · i) (fun t l u hP hs => ?_) hrun hstart
  · refine (executor_accounted (h.append hrun)).1.due_zero ?_ (by omega)
    rw [accepted_append]
    exact List.mem_append_left _ hi
  · obtain ⟨ks, hks, hacc, hguided⟩ := hP
    refine ⟨⟨ks ++ [l], ?_, hacc.step hguided hs, hguided.step hs⟩, due_step hacc hguided hks hs⟩
    rw [accepted_append]
    exact List.mem_append_left _ hks

/-- As long as a request is unanswered the worker can go on, or it is asleep and somebody is about
to notify it. -/
theorem worker_enabled {i : ι} (h : Accounted x ls) (hguided : Guided x) (hi : i ∈ accepted ls)
    (hnone : x.responcePromise i = []) :
    ∃ l : ExecutorLabel ι, (l.works = true ∨ x.worker = .waiting ∧ ∃ j, l = .notify j) ∧
      (x.step l).isSome = true := by
  have hmem : i ∈ x.worker.pending.map Prod.fst ∨ i ∈ x.worker.taken ∨ i ∈ x.operationQueue := by
    rcases h.whereabouts hi with ⟨r, -, hr⟩ | ⟨-, hmem⟩
    · simp [hr] at hnone
    · exact hmem
  cases hw : x.worker with
  | head => exact ⟨.loop, .inl rfl, by simp [RdmaExecutor.step, hw]⟩
  | executing j => exact ⟨.execute j (none, none), .inl rfl, by simp [RdmaExecutor.step, hw]⟩
  | answering j responce => exact ⟨.answer j responce, .inl rfl, by simp [RdmaExecutor.step, hw]⟩
  | waiting =>
    have hq : x.operationQueue ≠ [] := by
      rintro hq
      simp [hw, hq, Worker.pending, Worker.taken] at hmem
    obtain ⟨j, hj⟩ := (hguided.woken hw).1.resolve_left hq
    exact ⟨.notify j, .inr ⟨rfl, j, rfl⟩, by simp [RdmaExecutor.step, hj]⟩
  | exited =>
    simp [hw, (hguided.exited hw).2, Worker.pending, Worker.taken] at hmem

/-! ## 3. The result -/

/-- **Every accepted operation is answered exactly once and in order**, in every run of a started
executor.  Whatever was submitted was accepted or refused once.  Execution follows the order of
acceptance, and an accepted request has an untouched promise until it is set to the result of its
execution; a refused one has its promise set to the shutdown error and is never executed.  When the
executor is stopped everything accepted has been answered.  And nobody waits for ever: after so
many steps of the worker, which it can always take or is about to be woken up for, the answer is
there. -/
theorem operations_answered (h : (executor ι).Run (start ι) ls x) :
    (accepted ls ++ refused ls).Nodup ∧ (executed ls).map Prod.fst <+: accepted ls ∧
      (∀ i ∈ accepted ls, x.responcePromise i = [] ∨ Delivered x ls i) ∧
      (∀ i ∈ refused ls, x.responcePromise i = [(none, some shutDown)] ∧
        i ∉ (executed ls).map Prod.fst) ∧
      (x.stopper = .returned → x.operationQueue = [] ∧ (executed ls).map Prod.fst = accepted ls ∧
        ∀ i ∈ accepted ls, Delivered x ls i) ∧
      (∀ i ∈ accepted ls, ∃ n, ∀ ms y, (executor ι).Run x ms y → n ≤ ms.countP ExecutorLabel.works →
        Delivered y (ls ++ ms) i) ∧
      ∀ i ∈ accepted ls, x.responcePromise i = [] → ∃ l : ExecutorLabel ι,
        (l.works = true ∨ x.worker = .waiting ∧ ∃ j, l = .notify j) ∧ (x.step l).isSome = true := by
  obtain ⟨hacc, hguided⟩ := executor_accounted h
  refine ⟨hacc.distinct, hacc.inOrder, fun i hi => ?_, fun i hi => ⟨hacc.refusals i hi, ?_⟩,
    fun hst => ?_, fun i hi => ⟨due x i, fun ms y hrun hn => ?_⟩,
    fun i hi hnone => worker_enabled hacc hguided hi hnone⟩
  · exact (hacc.whereabouts hi).symm.imp_left And.left
  · exact fun hmem => hacc.not_refused (hacc.inOrder.subset hmem) hi
  · have hw : x.worker = .exited := hguided.joined (.inr hst)
    have hempty := (hguided.exited hw).2
    refine ⟨hempty, ?_, fun i hi => hacc.due_zero hi ?_⟩
    · simp [hacc.queued, hempty, hw, Worker.taken]
    · simp [due, hempty, hw, Worker.taken, Worker.pending]
  · exact due_run h hi hrun hn

/-- Two requests in the queue when the executor is stopped, and one that comes too late. -/
theorem operations_answered_sample :
    let ls : List (ExecutorLabel (Fin 3)) :=
      [.submit 0 none, .notify 0, .submit 1 none, .loop, .stop, .lower, .submit 2 (some shutDown),
        .notifyWorker, .execute 0 (some 7, none), .notify 1, .answer 0 (some 7, none), .loop,
        .execute 1 (none, none), .answer 1 (none, none), .loop, .join, .clear]
    ∃ x, (executor (Fin 3)).Run (start (Fin 3)) ls x ∧ x.stopper = .returned ∧
      ∀ i ∈ accepted ls, Delivered x ls i := by
  intro ls
  have hexec : (executor (Fin 3)).exec (start (Fin 3)) ls = some _ := rfl
  have hrun := Machine.exec_run hexec
  exact ⟨_, hrun, rfl, (operations_answered hrun).2.2.2.2.1 rfl |>.2.2⟩

end RdmaExecutor

end DocaCpp
