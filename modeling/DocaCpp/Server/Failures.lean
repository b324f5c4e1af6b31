/-
# Which failures `Serve` reports

Every session hands its outcome to one variable, `serverInternalError`, and `Serve` looks at it
between two polls.  A failure can be lost in four ways: its completion handler is told nothing of it
(`Silent`), a session that completes later overwrites it, the accept loop has no completion handler
at all, or `continueServing` is cleared before `Serve` looks again.

`serve_reports_iff` is exact: of the runs in which something failed, those report it in which the
last session to have completed before one of the checks did not end silently, and those in which
`Serve` itself catches an exception.
-/
import DocaCpp.Server.Serve

namespace DocaCpp

variable [Platform]

/-! ## 1. How a session ends -/

/-- The errors inside of a session from which it does not go on, and the exceptions. -/
def SessionEvent.fatal : SessionEvent → Bool
  | ⟨.waitForEstablishedConnection _, some _⟩ => true
  | ⟨.exportMemoryDescriptor _, .returned (.error _)⟩ => true
  | ⟨.exportMemoryDescriptor _, .threw⟩ => true
  | ⟨.tryLockEndpointsByPath _, (_, some _)⟩ => true
  | ⟨.asyncWrite _, .error _⟩ => true
  | ⟨.handle _, .threw⟩ => true
  | _ => false

/-- The session has failed: one of these has happened, or it has returned without having found its
socket closed. -/
def Failed (evs : List SessionEvent) (c : Session) : Prop :=
  (∃ ev ∈ evs, ev.fatal = true) ∨
    c.pending serverPass = none ∧ evs.getLast? ≠ some ⟨.isOpen, false⟩

/-- The last events of which a completion handler is told nothing: the socket was closed; an
exception has left the session; the export of the descriptor had failed, and the response that says
so was sent, if `errors::Wrap` makes null of null. -/
def SessionEvent.quiet (log : ServerLog) : SessionEvent → Prop
  | ⟨.isOpen, false⟩ => True
  | ⟨.exportMemoryDescriptor _, .threw⟩ => True
  | ⟨.handle _, .threw⟩ => True
  | ⟨.asyncWrite _, .ok _⟩ =>
    (∃ err, log.current.exported = some (.error err)) ∧
      Platform.wrapNull "Failed to export memory descriptor" = none
  | _ => False

/-- A session that is over has ended silently. -/
def Silent (evs : List SessionEvent) : Prop :=
  ∃ ev, evs.getLast? = some ev ∧ ev.quiet (serverLog evs)

theorem silent_snoc (evs : List SessionEvent) (ev : SessionEvent) :
    Silent (evs ++ [ev]) ↔ ev.quiet ((serverLog evs).note ev) := by
  unfold Silent
  rw [List.getLast?_concat, serverLog_snoc]
  constructor
  · rintro ⟨_, heq, hq⟩
    cases heq
    exact hq
  · exact fun hq => ⟨ev, rfl, hq⟩

/-- The points at which a session is over. -/
theorem completionError_session {f : ServerPhase} {err : error}
    (h : completionError f.session = some err) : f = .ended err ∨ f = .unwound ∧ err = none := by
  rcases completionError_cases h with hended | ⟨hunwind, rfl⟩
  · rcases atRest_session (.inr (.inl (congrArg (Loop.pending serverPass) hended))) with
      rfl | rfl | ⟨err', rfl⟩
    · cases hended
    · cases hended
    · cases hended
      exact .inl rfl
  · rcases atRest_session (.inr (.inr hunwind)) with rfl | rfl | ⟨err', rfl⟩
    · cases hunwind
    · exact .inr ⟨rfl, rfl⟩
    · cases hunwind

/-- The step with which a session returns. -/
theorem ServerStep.returns {f f' : ServerPhase} {ev : SessionEvent} {log : ServerLog} {err : error}
    (hs : ServerStep f ev f') (hf : f.Knows log) (h : f' = .ended err) :
    err = none ↔ ev.quiet (log.note ev) := by
  cases hs with
  | closed =>
    cases h
    exact iff_of_true rfl trivial
  | connectionFailed request err =>
    cases h
    exact iff_of_false (Option.some_ne_none _) id
  | sendLengthFailed reply bs ec =>
    cases h
    refine iff_of_false ?_ id
    cases reply <;> exact Option.some_ne_none _
  | sendPayloadFailed reply bs ec =>
    cases h
    refine iff_of_false ?_ id
    cases reply <;> exact Option.some_ne_none _
  | sendPayload reply bs =>
    obtain ⟨-, -, -, hcurrent⟩ := hf
    have hexported : (log.note ⟨.asyncWrite bs, .ok ()⟩).current.exported
        = reply.exchange.exported := by
      change log.current.exported = _
      rw [hcurrent]
    cases reply with
    | exportFailed request endpoint descErr =>
      cases h
      exact (and_iff_right ⟨descErr, hexported⟩).symm
    | lockFailed request endpoint descriptor lockErr =>
      cases h
      refine iff_of_false (Option.some_ne_none _) ?_
      rintro ⟨⟨err, herr⟩, -⟩
      rw [hexported] at herr
      cases herr
    | permitted request endpoint descriptor =>
      have hne : err ≠ none := by
        rcases Reply.permitted_sent_cases request endpoint descriptor with heq | ⟨err', heq⟩
        · cases heq.symm.trans h
        · cases heq.symm.trans h
          exact Option.some_ne_none _
      refine iff_of_false hne ?_
      rintro ⟨⟨err, herr⟩, -⟩
      rw [hexported] at herr
      cases herr
    | _ => cases h
  | granted request endpoint descriptor =>
    rcases granted_cases request endpoint descriptor with heq | heq <;> cases heq.symm.trans h
  | ackJoin request endpoint ack err timer =>
    rcases joined_cases request endpoint (Coro.errorAfter timer err) with heq | heq <;>
      cases heq.symm.trans h
  | _ => cases h

/-- The step with which an exception leaves a session. -/
theorem ServerStep.unwinds {f f' : ServerPhase} {ev : SessionEvent} {log : ServerLog}
    (hs : ServerStep f ev f') (h : f' = .unwound) : ev.quiet log := by
  cases hs with
  | exportThrew request endpoint | prepareThrew request endpoint descriptor
  | processThrew request endpoint => trivial
  | sendPayload reply bs =>
    cases reply with
    | permitted request endpoint descriptor =>
      rcases Reply.permitted_sent_cases request endpoint descriptor with heq | ⟨err, heq⟩ <;>
        cases heq.symm.trans h
    | _ => cases h
  | granted request endpoint descriptor =>
    rcases granted_cases request endpoint descriptor with heq | heq <;> cases heq.symm.trans h
  | ackJoin request endpoint ack err timer =>
    rcases joined_cases request endpoint (Coro.errorAfter timer err) with heq | heq <;>
      cases heq.symm.trans h
  | _ => cases h

/-- **What the completion handler is told**: nothing, exactly if the session ended silently. -/
theorem completion_silent {evs : List SessionEvent} {c : Session} {err : error}
    (h : ServerRun evs c) (he : completionError c = some err) : err = none ↔ Silent evs := by
  rcases List.eq_nil_or_concat evs with rfl | ⟨evs, ev, rfl⟩
  · -- a session that has done nothing is not over
    have hhead : c = .head := by
      cases Machine.run_exec h
      rfl
    rcases completionError_cases he with hended | ⟨hunwind, -⟩
    · rw [hhead] at hended
      cases hended
    · rw [hhead] at hunwind
      cases hunwind
  · rw [List.concat_eq_append] at h ⊢
    obtain ⟨f, f', hf, hs, rfl⟩ := server_last h
    rw [silent_snoc]
    rcases completionError_session he with rfl | ⟨rfl, rfl⟩
    · exact hs.returns hf rfl
    · exact iff_of_true rfl (hs.unwinds rfl)

/-! ## 2. What `Serve` notices -/

variable {ι : Type} [DecidableEq ι]

/-- The session whose completion handler runs. -/
def ServeLabel.completes : ServeLabel ι → Option ι
  | .complete i => some i
  | _ => none

/-- The session that was the last to complete. -/
def lastCompleted (ls : List (ServeLabel ι)) : Option ι :=
  (ls.filterMap ServeLabel.completes).getLast?

/-- A session has completed, and the last one to do so had not ended silently. -/
def Loud (ls : List (ServeLabel ι)) : Prop :=
  ∃ i, lastCompleted ls = some i ∧ ¬ Silent (eventsOf i (sessionHistory ls))

/-- `Serve` has looked at `serverInternalError` at such a time. -/
def Noticed (ls : List (ServeLabel ι)) : Prop := ∃ pre, pre ++ [.check] <+: ls ∧ Loud pre

/-- `Serve` has caught an exception. -/
def Thrown (ls : List (ServeLabel ι)) : Prop := ∃ what, .throws what ∈ ls

/-- A session has failed, or an exception has left the accept loop while the server was to serve. -/
def Failure (ls : List (ServeLabel ι)) (x : Serving ι) : Prop :=
  (∃ i, Failed (eventsOf i (sessionHistory ls)) (x.pool.session i)) ∨ x.acceptLoop = .threw true

section Noticed

variable {ls : List (ServeLabel ι)} {l : ServeLabel ι} {x y : Serving ι}

omit [Platform] [DecidableEq ι] in
theorem lastCompleted_snoc (ls : List (ServeLabel ι)) (l : ServeLabel ι) :
    lastCompleted (ls ++ [l]) = l.completes.or (lastCompleted ls) := by
  unfold lastCompleted
  rw [List.filterMap_append]
  cases h : l.completes with
  | none => simp [h]
  | some i => simp [h]

theorem loud_snoc (hc : l.completes = none)
    (hs : ∀ i ev, l = .session i ev → lastCompleted ls ≠ some i) :
    Loud (ls ++ [l]) ↔ Loud ls := by
  unfold Loud
  rw [lastCompleted_snoc, hc, Option.none_or]
  refine exists_congr fun i => and_congr_right fun hi => not_congr ?_
  rw [eventsOf_snoc]
  rintro ev rfl
  exact hs i ev rfl hi

theorem loud_complete (i : ι) :
    Loud (ls ++ [.complete i]) ↔ ¬ Silent (eventsOf i (sessionHistory ls)) := by
  unfold Loud
  rw [lastCompleted_snoc]
  constructor
  · rintro ⟨j, hj, hloud⟩
    cases hj
    rwa [eventsOf_snoc (by rintro ev ⟨⟩)] at hloud
  · intro hloud
    exact ⟨i, rfl, by rwa [eventsOf_snoc (by rintro ev ⟨⟩)]⟩

theorem noticed_snoc : Noticed (ls ++ [l]) ↔ Noticed ls ∨ l = .check ∧ Loud ls := by
  constructor
  · rintro ⟨pre, hpre, hloud⟩
    rcases List.prefix_concat_iff.mp hpre with heq | hpre
    · obtain ⟨rfl, hl⟩ := List.append_inj' heq rfl
      exact .inr ⟨(List.singleton_inj.mp hl).symm, hloud⟩
    · exact .inl ⟨pre, hpre, hloud⟩
  · rintro (⟨pre, hpre, hloud⟩ | ⟨rfl, hloud⟩)
    · exact ⟨pre, hpre.trans (List.prefix_append _ _), hloud⟩
    · exact ⟨ls, List.prefix_refl _, hloud⟩

omit [Platform] [DecidableEq ι] in
theorem thrown_snoc : Thrown (ls ++ [l]) ↔ Thrown ls ∨ ∃ what, l = .throws what := by
  unfold Thrown
  simp only [List.mem_append, List.mem_singleton, exists_or, eq_comm]

/-! ## 3. What every state says about it -/

/-- Nothing has been accepted yet. -/
def Serving.Untouched (x : Serving ι) : Prop :=
  (∀ i, x.accepted i = false) ∧ x.acceptLoop = .head

/-- The points before the event loop. -/
def ServePhase.early : ServePhase → Bool
  | .guard | .endpoints | .setup _ | .spawn => true
  | _ => false

omit [Platform] [DecidableEq ι] in
theorem Serving.polling_phase (h : x.polling = true) : x.phase = .poll ∨ x.phase = .drain := by
  simp only [Serving.polling, Bool.and_eq_true, Bool.or_eq_true, decide_eq_true_eq] at h
  exact h.1

/-- **What every state says about failures.** -/
structure Serving.Reports (x : Serving ι) (ls : List (ServeLabel ι)) : Prop where
  error : x.serverInternalError ≠ none ↔ Loud ls
  last : ∀ i, lastCompleted ls = some i → ∃ err, completionError (x.pool.session i) = some err
  idle : ∀ i, x.accepted i = false → eventsOf i (sessionHistory ls) = []
  early : x.phase.early = true → x.Untouched
  caught : Noticed ls ∨ Thrown ls → ∃ err, x.phase = .returned (some err)
  returned : ∀ err, x.phase = .returned (some err) → Noticed ls ∨ Thrown ls ∨ x.Untouched

/-- Once `Serve` has returned it stays so. -/
theorem Serving.Moves.returned {err : error} (h : Serving.Moves x l y)
    (hp : x.phase = .returned err) : y.phase = .returned err := by
  have hnone : ∀ {p : ServePhase}, x.phase = p → p = .returned err := fun hq => hq ▸ hp
  have hpolling : x.polling ≠ true := by
    intro hq
    rcases Serving.polling_phase hq with hq | hq <;> cases hnone hq
  cases h with
  | refused hq | entered hq | noEndpoints hq | endpoints hq | setupFailed _ _ hq | setup _ hq
  | spawn hq | head hq | checkFailed _ hq | check hq | progress hq | polled hq | drainPolled hq
  | close hq | interrupted hq | forced hq | finished hq | drained hq => cases hnone hq
  | throws what hg => simp [Serving.guarded, hp] at hg
  | accepting hq | accept _ hq | acceptThrows hq | session _ _ _ hq | complete _ _ hq =>
    exact absurd hq hpolling
  | stopServing | force => exact hp

/-- Only a session that has not completed makes a call. -/
theorem Serving.Moves.loud (h : Serving.Moves x l y) (hr : x.Reports ls)
    (hc : l.completes = none) : Loud (ls ++ [l]) ↔ Loud ls := by
  refine loud_snoc hc ?_
  rintro i ev rfl hi
  obtain ⟨err, herr⟩ := hr.last i hi
  cases h with
  | session _ _ pool _ _ hs => exact completionError_resume herr (Pool.step_inv hs).2.1

/-- The variable holds an error exactly if the last session to complete did not end silently. -/
theorem Serving.Reports.error_step (hr : x.Reports ls) (h : Serving.Moves x l y)
    (hsession : ∀ i, ServerRun (eventsOf i (sessionHistory ls)) (x.pool.session i)) :
    y.serverInternalError ≠ none ↔ Loud (ls ++ [l]) := by
  cases hl : l.completes with
  | some i =>
    cases h with
    | complete i err hp hi hc he =>
      rw [loud_complete]
      exact not_congr (completion_silent (hsession _) he)
    | _ => cases hl
  | none =>
    rw [h.loud hr hl, ← hr.error]
    cases h with
    | complete => cases hl
    | _ => exact Iff.rfl

/-- A session whose completion handler has run stays over. -/
theorem Serving.Reports.last_step (hr : x.Reports ls) (h : Serving.Moves x l y) (i : ι)
    (hi : lastCompleted (ls ++ [l]) = some i) :
    ∃ err, completionError (y.pool.session i) = some err := by
  rw [lastCompleted_snoc] at hi
  cases h with
  | complete j err hp hj hc he =>
    cases hi
    exact ⟨err, he⟩
  | session j ev pool hp hj hs =>
    obtain ⟨err, herr⟩ := hr.last i hi
    obtain ⟨-, hres, hother⟩ := Pool.step_inv hs
    have hne : i ≠ j := by
      rintro rfl
      exact completionError_resume herr hres
    exact ⟨err, by rw [hother i hne]; exact herr⟩
  | _ => exact hr.last i hi

/-- What is not accepted does nothing. -/
theorem Serving.Reports.idle_step (hr : x.Reports ls) (h : Serving.Moves x l y) (i : ι)
    (hi : y.accepted i = false) : eventsOf i (sessionHistory (ls ++ [l])) = [] := by
  have hbefore : x.accepted i = false := by
    cases h with
    | accept j hp ha hj =>
      by_cases hij : i = j
      · rw [hij]
        exact hj
      · exact (Function.update_of_ne hij true x.accepted).symm.trans hi
    | _ => exact hi
  rw [eventsOf_snoc, hr.idle i hbefore]
  rintro ev rfl
  cases h with
  | session _ _ pool hp hj hs => exact absurd (hbefore.symm.trans hj) Bool.false_ne_true

/-- Only the event loop touches anything. -/
theorem Serving.Moves.untouched (h : Serving.Moves x l y) (hx : x.Untouched)
    (hp : x.polling = false) : y.Untouched := by
  have hpolling : x.polling ≠ true := Bool.eq_false_iff.mp hp
  cases h with
  | accepting hq | accept _ hq | acceptThrows hq | session _ _ _ hq | complete _ _ hq =>
    exact absurd hq hpolling
  | _ => exact hx

/-- What is before the event loop was before it all along. -/
theorem Serving.Moves.early (h : Serving.Moves x l y) (hy : y.phase.early = true) :
    x.phase.early = true ∧ x.polling = false := by
  have hearly : ∀ {p : ServePhase}, x.phase = p → p.early = true →
      x.phase.early = true ∧ x.polling = false := by
    rintro p rfl hp
    refine ⟨hp, Bool.eq_false_iff.mpr fun hq => ?_⟩
    rcases Serving.polling_phase hq with hq | hq
    all_goals
      rw [hq] at hp
      cases hp
  cases h with
  | refused hp | noEndpoints hp | setupFailed _ _ hp => cases hy
  | entered hp | endpoints hp | setup s hp => exact hearly hp rfl
  | head hp =>
    dsimp only at hy
    split at hy <;> cases hy
  | accepting | accept | acceptThrows | session | complete | stopServing | force =>
    exact hearly rfl hy
  | _ => cases hy

/-- **Every step keeps the account of the failures.** -/
theorem Serving.Reports.step (hr : x.Reports ls) (h : Serving.Moves x l y)
    (hsession : ∀ i, ServerRun (eventsOf i (sessionHistory ls)) (x.pool.session i)) :
    y.Reports (ls ++ [l]) where
  error := hr.error_step h hsession
  last := hr.last_step h
  idle := hr.idle_step h
  early := by
    intro hy
    obtain ⟨hx, hp⟩ := h.early hy
    exact h.untouched (hr.early hx) hp
  caught := by
    rw [noticed_snoc, thrown_snoc]
    rintro ((hbefore | ⟨rfl, hloud⟩) | (hbefore | ⟨what, rfl⟩))
    · obtain ⟨err, hp⟩ := hr.caught (.inl hbefore)
      exact ⟨err, h.returned hp⟩
    · cases h with
      | checkFailed err hp he => exact ⟨.wrap err "Server internal error", rfl⟩
      | check hp he => exact absurd (hr.error.mpr hloud) (not_not_intro he)
    · obtain ⟨err, hp⟩ := hr.caught (.inr hbefore)
      exact ⟨err, h.returned hp⟩
    · cases h with
      | throws what hg => exact ⟨_, rfl⟩
  returned := by
    intro err hy
    rw [noticed_snoc, thrown_snoc]
    have hmono : Noticed ls ∨ Thrown ls ∨ y.Untouched →
        (Noticed ls ∨ l = .check ∧ Loud ls) ∨ (Thrown ls ∨ ∃ what, l = .throws what) ∨
          y.Untouched := by
      rintro (hn | ht | hu)
      · exact .inl (.inl hn)
      · exact .inr (.inl (.inl ht))
      · exact .inr (.inr hu)
    have hearly : x.phase.early = true → y.accepted = x.accepted → y.acceptLoop = x.acceptLoop →
        y.Untouched := by
      intro hx ha hl
      obtain ⟨hacc, hloop⟩ := hr.early hx
      exact ⟨by rwa [ha], by rwa [hl]⟩
    cases h with
    | refused hp hs => exact hmono (.inr (.inr (hearly (by rw [hp]; rfl) rfl rfl)))
    | noEndpoints hp hs => exact hmono (.inr (.inr (hearly (by rw [hp]; rfl) rfl rfl)))
    | setupFailed s err hp => exact hmono (.inr (.inr (hearly (by rw [hp]; rfl) rfl rfl)))
    | checkFailed err hp he =>
      exact .inl (.inr ⟨rfl, hr.error.mp (by rw [he]; exact Option.some_ne_none _)⟩)
    | throws what hg => exact .inr (.inl (.inr ⟨what, rfl⟩))
    | head hp =>
      dsimp only at hy
      split at hy <;> cases hy
    | setup s hp => cases s <;> cases hy
    | accepting hp | accept _ hp | acceptThrows hp | session _ _ _ hp | complete _ _ hp =>
      rcases Serving.polling_phase hp with hp | hp
      all_goals
        dsimp only at hy
        rw [hp] at hy
        cases hy
    | stopServing => exact hmono (hr.returned err hy)
    | force flag => exact hmono (hr.returned err hy)
    | _ => cases hy

/-- Every state of a server reports so. -/
theorem serve_reports {storage : RdmaEndpointStorage} {isServing : Bool}
    (h : (serve ι).Run (Serving.start storage isServing) ls x) : x.Reports ls := by
  refine Machine.RunWith.invariant (I := fun ls x => x.Reports ls) ?_ ?_ h
  · exact {
      error := iff_of_false (fun h => h rfl) (by rintro ⟨i, hi, -⟩; cases hi)
      last := by
        intro i hi
        cases hi
      idle := fun _ _ => rfl
      early := fun _ => ⟨fun _ => rfl, rfl⟩
      caught := by
        rintro (⟨pre, hpre, -⟩ | ⟨what, hmem⟩)
        · simp at hpre
        · cases hmem
      returned := by
        intro err hp
        cases hp }
  · intro ls x l y hrun hI _ hstep
    exact hI.step (Serving.step_moves hstep) fun i => serve_session hrun i

/-! ## 4. The result -/

/-- What has failed was touched. -/
theorem Failure.touched (hr : x.Reports ls) (h : Failure ls x)
    (hsession : ∀ i, ServerRun (eventsOf i (sessionHistory ls)) (x.pool.session i)) :
    ¬ x.Untouched := by
  rintro ⟨hacc, hloop⟩
  rcases h with ⟨i, hfailed⟩ | hthrew
  · have hnil := hr.idle i (hacc i)
    have hrun := hsession i
    rw [hnil] at hfailed hrun
    have hhead : x.pool.session i = .head := (Option.some.inj (Machine.run_exec hrun)).symm
    rcases hfailed with ⟨ev, hmem, -⟩ | ⟨hpending, -⟩
    · cases hmem
    · rw [hhead] at hpending
      cases hpending
  · rw [hloop] at hthrew
    cases hthrew

/-- **Which failures `Serve` reports.**  In every run, with any number of sessions completing in any
order, a `Serve` that has returned returns an error whenever something failed exactly if, when
something failed, at one of its checks the last session to have completed had not ended silently, or
it has caught an exception. -/
theorem serve_reports_iff {storage : RdmaEndpointStorage} {isServing : Bool} {r : error}
    (h : (serve ι).Run (Serving.start storage isServing) ls x) (hp : x.phase = .returned r) :
    (Failure ls x → r ≠ none) ↔ (Failure ls x → Noticed ls ∨ Thrown ls) := by
  have hr := serve_reports h
  refine forall_congr' fun hfailure => ?_
  constructor
  · intro hne
    obtain ⟨err, rfl⟩ := Option.ne_none_iff_exists'.mp hne
    rcases hr.returned err hp with hn | ht | hu
    · exact .inl hn
    · exact .inr ht
    · exact absurd hu (hfailure.touched hr fun i => serve_session h i)
  · intro hcaught
    obtain ⟨err, herr⟩ := hr.caught hcaught
    rw [hp] at herr
    cases herr
    exact Option.some_ne_none err

/-- A server with one endpoint that has accepted a client, in its first poll. -/
def acceptingLabels : List (ServeLabel (Fin 1)) :=
  [.guard, .endpoints, .setup none, .setup none, .setup none, .setup none, .spawn, .head, .check,
    .progress, .accepting, .accept 0]

/-- The response to a client that has gone cannot be written, and `Serve` looks. -/
def reportedLabels : List (ServeLabel (Fin 1)) :=
  acceptingLabels ++ strandedEvents.map (.session 0) ++ [.complete 0, .polled, .head, .check]

omit [Platform] in
/-- That failure is reported. -/
theorem serve_reports_sample :
    letI := Platform.littleEndian
    ∃ x r, (serve (Fin 1)).Run (Serving.start sampleStorage false) reportedLabels x ∧
      x.phase = .returned (some r) ∧
      ((Failure reportedLabels x → some r ≠ none) ↔
        (Failure reportedLabels x → Noticed reportedLabels ∨ Thrown reportedLabels)) := by
  let _ := Platform.littleEndian
  have hexec : ((serve (Fin 1)).exec (Serving.start sampleStorage false) reportedLabels).any
      (fun x => decide (x.phase = .returned (some (.wrap (.wrap
        (.new "Failed to write responce length to socket: Broken pipe") "Failed to send responce")
          "Server internal error")))) = true := by decide +kernel
  obtain ⟨x, hx, hp⟩ := (Option.any_eq_true _ _).mp hexec
  have hphase := of_decide_eq_true hp
  exact ⟨x, _, Machine.exec_run hx, hphase, serve_reports_iff (Machine.exec_run hx) hphase⟩

/-- The service of a read endpoint throws. -/
def thrownEvents : List SessionEvent :=
  grantEvents sampleRequest sampleEndpoint [7] ++ [⟨.handle sampleEndpoint, .threw⟩]

/-- It does, and then `Shutdown` is called. -/
def lostLabels : List (ServeLabel (Fin 1)) :=
  acceptingLabels ++ thrownEvents.map (.session 0)
    ++ [.complete 0, .polled, .head, .check, .progress, .polled, .stopServing, .head, .close,
      .forced, .drained]

omit [Platform] in
/-- `Serve` returns null although a session has failed. -/
theorem failure_lost :
    letI := Platform.littleEndian
    ∃ x, (serve (Fin 1)).Run (Serving.start sampleStorage false) lostLabels x ∧
      Failure lostLabels x ∧ x.phase = .returned none := by
  let _ := Platform.littleEndian
  have hexec : ((serve (Fin 1)).exec (Serving.start sampleStorage false) lostLabels).any
      (fun x => decide (x.phase = .returned none)) = true := by decide +kernel
  obtain ⟨x, hx, hp⟩ := (Option.any_eq_true _ _).mp hexec
  refine ⟨x, Machine.exec_run hx, .inl ⟨0, .inl ⟨⟨.handle sampleEndpoint, .threw⟩, ?_, rfl⟩⟩,
    of_decide_eq_true hp⟩
  have hmem : ((0 : Fin 1), (⟨.handle sampleEndpoint, .threw⟩ : SessionEvent))
      ∈ sessionHistory lostLabels := by
    refine List.mem_filterMap.mpr ⟨.session 0 ⟨.handle sampleEndpoint, .threw⟩, ?_, rfl⟩
    simp [lostLabels, thrownEvents]
  exact List.mem_filterMap.mpr ⟨_, hmem, rfl⟩

end Noticed

end DocaCpp
