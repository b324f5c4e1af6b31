/-
# The history of a client session

The counterpart of `ServerHistory`: `clientLog` folds the events of a client session into what it
was permitted, how its RDMA operation ended and which acknowledges it made, `ClientPhase.Knows`
says what the log must say at a point, and `client_knows` that it does.
-/
import DocaCpp.Session.ClientPhase
import DocaCpp.Session.Answers

namespace DocaCpp

/-! ## 1. The log -/

/-- What a client session has done. -/
structure ClientLog where
  /-- the response decoded -/
  responce : Option Responce := none
  /-- the RDMA operation was submitted -/
  submitted : Bool := false
  /-- how the wait for the RDMA operation ended -/
  operation : Option Awaited := none
  /-- the acknowledges made, the last one first -/
  acks : List Acknowledge := []

/-- One more event. -/
def ClientLog.note (log : ClientLog) (ev : SessionEvent) : ClientLog :=
  match ev with
  | ⟨.deserializeResponse _, .ok responce⟩ => { log with responce := some responce }
  | ⟨.submitOperation _, none⟩ => { log with submitted := true }
  | ⟨.awaitWithTimeout _, result⟩ => { log with operation := some result }
  | ⟨.serializeAcknowledge ack, _⟩ => { log with acks := ack :: log.acks }
  | _ => log

/-- The log of a history. -/
def clientLog (evs : List SessionEvent) : ClientLog := evs.foldl ClientLog.note {}

@[simp] theorem clientLog_snoc (evs : List SessionEvent) (ev : SessionEvent) :
    clientLog (evs ++ [ev]) = (clientLog evs).note ev := by
  simp [clientLog]

/-! ## 2. What the history says at a point -/

/-- The log of a client that has its permission and has not used it yet. -/
def permittedLog (descriptor : Bytes) : ClientLog :=
  { responce := some ⟨.operationPermitted, descriptor⟩ }

/-- How the operation of a client ended that is about to report an outcome. -/
def Outcome.Follows (outcome : Outcome) (log : ClientLog) : Prop :=
  (outcome = .completed ↔ log.operation = some (.ready none)) ∧
    (log.operation ≠ none → log.submitted = true) ∧
    ∃ descriptor, log.responce = some ⟨.operationPermitted, descriptor⟩

/-- **What the log says at a point.** -/
def ClientPhase.Knows (log : ClientLog) : ClientPhase → Prop
  | start | requestSerialize | requestLength _ | requestPayload _ | responseLength
  | responsePayload _ | responseDecode _ => log = {}
  | requestJoin responce err => log = { responce := if err.isSome then none else some responce }
  | importDescriptor descriptor | service descriptor | connection descriptor
  | submit _ descriptor => log = permittedLog descriptor
  | await _ => ∃ descriptor, log = { permittedLog descriptor with submitted := true }
  | ackTimer outcome | ackSerialize outcome => outcome.Follows log ∧ log.acks = []
  | ackLength outcome _ | ackPayload outcome _ | ackJoin outcome _ =>
    outcome.Follows log ∧ log.acks = [outcome.acknowledge]
  | finish => Outcome.completed.Follows log ∧ log.acks = [Outcome.completed.acknowledge]
  | ended none => Outcome.completed.Follows log ∧ log.acks = [Outcome.completed.acknowledge]
  | ended (some _) | unwound | undefined =>
    log.acks = [] ∨ ∃ outcome : Outcome, outcome.Follows log ∧ log.acks = [outcome.acknowledge]

/-- A client makes one acknowledge at most, for what it was permitted. -/
theorem ClientPhase.Knows.acks {log : ClientLog} {g : ClientPhase} (h : g.Knows log) :
    log.acks = [] ∨
      ∃ outcome : Outcome, outcome.Follows log ∧ log.acks = [outcome.acknowledge] := by
  cases g with
  | start | requestSerialize | requestLength buffer | requestPayload buffer | responseLength
  | responsePayload size | responseDecode buffer | requestJoin responce err
  | importDescriptor descriptor | service descriptor | connection descriptor
  | submit type descriptor => exact Or.inl (congrArg ClientLog.acks h)
  | await type =>
    obtain ⟨descriptor, h⟩ := h
    exact Or.inl (congrArg ClientLog.acks h)
  | ackTimer outcome | ackSerialize outcome => exact Or.inl h.2
  | ackLength outcome buffer | ackPayload outcome buffer | ackJoin outcome err =>
    exact Or.inr ⟨outcome, h⟩
  | finish => exact Or.inr ⟨.completed, h⟩
  | unwound | undefined => exact h
  | ended err =>
    cases err with
    | none => exact Or.inr ⟨.completed, h⟩
    | some err => exact h

/-! ## 3. The invariant -/

variable {log : ClientLog} {endpoint : RdmaEndpoint}

/-- A client that gives up before the wait for its operation reports no completion. -/
theorem Outcome.follows_permitted {outcome : Outcome} {descriptor : Bytes}
    (h : outcome ≠ .completed) : outcome.Follows (permittedLog descriptor) :=
  ⟨⟨fun hc => absurd hc h, fun ho => (nomatch ho)⟩, fun ho => absurd rfl ho, descriptor, rfl⟩

theorem knows_imported {descriptor : Bytes} (h : log = permittedLog descriptor) :
    (imported endpoint descriptor).Knows log := by
  unfold imported
  by_cases hw : endpoint.type = .write
  · rw [if_pos hw]
    exact h
  · rw [if_neg hw]
    exact h

theorem knows_connected {descriptor : Bytes} (h : log = permittedLog descriptor) :
    (connected endpoint descriptor).Knows log := by
  unfold connected
  by_cases hw : endpoint.type = .write
  · rw [if_pos hw]
    exact h
  · rw [if_neg hw]
    by_cases hr : endpoint.type = .read
    · rw [if_pos hr]
      exact h
    · rw [if_neg hr]
      subst h
      exact ⟨Outcome.follows_permitted (by simp), rfl⟩

theorem knows_awaited {descriptor : Bytes} {result : Awaited}
    (h : log = { permittedLog descriptor with submitted := true }) :
    (awaited result).Knows (log.note ⟨.awaitWithTimeout 5000, result⟩) := by
  subst h
  cases result with
  | timedOut =>
    exact ⟨⟨⟨fun h => (nomatch h), fun h => nomatch h⟩, fun _ => rfl, descriptor, rfl⟩, rfl⟩
  | ready err =>
    cases err with
    | none => exact ⟨⟨⟨fun _ => rfl, fun _ => rfl⟩, fun _ => rfl, descriptor, rfl⟩, rfl⟩
    | some err =>
      exact ⟨⟨⟨fun h => (nomatch h), fun h => nomatch h⟩, fun _ => rfl, descriptor, rfl⟩, rfl⟩

variable [Platform]

theorem knows_requested {responce : Responce} {err : error} {timer : TimerEnd}
    (h : log = { responce := if err.isSome then none else some responce }) :
    (requested responce (Coro.errorAfter timer err)).Knows (log.note ⟨.joinTimer, timer⟩) := by
  subst h
  cases hj : Coro.errorAfter timer err with
  | some e => exact Or.inl rfl
  | none =>
    have hack : timer = .cancelled ∧ err = none := by
      cases timer <;> cases err <;> simp_all [Coro.errorAfter]
    obtain ⟨rfl, rfl⟩ := hack
    obtain ⟨code, descriptor⟩ := responce
    unfold requested
    by_cases hc : code = .operationPermitted
    · subst hc
      exact rfl
    · simp only [hc, if_false]
      exact Or.inl rfl

theorem knows_acknowledged {outcome : Outcome} {err : error} (hf : outcome.Follows log)
    (ha : log.acks = [outcome.acknowledge]) : (outcome.acknowledged endpoint err).Knows log := by
  cases outcome with
  | canceled srvErr => exact Or.inr ⟨_, hf, ha⟩
  | failed opErr => exact Or.inr ⟨_, hf, ha⟩
  | completed =>
    cases err with
    | some err => exact Or.inr ⟨_, hf, ha⟩
    | none =>
      unfold Outcome.acknowledged
      by_cases hr : endpoint.type = .read
      · simp only [hr, if_true]
        exact ⟨hf, ha⟩
      · simp only [hr, if_false]
        exact ⟨hf, ha⟩

/-- **What is known at a point is known at the next.** -/
theorem ClientPhase.Knows.step {g g' : ClientPhase} {ev : SessionEvent} (h : g.Knows log)
    (hs : ClientStep endpoint g ev g') : g'.Knows (log.note ev) := by
  cases hs with
  | start | requestSerialize bs | requestLength bs | requestPayload bs | responseLength bs
  | responsePayload size bs => exact h
  | requestLengthFailed bs ec | requestPayloadFailed bs ec | responseLengthFailed ec
  | responsePayloadFailed size ec => exact h
  | responseDecode bs responce =>
    subst h
    exact rfl
  | responseFault bs fault =>
    subst h
    exact Or.inl rfl
  | requestJoin responce err timer => exact knows_requested h
  | imported descriptor => exact knows_imported h
  | importFailed descriptor err =>
    subst h
    exact Or.inl rfl
  | service descriptor => exact h
  | serviceFailed descriptor err =>
    subst h
    exact ⟨Outcome.follows_permitted (by simp), rfl⟩
  | serviceThrew descriptor | serviceNull descriptor =>
    subst h
    exact Or.inl rfl
  | connected descriptor => exact knows_connected h
  | connectionFailed descriptor err =>
    subst h
    exact ⟨Outcome.follows_permitted (by simp), rfl⟩
  | submitted type descriptor =>
    subst h
    exact ⟨descriptor, rfl⟩
  | submitFailed type descriptor err =>
    subst h
    exact ⟨Outcome.follows_permitted (by simp), rfl⟩
  | awaited type result =>
    obtain ⟨descriptor, h⟩ := h
    exact knows_awaited h
  | ackTimer outcome => exact h
  | ackSerialize outcome bs =>
    obtain ⟨hf, ha⟩ := h
    exact ⟨hf, congrArg (outcome.acknowledge :: ·) ha⟩
  | ackLength outcome bs | ackLengthFailed outcome bs ec | ackPayload outcome bs
  | ackPayloadFailed outcome bs ec => exact h
  | ackJoin outcome err timer => exact knows_acknowledged h.1 h.2
  | finished => exact h
  | finishFailed err | finishThrew | finishNull => exact Or.inr ⟨_, h⟩

/-- The acknowledge is made once. -/
theorem ClientStep.acks {g g' : ClientPhase} {ev : SessionEvent} (hs : ClientStep endpoint g ev g')
    (hk : g.Knows log) : (log.note ev).acks = log.acks ∨ log.acks = [] := by
  cases hs with
  | ackSerialize outcome bs => exact Or.inr hk.2
  | _ => exact Or.inl rfl

/-- The log where a client session stands agrees with the point it stands at. -/
theorem client_knows {Good : List SessionEvent → Session → SessionEvent → Prop}
    {evs : List SessionEvent} {c : Session}
    (h : (handleClientSession true endpoint).RunWith Good .head evs c) :
    ∃ g : ClientPhase, c = g.session endpoint ∧ g.Knows (clientLog evs) := by
  refine (client_refines endpoint).run .start (I := fun evs g => g.Knows (clientLog evs)) rfl ?_ h
  intro evs g ev g' hI _ hs
  rw [clientLog_snoc]
  exact hI.step hs

end DocaCpp
