/-
# The history of a server session

What a server session has done is a list of events; `serverLog` folds it into the facts the results
below speak of: which path locks are still held, whether one of them is stranded, how the last wait
for an acknowledge ended, and everything about the request being served (`Exchange`).

The fold knows nothing of the coroutine.  `ServerPhase.Knows` ties the two together: what the
history must say when the coroutine stands at a given point.  `server_knows` is the invariant, one
case for each step, and the results about single sessions read their facts off it.
-/
import DocaCpp.Session.ServerPhase
import DocaCpp.Session.Answers

namespace DocaCpp

/-! ## 1. The log -/

/-- What a server session has done for the request it decoded last. -/
structure Exchange where
  request : Option Request := none
  endpoint : Option RdmaEndpoint := none
  /-- how the export of the descriptor ended -/
  exported : Option (Except Err Bytes) := none
  /-- how the attempt to take the lock ended -/
  lock : Option (Bool × error) := none
  /-- the calls of the service, the last one first -/
  handled : List (RdmaEndpoint × UserCall error) := []
  /-- the responses made, the last one first -/
  responces : List Responce := []
  /-- the acknowledge decoded -/
  ack : Option Acknowledge := none

/-- What a server session has done. -/
structure ServerLog where
  /-- the path locks granted and not unlocked since -/
  held : List RdmaEndpointPath := []
  /-- a lock is held that the coroutine will not give back -/
  stranded : Bool := false
  /-- a wait for an acknowledge ended without one, or after its timer -/
  lost : Bool := false
  /-- the number of requests decoded -/
  decoded : Nat := 0
  current : Exchange := {}

/-- The types `PerformRdmaOperation` knows. -/
def RdmaEndpointType.Known (type : RdmaEndpointType) : Prop := type = write ∨ type = read

instance (type : RdmaEndpointType) : Decidable type.Known := inferInstanceAs (Decidable (_ ∨ _))

/-- The events after which a lock held, or taken just then, is never given back: a response that
cannot be sent, a service that throws, a grant for an endpoint whose type is not known. -/
def ServerLog.strands (log : ServerLog) (ev : SessionEvent) : Bool :=
  match ev with
  | ⟨.asyncWrite _, .error _⟩ => !log.held.isEmpty
  | ⟨.handle _, .threw⟩ => !log.held.isEmpty
  | ⟨.tryLockEndpointsByPath _, (granted, _)⟩ =>
    granted && log.current.endpoint.any fun endpoint => !decide endpoint.type.Known
  | _ => false

/-- One more event. -/
def ServerLog.note (log : ServerLog) (ev : SessionEvent) : ServerLog :=
  let log := { log with stranded := log.stranded || log.strands ev }
  match ev with
  | ⟨.deserializeRequest _, .ok request⟩ =>
    { log with decoded := log.decoded + 1, current := { request := some request } }
  | ⟨.getEndpoint _, .ok endpoint⟩ =>
    { log with current := { log.current with endpoint := some endpoint } }
  | ⟨.exportMemoryDescriptor _, .returned result⟩ =>
    { log with current := { log.current with exported := some result } }
  | ⟨.tryLockEndpointsByPath path, (granted, err)⟩ =>
    { log with
      held := if granted then path :: log.held else log.held
      current := { log.current with lock := some (granted, err) } }
  | ⟨.unlockEndpointsByPath path, _⟩ => { log with held := log.held.erase path }
  | ⟨.handle endpoint, result⟩ =>
    { log with
      current := { log.current with handled := (endpoint, result) :: log.current.handled } }
  | ⟨.serializeResponse responce, _⟩ =>
    { log with current := { log.current with responces := responce :: log.current.responces } }
  | ⟨.deserializeAcknowledge _, .ok ack⟩ =>
    { log with current := { log.current with ack := some ack } }
  | ⟨.joinTimer, timer⟩ =>
    { log with lost := log.lost || (timer ≠ .cancelled || log.current.ack.isNone) }
  | _ => log

/-- The log of a history. -/
def serverLog (evs : List SessionEvent) : ServerLog := evs.foldl ServerLog.note {}

@[simp] theorem serverLog_snoc (evs : List SessionEvent) (ev : SessionEvent) :
    serverLog (evs ++ [ev]) = (serverLog evs).note ev := by
  simp [serverLog]

/-! ## 2. What the history says at a point -/

/-- The endpoint found for a request: its path is the request's, and so is the name of its type. -/
def Request.Fits (request : Request) (endpoint : RdmaEndpoint) : Prop :=
  endpoint.path = request.endpointPath ∧
    endpointTypeToString endpoint.type = endpointTypeToString request.endpointType

/-- The exchange once the descriptor is exported. -/
def serving (request : Request) (endpoint : RdmaEndpoint) (descriptor : Bytes) : Exchange :=
  { request := some request, endpoint := some endpoint, exported := some (.ok descriptor) }

/-- The exchange that leads to a reply. -/
def Reply.exchange : Reply → Exchange
  | notFound request => { request := some request }
  | exportFailed request endpoint descErr =>
    { request := some request, endpoint := some endpoint, exported := some (.error descErr) }
  | lockFailed request endpoint descriptor lockErr =>
    { serving request endpoint descriptor with lock := some (false, some lockErr) }
  | locked request endpoint descriptor =>
    { serving request endpoint descriptor with lock := some (false, none) }
  | serviceFailed request endpoint descriptor srvErr =>
    { serving request endpoint descriptor with
      lock := some (true, none)
      handled := [(endpoint, .returned (some srvErr))] }
  | permitted request endpoint descriptor =>
    { serving request endpoint descriptor with
      lock := some (true, none)
      handled := if endpoint.type = .read then [(endpoint, .returned none)] else [] }

/-- The locks held while a reply is on its way. -/
def Reply.held : Reply → List RdmaEndpointPath
  | serviceFailed request _ _ _ | permitted request _ _ => [request.endpointPath]
  | _ => []

/-- A reply after which the lock is stranded: the type of the endpoint is not known. -/
def Reply.strands : Reply → Bool
  | permitted _ endpoint _ => !decide endpoint.type.Known
  | _ => false

/-- What a reply says about its endpoint. -/
def Reply.Fits : Reply → Prop
  | notFound _ => True
  | exportFailed request endpoint _ | lockFailed request endpoint _ _ | locked request endpoint _
  | permitted request endpoint _ => request.Fits endpoint
  | serviceFailed request endpoint _ _ => request.Fits endpoint ∧ endpoint.type = .read

/-- The response made so far. -/
def Sending.responces (sending : Sending) (reply : Reply) : List Responce :=
  match sending with
  | serialize => []
  | _ => [reply.responce]

/-- The exchange once the permission is out. -/
def waiting (request : Request) (endpoint : RdmaEndpoint) (descriptor : Bytes) : Exchange :=
  { (Reply.permitted request endpoint descriptor).exchange with
    responces := [(Reply.permitted request endpoint descriptor).responce] }

/-- The current exchange has come to its end: if the operation was permitted then the acknowledge
was consumed and the service of a write endpoint called, unless the wait for it was lost. -/
def ServerLog.Served (log : ServerLog) : Prop :=
  (∃ responce ∈ log.current.responces, responce.responceCode = .operationPermitted) →
    log.lost = true ∨ ∃ endpoint ack, log.current.endpoint = some endpoint ∧
      log.current.ack = some ack ∧
      (endpoint.type = .write → ∃ result, log.current.handled = [(endpoint, result)])

/-- Neither the export of the descriptor nor the attempt to lock has failed for the current
request. -/
def ServerLog.Proceeds (log : ServerLog) : Prop :=
  (∀ err, log.current.exported ≠ some (.error err)) ∧
    ∀ flag err, log.current.lock ≠ some (flag, some err)

/-- What the log says while the coroutine waits for an acknowledge. -/
def ServerLog.Waits (log : ServerLog) (request : Request) (endpoint : RdmaEndpoint)
    (ack : Option Acknowledge) : Prop :=
  log.held = [request.endpointPath] ∧ log.stranded = false ∧ request.Fits endpoint ∧
    endpoint.type.Known ∧
    ∃ descriptor, log.current = { waiting request endpoint descriptor with ack := ack }

/-- **What the log says at a point.** -/
def ServerPhase.Knows (log : ServerLog) : ServerPhase → Prop
  | head | requestLength | requestPayload _ | requestDecode _ =>
    log.held = [] ∧ log.stranded = false ∧ log.Served ∧ log.Proceeds
  | connection request | lookup request =>
    log.held = [] ∧ log.stranded = false ∧ log.current = { request := some request }
  | exportDescriptor request endpoint =>
    log.held = [] ∧ log.stranded = false ∧ request.Fits endpoint ∧
      log.current = { request := some request, endpoint := some endpoint }
  | lock request endpoint descriptor =>
    log.held = [] ∧ log.stranded = false ∧ request.Fits endpoint ∧
      log.current = serving request endpoint descriptor
  | prepare request endpoint descriptor =>
    log.held = [request.endpointPath] ∧ log.stranded = false ∧ request.Fits endpoint ∧
      endpoint.type = .read ∧
      log.current = { serving request endpoint descriptor with lock := some (true, none) }
  | respond reply sending =>
    log.held = reply.held ∧ log.stranded = reply.strands ∧ reply.Fits ∧
      log.current = { reply.exchange with responces := sending.responces reply }
  | ackTimer request endpoint | ackLength request endpoint | ackPayload request endpoint _
  | ackDecode request endpoint _ => log.Waits request endpoint none
  | ackJoin request endpoint ack err =>
    log.Waits request endpoint (if err.isSome then none else some ack)
  | process request endpoint =>
    endpoint.type = .write ∧ ∃ ack, log.Waits request endpoint (some ack)
  | unlock request =>
    log.held = [request.endpointPath] ∧ log.stranded = false ∧ log.Served ∧ log.Proceeds ∧
      log.current.request = some request
  | unwound | ended _ => log.held = [] ↔ log.stranded = false
  | undefined => True

/-! ## 3. The invariant -/

variable {log : ServerLog}

theorem Reply.strands_of_held {reply : Reply} (h : reply.held = []) : reply.strands = false := by
  cases reply with
  | permitted request endpoint descriptor => cases h
  | _ => rfl

/-- An exchange that was not permitted is served. -/
theorem ServerLog.served_of_refused {reply : Reply}
    (hr : ∀ responce ∈ log.current.responces, responce = reply.responce)
    (hc : reply.responce.responceCode ≠ .operationPermitted) : log.Served := by
  rintro ⟨responce, hm, hp⟩
  rw [hr responce hm] at hp
  exact absurd hp hc

/-- A lost wait serves whatever it waited for. -/
theorem ServerLog.served_of_lost (h : log.lost = true) : log.Served := fun _ => Or.inl h

theorem ServerLog.proceeds_of_lock {descriptor : Bytes} {flag : Bool}
    (he : log.current.exported = some (.ok descriptor))
    (hl : log.current.lock = some (flag, none)) : log.Proceeds := by
  constructor
  · intro err h
    rw [he] at h
    cases h
  · intro flag' err h
    rw [hl] at h
    cases h

theorem serverPerformRdmaOperation_known {endpoint : RdmaEndpoint} (h : endpoint.type.Known) :
    serverPerformRdmaOperation endpoint = none := by
  unfold serverPerformRdmaOperation
  rcases h with h | h
  · rw [if_pos h]
  · rw [h, if_neg RdmaEndpointType.read_ne_write, if_pos rfl]

theorem serverPerformRdmaOperation_unknown (endpoint : RdmaEndpoint) (h : ¬ endpoint.type.Known) :
    ∃ err, serverPerformRdmaOperation endpoint = some err := by
  unfold serverPerformRdmaOperation
  rw [if_neg fun hw => h (Or.inl hw), if_neg fun hr => h (Or.inr hr)]
  exact ⟨_, rfl⟩

/-- A response that cannot be sent ends the coroutine with the locks it has. -/
theorem ServerPhase.Knows.unsent {reply : Reply} {sending : Sending} {bs : Bytes} {ec : ErrorCode}
    {err : error} (h : (ServerPhase.respond reply sending).Knows log) :
    (ServerPhase.ended err).Knows (log.note ⟨.asyncWrite bs, .error ec⟩) := by
  obtain ⟨held, stranded, lost, decoded, current⟩ := log
  obtain ⟨rfl, rfl, -, -⟩ := h
  simp only [Knows, ServerLog.note, ServerLog.strands]
  constructor
  · intro h
    simp [h, Reply.strands_of_held h]
  · intro h
    simpa using (Bool.or_eq_false_iff.mp h).2

/-- What is known once the wait for the acknowledge is over. -/
theorem ServerPhase.Knows.join {request : Request} {endpoint : RdmaEndpoint} {ack : Acknowledge}
    {err : error} {timer : TimerEnd}
    (h : (ServerPhase.ackJoin request endpoint ack err).Knows log) :
    (joined request endpoint (Coro.errorAfter timer err)).Knows (log.note ⟨.joinTimer, timer⟩) := by
  obtain ⟨held, stranded, lost, decoded, current⟩ := log
  obtain ⟨rfl, rfl, hfit, hknown, descriptor, rfl⟩ := h
  unfold joined
  by_cases herr : (Coro.errorAfter timer err).isSome = true
  · rw [if_pos herr]
    refine ⟨rfl, rfl, ServerLog.served_of_lost ?_, ServerLog.proceeds_of_lock rfl rfl, rfl⟩
    cases timer <;> cases err <;> simp_all [ServerLog.note, Coro.errorAfter]
  · rw [if_neg herr]
    have hack : timer = .cancelled ∧ err = none := by
      cases timer <;> cases err <;> simp_all [Coro.errorAfter]
    obtain ⟨rfl, rfl⟩ := hack
    by_cases hw : endpoint.type = .write
    · rw [if_pos hw]
      exact ⟨hw, ack, rfl, rfl, hfit, hknown, descriptor, rfl⟩
    · rw [if_neg hw]
      exact ⟨rfl, rfl, fun _ => Or.inr ⟨endpoint, ack, rfl, rfl, fun h => absurd h hw⟩,
        ServerLog.proceeds_of_lock rfl rfl, rfl⟩

variable [Platform]

/-- What is known once a response is out. -/
theorem ServerPhase.Knows.sent {reply : Reply} {bs : Bytes}
    (h : (ServerPhase.respond reply (.payload bs)).Knows log) :
    reply.sent.Knows (log.note ⟨.asyncWrite bs, .ok ()⟩) := by
  obtain ⟨held, stranded, lost, decoded, current⟩ := log
  obtain ⟨rfl, rfl, hfit, rfl⟩ := h
  have hone : ∀ responce ∈ [reply.responce], responce = reply.responce := by simp
  cases reply with
  | notFound request =>
    have hcode : Responce.Code.operationEndpointNotFound ≠ .operationPermitted := by decide
    exact ⟨rfl, rfl, ServerLog.served_of_refused hone hcode,
      fun _ h => Option.some_ne_none _ h.symm, fun _ _ h => Option.some_ne_none _ h.symm⟩
  | locked request endpoint descriptor =>
    have hcode : Responce.Code.operationEndpointLocked ≠ .operationPermitted := by decide
    exact ⟨rfl, rfl, ServerLog.served_of_refused hone hcode,
      ServerLog.proceeds_of_lock rfl rfl⟩
  | exportFailed request endpoint descErr => exact ⟨fun _ => rfl, fun _ => rfl⟩
  | lockFailed request endpoint descriptor lockErr => exact ⟨fun _ => rfl, fun _ => rfl⟩
  | serviceFailed request endpoint descriptor srvErr =>
    have hcode : Responce.Code.operationServiceError ≠ .operationPermitted := by decide
    exact ⟨rfl, rfl, ServerLog.served_of_refused hone hcode,
      ServerLog.proceeds_of_lock rfl rfl, rfl⟩
  | permitted request endpoint descriptor =>
    by_cases hknown : endpoint.type.Known
    · rw [Reply.sent, serverPerformRdmaOperation_known hknown]
      refine ⟨rfl, ?_, hfit, hknown, descriptor, rfl⟩
      simp [ServerLog.note, ServerLog.strands, Reply.strands, hknown]
    · obtain ⟨err, herr⟩ := serverPerformRdmaOperation_unknown _ hknown
      rw [Reply.sent, herr]
      refine ⟨fun h => absurd (h : [request.endpointPath] = []) (List.cons_ne_nil _ _),
        fun h => ?_⟩
      simp [ServerLog.note, ServerLog.strands, Reply.strands, hknown] at h

/-- **What is known at a point is known at the next**, whatever the answer was. -/
theorem ServerPhase.Knows.step {f f' : ServerPhase} {ev : SessionEvent} (h : f.Knows log)
    (hs : ServerStep f ev f') (hp : ev.Possible) : f'.Knows (log.note ev) := by
  obtain ⟨held, stranded, lost, decoded, current⟩ := log
  cases hs with
  | isOpen | requestLength bs | requestLengthFailed ec | requestPayload size bs
  | requestPayloadFailed size ec =>
    obtain ⟨rfl, rfl, h⟩ := h
    exact ⟨rfl, rfl, h⟩
  | closed =>
    obtain ⟨rfl, rfl, h⟩ := h
    exact ⟨fun _ => rfl, fun _ => rfl⟩
  | requestDecode bs request =>
    obtain ⟨rfl, rfl, -⟩ := h
    exact ⟨rfl, rfl, rfl⟩
  | requestFault bs fault => trivial
  | connection request =>
    obtain ⟨rfl, rfl, rfl⟩ := h
    exact ⟨rfl, rfl, rfl⟩
  | connectionFailed request err =>
    obtain ⟨rfl, rfl, rfl⟩ := h
    exact ⟨fun _ => rfl, fun _ => rfl⟩
  | lookup request endpoint =>
    obtain ⟨rfl, rfl, rfl⟩ := h
    exact ⟨rfl, rfl, hp.getEndpoint, rfl⟩
  | lookupFailed request err =>
    obtain ⟨rfl, rfl, rfl⟩ := h
    exact ⟨rfl, rfl, trivial, rfl⟩
  | exportDescriptor request endpoint descriptor =>
    obtain ⟨rfl, rfl, hfit, rfl⟩ := h
    exact ⟨rfl, rfl, hfit, rfl⟩
  | exportFailed request endpoint err =>
    obtain ⟨rfl, rfl, hfit, rfl⟩ := h
    exact ⟨rfl, rfl, hfit, rfl⟩
  | exportThrew request endpoint =>
    obtain ⟨rfl, rfl, -, rfl⟩ := h
    exact ⟨fun _ => rfl, fun _ => rfl⟩
  | exportNull request endpoint => trivial
  | lockFailed request endpoint descriptor flag err =>
    obtain ⟨rfl, rfl, hfit, rfl⟩ := h
    have hflag : flag = false := by
      cases flag with
      | true => exact absurd hp.granted (by simp)
      | false => rfl
    subst hflag
    exact ⟨rfl, rfl, hfit, rfl⟩
  | locked request endpoint descriptor =>
    obtain ⟨rfl, rfl, hfit, rfl⟩ := h
    exact ⟨rfl, rfl, hfit, rfl⟩
  | granted request endpoint descriptor =>
    obtain ⟨rfl, rfl, hfit, rfl⟩ := h
    unfold DocaCpp.granted
    by_cases ht : endpoint.type = .read
    · rw [if_pos ht]
      refine ⟨rfl, ?_, hfit, ht, rfl⟩
      simp [ServerLog.note, ServerLog.strands, serving, RdmaEndpointType.Known, ht]
    · rw [if_neg ht]
      refine ⟨rfl, ?_, hfit, ?_⟩
      · simp [ServerLog.note, ServerLog.strands, serving, Reply.strands]
      · simp [ServerLog.note, serving, Reply.exchange, Sending.responces, ht]
  | prepared request endpoint descriptor =>
    obtain ⟨rfl, rfl, hfit, ht, rfl⟩ := h
    refine ⟨rfl, ?_, hfit, ?_⟩
    · simp [ServerLog.note, ServerLog.strands, Reply.strands, RdmaEndpointType.Known, ht]
    · simp [ServerLog.note, serving, Reply.exchange, Sending.responces, ht]
  | prepareFailed request endpoint descriptor err =>
    obtain ⟨rfl, rfl, hfit, ht, rfl⟩ := h
    exact ⟨rfl, rfl, ⟨hfit, ht⟩, rfl⟩
  | prepareThrew request endpoint descriptor =>
    obtain ⟨rfl, rfl, -, -, rfl⟩ := h
    exact ⟨fun h => (nomatch (h : [request.endpointPath] = [])), fun h => nomatch h⟩
  | prepareNull request endpoint descriptor => trivial
  | serialize reply bs =>
    obtain ⟨rfl, rfl, hfit, rfl⟩ := h
    refine ⟨rfl, ?_, hfit, rfl⟩
    simp [ServerLog.note, ServerLog.strands]
  | sendLength reply bs =>
    obtain ⟨rfl, rfl, hfit, rfl⟩ := h
    refine ⟨rfl, ?_, hfit, rfl⟩
    simp [ServerLog.note, ServerLog.strands]
  | sendLengthFailed reply bs ec => exact h.unsent
  | sendPayload reply bs => exact h.sent
  | sendPayloadFailed reply bs ec => exact h.unsent
  | ackTimer request endpoint =>
    obtain ⟨rfl, rfl, h⟩ := h
    exact ⟨rfl, rfl, h⟩
  | ackLength request endpoint bs | ackLengthFailed request endpoint ec
  | ackPayload request endpoint size bs | ackPayloadFailed request endpoint size ec =>
    obtain ⟨rfl, rfl, h⟩ := h
    exact ⟨rfl, rfl, h⟩
  | ackDecode request endpoint bs ack =>
    obtain ⟨rfl, rfl, hfit, hknown, descriptor, rfl⟩ := h
    exact ⟨rfl, rfl, hfit, hknown, descriptor, rfl⟩
  | ackFault request endpoint bs fault => trivial
  | ackJoin request endpoint ack err timer => exact h.join
  | processed request endpoint err =>
    obtain ⟨hw, ack, rfl, rfl, hfit, hknown, descriptor, rfl⟩ := h
    refine ⟨rfl, rfl, fun _ => Or.inr ⟨endpoint, ack, rfl, rfl, fun _ => ⟨.returned err, ?_⟩⟩,
      ServerLog.proceeds_of_lock rfl rfl, rfl⟩
    simp [ServerLog.note, waiting, Reply.exchange, hw, RdmaEndpointType.read_ne_write.symm]
  | processThrew request endpoint =>
    obtain ⟨-, ack, rfl, rfl, -⟩ := h
    exact ⟨fun h => (nomatch (h : [request.endpointPath] = [])), fun h => nomatch h⟩
  | processNull request endpoint => trivial
  | unlock request err =>
    obtain ⟨rfl, rfl, hserved, hproceeds, -⟩ := h
    exact ⟨List.erase_cons_head _ _, rfl, hserved, hproceeds⟩

/-- The runs of a server session: every answer is one some storage gives. -/
abbrev ServerRun (evs : List SessionEvent) (c : Session) : Prop :=
  handleServerSession.RunWith (fun _ _ ev => ev.Possible) .head evs c

omit [Platform] in
/-- A session that begins knows nothing. -/
theorem knows_start : ServerPhase.head.Knows (serverLog []) :=
  ⟨rfl, rfl, fun ⟨_, h, _⟩ => (nomatch h), fun _ h => (nomatch h), fun _ _ h => nomatch h⟩

/-- **Where a run of a server session has got to**: to a point at which its history says what the
point knows. -/
theorem server_knows {evs : List SessionEvent} {c : Session} (h : ServerRun evs c) :
    ∃ f : ServerPhase, c = f.session ∧ f.Knows (serverLog evs) := by
  refine server_refines.run .head (I := fun evs f => f.Knows (serverLog evs)) knows_start ?_ h
  intro evs f ev f' hI hgood hs
  rw [serverLog_snoc]
  exact hI.step hs hgood

/-- The last step of a run, with what was known before it. -/
theorem server_last {evs : List SessionEvent} {ev : SessionEvent} {c : Session}
    (h : ServerRun (evs ++ [ev]) c) :
    ∃ f f' : ServerPhase, f.Knows (serverLog evs) ∧ ServerStep f ev f' ∧ c = f'.session := by
  obtain ⟨d, hrun, hgood, hstep⟩ := h.last
  obtain ⟨f, rfl, hf⟩ := server_knows hrun
  obtain ⟨f', rfl, hs⟩ := server_refines.step f ev c hstep
  exact ⟨f, f', hf, hs, rfl⟩

end DocaCpp
