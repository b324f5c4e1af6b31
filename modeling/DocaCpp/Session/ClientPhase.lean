/-
# Where a client session can stand

The counterpart of `ServerPhase` for `HandleClientSession` on a connected session: the control
points by name (`ClientPhase`), what is left of the coroutine at each (`ClientPhase.session`), the
transition relation on the names (`ClientStep`), and `client_refines`, which says that the
coroutine takes these steps and no others.
-/
import DocaCpp.Session.Client

namespace DocaCpp

open Coro

/-! ## 1. The points -/

/-- What an acknowledge is about to report, with what the coroutine returns after it. -/
inductive Outcome
  | canceled (srvErr : Err)
  | failed (opErr : Err)
  | completed
  deriving DecidableEq

/-- The acknowledge itself. -/
def Outcome.acknowledge : Outcome → Acknowledge
  | canceled _ => ⟨.operationCanceled⟩
  | failed _ => ⟨.operationFailed⟩
  | completed => ⟨.operationCompleted⟩

/-- The points at which a client session can stand. -/
inductive ClientPhase
  | start
  | requestSerialize
  | requestLength (buffer : Bytes)
  | requestPayload (buffer : Bytes)
  | responseLength
  | responsePayload (size : Nat)
  | responseDecode (buffer : Bytes)
  | requestJoin (responce : Responce) (err : error)
  | importDescriptor (descriptor : Bytes)
  | service (descriptor : Bytes)
  | connection (descriptor : Bytes)
  | submit (type : RdmaOperationType) (descriptor : Bytes)
  | await (type : RdmaOperationType)
  | ackTimer (outcome : Outcome)
  | ackSerialize (outcome : Outcome)
  | ackLength (outcome : Outcome) (buffer : Bytes)
  | ackPayload (outcome : Outcome) (buffer : Bytes)
  | ackJoin (outcome : Outcome) (err : error)
  | finish
  | unwound
  | undefined
  | ended (err : error)

variable [Platform]

/-! ## 2. What is left to do -/

/-- The request of a client for its endpoint. -/
def clientRequest (endpoint : RdmaEndpoint) : Request :=
  { endpointType := endpoint.type, endpointPath := endpoint.path }

/-- `doRequest` from its last read on. -/
def readResponcePayload (size : Nat) : Coro (Responce × error) := do
  match ← asyncRead size with
  | .error err3 =>
    return ({}, some (.new ("Failed to read responce payload from socket: " ++ err3.message)))
  | .ok responseBuffer =>
    let response ← decoded (← MessageSerializer.deserializeResponse responseBuffer)
    return (response, none)

/-- `doRequest` from its first read on. -/
def readResponceLength : Coro (Responce × error) := do
  match ← asyncRead 4 with
  | .error err2 =>
    return ({}, some (.new ("Failed to read responce length from socket: " ++ err2.message)))
  | .ok responseLength => readResponcePayload (uint32Of responseLength)

/-- `doRequest` from its second write on. -/
def writeRequestPayload (buffer : Bytes) : Coro (Responce × error) := do
  match ← asyncWrite buffer with
  | .error err1 =>
    return ({}, some (.new ("Failed to write request payload to socket: " ++ err1.message)))
  | .ok _ => readResponceLength

/-- `doRequest` from its first write on. -/
def writeRequestLength (buffer : Bytes) : Coro (Responce × error) := do
  match ← asyncWrite (uint32Bytes buffer.length) with
  | .error err0 =>
    return ({}, some (.new ("Failed to write request length to socket: " ++ err0.message)))
  | .ok _ => writeRequestPayload buffer

/-- `doAck` from its second write on. -/
def writeAckPayload (buffer : Bytes) : Coro (Unit × error) := do
  match ← asyncWrite buffer with
  | .error err1 =>
    return ((), some (.new ("Failed to write acknowledge payload to socket: " ++ err1.message)))
  | .ok _ => return ((), none)

/-- `doAck` from its first write on. -/
def writeAckLength (buffer : Bytes) : Coro (Unit × error) := do
  match ← asyncWrite (uint32Bytes buffer.length) with
  | .error err0 =>
    return ((), some (.new ("Failed to write acknowledge length to socket: " ++ err0.message)))
  | .ok _ => writeAckPayload buffer

/-- `SendRequest` after `doRequest() || reqTimeout()`. -/
def requestResult (result : Responce × error) : Coro (Except Err Responce) :=
  match result with
  | (_, some requestError) =>
    return .error (.wrap requestError "Failed to execute request via socket")
  | (response, none) => return .ok response

/-- `HandleClientSession` after `SendRequest`. -/
def afterRequest (endpoint : RdmaEndpoint) (result : Except Err Responce) : Coro error :=
  match result with
  | .error err => return wrap err "Failed to send request via socket"
  | .ok responce => usePermission true endpoint responce

/-- The end of the only pass. -/
def leaveWith (err : error) : Coro (Exit error) := return .leave err

/-- `doRequest`, from `operation` on, and everything after it. -/
def requesting (endpoint : RdmaEndpoint) (operation : Coro (Responce × error)) : Session :=
  Loop.settle
    (operation >>= joining >>= requestResult >>= afterRequest endpoint >>= leaveWith)

/-- `SendAcknowledge` after `doAck() || ackTimeout()`. -/
def acknowledgeResult (result : Unit × error) : Coro error :=
  match result with
  | (_, some ackError) => return some (.wrap ackError "Failed to send acknowledge via socket")
  | (_, none) => return none

/-- `HandleClientSession` after `SendAcknowledge`. -/
def Outcome.afterAcknowledge (outcome : Outcome) (endpoint : RdmaEndpoint) (sendErr : error) :
    Coro error :=
  match outcome with
  | canceled srvErr => return wrap srvErr "Service handle failed"
  | failed opErr => return wrap opErr "Failed to perform RDMA operation"
  | completed => do
    if let some err := sendErr then
      return wrap err "Failed to send acknowledge to server"
    if endpoint.type = .read then
      if let some srvErr ← handle endpoint then
        return wrap srvErr "Service handle failed"
    return none

/-- `SendAcknowledge` from its start, and everything after it. -/
def Outcome.acknowledging (outcome : Outcome) (endpoint : RdmaEndpoint) : Session :=
  Loop.settle (sendAcknowledge true outcome.acknowledge 5000 >>= outcome.afterAcknowledge endpoint
    >>= leaveWith)

/-- `doAck`, from `operation` on, and everything after it. -/
def Outcome.acking (outcome : Outcome) (endpoint : RdmaEndpoint)
    (operation : Coro (Unit × error)) : Session :=
  Loop.settle (operation >>= joining >>= acknowledgeResult >>= outcome.afterAcknowledge endpoint
    >>= leaveWith)

/-- `HandleClientSession` after `PerformRdmaOperation`. -/
def afterOperation (endpoint : RdmaEndpoint) (opErr : error) : Coro error := do
  let timeout := 5000
  if let some err := opErr then
    let _ ← sendAcknowledge true { ackCode := .operationFailed } timeout
    return wrap err "Failed to perform RDMA operation"
  if let some err ← sendAcknowledge true { ackCode := .operationCompleted } timeout then
    return wrap err "Failed to send acknowledge to server"
  if endpoint.type = .read then
    if let some srvErr ← handle endpoint then
      return wrap srvErr "Service handle failed"
  return none

/-- What is left of the coroutine at a point. -/
def ClientPhase.session (endpoint : RdmaEndpoint) : ClientPhase → Session
  | start => .head
  | requestSerialize => requesting endpoint (doRequest (clientRequest endpoint))
  | requestLength buffer => requesting endpoint (writeRequestLength buffer)
  | requestPayload buffer => requesting endpoint (writeRequestPayload buffer)
  | responseLength => requesting endpoint readResponceLength
  | responsePayload size => requesting endpoint (readResponcePayload size)
  | responseDecode buffer => requesting endpoint do
      let response ← decoded (← MessageSerializer.deserializeResponse buffer)
      return (response, none)
  | requestJoin responce err => requesting endpoint (return (responce, err))
  | importDescriptor descriptor => Loop.settle
      (usePermission true endpoint ⟨.operationPermitted, descriptor⟩ >>= leaveWith)
  | service descriptor => Loop.settle ((do
      if let some srvErr ← handle endpoint then
        let _ ← sendAcknowledge true { ackCode := .operationCanceled } 5000
        return wrap srvErr "Service handle failed"
      operateAndAcknowledge true endpoint descriptor) >>= leaveWith)
  | connection descriptor =>
    Loop.settle (operateAndAcknowledge true endpoint descriptor >>= leaveWith)
  | submit type descriptor => Loop.settle
      (submitAndAwait type endpoint descriptor >>= afterOperation endpoint >>= leaveWith)
  | await _ => Loop.settle ((do
      match ← awaitWithTimeout rdmaOperationTimeout with
      | .ready opErr => return opErr
      | .timedOut => return some (.new "Task execution timed out")) >>= afterOperation endpoint
        >>= leaveWith)
  | ackTimer outcome => outcome.acknowledging endpoint
  | ackSerialize outcome => outcome.acking endpoint (doAck outcome.acknowledge)
  | ackLength outcome buffer => outcome.acking endpoint (writeAckLength buffer)
  | ackPayload outcome buffer => outcome.acking endpoint (writeAckPayload buffer)
  | ackJoin outcome err => outcome.acking endpoint (return ((), err))
  | finish => Loop.settle ((do
      if let some srvErr ← handle endpoint then
        return wrap srvErr "Service handle failed"
      return none) >>= leaveWith)
  | unwound => Loop.settle Coro.unwind
  | undefined => Loop.settle Coro.undefined
  | ended err => .ended err

/-! ## 3. The steps -/

/-- Where the coroutine is once `doRequest() || reqTimeout()` is over. -/
def requested (responce : Responce) (requestError : error) : ClientPhase :=
  match requestError with
  | some err => .ended (wrap (some (.wrap err "Failed to execute request via socket"))
      "Failed to send request via socket")
  | none =>
    if responce.responceCode = .operationPermitted then .importDescriptor responce.memoryDescriptor
    else .ended (some (.new ("Operation was not permitted by server; responce message: "
      ++ Responce.codeDescription responce.responceCode)))

/-- Where the coroutine is once the remote buffer is made. -/
def imported (endpoint : RdmaEndpoint) (descriptor : Bytes) : ClientPhase :=
  if endpoint.type = .write then .service descriptor else .connection descriptor

/-- Where the coroutine is once it has the connection. -/
def connected (endpoint : RdmaEndpoint) (descriptor : Bytes) : ClientPhase :=
  if endpoint.type = .write then .submit .write descriptor
  else if endpoint.type = .read then .submit .read descriptor
  else .ackTimer (.failed (.new "Unknown endpoint type in request"))

/-- Where the coroutine is once `AwaitWithTimeout` has returned. -/
def awaited : Awaited → ClientPhase
  | .ready none => .ackTimer .completed
  | .ready (some err) => .ackTimer (.failed err)
  | .timedOut => .ackTimer (.failed (.new "Task execution timed out"))

/-- Where the coroutine is once `doAck() || ackTimeout()` is over. -/
def Outcome.acknowledged (outcome : Outcome) (endpoint : RdmaEndpoint) (ackError : error) :
    ClientPhase :=
  match outcome with
  | canceled srvErr => .ended (wrap srvErr "Service handle failed")
  | failed opErr => .ended (wrap opErr "Failed to perform RDMA operation")
  | completed =>
    match ackError with
    | some err => .ended (wrap (some (.wrap err "Failed to send acknowledge via socket"))
        "Failed to send acknowledge to server")
    | none => if endpoint.type = .read then .finish else .ended none

/-- **The steps of `HandleClientSession`**: at a point, the call it makes there, the answer, and
the point the coroutine gets to. -/
inductive ClientStep (endpoint : RdmaEndpoint) : ClientPhase → SessionEvent → ClientPhase → Prop
  | start : ClientStep endpoint .start ⟨.startTimer 5000, ()⟩ .requestSerialize
  | requestSerialize (bs : Bytes) :
      ClientStep endpoint .requestSerialize ⟨.serializeRequest (clientRequest endpoint), bs⟩
        (.requestLength bs)
  | requestLength (bs : Bytes) :
      ClientStep endpoint (.requestLength bs) ⟨.asyncWrite (uint32Bytes bs.length), .ok ()⟩
        (.requestPayload bs)
  | requestLengthFailed (bs : Bytes) (ec : ErrorCode) :
      ClientStep endpoint (.requestLength bs) ⟨.asyncWrite (uint32Bytes bs.length), .error ec⟩
        (.requestJoin {}
          (some (.new ("Failed to write request length to socket: " ++ ec.message))))
  | requestPayload (bs : Bytes) :
      ClientStep endpoint (.requestPayload bs) ⟨.asyncWrite bs, .ok ()⟩ .responseLength
  | requestPayloadFailed (bs : Bytes) (ec : ErrorCode) :
      ClientStep endpoint (.requestPayload bs) ⟨.asyncWrite bs, .error ec⟩
        (.requestJoin {}
          (some (.new ("Failed to write request payload to socket: " ++ ec.message))))
  | responseLength (bs : Bytes) :
      ClientStep endpoint .responseLength ⟨.asyncRead 4, .ok bs⟩ (.responsePayload (uint32Of bs))
  | responseLengthFailed (ec : ErrorCode) :
      ClientStep endpoint .responseLength ⟨.asyncRead 4, .error ec⟩
        (.requestJoin {}
          (some (.new ("Failed to read responce length from socket: " ++ ec.message))))
  | responsePayload (size : Nat) (bs : Bytes) :
      ClientStep endpoint (.responsePayload size) ⟨.asyncRead size, .ok bs⟩ (.responseDecode bs)
  | responsePayloadFailed (size : Nat) (ec : ErrorCode) :
      ClientStep endpoint (.responsePayload size) ⟨.asyncRead size, .error ec⟩
        (.requestJoin {}
          (some (.new ("Failed to read responce payload from socket: " ++ ec.message))))
  | responseDecode (bs : Bytes) (responce : Responce) :
      ClientStep endpoint (.responseDecode bs) ⟨.deserializeResponse bs, .ok responce⟩
        (.requestJoin responce none)
  | responseFault (bs : Bytes) (fault : OutOfBounds) :
      ClientStep endpoint (.responseDecode bs) ⟨.deserializeResponse bs, .error fault⟩ .undefined
  | requestJoin (responce : Responce) (err : error) (timer : TimerEnd) :
      ClientStep endpoint (.requestJoin responce err) ⟨.joinTimer, timer⟩
        (requested responce (errorAfter timer err))
  | imported (descriptor : Bytes) :
      ClientStep endpoint (.importDescriptor descriptor)
        ⟨.fromExportedRemoteDescriptor descriptor, none⟩ (imported endpoint descriptor)
  | importFailed (descriptor : Bytes) (err : Err) :
      ClientStep endpoint (.importDescriptor descriptor)
        ⟨.fromExportedRemoteDescriptor descriptor, some err⟩
        (.ended (wrap err "Failed to make remote RDMA buffer from export descriptor"))
  | service (descriptor : Bytes) :
      ClientStep endpoint (.service descriptor) ⟨.handle endpoint, .returned none⟩
        (.connection descriptor)
  | serviceFailed (descriptor : Bytes) (err : Err) :
      ClientStep endpoint (.service descriptor) ⟨.handle endpoint, .returned (some err)⟩
        (.ackTimer (.canceled err))
  | serviceThrew (descriptor : Bytes) :
      ClientStep endpoint (.service descriptor) ⟨.handle endpoint, .threw⟩ .unwound
  | serviceNull (descriptor : Bytes) :
      ClientStep endpoint (.service descriptor) ⟨.handle endpoint, .nullPointer⟩ .undefined
  | connected (descriptor : Bytes) :
      ClientStep endpoint (.connection descriptor) ⟨.getActiveConnection, none⟩
        (connected endpoint descriptor)
  | connectionFailed (descriptor : Bytes) (err : Err) :
      ClientStep endpoint (.connection descriptor) ⟨.getActiveConnection, some err⟩
        (.ackTimer (.failed (.wrap err "Failed to get active connection")))
  | submitted (type : RdmaOperationType) (descriptor : Bytes) :
      ClientStep endpoint (.submit type descriptor)
        ⟨.submitOperation ⟨type, endpoint.buffer, descriptor⟩, none⟩ (.await type)
  | submitFailed (type : RdmaOperationType) (descriptor : Bytes) (err : Err) :
      ClientStep endpoint (.submit type descriptor)
        ⟨.submitOperation ⟨type, endpoint.buffer, descriptor⟩, some err⟩
        (.ackTimer (.failed (.wrap err "Failed to submit operation")))
  | awaited (type : RdmaOperationType) (result : Awaited) :
      ClientStep endpoint (.await type) ⟨.awaitWithTimeout 5000, result⟩ (awaited result)
  | ackTimer (outcome : Outcome) :
      ClientStep endpoint (.ackTimer outcome) ⟨.startTimer 5000, ()⟩ (.ackSerialize outcome)
  | ackSerialize (outcome : Outcome) (bs : Bytes) :
      ClientStep endpoint (.ackSerialize outcome) ⟨.serializeAcknowledge outcome.acknowledge, bs⟩
        (.ackLength outcome bs)
  | ackLength (outcome : Outcome) (bs : Bytes) :
      ClientStep endpoint (.ackLength outcome bs) ⟨.asyncWrite (uint32Bytes bs.length), .ok ()⟩
        (.ackPayload outcome bs)
  | ackLengthFailed (outcome : Outcome) (bs : Bytes) (ec : ErrorCode) :
      ClientStep endpoint (.ackLength outcome bs) ⟨.asyncWrite (uint32Bytes bs.length), .error ec⟩
        (.ackJoin outcome
          (some (.new ("Failed to write acknowledge length to socket: " ++ ec.message))))
  | ackPayload (outcome : Outcome) (bs : Bytes) :
      ClientStep endpoint (.ackPayload outcome bs) ⟨.asyncWrite bs, .ok ()⟩ (.ackJoin outcome none)
  | ackPayloadFailed (outcome : Outcome) (bs : Bytes) (ec : ErrorCode) :
      ClientStep endpoint (.ackPayload outcome bs) ⟨.asyncWrite bs, .error ec⟩
        (.ackJoin outcome
          (some (.new ("Failed to write acknowledge payload to socket: " ++ ec.message))))
  | ackJoin (outcome : Outcome) (err : error) (timer : TimerEnd) :
      ClientStep endpoint (.ackJoin outcome err) ⟨.joinTimer, timer⟩
        (outcome.acknowledged endpoint (errorAfter timer err))
  | finished : ClientStep endpoint .finish ⟨.handle endpoint, .returned none⟩ (.ended none)
  | finishFailed (err : Err) :
      ClientStep endpoint .finish ⟨.handle endpoint, .returned (some err)⟩
        (.ended (wrap err "Service handle failed"))
  | finishThrew : ClientStep endpoint .finish ⟨.handle endpoint, .threw⟩ .unwound
  | finishNull : ClientStep endpoint .finish ⟨.handle endpoint, .nullPointer⟩ .undefined

/-! ## 4. The coroutine takes these steps -/

theorem settle_requested (endpoint : RdmaEndpoint) (responce : Responce) (err : error) :
    Loop.settle (requestResult (responce, err) >>= afterRequest endpoint >>= leaveWith)
      = (requested responce err).session endpoint := by
  cases err with
  | some err => rfl
  | none =>
    obtain ⟨code, descriptor⟩ := responce
    simp only [requested]
    by_cases hc : code = .operationPermitted
    · subst hc
      rw [if_pos rfl]
      rfl
    · rw [if_neg hc]
      change Loop.settle (usePermission true endpoint ⟨code, descriptor⟩ >>= leaveWith) = _
      simp only [usePermission, ne_eq, hc, not_false_eq_true, if_true]
      rfl

theorem settle_imported (endpoint : RdmaEndpoint) (descriptor : Bytes) :
    Loop.settle ((do
      if endpoint.type = .write then
        if let some srvErr ← handle endpoint then
          let _ ← sendAcknowledge true { ackCode := .operationCanceled } 5000
          return wrap srvErr "Service handle failed"
      operateAndAcknowledge true endpoint descriptor : Coro error) >>= leaveWith)
      = (imported endpoint descriptor).session endpoint := by
  unfold imported
  by_cases ht : endpoint.type = .write
  · simp only [ht, if_true]
    rfl
  · simp only [ht, if_false]
    rfl

theorem settle_connected (endpoint : RdmaEndpoint) (descriptor : Bytes) :
    Loop.settle ((do
      if endpoint.type = .write then performRdmaWrite endpoint descriptor
      else if endpoint.type = .read then performRdmaRead endpoint descriptor
      else return some (.new "Unknown endpoint type in request")) >>= afterOperation endpoint
        >>= leaveWith)
      = (connected endpoint descriptor).session endpoint := by
  unfold connected
  by_cases hw : endpoint.type = .write
  · simp only [hw, if_true]
    rfl
  · by_cases hr : endpoint.type = .read
    · rw [if_neg hw, if_pos hr, if_neg hw, if_pos hr]
      rfl
    · simp only [hw, hr, if_false]
      rfl

theorem settle_acknowledged (endpoint : RdmaEndpoint) (outcome : Outcome) (err : error) :
    Loop.settle (acknowledgeResult ((), err) >>= outcome.afterAcknowledge endpoint >>= leaveWith)
      = (outcome.acknowledged endpoint err).session endpoint := by
  cases outcome with
  | canceled srvErr => cases err <;> rfl
  | failed opErr => cases err <;> rfl
  | completed =>
    cases err with
    | some err => rfl
    | none =>
      simp only [Outcome.acknowledged]
      by_cases hr : endpoint.type = .read
      · rw [if_pos hr]
        change Loop.settle (Outcome.completed.afterAcknowledge endpoint none >>= leaveWith) = _
        simp only [Outcome.afterAcknowledge, hr, if_true]
        rfl
      · rw [if_neg hr]
        change Loop.settle (Outcome.completed.afterAcknowledge endpoint none >>= leaveWith) = _
        simp only [Outcome.afterAcknowledge, hr, if_false]
        rfl

/-- **Every call of the coroutine, answered, is a step on the points.** -/
theorem client_refines (endpoint : RdmaEndpoint) :
    Refines (clientPass true endpoint) (ClientPhase.session endpoint) (ClientStep endpoint) := by
  constructor
  intro f ev c' h
  cases f with
  | start =>
    refine Refines.of_op rfl (fun _ => ?_) h
    exact ⟨.requestSerialize, rfl, .start⟩
  | requestSerialize =>
    refine Refines.of_op rfl (fun bs => ?_) h
    exact ⟨.requestLength bs, rfl, .requestSerialize bs⟩
  | requestLength bs =>
    refine Refines.of_op rfl (fun r => ?_) h
    cases r with
    | error ec => exact ⟨.requestJoin {} _, rfl, .requestLengthFailed bs ec⟩
    | ok u =>
      -- with the bind left in, `rfl` compares the texts of the two errors letter by letter
      refine ⟨.requestPayload bs, ?_, .requestLength bs⟩
      simp only [Prog.ret_bind]
      rfl
  | requestPayload bs =>
    refine Refines.of_op rfl (fun r => ?_) h
    cases r with
    | error ec => exact ⟨.requestJoin {} _, rfl, .requestPayloadFailed bs ec⟩
    | ok u => exact ⟨.responseLength, rfl, .requestPayload bs⟩
  | responseLength =>
    refine Refines.of_op rfl (fun r => ?_) h
    cases r with
    | error ec => exact ⟨.requestJoin {} _, rfl, .responseLengthFailed ec⟩
    | ok bs =>
      refine ⟨.responsePayload (uint32Of bs), ?_, .responseLength bs⟩
      simp only [Prog.ret_bind]
      rfl
  | responsePayload size =>
    refine Refines.of_op rfl (fun r => ?_) h
    cases r with
    | error ec => exact ⟨.requestJoin {} _, rfl, .responsePayloadFailed size ec⟩
    | ok bs => exact ⟨.responseDecode bs, rfl, .responsePayload size bs⟩
  | responseDecode bs =>
    refine Refines.of_op rfl (fun r => ?_) h
    cases r with
    | error fault =>
      exact ⟨.undefined, settle_undefined _, .responseFault bs fault⟩
    | ok responce => exact ⟨.requestJoin responce none, rfl, .responseDecode bs responce⟩
  | requestJoin responce err =>
    refine Refines.of_op rfl (fun timer => ?_) h
    exact ⟨requested responce (errorAfter timer err),
      settle_requested endpoint responce (errorAfter timer err), .requestJoin responce err timer⟩
  | importDescriptor descriptor =>
    refine Refines.of_op rfl (fun r => ?_) h
    cases r with
    | some err => exact ⟨.ended _, rfl, .importFailed descriptor err⟩
    | none =>
      exact ⟨imported endpoint descriptor, settle_imported endpoint descriptor,
        .imported descriptor⟩
  | service descriptor =>
    refine Refines.of_op rfl (fun r => ?_) h
    cases r with
    | returned err =>
      cases err with
      | some err => exact ⟨.ackTimer (.canceled err), rfl, .serviceFailed descriptor err⟩
      | none => exact ⟨.connection descriptor, rfl, .service descriptor⟩
    | threw => exact ⟨.unwound, settle_unwind _, .serviceThrew descriptor⟩
    | nullPointer =>
      exact ⟨.undefined, settle_undefined _, .serviceNull descriptor⟩
  | connection descriptor =>
    refine Refines.of_op rfl (fun r => ?_) h
    cases r with
    | some err => exact ⟨.ackTimer (.failed _), rfl, .connectionFailed descriptor err⟩
    | none =>
      exact ⟨connected endpoint descriptor, settle_connected endpoint descriptor,
        .connected descriptor⟩
  | submit type descriptor =>
    refine Refines.of_op rfl (fun r => ?_) h
    cases r with
    | some err => exact ⟨.ackTimer (.failed _), rfl, .submitFailed type descriptor err⟩
    | none => exact ⟨.await type, rfl, .submitted type descriptor⟩
  | await type =>
    refine Refines.of_op rfl (fun result => ?_) h
    refine ⟨awaited result, ?_, .awaited type result⟩
    cases result with
    | timedOut => rfl
    | ready err => cases err <;> rfl
  | ackTimer outcome =>
    refine Refines.of_op rfl (fun _ => ?_) h
    exact ⟨.ackSerialize outcome, rfl, .ackTimer outcome⟩
  | ackSerialize outcome =>
    refine Refines.of_op rfl (fun bs => ?_) h
    exact ⟨.ackLength outcome bs, rfl, .ackSerialize outcome bs⟩
  | ackLength outcome bs =>
    refine Refines.of_op rfl (fun r => ?_) h
    cases r with
    | error ec => exact ⟨.ackJoin outcome _, rfl, .ackLengthFailed outcome bs ec⟩
    | ok u =>
      refine ⟨.ackPayload outcome bs, ?_, .ackLength outcome bs⟩
      simp only [Prog.ret_bind]
      rfl
  | ackPayload outcome bs =>
    refine Refines.of_op rfl (fun r => ?_) h
    cases r with
    | error ec => exact ⟨.ackJoin outcome _, rfl, .ackPayloadFailed outcome bs ec⟩
    | ok u => exact ⟨.ackJoin outcome none, rfl, .ackPayload outcome bs⟩
  | ackJoin outcome err =>
    refine Refines.of_op rfl (fun timer => ?_) h
    exact ⟨outcome.acknowledged endpoint (errorAfter timer err),
      settle_acknowledged endpoint outcome (errorAfter timer err), .ackJoin outcome err timer⟩
  | finish =>
    refine Refines.of_op rfl (fun r => ?_) h
    cases r with
    | returned err =>
      cases err with
      | some err => exact ⟨.ended _, rfl, .finishFailed err⟩
      | none => exact ⟨.ended none, rfl, .finished⟩
    | threw => exact ⟨.unwound, settle_unwind _, .finishThrew⟩
    | nullPointer => exact ⟨.undefined, settle_undefined _, .finishNull⟩
  | unwound => exact Refines.of_op rfl (fun r => Empty.elim r) h
  | undefined => exact Refines.of_op rfl (fun r => Empty.elim r) h
  | ended err => cases h

/-! ## 5. And no others -/

section Determined

variable {endpoint : RdmaEndpoint} {f f' f'' : ClientPhase} {ev : SessionEvent}

theorem ClientStep.pending (h : ClientStep endpoint f ev f') :
    (f.session endpoint).pending (clientPass true endpoint) = some ev.op := by
  cases h <;> rfl

/-- The call and its answer determine the next point. -/
theorem ClientStep.det (h : ClientStep endpoint f ev f') (h' : ClientStep endpoint f ev f'') :
    f' = f'' := by
  cases h <;> cases h' <;> rfl

/-- **Every step on the points is one the coroutine takes.** -/
theorem ClientStep.resume (h : ClientStep endpoint f ev f') :
    (f.session endpoint).resume (clientPass true endpoint) ev = some (f'.session endpoint) :=
  (client_refines endpoint).resume h.pending fun _ h' => h'.det h

end Determined

end DocaCpp
