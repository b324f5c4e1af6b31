/-
# Where a server session can stand

`serverPass` is a program; the proofs want its control points by name.  `ServerPhase` lists them,
one for every call the coroutine can be suspended at, each with the variables of the source that
are still live there, and `ServerPhase.session` is what is left of the coroutine at that point.
`ServerStep` is the transition relation on the names, one constructor for each call and each kind
of answer, and `server_refines` says that it is what the coroutine does.

Everything later modules know about the control flow of `HandleServerSession` they know from
`ServerStep`; none of them unfolds `serverPass`.
-/
import DocaCpp.Session.Server

namespace DocaCpp

open Coro

/-! ## 1. The points -/

/-- Why a response is sent, with what the coroutine still remembers. -/
inductive Reply
  | notFound (request : Request)
  | exportFailed (request : Request) (endpoint : RdmaEndpoint) (descErr : Err)
  | lockFailed (request : Request) (endpoint : RdmaEndpoint) (descriptor : Bytes) (lockErr : Err)
  | locked (request : Request) (endpoint : RdmaEndpoint) (descriptor : Bytes)
  | serviceFailed (request : Request) (endpoint : RdmaEndpoint) (descriptor : Bytes) (srvErr : Err)
  | permitted (request : Request) (endpoint : RdmaEndpoint) (descriptor : Bytes)
  deriving DecidableEq

/-- The response itself. -/
def Reply.responce : Reply → Responce
  | notFound _ => ⟨.operationEndpointNotFound, []⟩
  | exportFailed _ _ _ => ⟨.operationInternalError, []⟩
  | lockFailed _ _ descriptor _ => ⟨.operationInternalError, descriptor⟩
  | locked _ _ descriptor => ⟨.operationEndpointLocked, descriptor⟩
  | serviceFailed _ _ descriptor _ => ⟨.operationServiceError, descriptor⟩
  | permitted _ _ descriptor => ⟨.operationPermitted, descriptor⟩

/-- How far the sending of a response has come. -/
inductive Sending
  | serialize
  | length (buffer : Bytes)
  | payload (buffer : Bytes)
  deriving DecidableEq

/-- The points at which a server session can stand. -/
inductive ServerPhase
  | head
  | requestLength
  | requestPayload (size : Nat)
  | requestDecode (buffer : Bytes)
  | connection (request : Request)
  | lookup (request : Request)
  | exportDescriptor (request : Request) (endpoint : RdmaEndpoint)
  | lock (request : Request) (endpoint : RdmaEndpoint) (descriptor : Bytes)
  | prepare (request : Request) (endpoint : RdmaEndpoint) (descriptor : Bytes)
  | respond (reply : Reply) (sending : Sending)
  | ackTimer (request : Request) (endpoint : RdmaEndpoint)
  | ackLength (request : Request) (endpoint : RdmaEndpoint)
  | ackPayload (request : Request) (endpoint : RdmaEndpoint) (size : Nat)
  | ackDecode (request : Request) (endpoint : RdmaEndpoint) (buffer : Bytes)
  | ackJoin (request : Request) (endpoint : RdmaEndpoint) (ack : Acknowledge) (err : error)
  | process (request : Request) (endpoint : RdmaEndpoint)
  | unlock (request : Request)
  | unwound
  | undefined
  | ended (err : error)

variable [Platform]

/-! ## 2. What is left to do -/

/-- `HandleServerSession` after `ReceiveRequest`. -/
def afterReceive (result : Except Err Request) : Coro (Exit error) :=
  match result with
  | .error _ => return .again
  | .ok request => serveRequest request

/-- `HandleServerSession` after a `SendResponse`. -/
def Reply.afterSend (reply : Reply) (sendErr : error) : Coro (Exit error) :=
  match reply with
  | notFound _ | locked _ _ _ => do
    if let some err := sendErr then
      return .leave (wrap err "Failed to send responce")
    return .again
  | exportFailed _ _ descErr => do
    if let some err := sendErr then
      return .leave (some (.join descErr (.wrap err "Failed to send responce")))
    return .leave (wrap none "Failed to export memory descriptor")
  | lockFailed _ _ _ lockErr => do
    if let some err := sendErr then
      return .leave (some (.join lockErr (.wrap err "Failed to send responce")))
    return .leave (some lockErr)
  | serviceFailed request _ _ _ => do
    if let some err := sendErr then
      return .leave (wrap err "Failed to send responce")
    let _ ← unlockEndpointsByPath request.endpointPath
    return .again
  | permitted request endpoint _ => do
    if let some err := sendErr then
      return .leave (wrap err "Failed to send responce")
    if let some err := serverPerformRdmaOperation endpoint then
      return .leave (wrap err "Failed to perform RDMA operation")
    awaitAcknowledge request endpoint

/-- `HandleServerSession` after `ReceiveAcknowledge`. -/
def afterAcknowledge (request : Request) (endpoint : RdmaEndpoint) (result : Acknowledge × error) :
    Coro (Exit error) := do
  let (_, ackErr) := result
  if ackErr.isSome then
    let _ ← unlockEndpointsByPath request.endpointPath
    return .again
  if endpoint.type = .write then
    if let some _ ← handle endpoint then
      let _ ← unlockEndpointsByPath request.endpointPath
      return .again
  let _ ← unlockEndpointsByPath request.endpointPath
  return .again

/-- `SendResponse` from a point of its own. -/
def Sending.rest (sending : Sending) (responce : Responce) : Coro error :=
  match sending with
  | serialize => sendResponse responce
  | length buffer => do
    match ← asyncWrite (uint32Bytes buffer.length) with
    | .error err0 =>
      return some (.new ("Failed to write responce length to socket: " ++ err0.message))
    | .ok _ =>
      match ← asyncWrite buffer with
      | .error err1 =>
        return some (.new ("Failed to write responce payload to socket: " ++ err1.message))
      | .ok _ => return none
  | payload buffer => do
    match ← asyncWrite buffer with
    | .error err1 =>
      return some (.new ("Failed to write responce payload to socket: " ++ err1.message))
    | .ok _ => return none

/-- What is left of the coroutine at a point. -/
def ServerPhase.session : ServerPhase → Session
  | head => .head
  | requestLength => Loop.settle (receiveRequest >>= afterReceive)
  | requestPayload size => Loop.settle ((do
      match ← asyncRead size with
      | .error err1 =>
        return .error (.new ("Failed to read request payload from socket: " ++ err1.message))
      | .ok requestBuffer =>
        let request ← decoded (← MessageSerializer.deserializeRequest requestBuffer)
        return .ok request) >>= afterReceive)
  | requestDecode buffer => Loop.settle ((do
      let request ← decoded (← MessageSerializer.deserializeRequest buffer)
      return .ok request) >>= afterReceive)
  | connection request => Loop.settle (serveRequest request)
  | lookup request => Loop.settle (do
      match ← getEndpoint (makeEndpointId request.endpointPath request.endpointType) with
      | .error _ =>
        let reply := Reply.notFound request
        sendResponse reply.responce >>= reply.afterSend
      | .ok endpoint => serveEndpoint request endpoint)
  | exportDescriptor request endpoint => Loop.settle (serveEndpoint request endpoint)
  | lock request endpoint descriptor => Loop.settle (do
      let (locked, lockErr) ← tryLockEndpointsByPath request.endpointPath
      if let some lockErr := lockErr then
        let reply := Reply.lockFailed request endpoint descriptor lockErr
        sendResponse reply.responce >>= reply.afterSend
      else if !locked then
        let reply := Reply.locked request endpoint descriptor
        sendResponse reply.responce >>= reply.afterSend
      else serveLocked request endpoint { memoryDescriptor := descriptor })
  | prepare request endpoint descriptor => Loop.settle (do
      if let some srvErr ← handle endpoint then
        let reply := Reply.serviceFailed request endpoint descriptor srvErr
        sendResponse reply.responce >>= reply.afterSend
      else permit request endpoint { memoryDescriptor := descriptor })
  | respond reply sending => Loop.settle (sending.rest reply.responce >>= reply.afterSend)
  | ackTimer request endpoint => Loop.settle (awaitAcknowledge request endpoint)
  | ackLength request endpoint =>
    Loop.settle (readAck >>= joining >>= afterAcknowledge request endpoint)
  | ackPayload request endpoint size => Loop.settle ((do
      match ← asyncRead size with
      | .error _ =>
        return ({}, some (.new ("Failed to read acknowledge payload from socket: "
          ++ ErrorCode.success.message)))
      | .ok ackBuffer =>
        let ack ← decoded (← MessageSerializer.deserializeAcknowledge ackBuffer)
        return (ack, none)) >>= joining >>= afterAcknowledge request endpoint)
  | ackDecode request endpoint buffer => Loop.settle ((do
      let ack ← decoded (← MessageSerializer.deserializeAcknowledge buffer)
      return (ack, none)) >>= joining >>= afterAcknowledge request endpoint)
  | ackJoin request endpoint ack err =>
    Loop.settle (joining (ack, err) >>= afterAcknowledge request endpoint)
  | process request endpoint => Loop.settle (do
      if let some _ ← handle endpoint then
        let _ ← unlockEndpointsByPath request.endpointPath
        return .again
      let _ ← unlockEndpointsByPath request.endpointPath
      return .again)
  | unlock request => Loop.settle (do
      let _ ← unlockEndpointsByPath request.endpointPath
      return .again)
  | unwound => Loop.settle Coro.unwind
  | undefined => Loop.settle Coro.undefined
  | ended err => .ended err

/-! ## 3. The steps -/

/-- Where the coroutine is once a response is out. -/
def Reply.sent : Reply → ServerPhase
  | notFound _ | locked _ _ _ => .head
  | exportFailed _ _ _ => .ended (wrap none "Failed to export memory descriptor")
  | lockFailed _ _ _ lockErr => .ended (some lockErr)
  | serviceFailed request _ _ _ => .unlock request
  | permitted request endpoint _ =>
    match serverPerformRdmaOperation endpoint with
    | some err => .ended (wrap err "Failed to perform RDMA operation")
    | none => .ackTimer request endpoint

/-- The error the coroutine returns when a response cannot be sent. -/
def Reply.unsent (reply : Reply) (err : Err) : error :=
  match reply with
  | exportFailed _ _ descErr => some (.join descErr (.wrap err "Failed to send responce"))
  | lockFailed _ _ _ lockErr => some (.join lockErr (.wrap err "Failed to send responce"))
  | _ => wrap err "Failed to send responce"

/-- Where the coroutine is once the lock is granted. -/
def granted (request : Request) (endpoint : RdmaEndpoint) (descriptor : Bytes) : ServerPhase :=
  if endpoint.type = .read then .prepare request endpoint descriptor
  else .respond (.permitted request endpoint descriptor) .serialize

/-- Where the coroutine is once the wait for the acknowledge is over. -/
def joined (request : Request) (endpoint : RdmaEndpoint) (ackErr : error) : ServerPhase :=
  if ackErr.isSome then .unlock request
  else if endpoint.type = .write then .process request endpoint
  else .unlock request

/-! The points a branch of the source can lead to. -/

omit [Platform] in
theorem granted_cases (request : Request) (endpoint : RdmaEndpoint) (descriptor : Bytes) :
    granted request endpoint descriptor = .prepare request endpoint descriptor ∨
      granted request endpoint descriptor =
        .respond (.permitted request endpoint descriptor) .serialize := by
  unfold granted
  split
  · exact .inl rfl
  · exact .inr rfl

omit [Platform] in
theorem joined_cases (request : Request) (endpoint : RdmaEndpoint) (ackErr : error) :
    joined request endpoint ackErr = .unlock request ∨
      joined request endpoint ackErr = .process request endpoint := by
  unfold joined
  split
  · exact .inl rfl
  · split
    · exact .inr rfl
    · exact .inl rfl

theorem Reply.permitted_sent_cases (request : Request) (endpoint : RdmaEndpoint)
    (descriptor : Bytes) :
    (permitted request endpoint descriptor).sent = .ackTimer request endpoint ∨
      ∃ err, (permitted request endpoint descriptor).sent = .ended (some err) := by
  unfold sent
  dsimp only
  split
  · exact .inr ⟨_, rfl⟩
  · exact .inl rfl

/-- **The steps of `HandleServerSession`**: at a point, the call it makes there, the answer, and
the point the coroutine gets to. -/
inductive ServerStep : ServerPhase → SessionEvent → ServerPhase → Prop
  | isOpen : ServerStep .head ⟨.isOpen, true⟩ .requestLength
  | closed : ServerStep .head ⟨.isOpen, false⟩ (.ended none)
  | requestLength (bs : Bytes) :
      ServerStep .requestLength ⟨.asyncRead 4, .ok bs⟩ (.requestPayload (uint32Of bs))
  | requestLengthFailed (ec : ErrorCode) : ServerStep .requestLength ⟨.asyncRead 4, .error ec⟩ .head
  | requestPayload (size : Nat) (bs : Bytes) :
      ServerStep (.requestPayload size) ⟨.asyncRead size, .ok bs⟩ (.requestDecode bs)
  | requestPayloadFailed (size : Nat) (ec : ErrorCode) :
      ServerStep (.requestPayload size) ⟨.asyncRead size, .error ec⟩ .head
  | requestDecode (bs : Bytes) (request : Request) :
      ServerStep (.requestDecode bs) ⟨.deserializeRequest bs, .ok request⟩ (.connection request)
  | requestFault (bs : Bytes) (fault : OutOfBounds) :
      ServerStep (.requestDecode bs) ⟨.deserializeRequest bs, .error fault⟩ .undefined
  | connection (request : Request) :
      ServerStep (.connection request) ⟨.waitForEstablishedConnection 3000, none⟩ (.lookup request)
  | connectionFailed (request : Request) (err : Err) :
      ServerStep (.connection request) ⟨.waitForEstablishedConnection 3000, some err⟩
        (.ended (wrap err "Failed to get active connection from executor"))
  | lookup (request : Request) (endpoint : RdmaEndpoint) :
      ServerStep (.lookup request)
        ⟨.getEndpoint (makeEndpointId request.endpointPath request.endpointType), .ok endpoint⟩
        (.exportDescriptor request endpoint)
  | lookupFailed (request : Request) (err : Err) :
      ServerStep (.lookup request)
        ⟨.getEndpoint (makeEndpointId request.endpointPath request.endpointType), .error err⟩
        (.respond (.notFound request) .serialize)
  | exportDescriptor (request : Request) (endpoint : RdmaEndpoint) (descriptor : Bytes) :
      ServerStep (.exportDescriptor request endpoint)
        ⟨.exportMemoryDescriptor endpoint, .returned (.ok descriptor)⟩
        (.lock request endpoint descriptor)
  | exportFailed (request : Request) (endpoint : RdmaEndpoint) (err : Err) :
      ServerStep (.exportDescriptor request endpoint)
        ⟨.exportMemoryDescriptor endpoint, .returned (.error err)⟩
        (.respond (.exportFailed request endpoint err) .serialize)
  | exportThrew (request : Request) (endpoint : RdmaEndpoint) :
      ServerStep (.exportDescriptor request endpoint) ⟨.exportMemoryDescriptor endpoint, .threw⟩
        .unwound
  | exportNull (request : Request) (endpoint : RdmaEndpoint) :
      ServerStep (.exportDescriptor request endpoint)
        ⟨.exportMemoryDescriptor endpoint, .nullPointer⟩ .undefined
  | lockFailed (request : Request) (endpoint : RdmaEndpoint) (descriptor : Bytes) (flag : Bool)
      (err : Err) :
      ServerStep (.lock request endpoint descriptor)
        ⟨.tryLockEndpointsByPath request.endpointPath, (flag, some err)⟩
        (.respond (.lockFailed request endpoint descriptor err) .serialize)
  | locked (request : Request) (endpoint : RdmaEndpoint) (descriptor : Bytes) :
      ServerStep (.lock request endpoint descriptor)
        ⟨.tryLockEndpointsByPath request.endpointPath, (false, none)⟩
        (.respond (.locked request endpoint descriptor) .serialize)
  | granted (request : Request) (endpoint : RdmaEndpoint) (descriptor : Bytes) :
      ServerStep (.lock request endpoint descriptor)
        ⟨.tryLockEndpointsByPath request.endpointPath, (true, none)⟩
        (granted request endpoint descriptor)
  | prepared (request : Request) (endpoint : RdmaEndpoint) (descriptor : Bytes) :
      ServerStep (.prepare request endpoint descriptor) ⟨.handle endpoint, .returned none⟩
        (.respond (.permitted request endpoint descriptor) .serialize)
  | prepareFailed (request : Request) (endpoint : RdmaEndpoint) (descriptor : Bytes) (err : Err) :
      ServerStep (.prepare request endpoint descriptor) ⟨.handle endpoint, .returned (some err)⟩
        (.respond (.serviceFailed request endpoint descriptor err) .serialize)
  | prepareThrew (request : Request) (endpoint : RdmaEndpoint) (descriptor : Bytes) :
      ServerStep (.prepare request endpoint descriptor) ⟨.handle endpoint, .threw⟩ .unwound
  | prepareNull (request : Request) (endpoint : RdmaEndpoint) (descriptor : Bytes) :
      ServerStep (.prepare request endpoint descriptor) ⟨.handle endpoint, .nullPointer⟩ .undefined
  | serialize (reply : Reply) (bs : Bytes) :
      ServerStep (.respond reply .serialize) ⟨.serializeResponse reply.responce, bs⟩
        (.respond reply (.length bs))
  | sendLength (reply : Reply) (bs : Bytes) :
      ServerStep (.respond reply (.length bs)) ⟨.asyncWrite (uint32Bytes bs.length), .ok ()⟩
        (.respond reply (.payload bs))
  | sendLengthFailed (reply : Reply) (bs : Bytes) (ec : ErrorCode) :
      ServerStep (.respond reply (.length bs)) ⟨.asyncWrite (uint32Bytes bs.length), .error ec⟩
        (.ended (reply.unsent (.new ("Failed to write responce length to socket: " ++ ec.message))))
  | sendPayload (reply : Reply) (bs : Bytes) :
      ServerStep (.respond reply (.payload bs)) ⟨.asyncWrite bs, .ok ()⟩ reply.sent
  | sendPayloadFailed (reply : Reply) (bs : Bytes) (ec : ErrorCode) :
      ServerStep (.respond reply (.payload bs)) ⟨.asyncWrite bs, .error ec⟩
        (.ended (reply.unsent
          (.new ("Failed to write responce payload to socket: " ++ ec.message))))
  | ackTimer (request : Request) (endpoint : RdmaEndpoint) :
      ServerStep (.ackTimer request endpoint) ⟨.startTimer 5000, ()⟩ (.ackLength request endpoint)
  | ackLength (request : Request) (endpoint : RdmaEndpoint) (bs : Bytes) :
      ServerStep (.ackLength request endpoint) ⟨.asyncRead 4, .ok bs⟩
        (.ackPayload request endpoint (uint32Of bs))
  | ackLengthFailed (request : Request) (endpoint : RdmaEndpoint) (ec : ErrorCode) :
      ServerStep (.ackLength request endpoint) ⟨.asyncRead 4, .error ec⟩
        (.ackJoin request endpoint {}
          (some (.new ("Failed to read acknowledge length from socket: " ++ ec.message))))
  | ackPayload (request : Request) (endpoint : RdmaEndpoint) (size : Nat) (bs : Bytes) :
      ServerStep (.ackPayload request endpoint size) ⟨.asyncRead size, .ok bs⟩
        (.ackDecode request endpoint bs)
  | ackPayloadFailed (request : Request) (endpoint : RdmaEndpoint) (size : Nat) (ec : ErrorCode) :
      ServerStep (.ackPayload request endpoint size) ⟨.asyncRead size, .error ec⟩
        (.ackJoin request endpoint {} (some (.new
          ("Failed to read acknowledge payload from socket: " ++ ErrorCode.success.message))))
  | ackDecode (request : Request) (endpoint : RdmaEndpoint) (bs : Bytes) (ack : Acknowledge) :
      ServerStep (.ackDecode request endpoint bs) ⟨.deserializeAcknowledge bs, .ok ack⟩
        (.ackJoin request endpoint ack none)
  | ackFault (request : Request) (endpoint : RdmaEndpoint) (bs : Bytes) (fault : OutOfBounds) :
      ServerStep (.ackDecode request endpoint bs) ⟨.deserializeAcknowledge bs, .error fault⟩
        .undefined
  | ackJoin (request : Request) (endpoint : RdmaEndpoint) (ack : Acknowledge) (err : error)
      (timer : TimerEnd) :
      ServerStep (.ackJoin request endpoint ack err) ⟨.joinTimer, timer⟩
        (joined request endpoint (errorAfter timer err))
  | processed (request : Request) (endpoint : RdmaEndpoint) (err : error) :
      ServerStep (.process request endpoint) ⟨.handle endpoint, .returned err⟩ (.unlock request)
  | processThrew (request : Request) (endpoint : RdmaEndpoint) :
      ServerStep (.process request endpoint) ⟨.handle endpoint, .threw⟩ .unwound
  | processNull (request : Request) (endpoint : RdmaEndpoint) :
      ServerStep (.process request endpoint) ⟨.handle endpoint, .nullPointer⟩ .undefined
  | unlock (request : Request) (err : error) :
      ServerStep (.unlock request) ⟨.unlockEndpointsByPath request.endpointPath, err⟩ .head

/-! ## 4. The coroutine takes these steps -/

theorem settle_serveLocked (request : Request) (endpoint : RdmaEndpoint) (descriptor : Bytes) :
    Loop.settle (serveLocked request endpoint { memoryDescriptor := descriptor })
      = (granted request endpoint descriptor).session := by
  unfold serveLocked granted
  by_cases ht : endpoint.type = .read
  · rw [if_pos ht, if_pos ht]
    rfl
  · rw [if_neg ht, if_neg ht]
    rfl

theorem settle_unsent (reply : Reply) (err : Err) :
    Loop.settle (reply.afterSend (some err)) = .ended (reply.unsent err) := by
  cases reply <;> rfl

theorem settle_sent (reply : Reply) :
    Loop.settle (reply.afterSend none) = reply.sent.session := by
  cases reply with
  | permitted request endpoint descriptor =>
    simp only [Reply.afterSend, Reply.sent]
    cases serverPerformRdmaOperation endpoint with
    | none => rfl
    | some err => rfl
  | _ => rfl

theorem settle_joined (request : Request) (endpoint : RdmaEndpoint) (ack : Acknowledge)
    (err : error) :
    Loop.settle (afterAcknowledge request endpoint (ack, err))
      = (joined request endpoint err).session := by
  unfold joined
  cases err with
  | some err => rfl
  | none =>
    by_cases ht : endpoint.type = .write
    · simp only [afterAcknowledge, ht, ite_true, Option.isSome_none]
      rfl
    · simp only [afterAcknowledge, ht, ite_false, Option.isSome_none]
      rfl

/-- **Every call of the coroutine, answered, is a step on the points.** -/
theorem server_refines : Refines serverPass ServerPhase.session ServerStep := by
  constructor
  intro f ev c' h
  cases f with
  | head =>
    refine Refines.of_op rfl (fun r => ?_) h
    cases r
    · exact ⟨.ended none, rfl, .closed⟩
    · exact ⟨.requestLength, rfl, .isOpen⟩
  | requestLength =>
    refine Refines.of_op rfl (fun r => ?_) h
    cases r with
    | error ec => exact ⟨.head, rfl, .requestLengthFailed ec⟩
    | ok bs =>
      -- with the bind left in, `rfl` compares the texts of the two errors letter by letter
      refine ⟨.requestPayload (uint32Of bs), ?_, .requestLength bs⟩
      simp only [Prog.ret_bind]
      rfl
  | requestPayload size =>
    refine Refines.of_op rfl (fun r => ?_) h
    cases r with
    | error ec => exact ⟨.head, rfl, .requestPayloadFailed size ec⟩
    | ok bs => exact ⟨.requestDecode bs, rfl, .requestPayload size bs⟩
  | requestDecode bs =>
    refine Refines.of_op rfl (fun r => ?_) h
    cases r with
    | error fault => exact ⟨.undefined, settle_undefined _, .requestFault bs fault⟩
    | ok request => exact ⟨.connection request, rfl, .requestDecode bs request⟩
  | connection request =>
    refine Refines.of_op rfl (fun r => ?_) h
    cases r with
    | some err => exact ⟨_, rfl, .connectionFailed request err⟩
    | none => exact ⟨.lookup request, rfl, .connection request⟩
  | lookup request =>
    refine Refines.of_op rfl (fun r => ?_) h
    cases r with
    | error err => exact ⟨.respond (.notFound request) .serialize, rfl, .lookupFailed request err⟩
    | ok endpoint =>
      exact ⟨.exportDescriptor request endpoint, rfl, .lookup request endpoint⟩
  | exportDescriptor request endpoint =>
    refine Refines.of_op rfl (fun r => ?_) h
    cases r with
    | returned result =>
      cases result with
      | error err =>
        exact ⟨.respond (.exportFailed request endpoint err) .serialize, rfl,
          .exportFailed request endpoint err⟩
      | ok descriptor =>
        exact ⟨.lock request endpoint descriptor, rfl,
          .exportDescriptor request endpoint descriptor⟩
    | threw => exact ⟨.unwound, settle_unwind _, .exportThrew request endpoint⟩
    | nullPointer => exact ⟨.undefined, settle_undefined _, .exportNull request endpoint⟩
  | lock request endpoint descriptor =>
    refine Refines.of_op rfl (fun r => ?_) h
    obtain ⟨flag, err⟩ := r
    cases err with
    | some err =>
      exact ⟨.respond (.lockFailed request endpoint descriptor err) .serialize, rfl,
        .lockFailed request endpoint descriptor flag err⟩
    | none =>
      cases flag with
      | false =>
        exact ⟨.respond (.locked request endpoint descriptor) .serialize, rfl,
          .locked request endpoint descriptor⟩
      | true =>
        refine ⟨granted request endpoint descriptor, ?_, .granted request endpoint descriptor⟩
        exact settle_serveLocked request endpoint descriptor
  | prepare request endpoint descriptor =>
    refine Refines.of_op rfl (fun r => ?_) h
    cases r with
    | returned err =>
      cases err with
      | some err =>
        exact ⟨.respond (.serviceFailed request endpoint descriptor err) .serialize, rfl,
          .prepareFailed request endpoint descriptor err⟩
      | none =>
        exact ⟨.respond (.permitted request endpoint descriptor) .serialize, rfl,
          .prepared request endpoint descriptor⟩
    | threw => exact ⟨.unwound, settle_unwind _, .prepareThrew request endpoint descriptor⟩
    | nullPointer =>
      exact ⟨.undefined, settle_undefined _, .prepareNull request endpoint descriptor⟩
  | respond reply sending =>
    cases sending with
    | serialize =>
      refine Refines.of_op rfl (fun bs => ?_) h
      exact ⟨.respond reply (.length bs), rfl, .serialize reply bs⟩
    | length bs =>
      refine Refines.of_op rfl (fun r => ?_) h
      cases r with
      | error ec => exact ⟨.ended _, settle_unsent reply _, .sendLengthFailed reply bs ec⟩
      | ok u =>
        refine ⟨.respond reply (.payload bs), ?_, .sendLength reply bs⟩
        simp only [Prog.ret_bind]
        rfl
    | payload bs =>
      refine Refines.of_op rfl (fun r => ?_) h
      cases r with
      | error ec => exact ⟨.ended _, settle_unsent reply _, .sendPayloadFailed reply bs ec⟩
      | ok u => exact ⟨reply.sent, settle_sent reply, .sendPayload reply bs⟩
  | ackTimer request endpoint =>
    refine Refines.of_op rfl (fun _ => ?_) h
    exact ⟨.ackLength request endpoint, rfl, .ackTimer request endpoint⟩
  | ackLength request endpoint =>
    refine Refines.of_op rfl (fun r => ?_) h
    cases r with
    | error ec => exact ⟨.ackJoin request endpoint {} _, rfl, .ackLengthFailed request endpoint ec⟩
    | ok bs =>
      refine ⟨.ackPayload request endpoint (uint32Of bs), ?_, .ackLength request endpoint bs⟩
      simp only [Prog.ret_bind]
      rfl
  | ackPayload request endpoint size =>
    refine Refines.of_op rfl (fun r => ?_) h
    cases r with
    | error ec =>
      exact ⟨.ackJoin request endpoint {} _, rfl, .ackPayloadFailed request endpoint size ec⟩
    | ok bs => exact ⟨.ackDecode request endpoint bs, rfl, .ackPayload request endpoint size bs⟩
  | ackDecode request endpoint bs =>
    refine Refines.of_op rfl (fun r => ?_) h
    cases r with
    | error fault => exact ⟨.undefined, settle_undefined _, .ackFault request endpoint bs fault⟩
    | ok ack => exact ⟨.ackJoin request endpoint ack none, rfl, .ackDecode request endpoint bs ack⟩
  | ackJoin request endpoint ack err =>
    refine Refines.of_op rfl (fun timer => ?_) h
    exact ⟨joined request endpoint (errorAfter timer err),
      settle_joined request endpoint ack (errorAfter timer err),
      .ackJoin request endpoint ack err timer⟩
  | process request endpoint =>
    refine Refines.of_op rfl (fun r => ?_) h
    cases r with
    | returned err => cases err <;> exact ⟨.unlock request, rfl, .processed request endpoint _⟩
    | threw => exact ⟨.unwound, settle_unwind _, .processThrew request endpoint⟩
    | nullPointer => exact ⟨.undefined, settle_undefined _, .processNull request endpoint⟩
  | unlock request =>
    refine Refines.of_op rfl (fun err => ?_) h
    exact ⟨.head, rfl, .unlock request err⟩
  | unwound => exact Refines.of_op rfl (fun r => Empty.elim r) h
  | undefined => exact Refines.of_op rfl (fun r => Empty.elim r) h
  | ended err => cases h

/-! ## 5. And no others -/

theorem ServerStep.pending {f f' : ServerPhase} {ev : SessionEvent} (h : ServerStep f ev f') :
    f.session.pending serverPass = some ev.op := by
  cases h <;> rfl

/-- The call and its answer determine the next point. -/
theorem ServerStep.det {f f' f'' : ServerPhase} {ev : SessionEvent} (h : ServerStep f ev f')
    (h' : ServerStep f ev f'') : f' = f'' := by
  cases h <;> cases h' <;> rfl

/-- **Every step on the points is one the coroutine takes.** -/
theorem ServerStep.resume {f f' : ServerPhase} {ev : SessionEvent} (h : ServerStep f ev f') :
    f.session.resume serverPass ev = some f'.session :=
  server_refines.resume h.pending fun _ h' => h'.det h

end DocaCpp
