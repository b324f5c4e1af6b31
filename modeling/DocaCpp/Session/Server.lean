/-
# The server side of a session

`HandleServerSession` and the methods of `RdmaSessionServer` it awaits, in the order of the source.
One pass of the `while` is `serverPass`; `handleServerSession` is the loop around it.
-/
import DocaCpp.Session.Calls

namespace DocaCpp

open Coro

variable [Platform]

/-! ## 1. `RdmaSessionServer` -/

/-- `RdmaSessionServer::ReceiveRequest`. -/
def receiveRequest : Coro (Except Err Request) := do
  match ← asyncRead 4 with
  | .error err0 =>
    return .error (.new ("Failed to read request length from socket: " ++ err0.message))
  | .ok requestLength =>
    match ← asyncRead (uint32Of requestLength) with
    | .error err1 =>
      return .error (.new ("Failed to read request payload from socket: " ++ err1.message))
    | .ok requestBuffer =>
      let request ← decoded (← MessageSerializer.deserializeRequest requestBuffer)
      return .ok request

/-- `RdmaSessionServer::SendResponse`. -/
def sendResponse (response : Responce) : Coro error := do
  let responseBuffer ← MessageSerializer.serializeResponse response
  match ← asyncWrite (uint32Bytes responseBuffer.length) with
  | .error err0 =>
    return some (.new ("Failed to write responce length to socket: " ++ err0.message))
  | .ok _ =>
    match ← asyncWrite responseBuffer with
    | .error err1 =>
      return some (.new ("Failed to write responce payload to socket: " ++ err1.message))
    | .ok _ => return none

/-- The operation `readAck` of `ReceiveAcknowledge`.  The message of a failed payload read is built
from `err0`, the code of the length read that succeeded. -/
def readAck : Coro (Acknowledge × error) := do
  match ← asyncRead 4 with
  | .error err0 =>
    return ({}, some (.new ("Failed to read acknowledge length from socket: " ++ err0.message)))
  | .ok ackLength =>
    match ← asyncRead (uint32Of ackLength) with
    | .error _ =>
      return ({}, some (.new ("Failed to read acknowledge payload from socket: "
        ++ ErrorCode.success.message)))
    | .ok ackBuffer =>
      let ack ← decoded (← MessageSerializer.deserializeAcknowledge ackBuffer)
      return (ack, none)

/-- `RdmaSessionServer::ReceiveAcknowledge`. -/
def receiveAcknowledge (timeout : Nat) : Coro (Acknowledge × error) := orTimeout timeout readAck

/-- `RdmaSessionServer::PerformRdmaOperation`: the server only checks the type. -/
def serverPerformRdmaOperation (endpoint : RdmaEndpoint) : error :=
  if endpoint.type = .write then none
  else if endpoint.type = .read then none
  else some (.new "Unknown endpoint type in request")

/-! ## 2. `HandleServerSession` -/

/-- Lines 177 to 205: the acknowledge, the service of a write endpoint, the unlock. -/
def awaitAcknowledge (request : Request) (endpoint : RdmaEndpoint) : Coro (Exit error) := do
  let ackTimeout := 5000
  let (_, ackErr) ← receiveAcknowledge ackTimeout
  if ackErr.isSome then
    -- Acknowledge was not received, so skip calling user service and unlock
    let _ ← unlockEndpointsByPath request.endpointPath
    return .again
  if endpoint.type = .write then
    if let some _ ← handle endpoint then
      let _ ← unlockEndpointsByPath request.endpointPath
      return .again
  let _ ← unlockEndpointsByPath request.endpointPath
  return .again

/-- Lines 160 to 175: the permission, and the server's share of the RDMA operation. -/
def permit (request : Request) (endpoint : RdmaEndpoint) (response : Responce) :
    Coro (Exit error) := do
  let response := { response with responceCode := .operationPermitted }
  if let some err ← sendResponse response then
    return .leave (wrap err "Failed to send responce")
  if let some err := serverPerformRdmaOperation endpoint then
    return .leave (wrap err "Failed to perform RDMA operation")
  awaitAcknowledge request endpoint

/-- Lines 143 to 158: the endpoint is locked; the service of a read endpoint runs first. -/
def serveLocked (request : Request) (endpoint : RdmaEndpoint) (response : Responce) :
    Coro (Exit error) := do
  if endpoint.type = .read then
    if let some _ ← handle endpoint then
      let response := { response with responceCode := .operationServiceError }
      if let some err ← sendResponse response then
        return .leave (wrap err "Failed to send responce")
      let _ ← unlockEndpointsByPath request.endpointPath
      return .again
  permit request endpoint response

/-- Lines 105 to 139: the descriptor and the lock. -/
def serveEndpoint (request : Request) (endpoint : RdmaEndpoint) : Coro (Exit error) := do
  let response : Responce := {}
  match ← exportMemoryDescriptor endpoint with
  | .error descErr =>
    let response := { response with responceCode := .operationInternalError }
    if let some err ← sendResponse response then
      return .leave (some (.join descErr (.wrap err "Failed to send responce")))
    -- the wrapped error is the one of the response just sent, not `descErr`
    return .leave (wrap none "Failed to export memory descriptor")
  | .ok descriptor =>
    let response := { response with memoryDescriptor := descriptor }
    let (locked, lockErr) ← tryLockEndpointsByPath request.endpointPath
    if let some lockErr := lockErr then
      let response := { response with responceCode := .operationInternalError }
      if let some err ← sendResponse response then
        return .leave (some (.join lockErr (.wrap err "Failed to send responce")))
      return .leave (some lockErr)
    if !locked then
      let response := { response with responceCode := .operationEndpointLocked }
      if let some err ← sendResponse response then
        return .leave (wrap err "Failed to send responce")
      return .again
    serveLocked request endpoint response

/-- Lines 78 to 101: the connection and the lookup. -/
def serveRequest (request : Request) : Coro (Exit error) := do
  let requestedEndpointId := makeEndpointId request.endpointPath request.endpointType
  let connectionTimeout := 3000
  if let some connErr ← waitForEstablishedConnection connectionTimeout then
    return .leave (wrap connErr "Failed to get active connection from executor")
  let response : Responce := {}
  match ← getEndpoint requestedEndpointId with
  | .error _ =>
    let response := { response with responceCode := .operationEndpointNotFound }
    if let some err ← sendResponse response then
      return .leave (wrap err "Failed to send responce")
    return .again
  | .ok endpoint => serveEndpoint request endpoint

/-- One pass of the `while (session->IsOpen())` of `HandleServerSession`. -/
def serverPass : Coro (Exit error) := do
  if !(← isOpen) then
    return .leave none
  match ← receiveRequest with
  | .error _ => return .again
  | .ok request => serveRequest request

/-- `HandleServerSession`. -/
def handleServerSession : Machine Session SessionEvent := Loop.machine serverPass

end DocaCpp
