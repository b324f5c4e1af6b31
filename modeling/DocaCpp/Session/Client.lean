/-
# The client side of a session

`HandleClientSession` and the methods of `RdmaSessionClient` it awaits, in the order of the source.
A client session serves one request, so its coroutine has no loop: `clientPass` is the whole of it
and always leaves.
-/
import DocaCpp.Session.Calls

namespace DocaCpp

open Coro

variable [Platform]

/-! ## 1. `RdmaSessionClient` -/

/-- The operation `doRequest` of `SendRequest`. -/
def doRequest (request : Request) : Coro (Responce × error) := do
  let requestBuffer ← MessageSerializer.serializeRequest request
  match ← asyncWrite (uint32Bytes requestBuffer.length) with
  | .error err0 =>
    return ({}, some (.new ("Failed to write request length to socket: " ++ err0.message)))
  | .ok _ =>
    match ← asyncWrite requestBuffer with
    | .error err1 =>
      return ({}, some (.new ("Failed to write request payload to socket: " ++ err1.message)))
    | .ok _ =>
      match ← asyncRead 4 with
      | .error err2 =>
        return ({}, some (.new ("Failed to read responce length from socket: " ++ err2.message)))
      | .ok responseLength =>
        match ← asyncRead (uint32Of responseLength) with
        | .error err3 =>
          return ({}, some (.new
            ("Failed to read responce payload from socket: " ++ err3.message)))
        | .ok responseBuffer =>
          let response ← decoded (← MessageSerializer.deserializeResponse responseBuffer)
          return (response, none)

/-- `RdmaSessionClient::SendRequest`. -/
def sendRequest (isConnected : Bool) (request : Request) (timeout : Nat) :
    Coro (Except Err Responce) := do
  if !isConnected then
    return .error (.new "No session with server via socket; connect first")
  match ← orTimeout timeout (doRequest request) with
  | (_, some requestError) =>
    return .error (.wrap requestError "Failed to execute request via socket")
  | (response, none) => return .ok response

/-- The operation `doAck` of `SendAcknowledge`. -/
def doAck (ack : Acknowledge) : Coro (Unit × error) := do
  let ackBuffer ← MessageSerializer.serializeAcknowledge ack
  match ← asyncWrite (uint32Bytes ackBuffer.length) with
  | .error err0 =>
    return ((), some (.new ("Failed to write acknowledge length to socket: " ++ err0.message)))
  | .ok _ =>
    match ← asyncWrite ackBuffer with
    | .error err1 =>
      return ((), some (.new ("Failed to write acknowledge payload to socket: " ++ err1.message)))
    | .ok _ => return ((), none)

/-- `RdmaSessionClient::SendAcknowledge`. -/
def sendAcknowledge (isConnected : Bool) (ack : Acknowledge) (timeout : Nat) : Coro error := do
  if !isConnected then
    return some (.new "No session with server via socket; connect first")
  match ← orTimeout timeout (doAck ack) with
  | (_, some ackError) => return some (.wrap ackError "Failed to send acknowledge via socket")
  | (_, none) => return none

/-- `constants::RdmaOperationTimeout`. -/
def rdmaOperationTimeout : Nat := 5000

/-- The body `PerformRdmaWrite` and `PerformRdmaRead` share. -/
def submitAndAwait (type : RdmaOperationType) (endpoint : RdmaEndpoint) (remoteBuffer : Bytes) :
    Coro error := do
  if let some err ← submitOperation ⟨type, endpoint.buffer, remoteBuffer⟩ then
    return some (.wrap err "Failed to submit operation")
  match ← awaitWithTimeout rdmaOperationTimeout with
  | .ready opErr => return opErr
  | .timedOut => return some (.new "Task execution timed out")

/-- `RdmaSessionClient::PerformRdmaWrite`. -/
def performRdmaWrite : RdmaEndpoint → Bytes → Coro error := submitAndAwait .write

/-- `RdmaSessionClient::PerformRdmaRead`. -/
def performRdmaRead : RdmaEndpoint → Bytes → Coro error := submitAndAwait .read

/-- `RdmaSessionClient::PerformRdmaOperation`. -/
def clientPerformRdmaOperation (endpoint : RdmaEndpoint) (remoteBuffer : Bytes) : Coro error := do
  if let some err ← getActiveConnection then
    return some (.wrap err "Failed to get active connection")
  if endpoint.type = .write then
    performRdmaWrite endpoint remoteBuffer
  else if endpoint.type = .read then
    performRdmaRead endpoint remoteBuffer
  else
    return some (.new "Unknown endpoint type in request")

/-! ## 2. `HandleClientSession` -/

/-- Lines 262 to 290: the RDMA operation, the acknowledge, the service of a read endpoint. -/
def operateAndAcknowledge (isConnected : Bool) (endpoint : RdmaEndpoint) (remoteBuffer : Bytes) :
    Coro error := do
  let timeout := 5000
  if let some err ← clientPerformRdmaOperation endpoint remoteBuffer then
    let _ ← sendAcknowledge isConnected { ackCode := .operationFailed } timeout
    return wrap err "Failed to perform RDMA operation"
  if let some err ← sendAcknowledge isConnected { ackCode := .operationCompleted } timeout then
    return wrap err "Failed to send acknowledge to server"
  if endpoint.type = .read then
    if let some srvErr ← handle endpoint then
      return wrap srvErr "Service handle failed"
  return none

/-- Lines 231 to 260: the response, the remote buffer, the service of a write endpoint. -/
def usePermission (isConnected : Bool) (endpoint : RdmaEndpoint) (responce : Responce) :
    Coro error := do
  let timeout := 5000
  if responce.responceCode ≠ .operationPermitted then
    let status := Responce.codeDescription responce.responceCode
    return some (.new ("Operation was not permitted by server; responce message: " ++ status))
  let remoteBuffer := responce.memoryDescriptor
  if let some rmErr ← fromExportedRemoteDescriptor remoteBuffer then
    return wrap rmErr "Failed to make remote RDMA buffer from export descriptor"
  if endpoint.type = .write then
    if let some srvErr ← handle endpoint then
      let _ ← sendAcknowledge isConnected { ackCode := .operationCanceled } timeout
      return wrap srvErr "Service handle failed"
  operateAndAcknowledge isConnected endpoint remoteBuffer

/-- The body of `HandleClientSession`. -/
def clientBody (isConnected : Bool) (endpoint : RdmaEndpoint) : Coro error := do
  let request : Request := { endpointType := endpoint.type, endpointPath := endpoint.path }
  let timeout := 5000
  match ← sendRequest isConnected request timeout with
  | .error err => return wrap err "Failed to send request via socket"
  | .ok responce => usePermission isConnected endpoint responce

/-- The only pass of `HandleClientSession`. -/
def clientPass (isConnected : Bool) (endpoint : RdmaEndpoint) : Coro (Exit error) := do
  let err ← clientBody isConnected endpoint
  return .leave err

/-- `HandleClientSession`. -/
def handleClientSession (isConnected : Bool) (endpoint : RdmaEndpoint) :
    Machine Session SessionEvent :=
  Loop.machine (clientPass isConnected endpoint)

end DocaCpp
