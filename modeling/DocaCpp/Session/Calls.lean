/-
# What a session coroutine asks of its surroundings

The session handlers of `rdma_session.cpp` are coroutines: between two calls listed here they only
compute.  A call is anything whose outcome the handler does not determine itself (a socket
operation, a timer, the storage, the executor, user code) or that a result below speaks about (the
serializer).  `SessionCall.Answer` is what the call can come back with.

`operation() || timeout()` runs the operation with a timer beside it.  The two branches share the
variables of the caller, and what those hold at the end depends only on whether the timeout handler
ran, and if so whether before or after the operation's own last assignment: `TimerEnd`.  A wait the
operation begins after the timer has cut it throws, and `||` drops the exception; here it is
answered by an error as the wait that was cut is, which changes the text of an error only.
-/
import DocaCpp.Communication
import DocaCpp.Lib.Coroutine

namespace DocaCpp

/-- What the timeout branch of `operation() || timeout()` came to. -/
inductive TimerEnd
  /-- the operation ended first and cancelled the timer -/
  | cancelled
  /-- the handler ran while the operation was suspended, so the operation assigned last -/
  | ranFirst
  /-- the operation had ended when the handler, already queued, ran -/
  | ranLast
  deriving DecidableEq, Repr

/-- A call into user code, or through a pointer a user may have left null. -/
inductive UserCall (α : Type)
  | returned (value : α)
  | threw
  | nullPointer
  deriving DecidableEq, Repr

/-- `RdmaAwaitable::AwaitWithTimeout`: the operation's own error, or the time was up. -/
inductive Awaited
  | ready (err : error)
  | timedOut
  deriving DecidableEq, Repr

/-- `RdmaOperationType`. -/
inductive RdmaOperationType
  | read
  | write
  deriving DecidableEq, Repr

/-- `RdmaOperationRequest`, less its promise.  A remote buffer is known by the descriptor it was
imported from. -/
structure RdmaOperationRequest where
  type : RdmaOperationType
  localBuffer : Option Nat
  remoteBuffer : Bytes
  deriving DecidableEq, Repr

/-- The calls of the session coroutines. -/
inductive SessionCall
  | isOpen
  | asyncRead (size : Nat)
  | asyncWrite (bytes : Bytes)
  | startTimer (milliseconds : Nat)
  | joinTimer
  | serializeRequest (request : Request)
  | deserializeRequest (buffer : Bytes)
  | serializeResponse (responce : Responce)
  | deserializeResponse (buffer : Bytes)
  | serializeAcknowledge (ack : Acknowledge)
  | deserializeAcknowledge (buffer : Bytes)
  | waitForEstablishedConnection (milliseconds : Nat)
  | getEndpoint (id : RdmaEndpointId)
  | exportMemoryDescriptor (endpoint : RdmaEndpoint)
  | tryLockEndpointsByPath (path : RdmaEndpointPath)
  | unlockEndpointsByPath (path : RdmaEndpointPath)
  | handle (endpoint : RdmaEndpoint)
  | fromExportedRemoteDescriptor (descriptor : Bytes)
  | getActiveConnection
  | submitOperation (operation : RdmaOperationRequest)
  | awaitWithTimeout (milliseconds : Nat)
  /-- an exception leaves the coroutine -/
  | unwind
  /-- the behaviour of the program is undefined from here on -/
  | undefined
  deriving DecidableEq, Repr

/-- The answers to a call. -/
@[reducible] def SessionCall.Answer : SessionCall → Type
  | isOpen => Bool
  | asyncRead _ => Except ErrorCode Bytes
  | asyncWrite _ => Except ErrorCode Unit
  | startTimer _ => Unit
  | joinTimer => TimerEnd
  | serializeRequest _ => Bytes
  | deserializeRequest _ => Access Request
  | serializeResponse _ => Bytes
  | deserializeResponse _ => Access Responce
  | serializeAcknowledge _ => Bytes
  | deserializeAcknowledge _ => Access Acknowledge
  | waitForEstablishedConnection _ => error
  | getEndpoint _ => Except Err RdmaEndpoint
  | exportMemoryDescriptor _ => UserCall (Except Err Bytes)
  | tryLockEndpointsByPath _ => Bool × error
  | unlockEndpointsByPath _ => error
  | handle _ => UserCall error
  | fromExportedRemoteDescriptor _ => error
  | getActiveConnection => error
  | submitOperation _ => error
  | awaitWithTimeout _ => Awaited
  | unwind => Empty
  | undefined => Empty

/-- The coroutines of the session handlers. -/
abbrev Coro (α : Type) := Prog SessionCall.Answer α

/-- A session call with its answer. -/
abbrev SessionEvent := Event SessionCall.Answer

/-- A session handler between two calls. -/
abbrev Session := Loop SessionCall.Answer error

namespace Coro

/-! ## The calls, as the sources write them -/

def isOpen : Coro Bool := Prog.call SessionCall.isOpen

/-- `asio::async_read` of a whole buffer. -/
def asyncRead (size : Nat) : Coro (Except ErrorCode Bytes) :=
  Prog.call (SessionCall.asyncRead size)

/-- `asio::async_write` of a whole buffer. -/
def asyncWrite (bytes : Bytes) : Coro (Except ErrorCode Unit) :=
  Prog.call (SessionCall.asyncWrite bytes)

def startTimer (milliseconds : Nat) : Coro Unit :=
  Prog.call (SessionCall.startTimer milliseconds)

def joinTimer : Coro TimerEnd := Prog.call SessionCall.joinTimer

/-- An exception leaves the coroutine: neither handler catches any. -/
def unwind {α : Type} : Coro α := Prog.stuck SessionCall.unwind fun r => nomatch (r : Empty)

/-- Undefined behaviour: nothing further is known of the program. -/
def undefined {α : Type} : Coro α := Prog.stuck SessionCall.undefined fun r => nomatch (r : Empty)

/-- A decoded message; a decoder that reads outside its buffer has undefined behaviour. -/
def decoded {α : Type} (result : Access α) : Coro α :=
  match result with
  | .ok message => return message
  | .error _ => undefined

namespace MessageSerializer

def serializeRequest (request : Request) : Coro Bytes :=
  Prog.call (SessionCall.serializeRequest request)

def deserializeRequest (buffer : Bytes) : Coro (Access Request) :=
  Prog.call (SessionCall.deserializeRequest buffer)

def serializeResponse (responce : Responce) : Coro Bytes :=
  Prog.call (SessionCall.serializeResponse responce)

def deserializeResponse (buffer : Bytes) : Coro (Access Responce) :=
  Prog.call (SessionCall.deserializeResponse buffer)

def serializeAcknowledge (ack : Acknowledge) : Coro Bytes :=
  Prog.call (SessionCall.serializeAcknowledge ack)

def deserializeAcknowledge (buffer : Bytes) : Coro (Access Acknowledge) :=
  Prog.call (SessionCall.deserializeAcknowledge buffer)

end MessageSerializer

/-- `executor->WaitForEstablishedConnection`, whose connection the caller does not use. -/
def waitForEstablishedConnection (milliseconds : Nat) : Coro error :=
  Prog.call (SessionCall.waitForEstablishedConnection milliseconds)

def getEndpoint (id : RdmaEndpointId) : Coro (Except Err RdmaEndpoint) :=
  Prog.call (SessionCall.getEndpoint id)

def tryLockEndpointsByPath (path : RdmaEndpointPath) : Coro (Bool × error) :=
  Prog.call (SessionCall.tryLockEndpointsByPath path)

def unlockEndpointsByPath (path : RdmaEndpointPath) : Coro error :=
  Prog.call (SessionCall.unlockEndpointsByPath path)

/-- What a user call gives back, if it gives anything back. -/
def returning {α : Type} (result : UserCall α) : Coro α :=
  match result with
  | .returned value => return value
  | .threw => unwind
  | .nullPointer => undefined

/-- `endpoint->Buffer()->ExportMemoryDescriptor(executor->GetDevice())`. -/
def exportMemoryDescriptor (endpoint : RdmaEndpoint) : Coro (Except Err Bytes) := do
  let result : UserCall (Except Err Bytes) ← Prog.call (SessionCall.exportMemoryDescriptor endpoint)
  returning result

/-- `endpoint->Service()->Handle(endpoint->Buffer())`. -/
def handle (endpoint : RdmaEndpoint) : Coro error := do
  let result : UserCall error ← Prog.call (SessionCall.handle endpoint)
  returning result

/-- `RdmaRemoteBuffer::FromExportedRemoteDescriptor`, by its error. -/
def fromExportedRemoteDescriptor (descriptor : Bytes) : Coro error :=
  Prog.call (SessionCall.fromExportedRemoteDescriptor descriptor)

/-- `executor->GetActiveConnection`, whose connection the caller does not use. -/
def getActiveConnection : Coro error := Prog.call SessionCall.getActiveConnection

/-- `executor->SubmitOperation`, by its error. -/
def submitOperation (operation : RdmaOperationRequest) : Coro error :=
  Prog.call (SessionCall.submitOperation operation)

def awaitWithTimeout (milliseconds : Nat) : Coro Awaited :=
  Prog.call (SessionCall.awaitWithTimeout milliseconds)

/-- What the caller's error variable holds after `operation() || timeout()`, when the operation
left `err` in it.  The timeout handler assigns `TimeoutExpired`; the operation assigns only if it
fails. -/
def errorAfter (timer : TimerEnd) (err : error) : error :=
  match timer with
  | .cancelled => err
  | .ranFirst => err.orElse fun _ => some .timeoutExpired
  | .ranLast => some .timeoutExpired

/-- The end of `operation() || timeout()`, once the operation has left `result.2` in the caller's
error variable. -/
def joining {α : Type} (result : α × error) : Coro (α × error) := do
  let timer ← joinTimer
  return (result.1, errorAfter timer result.2)

/-- `co_await (operation() || timeout())`, for an operation that yields a value beside the error it
leaves in the caller's variable. -/
def orTimeout {α : Type} (milliseconds : Nat) (operation : Coro (α × error)) :
    Coro (α × error) := do
  startTimer milliseconds
  joining (← operation)

/-- A pass an exception has left, whatever it had still to do. -/
theorem settle_unwind (k : Empty → Coro (Exit error)) :
    Loop.settle (.op SessionCall.unwind k) = Loop.settle unwind :=
  congrArg (fun k => Loop.inside (.op SessionCall.unwind k)) (funext fun r => r.elim)

theorem settle_undefined (k : Empty → Coro (Exit error)) :
    Loop.settle (.op SessionCall.undefined k) = Loop.settle undefined :=
  congrArg (fun k => Loop.inside (.op SessionCall.undefined k)) (funext fun r => r.elim)

end Coro

end DocaCpp
