/-
# A stream of framed messages, written and read back

`Session.Server` and `Session.Client` hold six hand-written halves of one wire format: three
functions write a length and a payload, three read them.  Here they are run against a `Wire`, the
bytes of an open socket whose peer neither fails nor closes, so that what one half writes can be
given to the other.

§2 is one message: what its sender appends (`send_frame`) and what its receiver takes off again,
whatever follows (`receive_frame`).  §3 is the induction over a stream of them.
-/
import DocaCpp.Net.Link

namespace DocaCpp

open Coro

/-! ## 1. Messages on a wire -/

/-- A message of the control channel. -/
inductive Message
  | request (request : Request)
  | responce (responce : Responce)
  | acknowledge (ack : Acknowledge)
  deriving DecidableEq, Repr

/-- Which message a receiver expects: the bytes do not say. -/
inductive Message.Kind
  | request
  | responce
  | acknowledge
  deriving DecidableEq, Repr

def Message.kind : Message → Message.Kind
  | .request _ => .request
  | .responce _ => .responce
  | .acknowledge _ => .acknowledge

/-- An open socket: what there is to read on it, and what has been written to it. -/
structure Wire where
  incoming : Bytes := []
  outgoing : Bytes := []
  deriving DecidableEq, Repr

variable [Platform]

/-- What the serializer makes of a message. -/
def Message.payload : Message → Bytes
  | .request r => serializeRequest r
  | .responce r => serializeResponse r
  | .acknowledge ack => serializeAcknowledge ack

/-- The type of a request is an enumerator, and the payload fits the length word of its frame. -/
def Message.Sendable (m : Message) : Prop :=
  m.payload.length < 2 ^ 32 ∧
    ∀ r, m = .request r → r.endpointType = .write ∨ r.endpointType = .read

/-- The calls of a message half: the socket moves bytes, the serializer computes. -/
def Wire.answer : (e : SessionCall) → Wire → Option (e.Answer × Wire)
  | .asyncRead size, w =>
    if size ≤ w.incoming.length then
      some (.ok (w.incoming.take size), { w with incoming := w.incoming.drop size })
    else
      some (.error ⟨"End of file"⟩, { w with incoming := [] })
  | .asyncWrite bytes, w => some (.ok (), { w with outgoing := w.outgoing ++ bytes })
  | .serializeRequest request, w => some (DocaCpp.serializeRequest request, w)
  | .deserializeRequest buffer, w => some (DocaCpp.deserializeRequest buffer, w)
  | .serializeResponse responce, w => some (DocaCpp.serializeResponse responce, w)
  | .deserializeResponse buffer, w => some (DocaCpp.deserializeResponse buffer, w)
  | .serializeAcknowledge ack, w => some (DocaCpp.serializeAcknowledge ack, w)
  | .deserializeAcknowledge buffer, w => some (DocaCpp.deserializeAcknowledge buffer, w)
  | _, _ => none

/-- Running a coroutine on a wire. -/
def Wire.run {α : Type} (p : Coro α) (w : Wire) : Option (α × Wire) := p.interpret Wire.answer w

/-- The half of `doRequest` behind its two writes. -/
def readResponse : Coro (Responce × error) := do
  match ← asyncRead 4 with
  | .error err2 =>
    return ({}, some (.new ("Failed to read responce length from socket: " ++ err2.message)))
  | .ok responseLength =>
    match ← asyncRead (uint32Of responseLength) with
    | .error err3 =>
      return ({}, some (.new ("Failed to read responce payload from socket: " ++ err3.message)))
    | .ok responseBuffer =>
      let response ← decoded (← MessageSerializer.deserializeResponse responseBuffer)
      return (response, none)

/-- The function that sends a message, by its error.  `doRequest` goes on to read the response. -/
def send : Message → Coro error
  | .request request => return (← doRequest request).2
  | .responce responce => sendResponse responce
  | .acknowledge ack => return (← doAck ack).2

/-- The function that receives a message of a kind. -/
def receive : Message.Kind → Coro (Except Err Message)
  | .request => do
    match ← receiveRequest with
    | .error err => return .error err
    | .ok request => return .ok (.request request)
  | .responce => do
    match ← readResponse with
    | (_, some err) => return .error err
    | (responce, none) => return .ok (.responce responce)
  | .acknowledge => do
    match ← readAck with
    | (_, some err) => return .error err
    | (ack, none) => return .ok (.acknowledge ack)

/-- Sending message after message, whatever becomes of each. -/
def sendAll : List Message → Coro Unit
  | [] => return ()
  | m :: rest => do
    let _ ← send m
    sendAll rest

/-- Receiving messages of these kinds, up to the first that fails. -/
def receiveAll : List Message.Kind → Coro (Except Err (List Message))
  | [] => return .ok []
  | kind :: rest => do
    match ← receive kind with
    | .error err => return .error err
    | .ok m =>
      match ← receiveAll rest with
      | .error err => return .error err
      | .ok ms => return .ok (m :: ms)

/-! ## 2. One message -/

section One

variable {α β : Type} {m : Message} {w : Wire} {payload rest out : Bytes}

/-- A read takes what it asks for off the front. -/
theorem Wire.run_asyncRead (bs : Bytes) :
    Wire.run (asyncRead bs.length) ⟨bs ++ rest, out⟩ = some (.ok bs, ⟨rest, out⟩) := by
  simp [Wire.run, asyncRead, Wire.answer]

/-- A write appends. -/
theorem Wire.run_asyncWrite (bs : Bytes) :
    Wire.run (asyncWrite bs) w = some (.ok (), { w with outgoing := w.outgoing ++ bs }) := by
  simp [Wire.run, asyncWrite, Wire.answer]

theorem Wire.run_bind (p : Coro α) (f : α → Coro β) :
    Wire.run (p >>= f) w = (Wire.run p w).bind fun r => Wire.run (f r.1) r.2 :=
  Prog.interpret_bind _ p f w

/-- **The two reads of a receiver** take a frame off the wire. -/
theorem Wire.run_readFrame (h : payload.length < 2 ^ 32)
    {failed failed' : ErrorCode → Coro α} {got : Bytes → Coro α} :
    Wire.run (do
      match ← asyncRead 4 with
      | .error err => failed err
      | .ok length =>
        match ← asyncRead (uint32Of length) with
        | .error err => failed' err
        | .ok buffer => got buffer) ⟨frame payload ++ rest, out⟩
      = Wire.run (got payload) ⟨rest, out⟩ := by
  have hlen : Wire.run (asyncRead 4) ⟨frame payload ++ rest, out⟩
      = some (.ok (uint32Bytes payload.length), ⟨payload ++ rest, out⟩) := by
    rw [frame, List.append_assoc, ← length_uint32Bytes payload.length, Wire.run_asyncRead]
  have hword : uint32Of (uint32Bytes payload.length) = payload.length := by
    rw [uint32Of_uint32Bytes, Nat.mod_eq_of_lt h]
  rw [Wire.run_bind, hlen, Option.bind_some]
  simp only [hword]
  rw [Wire.run_bind, Wire.run_asyncRead, Option.bind_some]

/-- **The two writes of a sender** append a frame. -/
theorem Wire.run_writeFrame {failed failed' : ErrorCode → Coro α} {done : Coro α} :
    Wire.run (do
      match ← asyncWrite (uint32Bytes payload.length) with
      | .error err => failed err
      | .ok _ =>
        match ← asyncWrite payload with
        | .error err => failed' err
        | .ok _ => done) w
      = Wire.run done { w with outgoing := w.outgoing ++ frame payload } := by
  rw [Wire.run_bind, Wire.run_asyncWrite, Option.bind_some]
  dsimp only
  rw [Wire.run_bind, Wire.run_asyncWrite, Option.bind_some, List.append_assoc]
  rfl

/-- The serializer's halves of a request fit together, as long as its type is an enumerator. -/
theorem deserializeRequest_serializeRequest {r : Request} (h : r.endpointPath.length < 2 ^ 32)
    (ht : r.endpointType = .write ∨ r.endpointType = .read) :
    deserializeRequest (serializeRequest r) = .ok r := by
  have hb : RdmaEndpointType.ofByte r.endpointType.toByte = r.endpointType := by
    rcases ht with ht | ht <;> rw [ht] <;> decide
  refine (deserializeTagged_serializeTagged h).trans ?_
  rw [hb]

theorem run_receiveRequest {r : Request} (h : (serializeRequest r).length < 2 ^ 32)
    (ht : r.endpointType = .write ∨ r.endpointType = .read) :
    Wire.run receiveRequest ⟨frame (serializeRequest r) ++ rest, out⟩
      = some (.ok r, ⟨rest, out⟩) := by
  refine (Wire.run_readFrame h).trans ?_
  rw [length_serializeRequest] at h
  simp [Wire.run, Coro.MessageSerializer.deserializeRequest, Wire.answer, decoded,
    deserializeRequest_serializeRequest (by omega) ht]

theorem run_readResponse {r : Responce} (h : (serializeResponse r).length < 2 ^ 32) :
    Wire.run readResponse ⟨frame (serializeResponse r) ++ rest, out⟩
      = some ((r, none), ⟨rest, out⟩) := by
  refine (Wire.run_readFrame h).trans ?_
  rw [length_serializeResponse] at h
  have hd : deserializeResponse (serializeResponse r) = .ok r :=
    deserializeTagged_serializeTagged (by omega)
  simp [Wire.run, Coro.MessageSerializer.deserializeResponse, Wire.answer, decoded, hd]

theorem run_readAck (ack : Acknowledge) :
    Wire.run readAck ⟨frame (serializeAcknowledge ack) ++ rest, out⟩
      = some ((ack, none), ⟨rest, out⟩) := by
  refine (Wire.run_readFrame (by rw [length_serializeAcknowledge]; decide)).trans ?_
  have hd : deserializeAcknowledge (serializeAcknowledge ack) = .ok ack := rfl
  simp [Wire.run, Coro.MessageSerializer.deserializeAcknowledge, Wire.answer, decoded, hd]

/-- **What a receiver takes off the wire**: the message, whatever follows it. -/
theorem receive_frame (h : m.Sendable) :
    Wire.run (receive m.kind) ⟨frame m.payload ++ rest, out⟩ = some (.ok m, ⟨rest, out⟩) := by
  obtain ⟨hlen, htype⟩ := h
  cases m with
  | request r =>
    refine (Wire.run_bind _ _).trans ?_
    simp only [Message.payload] at hlen ⊢
    rw [run_receiveRequest hlen (htype r rfl)]
    rfl
  | responce r =>
    refine (Wire.run_bind _ _).trans ?_
    simp only [Message.payload] at hlen ⊢
    rw [run_readResponse hlen]
    rfl
  | acknowledge ack =>
    refine (Wire.run_bind _ _).trans ?_
    simp only [Message.payload]
    rw [run_readAck]
    rfl

/-- Behind its two writes `doRequest` is `readResponse`. -/
theorem run_doRequest (r : Request) :
    Wire.run (doRequest r) w
      = Wire.run readResponse
          { w with outgoing := w.outgoing ++ frame (serializeRequest r) } := by
  have hs : Wire.run (MessageSerializer.serializeRequest r) w
      = some (serializeRequest r, w) := rfl
  rw [doRequest, Wire.run_bind, hs, Option.bind_some]
  exact Wire.run_writeFrame

/-- **What a sender puts on the wire**: one frame.  Nothing is there for `doRequest` to read, so
it goes on to fail. -/
theorem send_frame (m : Message) (out : Bytes) :
    ∃ err, Wire.run (send m) { outgoing := out }
      = some (err, { outgoing := out ++ frame m.payload }) := by
  cases m with
  | request r =>
    refine ⟨some (.new ("Failed to read responce length from socket: " ++ "End of file")),
      (Wire.run_bind _ _).trans ?_⟩
    rw [run_doRequest]
    rfl
  | responce r =>
    have hs : Wire.run (MessageSerializer.serializeResponse r) { outgoing := out }
        = some (serializeResponse r, { outgoing := out }) := rfl
    refine ⟨none, ?_⟩
    rw [send, sendResponse, Wire.run_bind, hs, Option.bind_some]
    exact Wire.run_writeFrame
  | acknowledge ack =>
    refine ⟨none, (Wire.run_bind _ _).trans ?_⟩
    have hs : Wire.run (MessageSerializer.serializeAcknowledge ack) { outgoing := out }
        = some (serializeAcknowledge ack, { outgoing := out }) := rfl
    have hack : Wire.run (doAck ack) { outgoing := out }
        = some (((), none), { outgoing := out ++ frame (serializeAcknowledge ack) }) := by
      rw [doAck, Wire.run_bind, hs, Option.bind_some]
      exact Wire.run_writeFrame
    rw [hack]
    rfl

end One

/-! ## 3. A stream -/

theorem run_sendAll (messages : List Message) (out : Bytes) :
    Wire.run (sendAll messages) { outgoing := out }
      = some ((), { outgoing := out ++ messages.flatMap fun m => frame m.payload }) := by
  induction messages generalizing out with
  | nil => simp [sendAll, Wire.run]
  | cons m messages ih =>
    obtain ⟨err, hm⟩ := send_frame m out
    rw [sendAll, Wire.run_bind, hm, Option.bind_some, ih, List.flatMap_cons, List.append_assoc]

theorem run_receiveAll {messages : List Message} (h : ∀ m ∈ messages, m.Sendable)
    (rest out : Bytes) :
    Wire.run (receiveAll (messages.map Message.kind))
        ⟨(messages.flatMap fun m => frame m.payload) ++ rest, out⟩
      = some (.ok messages, ⟨rest, out⟩) := by
  induction messages with
  | nil => simp [receiveAll, Wire.run]
  | cons m messages ih =>
    obtain ⟨hm, hrest⟩ := List.forall_mem_cons.mp h
    rw [List.map_cons, receiveAll, Wire.run_bind, List.flatMap_cons, List.append_assoc,
      receive_frame hm, Option.bind_some]
    dsimp only
    rw [Wire.run_bind, ih hrest, Option.bind_some]
    rfl

/-- **The framed wire format round trip.**  Sending any messages one after the other puts their
frames on the wire and nothing else; receiving messages of the same kinds from these bytes gives
the same messages back, in order, and leaves no byte. -/
theorem framed_round_trip (messages : List Message) (h : ∀ m ∈ messages, m.Sendable) :
    Wire.run (sendAll messages) {}
        = some ((), { outgoing := messages.flatMap fun m => frame m.payload }) ∧
      Wire.run (receiveAll (messages.map Message.kind))
          { incoming := messages.flatMap fun m => frame m.payload }
        = some (.ok messages, {}) := by
  constructor
  · exact run_sendAll messages []
  · have hall := run_receiveAll h [] []
    rwa [List.append_nil] at hall

/-- A request of an empty path, an acknowledge and a response with a zero byte in it. -/
def sampleMessages : List Message :=
  [.request ⟨.read, []⟩, .acknowledge ⟨.operationFailed⟩, .responce ⟨.operationPermitted, [0, 7]⟩]

omit [Platform] in
theorem framed_round_trip_sample :
    letI := Platform.littleEndian
    Wire.run (sendAll sampleMessages) {}
        = some ((), { outgoing := sampleMessages.flatMap fun m => frame m.payload }) ∧
      Wire.run (receiveAll (sampleMessages.map Message.kind))
          { incoming := sampleMessages.flatMap fun m => frame m.payload }
        = some (.ok sampleMessages, {}) := by
  let _ := Platform.littleEndian
  refine framed_round_trip sampleMessages ?_
  simp [sampleMessages, Message.Sendable, Message.payload]

end DocaCpp
