/-
# What couples the two sessions of a connection

The two coroutines of a connection never look at each other; all that connects them is bytes, and
the frames carry no kind.  This file states what the bytes are at every pair of points.

The client writes one request frame and at most one acknowledge frame, so what the server can read
is a beginning of `stream`.  As long as no wait for an acknowledge is lost the server reads it frame
by frame (`ServerPhase.Consumed`); after a lost wait it may stand in the middle of the acknowledge,
but then fewer than six bytes are left, which is too few for a second request.  In the other
direction the server answers one request only, so what the client reads is a beginning of the one
response made (`replies`), and the code it decodes is the code the server sent.

`Linked` collects this, together with what each side knows of its own history; `linked_run` says
that it holds along every run.
-/
import DocaCpp.Net.Connection

namespace DocaCpp

variable [Platform]

/-! ## 1. Frames -/

/-- A payload behind its length, as every message is sent. -/
def frame (payload : Bytes) : Bytes := uint32Bytes payload.length ++ payload

@[simp] theorem length_frame (payload : Bytes) : (frame payload).length = payload.length + 4 := by
  simp [frame, Nat.add_comm]

/-- The payload of the only request a client sends. -/
def requestOf (endpoint : RdmaEndpoint) : Bytes := serializeRequest (clientRequest endpoint)

/-- The request as it is decoded: the type has been cut to a byte. -/
def wireRequest (endpoint : RdmaEndpoint) : Request :=
  { endpointType := .ofByte endpoint.type.toByte, endpointPath := endpoint.path }

/-- The path fits the length words of the frame and of the request in it. -/
def Short (endpoint : RdmaEndpoint) : Prop := endpoint.path.length + 5 < 2 ^ 32

instance (endpoint : RdmaEndpoint) : Decidable (Short endpoint) :=
  inferInstanceAs (Decidable (_ < _))

/-- Everything a client writes that has made these acknowledges. -/
def stream (endpoint : RdmaEndpoint) (acks : List Acknowledge) : Bytes :=
  frame (requestOf endpoint) ++ acks.flatMap fun ack => frame (serializeAcknowledge ack)

/-- The length of the request frame. -/
def requestEnd (endpoint : RdmaEndpoint) : ℕ := (frame (requestOf endpoint)).length

section Stream

variable {endpoint : RdmaEndpoint} {acks : List Acknowledge} {ack : Acknowledge}

theorem length_requestOf : (requestOf endpoint).length = endpoint.path.length + 5 :=
  length_serializeRequest _

theorem requestEnd_eq : requestEnd endpoint = (requestOf endpoint).length + 4 := length_frame _

theorem deserializeRequest_requestOf (h : Short endpoint) :
    deserializeRequest (requestOf endpoint) = .ok (wireRequest endpoint) :=
  deserializeTagged_serializeTagged (Nat.lt_of_le_of_lt (Nat.le_add_right _ 5) h)

theorem stream_length : (stream endpoint acks).length = requestEnd endpoint + 5 * acks.length := by
  unfold stream requestEnd
  rw [List.length_append]
  induction acks with
  | nil => simp
  | cons ack acks ih =>
    simp only [List.flatMap_cons, List.length_append, length_frame, length_serializeAcknowledge,
      List.length_cons] at ih ⊢
    omega

/-- The first word of the stream is the length of the request. -/
theorem stream_length_word (h : Short endpoint) :
    uint32Of (((stream endpoint acks).drop 0).take 4) = (requestOf endpoint).length := by
  unfold stream frame
  rw [List.drop_zero, List.append_assoc, List.take_left' (length_uint32Bytes _),
    uint32Of_uint32Bytes, Nat.mod_eq_of_lt]
  rw [length_requestOf]
  exact h

/-- The request follows. -/
theorem stream_request :
    ((stream endpoint acks).drop 4).take (requestOf endpoint).length = requestOf endpoint := by
  unfold stream frame
  rw [List.append_assoc, List.drop_left' (length_uint32Bytes _), List.take_left' rfl]

/-- Then the length of the acknowledge. -/
theorem stream_ack_word :
    uint32Of (((stream endpoint [ack]).drop (requestEnd endpoint)).take 4) = 1 := by
  unfold stream requestEnd
  rw [List.drop_left' rfl]
  simp only [List.flatMap_cons, List.flatMap_nil, List.append_nil, frame]
  rw [List.take_left' (length_uint32Bytes _), uint32Of_uint32Bytes, length_serializeAcknowledge]
  rfl

/-- Then the acknowledge. -/
theorem stream_ack :
    ((stream endpoint [ack]).drop (requestEnd endpoint + 4)).take 1 = serializeAcknowledge ack := by
  unfold stream requestEnd
  rw [← List.drop_drop, List.drop_left' rfl]
  simp only [List.flatMap_cons, List.flatMap_nil, List.append_nil, frame]
  rw [List.drop_left' (length_uint32Bytes _)]
  rfl

end Stream

/-- Everything the server writes that has made these responses. -/
def replies (responces : List Responce) : Bytes :=
  responces.flatMap fun responce => frame (serializeResponse responce)

/-! ## 2. The two directions, point by point -/

/-- What the client has written at a point. -/
def ClientPhase.Wrote (endpoint : RdmaEndpoint) (w : Bytes) (pushed : ℕ) : ClientPhase → Prop
  | start | requestSerialize => w = [] ∧ pushed = 0
  | requestLength bs =>
    bs = requestOf endpoint ∧ w = [] ++ (uint32Bytes bs.length).take pushed
  | requestPayload bs =>
    bs = requestOf endpoint ∧ w = uint32Bytes bs.length ++ bs.take pushed
  | responseLength | responsePayload _ | responseDecode _ | importDescriptor _ | service _
  | connection _ | submit _ _ | await _ | ackTimer _ | ackSerialize _ =>
    w = stream endpoint [] ∧ pushed = 0
  | requestJoin _ err => (err = none → w = stream endpoint []) ∧ pushed = 0
  | ackLength outcome bs =>
    bs = serializeAcknowledge outcome.acknowledge ∧
      w = stream endpoint [] ++ (uint32Bytes bs.length).take pushed
  | ackPayload outcome bs =>
    bs = serializeAcknowledge outcome.acknowledge ∧
      w = (stream endpoint [] ++ uint32Bytes bs.length) ++ bs.take pushed
  | ackJoin outcome err => err = none → w = stream endpoint [outcome.acknowledge]
  | finish | ended none => w = stream endpoint [Outcome.completed.acknowledge]
  | ended (some _) | unwound | undefined => True

/-- The current request was permitted. -/
def ServerLog.Permitted (log : ServerLog) : Prop :=
  ∃ responce ∈ log.current.responces, responce.responceCode = .operationPermitted

/-- No request has been decoded, and if the connection still lives nothing of it was read. -/
def ServerLog.Fresh (log : ServerLog) (n : ℕ) (dead : Bool) : Prop :=
  log.decoded = 0 ∧ log.current = {} ∧ log.lost = false ∧ (dead = true ∨ n = 0)

/-- The one request is decoded and, if it was permitted and no wait was lost, its acknowledge
read. -/
def ServerLog.Done (endpoint : RdmaEndpoint) (log : ServerLog) (n : ℕ) : Prop :=
  log.decoded = 1 ∧ requestEnd endpoint ≤ n ∧
    (log.lost = true ∨ ¬ log.Permitted ∨ n = requestEnd endpoint + 5)

/-- The one request is being served. -/
def ServerLog.Busy (endpoint : RdmaEndpoint) (log : ServerLog) (request : Request) : Prop :=
  log.decoded = 1 ∧ log.lost = false ∧ request = wireRequest endpoint

/-- The request a reply is for. -/
def Reply.request : Reply → Request
  | notFound request | exportFailed request _ _ | lockFailed request _ _ _ | locked request _ _
  | serviceFailed request _ _ _ | permitted request _ _ => request

/-- What the server has read at a point, of a client that has made these acknowledges. -/
def ServerPhase.Consumed (endpoint : RdmaEndpoint) (acks : List Acknowledge) (log : ServerLog)
    (n : ℕ) (dead : Bool) : ServerPhase → Prop
  | head | requestLength => log.Fresh n dead ∨ log.Done endpoint n
  | requestPayload size =>
    (log.decoded = 0 ∧ log.current = {} ∧ log.lost = false ∧ n = 4 ∧
        size = (requestOf endpoint).length) ∨
      (log.decoded = 1 ∧ log.lost = true ∧ requestEnd endpoint + 4 ≤ n)
  | requestDecode bs =>
    (log.decoded = 0 ∧ log.current = {} ∧ log.lost = false ∧ n = requestEnd endpoint ∧
        bs = requestOf endpoint) ∨
      (log.decoded = 1 ∧ log.lost = true ∧ bs.length ≤ 1)
  | connection request | lookup request | exportDescriptor request _ | lock request _ _
  | prepare request _ _ | ackTimer request _ | ackLength request _ =>
    log.Busy endpoint request ∧ n = requestEnd endpoint
  | respond reply _ => log.Busy endpoint reply.request ∧ n = requestEnd endpoint
  | ackPayload request _ size =>
    log.Busy endpoint request ∧ n = requestEnd endpoint + 4 ∧ size = 1
  | ackDecode request _ bs =>
    log.Busy endpoint request ∧ n = requestEnd endpoint + 5 ∧
      ∃ ack, acks = [ack] ∧ bs = serializeAcknowledge ack
  | ackJoin request _ ack err =>
    log.Busy endpoint request ∧ requestEnd endpoint ≤ n ∧
      (err = none → n = requestEnd endpoint + 5 ∧ acks = [ack])
  | process request _ => log.Busy endpoint request ∧ n = requestEnd endpoint + 5
  | unlock request => log.Done endpoint n ∧ request = wireRequest endpoint
  | unwound | ended _ =>
    (log.decoded = 0 ∧ log.current = {}) ∨
      log.decoded = 1 ∧ (n = requestEnd endpoint ∨ log.Served)
  | undefined => True

/-- What the server has written at a point. -/
def ServerPhase.Responded (w : Bytes) (pushed : ℕ) : ServerPhase → Prop
  | respond reply (.length bs) =>
    bs = serializeResponse reply.responce ∧ w = [] ++ (uint32Bytes bs.length).take pushed
  | respond reply (.payload bs) =>
    bs = serializeResponse reply.responce ∧ w = uint32Bytes bs.length ++ bs.take pushed
  | unwound | undefined | ended _ => True
  | _ => pushed = 0

/-- What the client has read at a point, of a server that has made these responses. -/
def ClientPhase.Received (responces : List Responce) (n : ℕ) : ClientPhase → Prop
  | start | requestSerialize | requestLength _ | requestPayload _ | responseLength => n = 0
  | responsePayload _ => n = 4
  | responseDecode bs => ∃ responce, responces = [responce] ∧ bs <+: serializeResponse responce
  | _ => True

/-- The server's timer runs only beside a wait for an acknowledge. -/
def ServerPhase.Timed (timer : Timer) : ServerPhase → Prop
  | ackLength _ _ | ackPayload _ _ _ | ackDecode _ _ _ | ackJoin _ _ _ _ | undefined => True
  | _ => timer = .off

/-! ## 3. What the server reads -/

theorem Side.read_ok {now size : ℕ} {s s' : Side} {bs str : Bytes}
    (h : s.answer now ⟨.asyncRead size, .ok bs⟩ = some s') (hsent : s.inp.written <+: str) :
    bs = (str.drop s.inp.consumed).take size ∧ bs.length = size ∧
      s'.inp.consumed = s.inp.consumed + size ∧ s'.inp.dead = s.inp.dead ∧
      s.inp.consumed + size ≤ str.length ∧ (0 < size → s.inp.dead = false) := by
  have hf := Side.answer_read h
  obtain ⟨hbs, hle, hlen⟩ := Channel.finish_slice hf hsent
  obtain ⟨-, -, hdead, hc, -, -, hd, -⟩ := Channel.finish_inv hf
  exact ⟨hbs, hlen, hc, hd, hle, hdead⟩

theorem Side.read_failed {now size : ℕ} {s s' : Side} {ec : ErrorCode}
    (h : s.answer now ⟨.asyncRead size, .error ec⟩ = some s') :
    s.inp.consumed ≤ s'.inp.consumed ∧ s'.inp.consumed < s.inp.consumed + size ∧
      s'.inp.consumed ≤ s.inp.written.length ∧
      (s.timer ≠ .ran → s.inp.closed = true ∧ s'.inp.dead = true) := by
  have hb := s.inp.bounded
  rcases Side.answer_readFailed h with ⟨ht, hf⟩ | ⟨-, hf⟩
  · obtain ⟨hlt, hc, -⟩ := Channel.cut_inv hf
    exact ⟨by omega, by omega, by omega, fun hn => absurd ht hn⟩
  · obtain ⟨⟨hclosed, hlt⟩, hc, -, -, hdead, -⟩ := Channel.fail_inv hf
    exact ⟨by omega, by omega, by omega, fun _ => ⟨hclosed, hdead⟩⟩

section Consumed

variable {endpoint : RdmaEndpoint} {acks : List Acknowledge} {log : ServerLog} {n m : ℕ}
  {request : Request} {s s' : Side} {now : ℕ} {ec : ErrorCode} {bs : Bytes}

/-- After the request there is one acknowledge at most to read. -/
theorem ServerLog.Done.grow (h : log.Done endpoint n) (hn : n ≤ m)
    (hm : m ≤ (stream endpoint acks).length) (hlen : acks.length ≤ 1) : log.Done endpoint m := by
  obtain ⟨hd, hle, h⟩ := h
  rw [stream_length] at hm
  refine ⟨hd, by omega, ?_⟩
  rcases h with hlost | hperm | h5
  · exact Or.inl hlost
  · exact Or.inr (Or.inl hperm)
  · exact Or.inr (Or.inr (by omega))

/-- A read for a request that fails. -/
theorem ServerPhase.Consumed.requestFailed {size : ℕ} (hlen : acks.length ≤ 1)
    (hsent : s.inp.written <+: stream endpoint acks) (htimer : s.timer = .off)
    (ha : s.answer now ⟨.asyncRead size, .error ec⟩ = some s')
    (h : (∃ dead, log.Fresh s.inp.consumed dead) ∨ log.Done endpoint s.inp.consumed) :
    ServerPhase.head.Consumed endpoint acks log s'.inp.consumed s'.inp.dead := by
  obtain ⟨hc, -, hle, hdead⟩ := Side.read_failed ha
  rcases h with ⟨dead, hd, hcur, hlost, -⟩ | h
  · exact Or.inl ⟨hd, hcur, hlost, Or.inl (hdead (by simp [htimer])).2⟩
  · exact Or.inr (h.grow hc (hle.trans hsent.length_le) hlen)

/-- The length of the next request. -/
theorem ServerPhase.Consumed.readLength (hshort : Short endpoint) (hlen : acks.length ≤ 1)
    (hsent : s.inp.written <+: stream endpoint acks) (hperm : ¬ log.Permitted → acks = [])
    (ha : s.answer now ⟨.asyncRead 4, .ok bs⟩ = some s')
    (h : log.Fresh s.inp.consumed s.inp.dead ∨ log.Done endpoint s.inp.consumed) :
    (requestPayload (uint32Of bs)).Consumed endpoint acks log s'.inp.consumed s'.inp.dead := by
  obtain ⟨hbs, -, hc, -, hle, hdead⟩ := Side.read_ok ha hsent
  rw [stream_length] at hle
  rcases h with ⟨hd, hcur, hlost, h0⟩ | ⟨hd, hend, h⟩
  · have hn : s.inp.consumed = 0 :=
      h0.resolve_left fun ht => by rw [hdead (by omega)] at ht; cases ht
    refine Or.inl ⟨hd, hcur, hlost, by omega, ?_⟩
    rw [hbs, hn]
    exact stream_length_word hshort
  · rcases h with hlost | hnot | h5
    · exact Or.inr ⟨hd, hlost, by omega⟩
    · rw [hperm hnot, List.length_nil] at hle
      omega
    · omega

/-- Its payload. -/
theorem ServerPhase.Consumed.readPayload {size : ℕ} (hlen : acks.length ≤ 1)
    (hsent : s.inp.written <+: stream endpoint acks)
    (ha : s.answer now ⟨.asyncRead size, .ok bs⟩ = some s')
    (h : (requestPayload size).Consumed endpoint acks log s.inp.consumed s.inp.dead) :
    (requestDecode bs).Consumed endpoint acks log s'.inp.consumed s'.inp.dead := by
  obtain ⟨hbs, hsize, hc, -, hle, -⟩ := Side.read_ok ha hsent
  rcases h with ⟨hd, hcur, hlost, h4, hword⟩ | ⟨hd, hlost, h4⟩
  · refine Or.inl ⟨hd, hcur, hlost, ?_, ?_⟩
    · rw [hc, requestEnd_eq, h4, hword, Nat.add_comm]
    · rw [hbs, h4, hword, stream_request]
  · rw [stream_length] at hle
    exact Or.inr ⟨hd, hlost, by omega⟩

/-- **The one request is decoded as what the client asked for**, and nothing else is. -/
theorem ServerPhase.Consumed.decode (hshort : Short endpoint)
    (hr : Except.ok request = deserializeRequest bs) {dead : Bool}
    (h : (requestDecode bs).Consumed endpoint acks log n dead) :
    log.decoded = 0 ∧ log.current = {} ∧ log.lost = false ∧ n = requestEnd endpoint ∧
      request = wireRequest endpoint := by
  rcases h with ⟨hd, hcur, hlost, hn, rfl⟩ | ⟨-, -, hsmall⟩
  · rw [deserializeRequest_requestOf hshort] at hr
    cases hr
    exact ⟨hd, hcur, hlost, hn, rfl⟩
  · obtain ⟨tag, word, body, extra, rfl, hw, -⟩ := deserializeTagged_ok_iff.mp hr.symm
    simp only [List.length_cons, List.length_append] at hsmall
    omega

/-- The length of the acknowledge. -/
theorem ServerPhase.Consumed.readAckLength {served : RdmaEndpoint} (hlen : acks.length ≤ 1)
    (hsent : s.inp.written <+: stream endpoint acks)
    (ha : s.answer now ⟨.asyncRead 4, .ok bs⟩ = some s')
    (h : (ackLength request served).Consumed endpoint acks log s.inp.consumed s.inp.dead) :
    (ackPayload request served (uint32Of bs)).Consumed endpoint acks log s'.inp.consumed
      s'.inp.dead := by
  obtain ⟨hbs, -, hc, -, hle, -⟩ := Side.read_ok ha hsent
  obtain ⟨hbusy, hn⟩ := h
  rw [stream_length] at hle
  obtain ⟨ack, rfl⟩ := List.length_eq_one_iff.mp (by omega : acks.length = 1)
  refine ⟨hbusy, by omega, ?_⟩
  rw [hbs, hn]
  exact stream_ack_word

/-- The acknowledge itself. -/
theorem ServerPhase.Consumed.readAckPayload {served : RdmaEndpoint} {size : ℕ}
    (hlen : acks.length ≤ 1) (hsent : s.inp.written <+: stream endpoint acks)
    (ha : s.answer now ⟨.asyncRead size, .ok bs⟩ = some s')
    (h : (ackPayload request served size).Consumed endpoint acks log s.inp.consumed s.inp.dead) :
    (ackDecode request served bs).Consumed endpoint acks log s'.inp.consumed s'.inp.dead := by
  obtain ⟨hbs, -, hc, -, hle, -⟩ := Side.read_ok ha hsent
  obtain ⟨hbusy, hn, rfl⟩ := h
  rw [stream_length] at hle
  obtain ⟨ack, rfl⟩ := List.length_eq_one_iff.mp (by omega : acks.length = 1)
  refine ⟨hbusy, by omega, ack, rfl, ?_⟩
  rw [hbs, hn]
  exact stream_ack

/-- A read for an acknowledge that fails. -/
theorem ServerPhase.Consumed.ackFailed {served : RdmaEndpoint} {size : ℕ} {err : Err}
    (hbusy : log.Busy endpoint request) (hn : requestEnd endpoint ≤ s.inp.consumed)
    (ha : s.answer now ⟨.asyncRead size, .error ec⟩ = some s') :
    (ackJoin request served {} (some err)).Consumed endpoint acks log s'.inp.consumed
      s'.inp.dead :=
  ⟨hbusy, hn.trans (Side.read_failed ha).1, fun h => nomatch h⟩

/-- Once a response is out. -/
theorem ServerPhase.Consumed.sent {reply : Reply} {bs : Bytes} {dead : Bool}
    (hk : (respond reply (.payload bs)).Knows log)
    (h : (respond reply (.payload bs)).Consumed endpoint acks log n dead) :
    reply.sent.Consumed endpoint acks (log.note ⟨.asyncWrite bs, .ok ()⟩) n dead := by
  obtain ⟨hbusy, hn⟩ := h
  obtain ⟨-, -, -, hcur⟩ := hk
  have hdone : reply.responce.responceCode ≠ .operationPermitted → log.Done endpoint n := by
    refine fun hc => ⟨hbusy.1, hn.ge, Or.inr (Or.inl ?_)⟩
    rintro ⟨responce, hm, hp⟩
    rw [hcur] at hm
    rw [List.mem_singleton.mp hm] at hp
    exact hc hp
  cases reply with
  | notFound request => exact Or.inr (hdone (fun h => nomatch h))
  | locked request served descriptor => exact Or.inr (hdone (fun h => nomatch h))
  | exportFailed request served descErr => exact Or.inr ⟨hbusy.1, Or.inl hn⟩
  | lockFailed request served descriptor lockErr => exact Or.inr ⟨hbusy.1, Or.inl hn⟩
  | serviceFailed request served descriptor srvErr =>
    exact ⟨hdone (fun h => nomatch h), hbusy.2.2⟩
  | permitted request served descriptor =>
    by_cases hknown : served.type.Known
    · rw [Reply.sent, serverPerformRdmaOperation_known hknown]
      exact ⟨hbusy, hn⟩
    · obtain ⟨err, herr⟩ := serverPerformRdmaOperation_unknown _ hknown
      rw [Reply.sent, herr]
      exact Or.inr ⟨hbusy.1, Or.inl hn⟩

/-- Once the wait for the acknowledge is over. -/
theorem ServerPhase.Consumed.join {served : RdmaEndpoint} {ack : Acknowledge} {err : error}
    {timer : TimerEnd} {dead : Bool} (hk : (ackJoin request served ack err).Knows log)
    (h : (ackJoin request served ack err).Consumed endpoint acks log n dead) :
    (joined request served (Coro.errorAfter timer err)).Consumed endpoint acks
      (log.note ⟨.joinTimer, timer⟩) n dead := by
  obtain ⟨⟨hd, hlost, hreq⟩, hle, hdone⟩ := h
  obtain ⟨-, -, -, -, descriptor, hcur⟩ := hk
  unfold joined
  by_cases herr : (Coro.errorAfter timer err).isSome = true
  · rw [if_pos herr]
    refine ⟨⟨hd, hle, Or.inl ?_⟩, hreq⟩
    cases timer <;> cases err <;> simp_all [ServerLog.note, Coro.errorAfter]
  · rw [if_neg herr]
    have hack : timer = .cancelled ∧ err = none := by
      cases timer <;> cases err <;> simp_all [Coro.errorAfter]
    obtain ⟨rfl, rfl⟩ := hack
    obtain ⟨hn, -⟩ := hdone rfl
    have hkept : (log.note ⟨.joinTimer, .cancelled⟩).lost = false := by
      simp [ServerLog.note, hcur, hlost]
    by_cases hw : served.type = .write
    · rw [if_pos hw]
      exact ⟨⟨hd, hkept, hreq⟩, hn⟩
    · rw [if_neg hw]
      exact ⟨⟨hd, hle, Or.inr (Or.inr hn)⟩, hreq⟩

/-- **What the server has read at a point determines what it has read at the next.** -/
theorem ServerPhase.Consumed.step (hshort : Short endpoint) {f f' : ServerPhase}
    {ev : SessionEvent} (h : f.Consumed endpoint acks log s.inp.consumed s.inp.dead)
    (hs : ServerStep f ev f') (hk : f.Knows log) (hlen : acks.length ≤ 1)
    (hsent : s.inp.written <+: stream endpoint acks) (hperm : ¬ log.Permitted → acks = [])
    (htimer : f.Timed s.timer) (ha : s.answer now ev = some s') :
    f'.Consumed endpoint acks (log.note ev) s'.inp.consumed s'.inp.dead := by
  have hsame : (∀ size, ev.op ≠ .asyncRead size) → s'.inp = s.inp := Side.answer_inp ha
  cases hs with
  | isOpen => rw [hsame (by simp)]; exact h
  | closed =>
    rw [hsame (by simp)]
    obtain ⟨-, -, hserved, -⟩ := hk
    rcases h with ⟨hd, hcur, -⟩ | ⟨hd, -⟩
    · exact Or.inl ⟨hd, hcur⟩
    · exact Or.inr ⟨hd, Or.inr hserved⟩
  | requestLength bs => exact Consumed.readLength hshort hlen hsent hperm ha h
  | requestLengthFailed ec =>
    exact Consumed.requestFailed hlen hsent htimer ha (h.imp_left fun h => ⟨_, h⟩)
  | requestPayload size bs => exact Consumed.readPayload hlen hsent ha h
  | requestPayloadFailed size ec =>
    refine Consumed.requestFailed hlen hsent htimer ha ?_
    rcases h with ⟨hd, hcur, hlost, -⟩ | ⟨hd, hlost, h4⟩
    · exact Or.inl ⟨true, hd, hcur, hlost, Or.inl rfl⟩
    · exact Or.inr ⟨hd, by omega, Or.inl hlost⟩
  | requestDecode bs request =>
    rw [hsame (by simp)]
    have hr : Except.ok request = deserializeRequest bs := by
      simpa [SessionEvent.computed] using Side.answer_computed ha
    obtain ⟨hd, -, hlost, hn, hreq⟩ := Consumed.decode hshort hr h
    exact ⟨⟨congrArg (· + 1) hd, hlost, hreq⟩, hn⟩
  | requestFault bs fault => trivial
  | connection request => rw [hsame (by simp)]; exact h
  | connectionFailed request err =>
    rw [hsame (by simp)]
    exact Or.inr ⟨h.1.1, Or.inl h.2⟩
  | lookup request served | lookupFailed request err => rw [hsame (by simp)]; exact h
  | exportDescriptor request served descriptor | exportFailed request served err =>
    rw [hsame (by simp)]; exact h
  | exportThrew request served =>
    rw [hsame (by simp)]
    exact Or.inr ⟨h.1.1, Or.inl h.2⟩
  | exportNull request served => trivial
  | lockFailed request served descriptor flag err | locked request served descriptor =>
    rw [hsame (by simp)]; exact h
  | granted request served descriptor =>
    rw [hsame (by simp)]
    unfold DocaCpp.granted
    by_cases ht : served.type = .read
    · rw [if_pos ht]; exact h
    · rw [if_neg ht]; exact h
  | prepared request served descriptor | prepareFailed request served descriptor err =>
    rw [hsame (by simp)]; exact h
  | prepareThrew request served descriptor =>
    rw [hsame (by simp)]
    exact Or.inr ⟨h.1.1, Or.inl h.2⟩
  | prepareNull request served descriptor => trivial
  | serialize reply bs | sendLength reply bs => rw [hsame (by simp)]; exact h
  | sendLengthFailed reply bs ec | sendPayloadFailed reply bs ec =>
    rw [hsame (by simp)]
    exact Or.inr ⟨h.1.1, Or.inl h.2⟩
  | sendPayload reply bs =>
    rw [hsame (by simp)]
    exact Consumed.sent hk h
  | ackTimer request served => rw [hsame (by simp)]; exact h
  | ackLength request served bs => exact Consumed.readAckLength hlen hsent ha h
  | ackLengthFailed request served ec => exact Consumed.ackFailed h.1 h.2.ge ha
  | ackPayload request served size bs => exact Consumed.readAckPayload hlen hsent ha h
  | ackPayloadFailed request served size ec =>
    obtain ⟨hbusy, hn, -⟩ := h
    exact Consumed.ackFailed hbusy (by omega) ha
  | ackDecode request served bs ack =>
    rw [hsame (by simp)]
    obtain ⟨hbusy, hn, ack', hacks, rfl⟩ := h
    have hr : Except.ok ack = deserializeAcknowledge (serializeAcknowledge ack') := by
      simpa [SessionEvent.computed] using Side.answer_computed ha
    cases hr
    exact ⟨hbusy, by omega, fun _ => ⟨hn, hacks⟩⟩
  | ackFault request served bs fault => trivial
  | ackJoin request served ack err timer =>
    rw [hsame (by simp)]
    exact Consumed.join hk h
  | processed request served err =>
    rw [hsame (by simp)]
    obtain ⟨⟨hd, -, hreq⟩, hn⟩ := h
    exact ⟨⟨hd, by omega, Or.inr (Or.inr hn)⟩, hreq⟩
  | processThrew request served =>
    rw [hsame (by simp)]
    obtain ⟨hw, ack, -, -, -, -, descriptor, hcur⟩ := hk
    refine Or.inr ⟨h.1.1, Or.inr fun _ => Or.inr ⟨served, ack, ?_, ?_, fun _ => ⟨.threw, ?_⟩⟩⟩
    · simp [ServerLog.note, hcur, waiting, Reply.exchange, serving]
    · simp [ServerLog.note, hcur, waiting, Reply.exchange, serving]
    · simp [ServerLog.note, hcur, waiting, Reply.exchange, hw, RdmaEndpointType.read_ne_write.symm]
  | processNull request served => trivial
  | unlock request err =>
    rw [hsame (by simp)]
    exact Or.inr h.1

end Consumed

/-! ## 4. What the client writes -/

section Wrote

variable {endpoint : RdmaEndpoint} {w : Bytes} {g g' : ClientPhase} {ev : SessionEvent}
  {s s' : Side} {now : ℕ}

theorem stream_nil : stream endpoint [] = frame (requestOf endpoint) := by simp [stream]

theorem stream_singleton {ack : Acknowledge} :
    stream endpoint [ack] = stream endpoint [] ++ frame (serializeAcknowledge ack) := by
  simp [stream]

theorem stream_grows (acks : List Acknowledge) : stream endpoint [] <+: stream endpoint acks := by
  rw [stream_nil]
  exact List.prefix_append _ _

/-- A write that is completed has written its buffer behind what was there. -/
theorem Side.write_ok {bs done : Bytes} (h : s.answer now ⟨.asyncWrite bs, .ok ()⟩ = some s')
    (hw : s.out.written = done ++ bs.take s.out.pushed) :
    s'.out.written = done ++ bs ∧ s'.out.pushed = 0 := by
  obtain ⟨hp, ho⟩ := Channel.wrote_inv (Side.answer_write h)
  rw [ho]
  rw [hp, List.take_length] at hw
  exact ⟨hw, rfl⟩

theorem ClientPhase.Wrote.requested {responce : Responce} {err : error}
    (h : err = none → w = stream endpoint []) :
    (requested responce err).Wrote endpoint w 0 := by
  cases err with
  | some err => trivial
  | none =>
    unfold DocaCpp.requested
    by_cases hc : responce.responceCode = .operationPermitted
    · simp only [hc, if_true]
      exact ⟨h rfl, rfl⟩
    · simp only [hc, if_false]
      trivial

theorem ClientPhase.Wrote.connected {descriptor : Bytes} {pushed : ℕ}
    (h : w = stream endpoint [] ∧ pushed = 0) :
    (connected endpoint descriptor).Wrote endpoint w pushed := by
  unfold DocaCpp.connected
  by_cases hw : endpoint.type = .write
  · rw [if_pos hw]; exact h
  · rw [if_neg hw]
    by_cases hr : endpoint.type = .read
    · rw [if_pos hr]; exact h
    · rw [if_neg hr]; exact h

theorem ClientPhase.Wrote.acknowledged {outcome : Outcome} {err : error} {pushed : ℕ}
    (h : err = none → w = stream endpoint [outcome.acknowledge]) :
    (outcome.acknowledged endpoint err).Wrote endpoint w pushed := by
  cases outcome with
  | canceled srvErr => trivial
  | failed opErr => trivial
  | completed =>
    cases err with
    | some err => trivial
    | none =>
      unfold Outcome.acknowledged
      by_cases hr : endpoint.type = .read
      · simp only [hr, if_true]
        exact h rfl
      · simp only [hr, if_false]
        exact h rfl

/-- **What the client has written at a point determines what it has written at the next.** -/
theorem ClientPhase.Wrote.step (h : g.Wrote endpoint s.out.written s.out.pushed)
    (hs : ClientStep endpoint g ev g') (ha : s.answer now ev = some s') :
    g'.Wrote endpoint s'.out.written s'.out.pushed := by
  have hsame : (∀ bs, ev.op ≠ .asyncWrite bs) → s'.out = s.out := Side.answer_out ha
  cases hs with
  | start => rw [hsame (by simp)]; exact h
  | requestSerialize bs =>
    rw [hsame (by simp)]
    obtain ⟨hw, hp⟩ := h
    have hbs : bs = serializeRequest (clientRequest endpoint) := by
      simpa [SessionEvent.computed] using Side.answer_computed ha
    exact ⟨hbs, by rw [hw, hp]; rfl⟩
  | requestLength bs =>
    obtain ⟨hbs, hw⟩ := h
    obtain ⟨hw', hp⟩ := Side.write_ok ha hw
    exact ⟨hbs, by rw [hw', hp]; simp⟩
  | requestLengthFailed bs ec | requestPayloadFailed bs ec =>
    rw [Side.answer_writeFailed ha]
    exact ⟨by simp, rfl⟩
  | requestPayload bs =>
    obtain ⟨hbs, hw⟩ := h
    obtain ⟨hw', hp⟩ := Side.write_ok ha hw
    exact ⟨by rw [hw', hbs, stream_nil]; rfl, hp⟩
  | responseLength bs | responsePayload size bs => rw [hsame (by simp)]; exact h
  | responseLengthFailed ec | responsePayloadFailed size ec =>
    rw [hsame (by simp)]
    exact ⟨by simp, h.2⟩
  | responseDecode bs responce =>
    rw [hsame (by simp)]
    exact ⟨fun _ => h.1, h.2⟩
  | responseFault bs fault => trivial
  | requestJoin responce err timer =>
    rw [hsame (by simp)]
    obtain ⟨hw, hp⟩ := h
    rw [hp]
    refine Wrote.requested fun hn => hw ?_
    cases timer <;> cases err <;> simp_all [Coro.errorAfter]
  | imported descriptor =>
    rw [hsame (by simp)]
    unfold DocaCpp.imported
    by_cases hw : endpoint.type = .write
    · rw [if_pos hw]; exact h
    · rw [if_neg hw]; exact h
  | importFailed descriptor err => trivial
  | service descriptor | serviceFailed descriptor err => rw [hsame (by simp)]; exact h
  | serviceThrew descriptor | serviceNull descriptor => trivial
  | connected descriptor => rw [hsame (by simp)]; exact Wrote.connected h
  | connectionFailed descriptor err | submitted type descriptor
  | submitFailed type descriptor err => rw [hsame (by simp)]; exact h
  | awaited type result =>
    rw [hsame (by simp)]
    cases result with
    | timedOut => exact h
    | ready err => cases err <;> exact h
  | ackTimer outcome => rw [hsame (by simp)]; exact h
  | ackSerialize outcome bs =>
    rw [hsame (by simp)]
    obtain ⟨hw, hp⟩ := h
    have hbs : bs = serializeAcknowledge outcome.acknowledge := by
      simpa [SessionEvent.computed] using Side.answer_computed ha
    exact ⟨hbs, by rw [hw, hp]; simp⟩
  | ackLength outcome bs =>
    obtain ⟨hbs, hw⟩ := h
    obtain ⟨hw', hp⟩ := Side.write_ok ha hw
    exact ⟨hbs, by rw [hw', hp]; simp⟩
  | ackLengthFailed outcome bs ec | ackPayloadFailed outcome bs ec =>
    exact fun h => absurd h (Option.some_ne_none _)
  | ackPayload outcome bs =>
    obtain ⟨hbs, hw⟩ := h
    obtain ⟨hw', -⟩ := Side.write_ok ha hw
    intro _
    rw [hw', hbs]
    simp [stream, frame]
  | ackJoin outcome err timer =>
    rw [hsame (by simp)]
    refine Wrote.acknowledged fun hn => h ?_
    cases timer <;> cases err <;> simp_all [Coro.errorAfter]
  | finished => rw [hsame (by simp)]; exact h
  | finishFailed err => trivial
  | finishThrew | finishNull => trivial

/-- **A byte more is the next byte of the stream.** -/
theorem ClientPhase.Wrote.push {log : ClientLog} {up up' : Channel UInt8} {bs : Bytes}
    (h : g.Wrote endpoint up.written up.pushed) (hk : g.Knows log)
    (hs : ClientStep endpoint g ⟨.asyncWrite bs, .ok ()⟩ g') (hp : up.push bs = some up') :
    g.Wrote endpoint up'.written up'.pushed ∧ up'.written <+: stream endpoint log.acks := by
  obtain ⟨hgrow, -, -, -⟩ := Channel.push_inv hp
  cases hs with
  | requestLength bs =>
    obtain ⟨rfl, hw⟩ := h
    refine ⟨⟨rfl, hgrow _ hw⟩, ?_⟩
    rw [hgrow _ hw, List.nil_append]
    refine ((List.take_prefix _ _).trans ?_).trans (stream_grows _)
    rw [stream_nil]
    exact List.prefix_append _ _
  | requestPayload bs =>
    obtain ⟨rfl, hw⟩ := h
    refine ⟨⟨rfl, hgrow _ hw⟩, ?_⟩
    rw [hgrow _ hw]
    refine List.IsPrefix.trans ?_ (stream_grows _)
    rw [stream_nil]
    exact (List.prefix_append_right_inj _).mpr (List.take_prefix _ _)
  | ackLength outcome bs =>
    obtain ⟨rfl, hw⟩ := h
    refine ⟨⟨rfl, hgrow _ hw⟩, ?_⟩
    rw [hgrow _ hw, hk.2, stream_singleton]
    exact (List.prefix_append_right_inj _).mpr
      ((List.take_prefix _ _).trans (List.prefix_append _ _))
  | ackPayload outcome bs =>
    obtain ⟨rfl, hw⟩ := h
    refine ⟨⟨rfl, hgrow _ hw⟩, ?_⟩
    rw [hgrow _ hw, hk.2, stream_singleton, List.append_assoc]
    refine (List.prefix_append_right_inj _).mpr ?_
    exact (List.prefix_append_right_inj _).mpr (List.take_prefix _ _)

end Wrote

end DocaCpp
