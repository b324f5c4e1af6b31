/-
# The two sessions stay linked

`Link` has followed the stream from the client to the server.  This file follows the other one, in
which the server answers the one request it gets, and puts everything together: `Linked` says how
the two sessions of a connection, their histories and the streams between them fit, and
`linked_run` that they do along every run.
-/
import DocaCpp.Net.Link

namespace DocaCpp

variable [Platform]

/-! ## 1. What the server writes -/

section Responded

variable {f f' : ServerPhase} {ev : SessionEvent} {log : ServerLog} {s s' : Side} {now : ℕ}

theorem replies_singleton {responce : Responce} :
    replies [responce] = frame (serializeResponse responce) := by simp [replies]

/-- The server makes its response once for a request. -/
theorem ServerStep.responces (hs : ServerStep f ev f') (hk : f.Knows log)
    (hdecode : ∀ bs request, ev = ⟨.deserializeRequest bs, .ok request⟩ →
      log.current.responces = []) :
    (log.note ev).current.responces = log.current.responces ∨
      log.current.responces = [] ∧ (log.note ev).current.responces.length ≤ 1 := by
  cases hs with
  | requestDecode bs request => exact Or.inl (hdecode bs request rfl).symm
  | serialize reply bs =>
    obtain ⟨-, -, -, hcur⟩ := hk
    refine Or.inr ⟨congrArg Exchange.responces hcur, ?_⟩
    simp [ServerLog.note, hcur, Sending.responces]
  | _ => exact Or.inl rfl

theorem ServerPhase.Responded.sent {reply : Reply} {w : Bytes} : reply.sent.Responded w 0 := by
  cases reply with
  | permitted request endpoint descriptor =>
    rcases Reply.permitted_sent_cases request endpoint descriptor with heq | ⟨err, heq⟩
    · rw [heq]
      rfl
    · rw [heq]
      trivial
  | notFound request | locked request endpoint descriptor
  | serviceFailed request endpoint descriptor srvErr => rfl
  | exportFailed request endpoint descErr
  | lockFailed request endpoint descriptor lockErr => trivial

/-- **What the server has written at a point determines what it has written at the next.** -/
theorem ServerPhase.Responded.step (h : f.Responded s.out.written s.out.pushed)
    (hs : ServerStep f ev f') (hk : f.Knows log)
    (hrep : s.out.written <+: replies log.current.responces) (ha : s.answer now ev = some s') :
    f'.Responded s'.out.written s'.out.pushed := by
  have hsame : (∀ bs, ev.op ≠ .asyncWrite bs) → s'.out = s.out := Side.answer_out ha
  cases hs with
  | granted request endpoint descriptor =>
    rw [hsame (by simp)]
    rcases granted_cases request endpoint descriptor with heq | heq <;> rw [heq] <;> exact h
  | ackJoin request endpoint ack err timer =>
    rw [hsame (by simp)]
    rcases joined_cases request endpoint (Coro.errorAfter timer err) with heq | heq <;>
      rw [heq] <;> exact h
  | serialize reply bs =>
    rw [hsame (by simp)]
    have hbs : bs = serializeResponse reply.responce := by
      simpa [SessionEvent.computed] using Side.answer_computed ha
    obtain ⟨-, -, -, hcur⟩ := hk
    rw [hcur] at hrep
    have hw : s.out.written = [] := List.prefix_nil.mp hrep
    have hp : s.out.pushed = 0 := h
    exact ⟨hbs, by rw [hw, hp]; rfl⟩
  | sendLength reply bs =>
    obtain ⟨hbs, hw⟩ := h
    obtain ⟨hw', hp⟩ := Side.write_ok ha hw
    exact ⟨hbs, by rw [hw', hp]; simp⟩
  | sendPayload reply bs =>
    obtain ⟨hbs, hw⟩ := h
    rw [(Side.write_ok ha hw).2]
    exact Responded.sent
  | closed | requestFault bs fault | connectionFailed request err | exportThrew request endpoint
  | exportNull request endpoint | prepareThrew request endpoint descriptor
  | prepareNull request endpoint descriptor | sendLengthFailed reply bs ec
  | sendPayloadFailed reply bs ec | ackFault request endpoint bs fault
  | processThrew request endpoint | processNull request endpoint => trivial
  | _ => rw [hsame (by simp)]; exact h

/-- **A byte more is the next byte of the response.** -/
theorem ServerPhase.Responded.push {down down' : Channel UInt8} {bs : Bytes}
    (h : f.Responded down.written down.pushed) (hk : f.Knows log)
    (hs : ServerStep f ⟨.asyncWrite bs, .ok ()⟩ f') (hp : down.push bs = some down') :
    f.Responded down'.written down'.pushed ∧
      down'.written <+: replies log.current.responces := by
  obtain ⟨hgrow, -⟩ := Channel.push_inv hp
  cases hs with
  | sendLength reply bs =>
    obtain ⟨rfl, hw⟩ := h
    obtain ⟨-, -, -, hcur⟩ := hk
    refine ⟨⟨rfl, hgrow _ hw⟩, ?_⟩
    rw [hgrow _ hw, hcur, List.nil_append]
    refine (List.take_prefix _ _).trans ?_
    exact replies_singleton ▸ List.prefix_append _ _
  | sendPayload reply bs =>
    obtain ⟨rfl, hw⟩ := h
    obtain ⟨-, -, -, hcur⟩ := hk
    refine ⟨⟨rfl, hgrow _ hw⟩, ?_⟩
    rw [hgrow _ hw, hcur]
    exact replies_singleton ▸ (List.prefix_append_right_inj _).mpr (List.take_prefix _ _)

theorem ServerPhase.Timed.step (h : f.Timed s.timer) (hs : ServerStep f ev f')
    (ha : s.answer now ev = some s') : f'.Timed s'.timer := by
  have hsame : (∀ n, ev.op ≠ .startTimer n) → ev.op ≠ .joinTimer → s'.timer = s.timer :=
    Side.answer_timer ha
  cases hs with
  | ackTimer request endpoint | ackLength request endpoint bs
  | ackLengthFailed request endpoint ec | ackPayload request endpoint size bs
  | ackPayloadFailed request endpoint size ec | ackDecode request endpoint bs ack
  | ackFault request endpoint bs fault | requestFault bs fault | exportNull request endpoint
  | prepareNull request endpoint descriptor | processNull request endpoint => trivial
  | ackJoin request endpoint ack err timer =>
    have hoff := (Side.answer_join ha).2
    rcases joined_cases request endpoint (Coro.errorAfter timer err) with heq | heq <;>
      rw [heq] <;> exact hoff
  | granted request endpoint descriptor =>
    rw [hsame (by simp) (by simp)]
    rcases granted_cases request endpoint descriptor with heq | heq <;> rw [heq] <;> exact h
  | sendPayload reply bs =>
    rw [hsame (by simp) (by simp)]
    cases reply with
    | permitted request endpoint descriptor =>
      rcases Reply.permitted_sent_cases request endpoint descriptor with heq | ⟨err, heq⟩ <;>
        rw [heq] <;> exact h
    | _ => exact h
  | _ => rw [hsame (by simp) (by simp)]; exact h

omit [Platform] in
/-- Beside anything else than a wait for an acknowledge there is no timer to run. -/
theorem ServerPhase.Timed.fire {timer timer' : Timer} (h : f.Timed timer)
    (hf : timer.fire now = some timer') : f.Timed timer' := by
  cases f with
  | ackLength request endpoint | ackPayload request endpoint size
  | ackDecode request endpoint bs | ackJoin request endpoint ack err | undefined => trivial
  | _ =>
    have hoff : timer = .off := h
    rw [hoff] at hf
    cases hf

end Responded

/-! ## 2. What the client reads -/

section Received

variable {endpoint : RdmaEndpoint} {g g' : ClientPhase} {ev : SessionEvent} {log : ClientLog}
  {responces : List Responce} {s s' : Side} {now : ℕ}

/-- The code is read off the first byte, also when the rest was cut. -/
theorem deserializeResponse_of_written {bs : Bytes} {made decoded : Responce}
    (h : Except.ok decoded = deserializeResponse bs) (hp : bs <+: serializeResponse made) :
    decoded.responceCode = made.responceCode := by
  obtain ⟨tag, word, body, extra, rfl, -, -, rfl⟩ := deserializeTagged_ok_iff.mp h.symm
  exact congrArg Responce.Code.mk (List.cons_prefix_cons.mp hp).1

/-- **What the client has read at a point determines what it has read at the next.** -/
theorem ClientPhase.Received.step (h : g.Received responces s.inp.consumed)
    (hs : ClientStep endpoint g ev g') (hrep : s.inp.written <+: replies responces)
    (hone : responces.length ≤ 1) (ha : s.answer now ev = some s') :
    g'.Received responces s'.inp.consumed := by
  have hsame : (∀ size, ev.op ≠ .asyncRead size) → s'.inp = s.inp := Side.answer_inp ha
  cases hs with
  | start | requestSerialize bs | requestLength bs | requestPayload bs =>
    rw [hsame (by simp)]; exact h
  | responseLength bs =>
    have h0 : s.inp.consumed = 0 := h
    obtain ⟨-, -, hc, -⟩ := Side.read_ok ha hrep
    rw [hc, h0]
    exact rfl
  | responsePayload size bs =>
    have h4 : s.inp.consumed = 4 := h
    obtain ⟨hbs, -, -, -, hle, -⟩ := Side.read_ok ha hrep
    cases responces with
    | nil => simp [replies, h4] at hle
    | cons responce rest =>
      obtain rfl : rest = [] := List.length_eq_zero_iff.mp (by simpa using hone)
      refine ⟨responce, rfl, ?_⟩
      rw [hbs, h4, replies_singleton, frame, List.drop_left' (length_uint32Bytes _)]
      exact List.take_prefix _ _
  | requestJoin responce err timer =>
    unfold requested
    split
    · trivial
    · split <;> trivial
  | imported descriptor => unfold DocaCpp.imported; split <;> trivial
  | connected descriptor =>
    unfold DocaCpp.connected
    split
    · trivial
    · split <;> trivial
  | awaited type result =>
    cases result with
    | timedOut => trivial
    | ready err => cases err <;> trivial
  | ackJoin outcome err timer =>
    unfold Outcome.acknowledged
    cases outcome with
    | completed =>
      dsimp only
      split
      · trivial
      · split <;> trivial
    | _ => trivial
  | _ => trivial

/-- The code the client has decoded is the code the server has sent. -/
def ClientLog.Answered (log : ClientLog) (responces : List Responce) : Prop :=
  ∀ responce, log.responce = some responce →
    ∃ made, responces = [made] ∧ made.responceCode = responce.responceCode

theorem ClientLog.Answered.step (h : log.Answered responces)
    (hr : g.Received responces s.inp.consumed) (hs : ClientStep endpoint g ev g')
    (ha : s.answer now ev = some s') : (log.note ev).Answered responces := by
  cases hs with
  | responseDecode bs responce =>
    have hd : Except.ok responce = deserializeResponse bs := by
      simpa [SessionEvent.computed] using Side.answer_computed ha
    obtain ⟨made, rfl, hp⟩ := hr
    intro decoded hdecoded
    cases hdecoded
    exact ⟨made, rfl, (deserializeResponse_of_written hd hp).symm⟩
  | _ => exact h

/-- The RDMA operation is where the client's history says. -/
def ClientLog.Operated (log : ClientLog) (rdma : Rdma) : Prop :=
  (log.submitted = false → rdma = .idle) ∧
    ∀ err, log.operation = some (.ready err) → rdma = .ended err

theorem ClientLog.Operated.step {rdma rdma' : Rdma} (h : log.Operated rdma) (hk : g.Knows log)
    (hs : ClientStep endpoint g ev g') (ha : rdma.answer now ev = some rdma') :
    (log.note ev).Operated rdma' := by
  cases hs with
  | submitted type descriptor =>
    have hl : log = permittedLog descriptor := hk
    subst hl
    exact ⟨fun h => (nomatch h), fun err h => nomatch h⟩
  | awaited type result =>
    obtain ⟨descriptor, hk⟩ := hk
    subst hk
    refine ⟨fun h => (nomatch h), fun err herr => ?_⟩
    cases herr
    simp only [Rdma.answer] at ha
    split at ha
    · cases ha
      assumption
    · cases ha
  | _ =>
    cases ha
    exact h

end Received

/-! ## 3. Both together -/

/-- **How the two sessions of a connection fit together**, the server at `f`, the client at `g`. -/
structure Linked (endpoint : RdmaEndpoint) (slog : ServerLog) (clog : ClientLog)
    (f : ServerPhase) (g : ClientPhase) (c : Connection) : Prop where
  server : c.server = f.session
  client : c.client = g.session endpoint
  knowsServer : f.Knows slog
  knowsClient : g.Knows clog
  sent : c.up.written <+: stream endpoint clog.acks
  wrote : g.Wrote endpoint c.up.written c.up.pushed
  consumed : f.Consumed endpoint clog.acks slog c.up.consumed c.up.dead
  fits : ∀ served, slog.current.endpoint = some served → (wireRequest endpoint).Fits served
  acked : ∀ ack, slog.current.ack = some ack → clog.acks = [ack]
  single : slog.current.responces.length ≤ 1
  replied : c.down.written <+: replies slog.current.responces
  responded : f.Responded c.down.written c.down.pushed
  received : g.Received slog.current.responces c.down.consumed
  answered : clog.Answered slog.current.responces
  operated : clog.Operated c.rdma
  timed : f.Timed c.serverTimer
  hungUp : c.up.closed = true → Connection.finished (c.clientCall endpoint) = true

section Linked

variable {endpoint : RdmaEndpoint} {slog : ServerLog} {clog : ClientLog} {f : ServerPhase}
  {g : ClientPhase} {c c' : Connection} {ev : SessionEvent}

/-- A connection nothing has happened on. -/
theorem Linked.start : Linked endpoint {} {} .head .start .start where
  server := rfl
  client := rfl
  knowsServer := knows_start
  knowsClient := rfl
  sent := List.nil_prefix
  wrote := ⟨rfl, rfl⟩
  consumed := Or.inl ⟨rfl, rfl, rfl, Or.inr rfl⟩
  fits := fun _ h => nomatch h
  acked := fun _ h => nomatch h
  single := Nat.zero_le 1
  replied := List.nil_prefix
  responded := rfl
  received := rfl
  answered := fun _ h => nomatch h
  operated := ⟨fun _ => rfl, fun _ h => nomatch h⟩
  timed := rfl
  hungUp := fun h => nomatch h

/-- A client acknowledges once, and only what it was permitted. -/
theorem Linked.permitted (h : Linked endpoint slog clog f g c) (hne : clog.acks ≠ []) :
    slog.Permitted := by
  rcases h.knowsClient.acks with h0 | ⟨outcome, ⟨-, -, descriptor, hr⟩, -⟩
  · exact absurd h0 hne
  · obtain ⟨made, hm, hcode⟩ := h.answered _ hr
    exact ⟨made, by rw [hm]; exact List.mem_singleton_self _, hcode⟩

/-- What a client has read was permitted. -/
theorem Linked.permitted_of_responce (hl : Linked endpoint slog clog f g c)
    (h : clog.responce.map Responce.responceCode = some .operationPermitted) :
    slog.Permitted := by
  obtain ⟨responce, hr, hcode⟩ := Option.map_eq_some_iff.mp h
  obtain ⟨made, hm, hmade⟩ := hl.answered responce hr
  exact ⟨made, by rw [hm]; exact List.mem_singleton_self _, hmade.trans hcode⟩

theorem Linked.acks_length (h : Linked endpoint slog clog f g c) : clog.acks.length ≤ 1 := by
  rcases h.knowsClient.acks with h0 | ⟨outcome, -, h1⟩
  · rw [h0]; exact Nat.zero_le 1
  · rw [h1]; exact Nat.le_refl 1

/-- The endpoint a server serves is one the client asked for. -/
theorem ServerStep.fits {f' : ServerPhase} {acks : List Acknowledge} {n : ℕ} {dead : Bool}
    (hs : ServerStep f ev f') (h : f.Consumed endpoint acks slog n dead) (hp : ev.Possible)
    (hfits : ∀ served, slog.current.endpoint = some served → (wireRequest endpoint).Fits served) :
    ∀ served, (slog.note ev).current.endpoint = some served →
      (wireRequest endpoint).Fits served := by
  cases hs with
  | requestDecode bs request => exact fun _ h => nomatch h
  | lookup request served =>
    obtain ⟨⟨-, -, rfl⟩, -⟩ := h
    intro served' h'
    cases h'
    exact hp.getEndpoint
  | _ => exact hfits

/-- The server's notes about the acknowledge are the client's. -/
theorem ServerStep.acked {f' : ServerPhase} {acks : List Acknowledge} {n : ℕ} {dead : Bool}
    (hs : ServerStep f ev f') (h : f.Consumed endpoint acks slog n dead)
    (hev : ev.computed = true) (ha : ∀ ack, slog.current.ack = some ack → acks = [ack]) :
    ∀ ack, (slog.note ev).current.ack = some ack → acks = [ack] := by
  cases hs with
  | requestDecode bs request => exact fun _ h => nomatch h
  | ackDecode request served bs ack =>
    obtain ⟨-, -, made, hacks, rfl⟩ := h
    have hr : Except.ok ack = deserializeAcknowledge (serializeAcknowledge made) := by
      simpa [SessionEvent.computed] using hev
    cases hr
    intro ack' h'
    cases h'
    exact hacks
  | _ => exact ha

/-- What the server has read stays so while the client makes its acknowledge. -/
theorem ServerPhase.Consumed.acknowledge {acks acks' : List Acknowledge} {n : ℕ} {dead : Bool}
    (h : f.Consumed endpoint acks slog n dead) (hacks : acks' = acks ∨ acks = []) :
    f.Consumed endpoint acks' slog n dead := by
  rcases hacks with rfl | rfl
  · exact h
  · cases f with
    | ackDecode request served bs =>
      obtain ⟨-, -, ack, hack, -⟩ := h
      cases hack
    | ackJoin request served ack err =>
      obtain ⟨hbusy, hle, h⟩ := h
      exact ⟨hbusy, hle, fun he => nomatch (h he).2⟩
    | _ => exact h

/-- What the client has read stays so while the server makes its response. -/
theorem ClientPhase.Received.respond {responces responces' : List Responce} {n : ℕ}
    (h : g.Received responces n) (hr : responces' = responces ∨ responces = []) :
    g.Received responces' n := by
  rcases hr with rfl | rfl
  · exact h
  · cases g with
    | responseDecode bs =>
      obtain ⟨made, hm, -⟩ := h
      cases hm
    | _ => exact h

omit [Platform] in
theorem ClientLog.Answered.respond {responces responces' : List Responce}
    (h : clog.Answered responces) (hr : responces' = responces ∨ responces = []) :
    clog.Answered responces' := by
  rcases hr with rfl | rfl
  · exact h
  · intro responce hresponce
    obtain ⟨made, hm, -⟩ := h responce hresponce
    cases hm

/-- A step of the server session. -/
theorem Linked.stepServer (hshort : Short endpoint) (h : Linked endpoint slog clog f g c)
    (hp : ev.Possible) (hstep : c.step endpoint (.server ev) = some c') :
    ∃ f', ServerStep f ev f' ∧ Linked endpoint (slog.note ev) clog f' g c' := by
  obtain ⟨s, ha, hr, hc'⟩ := Connection.step_server hstep
  rw [h.server] at hr
  obtain ⟨f', hf', hs⟩ := server_refines.step f ev _ hr
  obtain ⟨hinw, hinp, hinc⟩ := Side.answer_inp_frame ha
  obtain ⟨houtw, houtc, houtd, -⟩ := Side.answer_out_frame ha
  have hresponces : (slog.note ev).current.responces = slog.current.responces ∨
      slog.current.responces = [] ∧ (slog.note ev).current.responces.length ≤ 1 := by
    refine hs.responces h.knowsServer ?_
    rintro bs request rfl
    cases hs
    have hd : Except.ok request = deserializeRequest bs := by
      simpa [SessionEvent.computed] using Side.answer_computed ha
    rw [(h.consumed.decode hshort hd).2.1]
  have hkept := hresponces.imp_right And.left
  have hperm : ¬ slog.Permitted → clog.acks = [] := fun hn => by
    by_contra hne
    exact hn (h.permitted hne)
  rw [hc']
  exact ⟨f', hs, {
    server := hf'
    client := h.client
    knowsServer := h.knowsServer.step hs hp
    knowsClient := h.knowsClient
    sent := hinw ▸ h.sent
    wrote := by
      change g.Wrote endpoint s.inp.written s.inp.pushed
      rw [hinw, hinp]
      exact h.wrote
    consumed := h.consumed.step hshort hs h.knowsServer h.acks_length h.sent hperm h.timed ha
    fits := hs.fits h.consumed hp h.fits
    acked := hs.acked h.consumed (Side.answer_computed ha) h.acked
    single := by
      rcases hresponces with he | ⟨-, hle⟩
      · rw [he]; exact h.single
      · exact hle
    replied := by
      change s.out.written <+: _
      rw [houtw]
      rcases hkept with he | he
      · rw [he]; exact h.replied
      · have hw := h.replied
        rw [he] at hw
        change c.down.written <+: _
        rw [List.prefix_nil.mp hw]
        exact List.nil_prefix
    responded := h.responded.step hs h.knowsServer h.replied ha
    received := by
      change g.Received _ s.out.consumed
      rw [houtc]
      exact h.received.respond hkept
    answered := h.answered.respond hkept
    operated := h.operated
    timed := h.timed.step hs ha
    hungUp := hinc ▸ h.hungUp }⟩

/-- A step of the client session. -/
theorem Linked.stepClient (h : Linked endpoint slog clog f g c)
    (hstep : c.step endpoint (.client ev) = some c') :
    ∃ g', ClientStep endpoint g ev g' ∧ Linked endpoint slog (clog.note ev) f g' c' := by
  obtain ⟨s, ha, hrdma, hr, hc'⟩ := Connection.step_client hstep
  have hopen : c.up.closed = false := by
    by_contra hc
    have hfin := h.hungUp (by simpa using hc)
    rw [Connection.clientCall, Connection.not_finished hr] at hfin
    cases hfin
  rw [h.client] at hr
  obtain ⟨g', hg', hs⟩ := (client_refines endpoint).step g ev _ hr
  obtain ⟨hinw, hinp, -⟩ := Side.answer_inp_frame ha
  obtain ⟨houtw, houtc, houtd, houtk⟩ := Side.answer_out_frame ha
  have hacks := hs.acks h.knowsClient
  rw [hc']
  exact ⟨g', hs, {
    server := h.server
    client := hg'
    knowsServer := h.knowsServer
    knowsClient := h.knowsClient.step hs
    sent := by
      change s.out.written <+: _
      rw [houtw]
      rcases hacks with he | he
      · rw [he]; exact h.sent
      · refine h.sent.trans ?_
        rw [he]
        exact stream_grows _
    wrote := h.wrote.step hs ha
    consumed := by
      change f.Consumed _ _ _ s.out.consumed s.out.dead
      rw [houtc, houtd]
      exact h.consumed.acknowledge hacks
    fits := h.fits
    acked := fun ack hack => by
      have hone := h.acked ack hack
      rcases hacks with he | he
      · exact he.trans hone
      · rw [he] at hone
        cases hone
    single := h.single
    replied := hinw ▸ h.replied
    responded := by
      change f.Responded s.inp.written s.inp.pushed
      rw [hinw, hinp]
      exact h.responded
    received := h.received.step hs h.replied h.single ha
    answered := h.answered.step h.received hs ha
    operated := h.operated.step h.knowsClient hs hrdma
    timed := h.timed
    hungUp := fun hc => by
      have hk : c.up.closed = true := houtk.symm.trans hc
      rw [hopen] at hk
      cases hk }⟩

/-- The labels whose answers some storage gives. -/
def ConnectionLabel.Possible : ConnectionLabel → Prop
  | server ev => ev.Possible
  | _ => True

/-- A step that neither session takes. -/
theorem Linked.stepQuiet {l : ConnectionLabel} (h : Linked endpoint slog clog f g c)
    (hs : l.ofServer = none) (hc : l.ofClient = none) (hstep : c.step endpoint l = some c') :
    Linked endpoint slog clog f g c' := by
  cases Connection.step_moves hstep with
  | server ev s server hs' hr => cases hs
  | client ev s rdma client hs' hrdma hr => cases hc
  | fetchUp size up hf =>
    obtain ⟨hw, hp, hn, hd, hk⟩ := Channel.fetch_inv hf
    exact { h with
      sent := hw ▸ h.sent
      wrote := by
        change g.Wrote endpoint up.written up.pushed
        rw [hw, hp]
        exact h.wrote
      consumed := by
        change f.Consumed endpoint clog.acks slog up.consumed up.dead
        rw [hn, hd]
        exact h.consumed
      hungUp := hk ▸ h.hungUp }
  | fetchDown size down hf =>
    obtain ⟨hw, hp, hn, -⟩ := Channel.fetch_inv hf
    exact { h with
      replied := hw ▸ h.replied
      responded := by
        change f.Responded down.written down.pushed
        rw [hw, hp]
        exact h.responded
      received := hn ▸ h.received }
  | pushUp bs up hcall hf =>
    rw [Connection.clientCall, h.client] at hcall
    obtain ⟨g', hg⟩ := (client_refines endpoint).of_pending hcall (.ok ())
    obtain ⟨hwrote, hsent⟩ := h.wrote.push h.knowsClient hg hf
    obtain ⟨-, -, -, -, hn, hd, hk⟩ := Channel.push_inv hf
    exact { h with
      sent := hsent
      wrote := hwrote
      consumed := by
        change f.Consumed endpoint clog.acks slog up.consumed up.dead
        rw [hn, hd]
        exact h.consumed
      hungUp := hk ▸ h.hungUp }
  | pushDown bs down hcall hf =>
    rw [Connection.serverCall, h.server] at hcall
    obtain ⟨f', hg⟩ := server_refines.of_pending hcall (.ok ())
    obtain ⟨hresponded, hreplied⟩ := h.responded.push h.knowsServer hg hf
    obtain ⟨-, -, -, -, hn, -⟩ := Channel.push_inv hf
    exact { h with
      replied := hreplied
      responded := hresponded
      received := hn ▸ h.received }
  | serverTimeout timer hf => exact { h with timed := h.timed.fire hf }
  | complete err hr =>
    refine { h with operated := ⟨fun hs => ?_, fun err' he => ?_⟩ }
    · rw [h.operated.1 hs] at hr
      cases hr
    · rw [h.operated.2 _ he] at hr
      cases hr
  | clientCloses hfin => exact { h with hungUp := fun _ => hfin }
  | _ => exact { h with }

/-- The runs of a connection: every answer of the storage is one that some storage gives. -/
abbrev ConnectionRun (endpoint : RdmaEndpoint) (ls : List ConnectionLabel) (c : Connection) :
    Prop :=
  (connection endpoint).RunWith (fun _ _ l => l.Possible) .start ls c

/-- **The invariant rule for linked sessions**: what holds at the start, and is preserved by every
step of the server, of the client and of what lies between them, holds where a run has got to. -/
theorem Linked.run (hshort : Short endpoint) {ls : List ConnectionLabel}
    {Good : List ConnectionLabel → Connection → ConnectionLabel → Prop}
    (hpossible : ∀ ls c l, Good ls c l → l.Possible)
    {J : List ConnectionLabel → ServerPhase → ClientPhase → Connection → Prop}
    (h0 : J [] .head .start .start)
    (hserver : ∀ ls f f' g c c' ev, Linked endpoint (serverSays ls) (clientSays ls) f g c →
      J ls f g c → Good ls c (.server ev) → ServerStep f ev f' →
      c.step endpoint (.server ev) = some c' → J (ls ++ [.server ev]) f' g c')
    (hclient : ∀ ls f g g' c c' ev, Linked endpoint (serverSays ls) (clientSays ls) f g c →
      J ls f g c → Good ls c (.client ev) → ClientStep endpoint g ev g' →
      c.step endpoint (.client ev) = some c' → J (ls ++ [.client ev]) f g' c')
    (hquiet : ∀ ls f g c c' l, Linked endpoint (serverSays ls) (clientSays ls) f g c →
      J ls f g c → Good ls c l → l.ofServer = none → l.ofClient = none →
      c.step endpoint l = some c' → J (ls ++ [l]) f g c')
    (h : (connection endpoint).RunWith Good .start ls c) :
    ∃ f g, Linked endpoint (serverSays ls) (clientSays ls) f g c ∧ J ls f g c := by
  refine Machine.RunWith.invariant
    (I := fun ls c => ∃ f g, Linked endpoint (serverSays ls) (clientSays ls) f g c ∧ J ls f g c)
    ⟨.head, .start, .start, h0⟩ ?_ h
  rintro ls c l c' - ⟨f, g, hl, hJ⟩ hgood (hstep : c.step endpoint l = some c')
  cases hs : l.ofServer with
  | some ev =>
    obtain rfl : l = .server ev := by cases l <;> cases hs; rfl
    obtain ⟨f', hstep', hl'⟩ := hl.stepServer hshort (hpossible _ _ _ hgood) hstep
    rw [serverSays_server, clientSays_silent rfl]
    exact ⟨f', g, hl', hserver ls f f' g c c' ev hl hJ hgood hstep' hstep⟩
  | none =>
    rw [serverSays_silent hs]
    cases hc : l.ofClient with
    | some ev =>
      obtain rfl : l = .client ev := by cases l <;> cases hc; rfl
      obtain ⟨g', hstep', hl'⟩ := hl.stepClient hstep
      rw [clientSays_client]
      exact ⟨f, g', hl', hclient ls f g g' c c' ev hl hJ hgood hstep' hstep⟩
    | none =>
      rw [clientSays_silent hc]
      exact ⟨f, g, hl.stepQuiet hs hc hstep, hquiet ls f g c c' l hl hJ hgood hs hc hstep⟩

/-- **The sessions of a connection stay linked.** -/
theorem linked_run (hshort : Short endpoint) {ls : List ConnectionLabel}
    (h : ConnectionRun endpoint ls c) :
    ∃ f g, Linked endpoint (serverSays ls) (clientSays ls) f g c := by
  obtain ⟨f, g, hl, -⟩ := Linked.run hshort (fun _ _ _ hp => hp)
    (J := fun _ _ _ _ => True) trivial (fun _ _ _ _ _ _ _ _ _ _ _ _ => trivial)
    (fun _ _ _ _ _ _ _ _ _ _ _ _ => trivial) (fun _ _ _ _ _ _ _ _ _ _ _ _ => trivial) h
  exact ⟨f, g, hl⟩

end Linked

end DocaCpp
