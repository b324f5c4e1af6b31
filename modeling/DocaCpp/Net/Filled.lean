/-
# A buffer is filled before it is read

A client that asks for a read endpoint reads the server's buffer only after the server's service has
filled it: the permission the client waits for is made behind that call.  The chain has a link on
each side of the stream.  At the server, a permission for a read endpoint is preceded by a call of
its service for the same request (`server_filled`); between the two sides, the request the server
decoded is the client's and the code the client decoded is the server's (`Linked`).

`filled_before_read` puts the links together, for any number of clients.  It needs a path that fits
its length words, which have 32 bits.  §4 and §5 follow a request whose path does not: what the
server decodes is any payload whose frame the stream begins with (`exec_overreading`), and that can
be the request for another endpoint (`read_unfilled`).
-/
import DocaCpp.Net.Completion

namespace DocaCpp

variable [Platform]

/-! ## 1. What a permission says of the service -/

/-- If the request was permitted then an endpoint was found for it and, if that is a read endpoint,
its service was called for this request and returned no error. -/
def ServerLog.Filled (log : ServerLog) : Prop :=
  log.Permitted → ∃ served, log.current.endpoint = some served ∧
    (served.type = .read → (served, .returned none) ∈ log.current.handled)

section Filled

variable {f f' : ServerPhase} {ev : SessionEvent} {log : ServerLog}

/-- **Nothing is permitted that was not filled.** -/
theorem ServerLog.Filled.step (h : log.Filled) (hk : f.Knows log) (hs : ServerStep f ev f') :
    (log.note ev).Filled := by
  cases hs with
  | requestDecode bs request =>
    rintro ⟨responce, hm, -⟩
    cases hm
  | lookup request served =>
    obtain ⟨-, -, hcur⟩ := hk
    rintro ⟨responce, hm, -⟩
    change responce ∈ log.current.responces at hm
    rw [hcur] at hm
    cases hm
  | prepared request served descriptor | prepareFailed request served descriptor err
  | prepareThrew request served descriptor | prepareNull request served descriptor
  | processed request served err | processThrew request served | processNull request served =>
    intro hp
    obtain ⟨served', hserved, hhandled⟩ := h hp
    exact ⟨served', hserved, fun ht => List.mem_cons_of_mem _ (hhandled ht)⟩
  | serialize reply bs =>
    obtain ⟨-, -, -, hcur⟩ := hk
    rintro ⟨responce, hm, hcode⟩
    obtain rfl : responce = reply.responce := by
      simpa [ServerLog.note, hcur, Sending.responces] using hm
    cases reply with
    | permitted request served descriptor =>
      refine ⟨served, congrArg Exchange.endpoint hcur, fun ht => ?_⟩
      change _ ∈ log.current.handled
      rw [hcur]
      simp [Reply.exchange, ht]
    | _ => cases hcode
  | _ => exact h

/-- **A session that has permitted a read has filled the buffer.** -/
theorem server_filled {evs : List SessionEvent} {c : Session} (h : ServerRun evs c) :
    (serverLog evs).Filled := by
  obtain ⟨f, -, -, hfilled⟩ := server_refines.run .head
    (I := fun evs f => f.Knows (serverLog evs) ∧ (serverLog evs).Filled)
    ⟨knows_start, fun ⟨_, h, _⟩ => nomatch h⟩
    (fun evs f ev f' hI hp hs => by
      rw [serverLog_snoc]
      exact ⟨hI.1.step hs hp, hI.2.step hI.1 hs⟩) h
  exact hfilled

end Filled

/-! ## 2. The one request of a connection -/

section Decoded

variable {endpoint : RdmaEndpoint} {ls ms : List ConnectionLabel} {c : Connection}

omit [Platform] in
theorem decoded_note (log : ServerLog) (ev : SessionEvent) :
    (log.note ev).decoded = log.decoded ∨
      ∃ bs request, ev = ⟨.deserializeRequest bs, .ok request⟩ ∧
        (log.note ev).decoded = log.decoded + 1 := by
  obtain ⟨op, r⟩ := ev
  cases op with
  | deserializeRequest bs =>
    cases r with
    | ok request => exact Or.inr ⟨bs, request, rfl, rfl⟩
    | error fault => exact Or.inl rfl
  | getEndpoint id | exportMemoryDescriptor served | deserializeAcknowledge bs =>
    cases r <;> exact Or.inl rfl
  | _ => exact Or.inl rfl

omit [Platform] in
theorem decoded_mono : (serverSays ls).decoded ≤ (serverSays (ls ++ ms)).decoded := by
  induction ms using List.reverseRecOn with
  | nil => rw [List.append_nil]
  | append_singleton ms l ih =>
    rw [← List.append_assoc]
    refine ih.trans ?_
    cases hl : l.ofServer with
    | none => rw [serverSays_silent hl]
    | some ev =>
      obtain rfl : l = .server ev := by cases l <;> cases hl; rfl
      rw [serverSays_server]
      rcases decoded_note (serverSays (ls ++ ms)) ev with h | ⟨-, -, -, h⟩
      · exact Nat.le_of_eq h.symm
      · rw [h]
        exact Nat.le_succ _

/-- **A session decodes one request at most.** -/
theorem decoded_le_one (hshort : Short endpoint) (h : ConnectionRun endpoint ls c) :
    (serverSays ls).decoded ≤ 1 := by
  obtain ⟨f, g, -, hone⟩ := Linked.run hshort (fun _ _ _ hp => hp)
    (J := fun ls _ _ _ => (serverSays ls).decoded ≤ 1) (Nat.zero_le 1)
    (fun ls f f' g c c' ev hl hone _ hs hstep => by
      rw [serverSays_server]
      rcases decoded_note (serverSays ls) ev with h | ⟨bs, request, rfl, h⟩
      · rw [h]
        exact hone
      · obtain ⟨s, ha, -⟩ := Connection.step_server hstep
        have hr : Except.ok request = deserializeRequest bs := by
          simpa [SessionEvent.computed] using Side.answer_computed ha
        obtain rfl : f = .requestDecode bs := by cases hs; rfl
        have hnone := (hl.consumed.decode hshort hr).1
        rw [h, hnone])
    (fun ls f g g' c c' ev hl hone _ hs hstep => by
      rw [serverSays_silent rfl]
      exact hone)
    (fun ls f g c c' l hl hone _ hsil hcl hstep => by
      rw [serverSays_silent hsil]
      exact hone) h
  exact hone

/-- Where a read was about to be prepared, seen from a later state. -/
theorem read_called {served : RdmaEndpoint} {result : UserCall error} (hshort : Short endpoint)
    (h : ConnectionRun endpoint (ls ++ .server ⟨.handle served, result⟩ :: ms) c) :
    (serverSays ls).held = [endpoint.path] ∧
      (serverSays ls).current.request = some (wireRequest endpoint) ∧
      (serverSays (ls ++ .server ⟨.handle served, result⟩ :: ms)).decoded = 1 := by
  obtain ⟨f, g, d, hl, hcall⟩ := handle_called hshort h
  obtain ⟨hheld, hone, hrequest, -⟩ := hl.calling hcall
  refine ⟨hheld, hrequest, Nat.le_antisymm (decoded_le_one hshort h) ?_⟩
  rw [← hone]
  exact decoded_mono

end Decoded

/-! ## 3. The network -/

section Network

variable {ι : Type} [DecidableEq ι] {endpoints : ι → RdmaEndpoint} {n : Network ι} {i : ι}
  {ls : List (NetworkLabel ι)} {storage : RdmaEndpointStorage} {operation : RdmaOperationRequest}

theorem submits {endpoint : RdmaEndpoint} {g : ClientPhase}
    (h : (g.session endpoint).pending (clientPass true endpoint)
      = some (.submitOperation operation)) :
    ∃ type descriptor, g = .submit type descriptor := by
  obtain ⟨g', hs⟩ := (client_refines endpoint).of_pending h none
  cases hs with
  | submitted type descriptor => exact ⟨type, descriptor, rfl⟩

/-- **A buffer is filled before it is read**, for any number of clients and whatever is delayed:
when the client of a read endpoint is about to submit its operation, the session that serves it has
decoded one request, the client's, and for it has called the service of the endpoint registered
with that path and type, which returned no error, while it held the path. -/
theorem filled_before_read (hrun : (network endpoints).Run (Network.start ι storage) ls n)
    (hshort : Short (endpoints i)) (hr : (endpoints i).type = .read)
    (hcall : (n.conn i).clientCall (endpoints i) = some (.submitOperation operation)) :
    ∃ served ms₁ ms₂, historyOf i ls = ms₁ ++ .server ⟨.handle served, .returned none⟩ :: ms₂ ∧
      storage.Holds served ∧ served.path = (endpoints i).path ∧ served.type = .read ∧
      (serverSays ms₁).held = [(endpoints i).path] ∧
      (serverSays ms₁).current.request = some (clientRequest (endpoints i)) ∧
      (serverSays (historyOf i ls)).decoded = 1 := by
  have hconn : ConnectionRun (endpoints i) (historyOf i ls) (n.conn i) :=
    (network_connection i (P := fun _ _ _ => True) (fun _ _ _ => trivial) (fun _ _ _ _ => trivial)
      hrun).mono fun _ _ _ h => h.1
  obtain ⟨f, g, hl⟩ := linked_run hshort hconn
  rw [Connection.clientCall, hl.client] at hcall
  obtain ⟨type, descriptor, rfl⟩ := submits hcall
  -- the client has read a permission, so the server has made one
  have hperm : (serverSays (historyOf i ls)).Permitted := by
    refine hl.permitted_of_responce ?_
    rw [show clientSays (historyOf i ls) = permittedLog descriptor from hl.knowsClient]
    rfl
  have hpool := network_pool hrun
  have hfilled : (logOf i (serverHistory ls)).Filled := server_filled (pool_session hpool i)
  have hfound := (pool_found hpool).2 i
  rw [logOf_serverHistory] at hfilled hfound
  obtain ⟨served, hserved, hhandled⟩ := hfilled hperm
  obtain ⟨hpath, htype⟩ := hl.fits served hserved
  have hread : served.type = .read := by
    refine endpointTypeToString_read (htype.trans ?_)
    rw [wireRequest, hr]
    rfl
  obtain ⟨ms₁, ms₂, hsplit⟩ := handled_split (hhandled hread)
  dsimp only at hsplit
  have hwire : wireRequest (endpoints i) = clientRequest (endpoints i) := by
    rw [wireRequest, clientRequest, hr]
    rfl
  rw [hsplit] at hconn ⊢
  obtain ⟨hheld, hrequest, hdecoded⟩ := read_called hshort hconn
  exact ⟨served, ms₁, ms₂, rfl, hfound served hserved, hpath, hread, hheld,
    hrequest.trans (congrArg some hwire), hdecoded⟩

end Network

/-! ## 4. Frames that nothing disturbs -/

namespace Connection

variable {endpoint : RdmaEndpoint} {c : Connection} {bs rest : Bytes}

/-- The rest of the buffer of the pending write becomes visible. -/
theorem exec_pushUp (hcall : c.clientCall endpoint = some (.asyncWrite bs))
    (hrest : bs.drop c.up.pushed = rest) :
    (connection endpoint).exec c (List.replicate rest.length .pushUp)
      = some { c with up := c.up.extend rest } := by
  induction rest generalizing c with
  | nil => simp [Machine.exec, Channel.extend]
  | cons b rest ih =>
    have hstep : c.step endpoint .pushUp = some { c with up := c.up.extend [b] } := by
      simp only [step, hcall, Channel.push_eq hrest, Option.map_some]
    have hnext : bs.drop (c.up.extend [b]).pushed = rest := by
      rw [Channel.extend, List.length_singleton, ← List.drop_drop, hrest]
      rfl
    rw [List.length_cons, List.replicate_succ, Machine.exec]
    change (c.step endpoint .pushUp).bind _ = _
    rw [hstep]
    have hih := @ih { c with up := c.up.extend [b] } hcall hnext
    refine hih.trans ?_
    rw [Channel.extend_extend]
    rfl

/-- **A write that nothing disturbs** carries the whole buffer. -/
theorem exec_write {size : ℕ} {client : Session} (hsize : bs.length = size)
    (hpushed : c.up.pushed = 0)
    (hr : c.client.resume (clientPass true endpoint) ⟨.asyncWrite bs, .ok ()⟩ = some client) :
    (connection endpoint).exec c
        (List.replicate size .pushUp ++ [.client ⟨.asyncWrite bs, .ok ()⟩])
      = some { c with client := client, up := c.up.append bs } := by
  subst hsize
  have hcall : c.clientCall endpoint = some (.asyncWrite bs) := Loop.pending_of_resume hr
  rw [Machine.exec_append, exec_pushUp hcall (by rw [hpushed]; rfl)]
  change (Connection.step endpoint { c with up := c.up.extend bs }
    (.client ⟨.asyncWrite bs, .ok ()⟩)).bind some = _
  simp only [step, Side.answer, clientSide, Channel.wrote_extend hpushed, Option.map_some,
    Option.bind_some, Rdma.answer, hr]

theorem step_fetchUp {size : ℕ} (hcall : c.serverCall = some (.asyncRead size)) :
    c.step endpoint .fetchUp = (c.up.fetch size).map fun up => { c with up := up } := by
  simp only [step, hcall]

/-- The pending read collects a part of its buffer. -/
theorem exec_fetchUp {size : ℕ} (hcall : c.serverCall = some (.asyncRead size))
    (htaken : c.up.taken = 0) (hdead : c.up.dead = false) :
    ∀ (n : ℕ) (_ : n ≤ size) (h : c.up.consumed + n ≤ c.up.written.length),
      (connection endpoint).exec c (List.replicate n .fetchUp)
        = some { c with up := c.up.collect n h hdead } := by
  intro n
  induction n with
  | zero =>
    intro _ h
    rw [Channel.collect_zero htaken]
    rfl
  | succ n ih =>
    intro hn h
    have hbefore : c.up.consumed + n ≤ c.up.written.length := by omega
    have hstep : Connection.step endpoint { c with up := c.up.collect n hbefore hdead } .fetchUp
        = some { c with up := c.up.collect (n + 1) h hdead } := by
      rw [step_fetchUp (c := { c with up := c.up.collect n hbefore hdead }) hcall,
        Channel.fetch_collect hn h]
      rfl
    rw [List.replicate_succ']
    exact Machine.exec_trans (ih (Nat.le_of_succ_le hn) hbefore)
      (Option.bind_eq_some_iff.mpr ⟨_, hstep, rfl⟩)

/-- **A read that nothing disturbs** gets the next part of the stream. -/
theorem exec_read {size : ℕ} {server : Session} (hsize : bs.length = size)
    (htaken : c.up.taken = 0) (hdead : c.up.dead = false)
    (hbs : bs <+: c.up.written.drop c.up.consumed)
    (h : c.up.consumed + size ≤ c.up.written.length)
    (hr : c.server.resume serverPass ⟨.asyncRead size, .ok bs⟩ = some server) :
    (connection endpoint).exec c
        (List.replicate size .fetchUp ++ [.server ⟨.asyncRead size, .ok bs⟩])
      = some { c with server := server, up := c.up.advance size h } := by
  subst hsize
  have hcall : c.serverCall = some (.asyncRead bs.length) := Loop.pending_of_resume hr
  rw [Machine.exec_append, exec_fetchUp hcall htaken hdead bs.length le_rfl h]
  change (Connection.step endpoint { c with up := c.up.collect bs.length h hdead }
    (.server ⟨.asyncRead bs.length, .ok bs⟩)).bind some = _
  simp only [step, Side.answer, serverSide, Channel.finish_collect hbs rfl, if_true,
    Option.bind_some, Option.map_some, hr]

end Connection

section Frames

variable {endpoint : RdmaEndpoint} {c : Connection} {bs : Bytes}

/-- **A client that nothing disturbs writes its request**, however long that is. -/
theorem exec_clientWrites (hclient : c.client = (ClientPhase.requestLength bs).session endpoint)
    (hpushed : c.up.pushed = 0) :
    (connection endpoint).exec c (clientWrites bs)
      = some { c with
          client := ClientPhase.responseLength.session endpoint
          up := (c.up.append (uint32Bytes bs.length)).append bs } := by
  have hlength : (connection endpoint).exec c (List.replicate 4 .pushUp ++
      [.client ⟨.asyncWrite (uint32Bytes bs.length), .ok ()⟩])
      = some { c with
          client := (ClientPhase.requestPayload bs).session endpoint
          up := c.up.append (uint32Bytes bs.length) } := by
    refine Connection.exec_write (length_uint32Bytes _) hpushed ?_
    rw [hclient]
    exact (ClientStep.requestLength bs).resume
  have hpayload : (connection endpoint).exec
      { c with
        client := (ClientPhase.requestPayload bs).session endpoint
        up := c.up.append (uint32Bytes bs.length) }
      (List.replicate bs.length .pushUp ++ [.client ⟨.asyncWrite bs, .ok ()⟩])
      = some { c with
          client := ClientPhase.responseLength.session endpoint
          up := (c.up.append (uint32Bytes bs.length)).append bs } :=
    Connection.exec_write rfl rfl (ClientStep.requestPayload bs).resume
  simpa [clientWrites] using Machine.exec_trans hlength hpayload

/-- **A server that nothing disturbs reads a frame** that comes next in the stream. -/
theorem exec_serverReads (hserver : c.server = ServerPhase.requestLength.session)
    (htaken : c.up.taken = 0) (hdead : c.up.dead = false) (hsize : bs.length < 2 ^ 32)
    (hnext : frame bs <+: c.up.written.drop c.up.consumed)
    (hle : c.up.consumed + (4 + bs.length) ≤ c.up.written.length) :
    (connection endpoint).exec c (serverReads bs)
      = some { c with
          server := (ServerPhase.requestDecode bs).session
          up := c.up.advance (4 + bs.length) hle } := by
  have hfour : c.up.consumed + 4 ≤ c.up.written.length := by omega
  have hword : uint32Of (uint32Bytes bs.length) = bs.length := by
    rw [uint32Of_uint32Bytes, Nat.mod_eq_of_lt hsize]
  have hreadLength : (connection endpoint).exec c (List.replicate 4 .fetchUp ++
      [.server ⟨.asyncRead 4, .ok (uint32Bytes bs.length)⟩])
      = some { c with
          server := (ServerPhase.requestPayload bs.length).session
          up := c.up.advance 4 hfour } := by
    refine Connection.exec_read (length_uint32Bytes _) htaken hdead
      ((List.prefix_append _ _).trans hnext) hfour ?_
    rw [hserver, (ServerStep.requestLength _).resume, hword]
  have hend : c.up.consumed + 4 + bs.length ≤ c.up.written.length := by omega
  have hrest : bs <+: c.up.written.drop (c.up.consumed + 4) := by
    rw [← List.drop_drop]
    obtain ⟨rest, hrest⟩ := hnext
    refine ⟨rest, ?_⟩
    rw [← hrest, frame, List.append_assoc, List.drop_left' (length_uint32Bytes _)]
  have hboth := Machine.exec_trans hreadLength (Connection.exec_read
    (c := { c with
      server := (ServerPhase.requestPayload bs.length).session
      up := c.up.advance 4 hfour })
    rfl rfl hdead hrest hend (ServerStep.requestPayload bs.length bs).resume)
  rw [Channel.advance_advance] at hboth
  simpa [serverReads] using hboth

end Frames

/-! ## 5. A path that does not fit -/

section Overlong

variable {endpoint : RdmaEndpoint} {payload : Bytes}

/-- The client asks. -/
def asks (endpoint : RdmaEndpoint) : List ConnectionLabel :=
  [.client ⟨.startTimer 5000, ()⟩,
    .client ⟨.serializeRequest (clientRequest endpoint), requestOf endpoint⟩] ++
    clientWrites (requestOf endpoint)

/-- Where that leads. -/
def asked (endpoint : RdmaEndpoint) : Connection :=
  { Connection.start with
    client := ClientPhase.responseLength.session endpoint
    up := (Connection.start.up.append (uint32Bytes (requestOf endpoint).length)).append
      (requestOf endpoint)
    clientTimer := .armed 5000 }

theorem exec_asks : (connection endpoint).exec .start (asks endpoint) = some (asked endpoint) := by
  have hr : (ClientPhase.requestSerialize.session endpoint).resume (clientPass true endpoint)
      ⟨.serializeRequest (clientRequest endpoint), requestOf endpoint⟩
      = some ((ClientPhase.requestLength (requestOf endpoint)).session endpoint) :=
    (ClientStep.requestSerialize (requestOf endpoint)).resume
  have hcomputed : SessionEvent.computed
      ⟨.serializeRequest (clientRequest endpoint), requestOf endpoint⟩ = true := decide_eq_true rfl
  have hstart : (connection endpoint).exec .start [.client ⟨.startTimer 5000, ()⟩,
      .client ⟨.serializeRequest (clientRequest endpoint), requestOf endpoint⟩]
      = some { Connection.start with
          client := (ClientPhase.requestLength (requestOf endpoint)).session endpoint
          clientTimer := .armed 5000 } := by
    change (Connection.step endpoint
      { Connection.start with
        client := ClientPhase.requestSerialize.session endpoint
        clientTimer := .armed 5000 }
      (.client ⟨.serializeRequest (clientRequest endpoint), requestOf endpoint⟩)).bind some = _
    simp only [Connection.step, Side.answer, Rdma.answer, hcomputed, hr, if_true,
      Option.bind_some, Option.map_some]
    rfl
  exact Machine.exec_trans hstart (exec_clientWrites rfl rfl)

theorem overread_le (h : frame payload <+: frame (requestOf endpoint)) :
    (asked endpoint).up.consumed + (4 + payload.length) ≤ (asked endpoint).up.written.length := by
  have hle := h.length_le
  rw [length_frame, Nat.add_comm _ 4] at hle
  exact (Nat.zero_add _).le.trans hle

/-- The server has read a payload of which the stream begins with the frame. -/
def overread (h : frame payload <+: frame (requestOf endpoint)) : Connection :=
  { asked endpoint with
    server := (ServerPhase.requestDecode payload).session
    up := (asked endpoint).up.advance (4 + payload.length) (overread_le h) }

/-- The client asks, and the server reads this payload. -/
def overreading (endpoint : RdmaEndpoint) (payload : Bytes) : List ConnectionLabel :=
  asks endpoint ++ ([.server ⟨.isOpen, true⟩] ++ serverReads payload)

/-- **What the server decodes** is any payload whose frame begins the stream. -/
theorem exec_overreading (hsize : payload.length < 2 ^ 32)
    (h : frame payload <+: frame (requestOf endpoint)) :
    (connection endpoint).exec .start (overreading endpoint payload) = some (overread h) := by
  have hopen : (connection endpoint).exec (asked endpoint) [.server ⟨.isOpen, true⟩]
      = some { asked endpoint with server := ServerPhase.requestLength.session } := rfl
  exact Machine.exec_trans exec_asks (Machine.exec_trans hopen (exec_serverReads
    (c := { asked endpoint with server := ServerPhase.requestLength.session })
    rfl rfl rfl hsize h (overread_le h)))

/-- A label in which neither the storage nor a service has a part. -/
def aside : ConnectionLabel → Bool
  | .pushUp | .fetchUp | .client _ | .server ⟨.isOpen, _⟩ | .server ⟨.asyncRead _, _⟩ => true
  | _ => false

theorem answer_aside {storage : RdmaEndpointStorage} {l : ConnectionLabel}
    (h : aside l = true) : Network.answer storage l = some storage := by
  cases l with
  | server ev =>
    obtain ⟨op, r⟩ := ev
    cases op <;> first | rfl | cases h
  | tick milliseconds => cases h
  | _ => rfl

theorem overreading_aside : (overreading endpoint payload).all aside = true := by
  simp [overreading, asks, clientWrites, serverReads, aside]

/-- A connection that leaves the storage alone, in the network of its client only. -/
theorem exec_alone {storage : RdmaEndpointStorage} {ls : List ConnectionLabel}
    {c c' : Connection} (h : (connection endpoint).exec c ls = some c')
    (hs : ls.all aside = true) :
    (network fun _ : Unit => endpoint).exec ⟨storage, fun _ => c⟩ (ls.map (.conn ()))
      = some ⟨storage, fun _ => c'⟩ := by
  induction ls generalizing c with
  | nil =>
    cases h
    rfl
  | cons l ls ih =>
    rw [List.all_cons, Bool.and_eq_true] at hs
    obtain ⟨d, hd, h⟩ := Option.bind_eq_some_iff.mp h
    have hstep : Network.step (fun _ : Unit => endpoint) ⟨storage, fun _ => c⟩ (.conn () l)
        = some ⟨storage, fun _ => d⟩ := by
      have hc : c.step endpoint l = some d := hd
      have hupdate : Function.update (fun _ : Unit => c) () d = fun _ => d := by
        funext u
        exact dif_pos rfl
      simp only [Network.step, answer_aside hs.1, hc, Option.bind_some, Option.map_some, hupdate]
    exact Option.bind_eq_some_iff.mpr ⟨_, hstep, ih h hs.2⟩

omit [Platform] in
theorem historyOf_alone (ls : List ConnectionLabel) :
    historyOf () (ls.map (.conn ())) = ls := by
  simp [historyOf, List.filterMap_map, NetworkLabel.on, Function.comp_def]

end Overlong

/-! ## 6. Samples -/

/-- The server finds a read endpoint, lets its service fill the buffer and permits. -/
def filling (endpoint : RdmaEndpoint) (descriptor : Bytes) : List ConnectionLabel :=
  let payload := serializeResponse ⟨.operationPermitted, descriptor⟩
  List.flatten [
    [.server ⟨.waitForEstablishedConnection 3000, none⟩,
      .server ⟨.getEndpoint endpoint.makeEndpointId, .ok endpoint⟩,
      .server ⟨.exportMemoryDescriptor endpoint, .returned (.ok descriptor)⟩,
      .server ⟨.tryLockEndpointsByPath endpoint.path, (true, none)⟩,
      .server ⟨.handle endpoint, .returned none⟩,
      .server ⟨.serializeResponse ⟨.operationPermitted, descriptor⟩, payload⟩],
    serverWrites payload]

/-- The client has its permission and its connection. -/
def reading (descriptor : Bytes) : List ConnectionLabel :=
  permitted descriptor ++ [.client ⟨.fromExportedRemoteDescriptor descriptor, none⟩,
    .client ⟨.getActiveConnection, none⟩]

omit [Platform] in
theorem filled_before_read_sample :
    letI := Platform.littleEndian
    ∃ ls served ms₁ ms₂, historyOf () ls = ms₁ ++ .server ⟨.handle served, .returned none⟩ :: ms₂ ∧
      sampleStorage.Holds served ∧ served.path = sampleEndpoint.path ∧ served.type = .read ∧
      (serverSays ms₁).held = [sampleEndpoint.path] ∧
      (serverSays ms₁).current.request = some (clientRequest sampleEndpoint) ∧
      (serverSays (historyOf () ls)).decoded = 1 := by
  let _ := Platform.littleEndian
  have hexec : ((network fun _ : Unit => sampleEndpoint).exec (Network.start Unit sampleStorage)
      ((asking sampleEndpoint ++ filling sampleEndpoint [7] ++ reading [7]).map (.conn ()))).any
      (fun n => decide ((n.conn ()).clientCall sampleEndpoint
        = some (.submitOperation ⟨.read, some 0, [7]⟩))) = true := by decide +kernel
  obtain ⟨n, hn, hcall⟩ := (Option.any_eq_true _ _).mp hexec
  exact ⟨_, filled_before_read (Machine.exec_run hn) (by decide) rfl (of_decide_eq_true hcall)⟩

/-- A read endpoint whose path does not fit its length word. -/
def overlongEndpoint : RdmaEndpoint := ⟨List.replicate (2 ^ 32) 0, .read, some 1, some 1⟩

/-- The server decodes the request for the empty path, fills and permits, and the client of the
other path goes on to its operation. -/
def misreading : List ConnectionLabel :=
  .server ⟨.deserializeRequest (requestOf sampleEndpoint), .ok (wireRequest sampleEndpoint)⟩ ::
    (filling sampleEndpoint [7] ++ reading [7])

omit [Platform] in
theorem overlongEndpoint_length : overlongEndpoint.path.length = 2 ^ 32 := List.length_replicate

omit [Platform] in
/-- Both length words are the ones of the request for the empty path. -/
theorem overlong_frame :
    letI := Platform.littleEndian
    frame (requestOf sampleEndpoint) <+: frame (requestOf overlongEndpoint) := by
  let _ := Platform.littleEndian
  have hframe : frame (requestOf overlongEndpoint) = uint32Bytes (2 ^ 32 + 5) ++
      (RdmaEndpointType.toByte .read :: (uint32Bytes (2 ^ 32) ++ overlongEndpoint.path)) := by
    rw [frame, length_requestOf, ← overlongEndpoint_length]
    rfl
  have hsample : frame (requestOf sampleEndpoint)
      = uint32Bytes (2 ^ 32 + 5) ++ (RdmaEndpointType.toByte .read :: uint32Bytes (2 ^ 32)) := by
    decide +kernel
  rw [hframe, hsample]
  exact ⟨overlongEndpoint.path, by simp⟩

/-- A service that is called is that of an endpoint with the empty path. -/
def emptyPath : ConnectionLabel → Bool
  | .server ⟨.handle served, _⟩ => served.path.isEmpty
  | _ => true

omit [Platform] in
/-- The client of an endpoint that is not even registered is about to read, and no service of an
endpoint with its path was ever called. -/
theorem read_unfilled :
    letI := Platform.littleEndian
    ∃ ls n, (network fun _ : Unit => overlongEndpoint).Run
        (Network.start Unit sampleStorage) ls n ∧
      (n.conn ()).clientCall overlongEndpoint = some (.submitOperation ⟨.read, some 1, [7]⟩) ∧
      ∀ served result, .server ⟨.handle served, result⟩ ∈ historyOf () ls →
        served.path ≠ overlongEndpoint.path := by
  let _ := Platform.littleEndian
  have hread : (network fun _ : Unit => overlongEndpoint).exec (Network.start Unit sampleStorage)
      ((overreading overlongEndpoint (requestOf sampleEndpoint)).map (.conn ()))
      = some ⟨sampleStorage, fun _ => overread overlong_frame⟩ :=
    exec_alone (exec_overreading (by decide +kernel) overlong_frame) overreading_aside
  have hexec : ((network fun _ : Unit => overlongEndpoint).exec
      ⟨sampleStorage, fun _ => overread overlong_frame⟩ (misreading.map (.conn ()))).any
      (fun n => decide ((n.conn ()).clientCall overlongEndpoint
        = some (.submitOperation ⟨.read, some 1, [7]⟩))) = true := by decide +kernel
  obtain ⟨n, hn, hcall⟩ := (Option.any_eq_true _ _).mp hexec
  refine ⟨(overreading overlongEndpoint (requestOf sampleEndpoint) ++ misreading).map (.conn ()),
    n, ?_, of_decide_eq_true hcall, fun served result hm hpath => ?_⟩
  · rw [List.map_append]
    exact Machine.exec_run (Machine.exec_trans hread hn)
  · rw [historyOf_alone] at hm
    have hempty : served.path = [] := by
      rcases List.mem_append.mp hm with hm | hm
      · exact absurd (List.all_eq_true.mp overreading_aside _ hm) Bool.false_ne_true
      · have hall : misreading.all emptyPath = true := by decide +kernel
        exact List.isEmpty_iff.mp (List.all_eq_true.mp hall _ hm)
    have hlength := congrArg List.length (hpath.symm.trans hempty)
    rw [overlongEndpoint_length] at hlength
    cases hlength

end DocaCpp
