/-
# Every client can still be served

Nothing that has happened on a server keeps it from serving the next client.  From every state the
network can be in, whatever its clients have done, a client that has just connected can be led to
the end of its request: its session returns success, the session that serves it is back at its loop
and the path is free (`client_can_be_served`).  It takes no step of another client: if the path is
held, the session that holds it gives it back by itself (Net.Recovery).  Only a session that has
stranded the lock, or has run into undefined behaviour while it held it, is in the way.

The way is the same for every endpoint, so it is laid once (§2, §3), from one `Standing` to the
next: the two points, what is still to be read of either stream, and the timers.
-/
import DocaCpp.Lib.Possible
import DocaCpp.Net.Exclusive
import DocaCpp.Net.Recovery
import DocaCpp.Storage.Registration

namespace DocaCpp

/-! ## 1. Streams at rest -/

namespace Channel

variable {α : Type} {c : Channel α} {bs rest : List α} {n : ℕ}

/-- Neither end is at work, and this much has not been read yet. -/
structure Carries (c : Channel α) (rest : List α) : Prop where
  pushed : c.pushed = 0
  taken : c.taken = 0
  alive : c.dead = false
  rest : c.written.drop c.consumed = rest

theorem Carries.append (h : c.Carries rest) : (c.append bs).Carries (rest ++ bs) where
  pushed := rfl
  taken := h.taken
  alive := h.alive
  rest := by
    have hle : c.consumed ≤ c.written.length := (Nat.le_add_right _ _).trans c.bounded
    change (c.written ++ bs).drop c.consumed = _
    rw [List.drop_append_of_le_length hle, h.rest]

theorem Carries.within (h : c.Carries (bs ++ rest)) :
    c.consumed + bs.length ≤ c.written.length := by
  have hle : c.consumed ≤ c.written.length := (Nat.le_add_right _ _).trans c.bounded
  have hlength := congrArg List.length h.rest
  rw [List.length_drop, List.length_append] at hlength
  omega

theorem Carries.advance (h : c.Carries (bs ++ rest)) (hn : c.consumed + bs.length ≤ c.written.length) :
    (c.advance bs.length hn).Carries rest where
  pushed := h.pushed
  taken := rfl
  alive := h.alive
  rest := by
    change c.written.drop (c.consumed + bs.length) = rest
    rw [← List.drop_drop, h.rest, List.drop_left]

end Channel

variable [Platform]

/-- Where a connection stands between two moves. -/
structure Standing where
  server : ServerPhase
  client : ClientPhase
  /-- what the server has not read yet -/
  up : Bytes
  /-- what the client has not read yet -/
  down : Bytes
  serverTimer : Timer
  clientTimer : Timer
  rdma : Rdma

/-- A connection that stands there. -/
structure Standing.Of (endpoint : RdmaEndpoint) (now : ℕ) (st : Standing) (c : Connection) :
    Prop where
  now : c.now = now
  server : c.server = st.server.session
  client : c.client = st.client.session endpoint
  up : c.up.Carries st.up
  down : c.down.Carries st.down
  serverTimer : c.serverTimer = st.serverTimer
  clientTimer : c.clientTimer = st.clientTimer
  rdma : c.rdma = st.rdma

/-- A label that takes no time and changes nothing in the storage. -/
def Undisturbing (storage : RdmaEndpointStorage) (l : ConnectionLabel) : Prop :=
  Network.answer storage l = some storage

/-! ## 2. One move -/

section Moves

variable {endpoint : RdmaEndpoint} {now size : ℕ} {st : Standing} {c : Connection}
  {storage : RdmaEndpointStorage} {P : Connection → Prop} {f' : ServerPhase} {g' : ClientPhase}
  {ev : SessionEvent} {bs rest : Bytes} {rdma : Rdma} {deadline : ℕ}

/-- What can be done from every connection that stands there. -/
def Standing.Leads (endpoint : RdmaEndpoint) (now : ℕ) (storage : RdmaEndpointStorage)
    (P : Connection → Prop) (st : Standing) : Prop :=
  ∀ c, st.Of endpoint now c → (connection endpoint).Can (Undisturbing storage) P c

/-- A call of the server that is answered at once. -/
theorem Standing.Leads.server (hs : ServerStep st.server ev f')
    (hstorage : storage.answer ev = some storage)
    (hany : ∀ s : Side, s.answer now ev = some s)
    (h : { st with server := f' }.Leads endpoint now storage P) :
    st.Leads endpoint now storage P := by
  intro c hc
  have ha : c.serverSide.answer c.now ev = some c.serverSide := hc.now ▸ hany _
  have hstep : c.step endpoint (.server ev) = _ := Connection.step_of_server hc.server hs ha
  refine .step (l := .server ev) hstorage hstep (h _ ?_)
  exact ⟨hc.now, rfl, hc.client, hc.up, hc.down, hc.serverTimer, hc.clientTimer, hc.rdma⟩

/-- The server starts its timer. -/
theorem Standing.Leads.serverTimer {milliseconds : ℕ}
    (hs : ServerStep st.server ⟨.startTimer milliseconds, ()⟩ f')
    (h : { st with server := f', serverTimer := .armed (now + milliseconds) }.Leads endpoint now
      storage P) : st.Leads endpoint now storage P := by
  intro c hc
  have hstep : c.step endpoint (.server ⟨.startTimer milliseconds, ()⟩) = _ :=
    Connection.step_of_server hc.server hs rfl
  refine .step (l := .server ⟨.startTimer milliseconds, ()⟩) rfl hstep (h _ ?_)
  exact ⟨hc.now, rfl, hc.client, hc.up, hc.down, congrArg (fun t => Timer.armed (t + _)) hc.now,
    hc.clientTimer, hc.rdma⟩

/-- The server cancels its timer. -/
theorem Standing.Leads.serverJoin (hs : ServerStep st.server ⟨.joinTimer, .cancelled⟩ f')
    (harmed : st.serverTimer = .armed deadline)
    (h : { st with server := f', serverTimer := .off }.Leads endpoint now storage P) :
    st.Leads endpoint now storage P := by
  intro c hc
  have ha : c.serverSide.answer c.now ⟨.joinTimer, .cancelled⟩ = some ⟨c.up, c.down, .off⟩ := by
    simp [Side.answer, Connection.serverSide, hc.serverTimer, harmed, Timer.join]
  have hstep : c.step endpoint (.server ⟨.joinTimer, .cancelled⟩) = _ :=
    Connection.step_of_server hc.server hs ha
  refine .step (l := .server ⟨.joinTimer, .cancelled⟩) rfl hstep (h _ ?_)
  exact ⟨hc.now, rfl, hc.client, hc.up, hc.down, rfl, hc.clientTimer, hc.rdma⟩

/-- A step of the client session, by its points. -/
theorem Connection.step_of_client {g : ClientPhase} {s : Side} (hg : c.client = g.session endpoint)
    (hs : ClientStep endpoint g ev g') (ha : c.clientSide.answer c.now ev = some s)
    (hr : c.rdma.answer c.now ev = some rdma) : c.step endpoint (.client ev) = some
      { c with
        client := g'.session endpoint, down := s.inp, up := s.out, clientTimer := s.timer
        rdma := rdma } := by
  have hresume := hs.resume
  rw [← hg] at hresume
  simp only [Connection.step, ha, Option.bind_some, hr, hresume, Option.map_some]

/-- A call of the client that is answered at once. -/
theorem Standing.Leads.client (hs : ClientStep endpoint st.client ev g')
    (hany : ∀ s : Side, s.answer now ev = some s) (hr : st.rdma.answer now ev = some rdma)
    (h : { st with client := g', rdma := rdma }.Leads endpoint now storage P) :
    st.Leads endpoint now storage P := by
  intro c hc
  have ha : c.clientSide.answer c.now ev = some c.clientSide := hc.now ▸ hany _
  have hr' : c.rdma.answer c.now ev = some rdma := by rw [hc.rdma, hc.now, hr]
  have hstep : c.step endpoint (.client ev) = _ := Connection.step_of_client hc.client hs ha hr'
  refine .step (l := .client ev) rfl hstep (h _ ?_)
  exact ⟨hc.now, hc.server, rfl, hc.up, hc.down, hc.serverTimer, hc.clientTimer, rfl⟩

/-- The client starts its timer. -/
theorem Standing.Leads.clientTimer {milliseconds : ℕ}
    (hs : ClientStep endpoint st.client ⟨.startTimer milliseconds, ()⟩ g')
    (h : { st with client := g', clientTimer := .armed (now + milliseconds) }.Leads endpoint now
      storage P) : st.Leads endpoint now storage P := by
  intro c hc
  have hstep : c.step endpoint (.client ⟨.startTimer milliseconds, ()⟩) = _ :=
    Connection.step_of_client hc.client hs rfl rfl
  refine .step (l := .client ⟨.startTimer milliseconds, ()⟩) rfl hstep (h _ ?_)
  exact ⟨hc.now, hc.server, rfl, hc.up, hc.down, hc.serverTimer,
    congrArg (fun t => Timer.armed (t + _)) hc.now, hc.rdma⟩

/-- The client cancels its timer. -/
theorem Standing.Leads.clientJoin (hs : ClientStep endpoint st.client ⟨.joinTimer, .cancelled⟩ g')
    (harmed : st.clientTimer = .armed deadline)
    (h : { st with client := g', clientTimer := .off }.Leads endpoint now storage P) :
    st.Leads endpoint now storage P := by
  intro c hc
  have ha : c.clientSide.answer c.now ⟨.joinTimer, .cancelled⟩ = some ⟨c.down, c.up, .off⟩ := by
    simp [Side.answer, Connection.clientSide, hc.clientTimer, harmed, Timer.join]
  have hstep : c.step endpoint (.client ⟨.joinTimer, .cancelled⟩) = _ :=
    Connection.step_of_client hc.client hs ha rfl
  refine .step (l := .client ⟨.joinTimer, .cancelled⟩) rfl hstep (h _ ?_)
  exact ⟨hc.now, hc.server, rfl, hc.up, hc.down, hc.serverTimer, rfl, hc.rdma⟩

/-- The RDMA operation ends. -/
theorem Standing.Leads.complete {since : ℕ} (hr : st.rdma = .inFlight since)
    (h : { st with rdma := .ended none }.Leads endpoint now storage P) :
    st.Leads endpoint now storage P := by
  intro c hc
  have hstep : c.step endpoint (.complete none) = some { c with rdma := .ended none } := by
    simp only [Connection.step, hc.rdma, hr]
  refine .step (l := .complete none) rfl hstep (h _ ?_)
  exact ⟨hc.now, hc.server, hc.client, hc.up, hc.down, hc.serverTimer, hc.clientTimer, rfl⟩

end Moves

/-! ## 3. A whole buffer -/

section Buffers

variable {endpoint : RdmaEndpoint} {now size : ℕ} {st : Standing} {c : Connection}
  {storage : RdmaEndpointStorage} {P : Connection → Prop} {f' : ServerPhase} {g' : ClientPhase}
  {bs rest : Bytes}

/-- The labels of a whole buffer. -/
theorem undisturbing_buffer {m d : ConnectionLabel} (hm : Undisturbing storage m)
    (hd : Undisturbing storage d) (n : ℕ) :
    ∀ l ∈ List.replicate n m ++ [d], Undisturbing storage l := by
  refine List.forall_mem_append.mpr ⟨fun l hl => ?_, List.forall_mem_singleton.mpr hd⟩
  rw [List.eq_of_mem_replicate hl]
  exact hm

/-- The client writes. -/
theorem Standing.Leads.clientWrites (hs : ClientStep endpoint st.client ⟨.asyncWrite bs, .ok ()⟩ g')
    (h : { st with client := g', up := st.up ++ bs }.Leads endpoint now storage P) :
    st.Leads endpoint now storage P := by
  intro c hc
  have hr := hs.resume
  rw [← hc.client] at hr
  have hexec := Connection.exec_write rfl hc.up.pushed hr
  have hwritten : (connection endpoint).Can (Undisturbing storage)
      (Standing.Of endpoint now { st with client := g', up := st.up ++ bs }) c := by
    refine ⟨_, _, hexec, undisturbing_buffer (m := .pushUp)
      (d := .client ⟨.asyncWrite bs, .ok ()⟩) rfl rfl _, ?_⟩
    exact ⟨hc.now, hc.server, rfl, hc.up.append, hc.down, hc.serverTimer, hc.clientTimer, hc.rdma⟩
  exact hwritten.andThen h

/-- The server reads. -/
theorem Standing.Leads.serverReads (hup : st.up = bs ++ rest) (hsize : bs.length = size)
    (hs : ServerStep st.server ⟨.asyncRead size, .ok bs⟩ f')
    (h : { st with server := f', up := rest }.Leads endpoint now storage P) :
    st.Leads endpoint now storage P := by
  intro c hc
  subst hsize
  have hr := hs.resume
  rw [← hc.server] at hr
  have hcarries : c.up.Carries (bs ++ rest) := hup ▸ hc.up
  have hnext : bs <+: c.up.written.drop c.up.consumed := by
    rw [hcarries.rest]
    exact List.prefix_append bs rest
  have hexec : (connection endpoint).exec c _ = _ := Connection.exec_read rfl hcarries.taken hcarries.alive hnext
    hcarries.within hr
  have hread : (connection endpoint).Can (Undisturbing storage)
      (Standing.Of endpoint now { st with server := f', up := rest }) c := by
    refine ⟨_, _, hexec, undisturbing_buffer (m := .fetchUp)
      (d := .server ⟨.asyncRead bs.length, .ok bs⟩) rfl rfl _, ?_⟩
    exact ⟨hc.now, rfl, hc.client, hcarries.advance _, hc.down, hc.serverTimer, hc.clientTimer,
      hc.rdma⟩
  exact hread.andThen h

/-- The buffer of a write of the server becomes visible. -/
theorem Connection.can_pushDown (hcall : c.serverCall = some (.asyncWrite bs))
    (hpushed : c.down.pushed = 0) :
    (connection endpoint).Can (Undisturbing storage)
      (fun d => d = { c with down := c.down.extend bs }) c := by
  let left : ℕ → Connection → Prop := fun n d => ∃ before after, bs = before ++ after ∧
    after.length = n ∧ d = { c with down := c.down.extend before }
  have hstep : ∀ n d, left (n + 1) d → ∃ l e, Undisturbing storage l ∧
      (connection endpoint).step d l = some e ∧ left n e := by
    rintro n d ⟨before, after, hbs, hlength, rfl⟩
    obtain ⟨b, after, rfl⟩ := List.exists_cons_of_length_eq_add_one hlength
    have hdrop : bs.drop (c.down.extend before).pushed = b :: after := by
      rw [Channel.extend, hpushed, Nat.zero_add, hbs, List.drop_left]
    have hpush : Connection.step endpoint { c with down := c.down.extend before } .pushDown
        = some { c with down := c.down.extend (before ++ [b]) } := by
      have hcall' : serverCall { c with down := c.down.extend before } = some (.asyncWrite bs) :=
        hcall
      simp only [step, hcall', Channel.push_eq hdrop, Channel.extend_extend, Option.map_some]
    refine ⟨.pushDown, _, rfl, hpush, before ++ [b], after, ?_, Nat.succ.inj hlength, rfl⟩
    rw [hbs, List.append_assoc, List.singleton_append]
  refine (Machine.Can.countdown (Q := left) hstep bs.length c ⟨[], bs, rfl, rfl, ?_⟩).mono ?_
  · simp [Channel.extend]
  · rintro d ⟨before, after, hbs, hlength, rfl⟩
    rw [hbs, List.eq_nil_of_length_eq_zero hlength, List.append_nil]

/-- The server writes. -/
theorem Standing.Leads.serverWrites (hs : ServerStep st.server ⟨.asyncWrite bs, .ok ()⟩ f')
    (h : { st with server := f', down := st.down ++ bs }.Leads endpoint now storage P) :
    st.Leads endpoint now storage P := by
  intro c hc
  have hcall : c.serverCall = some (.asyncWrite bs) := by
    rw [Connection.serverCall, hc.server]
    exact hs.pending
  refine (Connection.can_pushDown hcall hc.down.pushed).andThen ?_
  rintro d rfl
  have ha : Side.answer c.now ⟨c.up, c.down.extend bs, c.serverTimer⟩ ⟨.asyncWrite bs, .ok ()⟩
      = some ⟨c.up, c.down.append bs, c.serverTimer⟩ := by
    simp only [Side.answer, Channel.wrote_extend hc.down.pushed, Option.map_some]
  have hstep : Connection.step endpoint { c with down := c.down.extend bs }
      (.server ⟨.asyncWrite bs, .ok ()⟩) = _ :=
    Connection.step_of_server hc.server hs ha
  refine .step (l := .server ⟨.asyncWrite bs, .ok ()⟩) rfl hstep (h _ ?_)
  exact ⟨hc.now, rfl, hc.client, hc.up, hc.down.append, hc.serverTimer, hc.clientTimer, hc.rdma⟩

/-- A read of the client collects its buffer. -/
theorem Connection.can_fetchDown (hcall : c.clientCall endpoint = some (.asyncRead bs.length))
    (hcarries : c.down.Carries (bs ++ rest)) :
    (connection endpoint).Can (Undisturbing storage)
      (fun d => d = { c with down := c.down.collect bs.length hcarries.within hcarries.alive })
      c := by
  have hwithin := hcarries.within
  let left : ℕ → Connection → Prop := fun n d =>
    ∃ k, ∃ hk : c.down.consumed + k ≤ c.down.written.length, k + n = bs.length ∧
      d = { c with down := c.down.collect k hk hcarries.alive }
  have hstep : ∀ n d, left (n + 1) d → ∃ l e, Undisturbing storage l ∧
      (connection endpoint).step d l = some e ∧ left n e := by
    rintro n d ⟨k, hk, hkn, rfl⟩
    have hlt : k < bs.length := by omega
    have hnext : c.down.consumed + (k + 1) ≤ c.down.written.length := by omega
    have hfetch : Connection.step endpoint
        { c with down := c.down.collect k hk hcarries.alive } .fetchDown
        = some { c with down := c.down.collect (k + 1) hnext hcarries.alive } := by
      have hcall' : clientCall { c with down := c.down.collect k hk hcarries.alive } endpoint
          = some (.asyncRead bs.length) := hcall
      simp only [step, hcall', Channel.fetch_collect hlt hnext, Option.map_some]
    exact ⟨.fetchDown, _, rfl, hfetch, k + 1, hnext, by omega, rfl⟩
  have hzero : c.down.consumed + 0 ≤ c.down.written.length := by omega
  refine (Machine.Can.countdown (Q := left) hstep bs.length c ⟨0, hzero, Nat.zero_add _, ?_⟩).mono ?_
  · rw [Channel.collect_zero hcarries.taken]
  · rintro d ⟨k, hk, rfl, rfl⟩
    rfl

/-- The client reads. -/
theorem Standing.Leads.clientReads (hdown : st.down = bs ++ rest) (hsize : bs.length = size)
    (hs : ClientStep endpoint st.client ⟨.asyncRead size, .ok bs⟩ g')
    (h : { st with client := g', down := rest }.Leads endpoint now storage P) :
    st.Leads endpoint now storage P := by
  intro c hc
  subst hsize
  have hcarries : c.down.Carries (bs ++ rest) := hdown ▸ hc.down
  have hcall : c.clientCall endpoint = some (.asyncRead bs.length) := by
    rw [Connection.clientCall, hc.client]
    exact hs.pending
  refine (Connection.can_fetchDown hcall hcarries).andThen ?_
  rintro d rfl
  have hnext : bs <+: c.down.written.drop c.down.consumed := by
    rw [hcarries.rest]
    exact List.prefix_append bs rest
  have ha : Side.answer c.now
      ⟨c.down.collect bs.length hcarries.within hcarries.alive, c.up, c.clientTimer⟩
      ⟨.asyncRead bs.length, .ok bs⟩
      = some ⟨c.down.advance bs.length hcarries.within, c.up, c.clientTimer⟩ := by
    simp only [Side.answer, Channel.finish_collect hnext rfl, if_true]
  have hstep : Connection.step endpoint
      { c with down := c.down.collect bs.length hcarries.within hcarries.alive }
      (.client ⟨.asyncRead bs.length, .ok bs⟩) = _ :=
    Connection.step_of_client hc.client hs ha rfl
  refine .step (l := .client ⟨.asyncRead bs.length, .ok bs⟩) rfl hstep (h _ ?_)
  exact ⟨hc.now, hc.server, rfl, hc.up, hcarries.advance _, hc.serverTimer, hc.clientTimer, hc.rdma⟩

end Buffers

/-! ## 4. The way of a request -/

section Way

variable {endpoint served : RdmaEndpoint} {descriptor : Bytes} {now deadline : ℕ} {st : Standing}
  {storage : RdmaEndpointStorage} {P : Connection → Prop}

/-- The client has just connected. -/
def Standing.fresh : Standing := ⟨.head, .start, [], [], .off, .off, .idle⟩

/-- The client waits for its response, and the server is at one of its points. -/
def Standing.waiting (server : ServerPhase) (deadline : ℕ) : Standing :=
  ⟨server, .responseLength, [], [], .off, .armed deadline, .idle⟩

/-- The client has its response, and the server waits for the acknowledge. -/
def Standing.permitted (endpoint served : RdmaEndpoint) (client : ClientPhase) (rdma : Rdma)
    (deadline : ℕ) : Standing :=
  ⟨.ackLength (wireRequest endpoint) served, client, [], [], .armed deadline, .off, rdma⟩

/-- The client has returned, and the server is about to unlock. -/
def Standing.answered (endpoint : RdmaEndpoint) : Standing :=
  ⟨.unlock (wireRequest endpoint), .ended none, [], [], .off, .off, .ended none⟩

/-- A request gets as far as the lock. -/
theorem Standing.leads_lock (hshort : Short endpoint)
    (hfound : storage.getEndpoint (makeEndpointId endpoint.path (wireRequest endpoint).endpointType)
      = .ok served)
    (h : (waiting (.lock (wireRequest endpoint) served descriptor) (now + 5000)).Leads endpoint now
      storage P) : fresh.Leads endpoint now storage P := by
  have hpayload : (requestOf endpoint).length < 2 ^ 32 := by
    rw [length_requestOf]
    exact hshort
  have hword : uint32Of (uint32Bytes (requestOf endpoint).length) = (requestOf endpoint).length := by
    rw [uint32Of_uint32Bytes, Nat.mod_eq_of_lt hpayload]
  have hdecoded : SessionEvent.computed ⟨.deserializeRequest (requestOf endpoint),
      .ok (wireRequest endpoint)⟩ = true :=
    decide_eq_true (deserializeRequest_requestOf hshort).symm
  refine .clientTimer .start ?_
  refine .client (.requestSerialize (requestOf endpoint)) (fun _ => if_pos (decide_eq_true rfl)) rfl
    ?_
  refine .clientWrites (.requestLength _) ?_
  refine .clientWrites (.requestPayload _) ?_
  refine .server .isOpen rfl (fun _ => rfl) ?_
  refine .serverReads rfl (length_uint32Bytes _) (.requestLength _) ?_
  refine .serverReads (List.append_nil _).symm hword.symm (.requestPayload _ _) ?_
  refine .server (.requestDecode _ (wireRequest endpoint)) (if_pos hdecoded)
    (fun _ => if_pos hdecoded) ?_
  refine .server (.connection _) rfl (fun _ => rfl) ?_
  refine .server (.lookup _ served) (if_pos hfound.symm) (fun _ => rfl) ?_
  exact .server (.exportDescriptor _ _ descriptor) rfl (fun _ => rfl) h

/-- A request that was granted the lock is permitted. -/
theorem Standing.leads_permitted (hknown : served.type.Known)
    (hfits : descriptor.length + 5 < 2 ^ 32)
    (h : (permitted endpoint served (.importDescriptor descriptor) .idle (now + 5000)).Leads endpoint
      now storage P) :
    (waiting (granted (wireRequest endpoint) served descriptor) deadline).Leads endpoint now storage
      P := by
  let reply : Reply := .permitted (wireRequest endpoint) served descriptor
  let payload := serializeResponse ⟨.operationPermitted, descriptor⟩
  have hpayload : payload.length < 2 ^ 32 := by
    rw [length_serializeResponse]
    exact hfits
  have hword : uint32Of (uint32Bytes payload.length) = payload.length := by
    rw [uint32Of_uint32Bytes, Nat.mod_eq_of_lt hpayload]
  have hd : deserializeResponse payload = .ok ⟨.operationPermitted, descriptor⟩ :=
    deserializeTagged_serializeTagged (Nat.lt_of_add_right_lt hfits)
  have hdecoded : SessionEvent.computed ⟨.deserializeResponse payload,
      .ok ⟨.operationPermitted, descriptor⟩⟩ = true := decide_eq_true hd.symm
  have hsent : reply.sent = .ackTimer (wireRequest endpoint) served := by
    rcases hknown with hw | hr
    · simp [reply, Reply.sent, serverPerformRdmaOperation, hw]
    · simp [reply, Reply.sent, serverPerformRdmaOperation, hr]
  have hrespond : (waiting (.respond reply .serialize) deadline).Leads endpoint now storage P := by
    refine .server (.serialize reply payload) (if_pos (decide_eq_true rfl))
      (fun _ => if_pos (decide_eq_true rfl)) ?_
    refine .serverWrites (.sendLength _ _) ?_
    refine .serverWrites (.sendPayload _ _) ?_
    rw [hsent]
    refine .serverTimer (.ackTimer _ _) ?_
    refine .clientReads rfl (length_uint32Bytes _) (.responseLength _) ?_
    refine .clientReads (List.append_nil _).symm hword.symm (.responsePayload _ _) ?_
    refine .client (.responseDecode _ _) (fun _ => if_pos hdecoded) rfl ?_
    exact .clientJoin (.requestJoin _ _ _) rfl h
  rcases granted_cases (wireRequest endpoint) served descriptor with hgranted | hgranted
  · rw [hgranted]
    exact .server (.prepared _ _ _) rfl (fun _ => rfl) hrespond
  · rw [hgranted]
    exact hrespond

/-- A client that was permitted operates. -/
theorem Standing.leads_operated (hknown : endpoint.type.Known)
    (h : (permitted endpoint served (.ackTimer .completed) (.ended none) deadline).Leads endpoint now
      storage P) :
    (permitted endpoint served (.importDescriptor descriptor) .idle deadline).Leads endpoint now
      storage P := by
  have hoperates : ∀ type, connected endpoint descriptor = .submit type descriptor →
      (permitted endpoint served (.connection descriptor) .idle deadline).Leads endpoint now storage
        P := by
    intro type htype
    refine .client (.connected descriptor) (fun _ => rfl) rfl ?_
    rw [htype]
    refine .client (.submitted type descriptor) (fun _ => rfl) rfl ?_
    refine .complete rfl ?_
    exact .client (.awaited type (.ready none)) (fun _ => rfl) rfl h
  refine .client (.imported descriptor) (fun _ => rfl) rfl ?_
  rcases hknown with hw | hr
  · rw [imported, if_pos hw]
    refine .client (.service descriptor) (fun _ => rfl) rfl ?_
    exact hoperates .write (if_pos hw)
  · have hnot : endpoint.type ≠ .write := by
      rw [hr]
      exact RdmaEndpointType.read_ne_write
    rw [imported, if_neg hnot]
    refine hoperates .read ?_
    rw [connected, if_neg hnot, if_pos hr]

/-- A client whose operation has ended acknowledges it, and is served. -/
theorem Standing.leads_served (hknown : endpoint.type.Known) (htype : served.type = endpoint.type)
    (h : (answered endpoint).Leads endpoint now storage P) :
    (permitted endpoint served (.ackTimer .completed) (.ended none) deadline).Leads endpoint now
      storage P := by
  let ack : Acknowledge := ⟨.operationCompleted⟩
  let payload := serializeAcknowledge ack
  have hword : uint32Of (uint32Bytes payload.length) = payload.length := by
    rw [uint32Of_uint32Bytes]
    rfl
  refine .clientTimer (.ackTimer _) ?_
  refine .client (.ackSerialize _ payload) (fun _ => rfl) rfl ?_
  refine .clientWrites (.ackLength _ _) ?_
  refine .clientWrites (.ackPayload _ _) ?_
  refine .clientJoin (.ackJoin _ _ _) rfl ?_
  refine .serverReads rfl (length_uint32Bytes _) (.ackLength _ _ _) ?_
  refine .serverReads (List.append_nil _).symm hword.symm (.ackPayload _ _ _ _) ?_
  refine .server (.ackDecode _ _ _ ack) rfl (fun _ => rfl) ?_
  refine .serverJoin (.ackJoin _ _ _ _ _) rfl ?_
  rcases hknown with hw | hr
  · have hclient : Outcome.completed.acknowledged endpoint none = .ended none :=
      if_neg (by rw [hw]; exact RdmaEndpointType.read_ne_write.symm)
    have hserver : joined (wireRequest endpoint) served none = .process (wireRequest endpoint) served :=
      if_pos (htype.trans hw)
    change Standing.Leads endpoint now storage P ⟨joined _ _ none,
      Outcome.completed.acknowledged endpoint none, [], [], .off, .off, .ended none⟩
    rw [hclient, hserver]
    exact .server (.processed _ _ none) rfl (fun _ => rfl) h
  · have hclient : Outcome.completed.acknowledged endpoint none = .finish := if_pos hr
    have hnot : served.type ≠ .write := by
      rw [htype, hr]
      exact RdmaEndpointType.read_ne_write
    have hserver : joined (wireRequest endpoint) served none = .unlock (wireRequest endpoint) :=
      if_neg hnot
    change Standing.Leads endpoint now storage P ⟨joined _ _ none,
      Outcome.completed.acknowledged endpoint none, [], [], .off, .off, .ended none⟩
    rw [hclient, hserver]
    exact .client .finished (fun _ => rfl) rfl h

end Way

/-! ## 5. In the network -/

section Network

variable {ι : Type} [DecidableEq ι] {endpoints : ι → RdmaEndpoint} {n n' : Network ι} {i j : ι}
  {ls : List (NetworkLabel ι)} {storage : RdmaEndpointStorage} {served : RdmaEndpoint}
  {P : Connection → Prop} {now : ℕ} {descriptor : Bytes}

/-- A label of the network in which no client but this one has a part. -/
def NetworkLabel.Only (i : ι) (l : NetworkLabel ι) : Prop :=
  ∀ j l', j ≠ i → l.on j = some l' → l'.unaided = true

omit [Platform] in
theorem NetworkLabel.only_conn (i : ι) (l : ConnectionLabel) : (NetworkLabel.conn i l).Only i := by
  intro j l' hj hl
  rw [NetworkLabel.on, if_neg (Ne.symm hj)] at hl
  cases hl

omit [Platform] in
theorem NetworkLabel.only_via {l : ConnectionLabel} (hl : l.unaided = true) :
    (NetworkLabel.via j l).Only i := by
  intro k l' hk hon
  cases l with
  | tick milliseconds =>
    cases hon
    rfl
  | _ =>
    obtain ⟨-, heq⟩ := Option.ite_none_right_eq_some.mp hon
    cases heq
    exact hl

/-- **What one connection can do, it can do in the network.** -/
theorem Network.can_of_conn (h : (connection (endpoints i)).Can (Undisturbing n.storage) P (n.conn i)) :
    (network endpoints).Can (NetworkLabel.Only i)
      (fun n' => n'.storage = n.storage ∧ P (n'.conn i)) n := by
  let follows : Connection → Network ι → Prop := fun c n' => n'.storage = n.storage ∧ n'.conn i = c
  refine (h.follow (N := network endpoints) (R := follows) (NetworkLabel.conn i) ?_
    ⟨rfl, rfl⟩).mono ?_
  · rintro c m l d ⟨hstorage, rfl⟩ hok hstep
    have hc : (m.conn i).step (endpoints i) l = some d := hstep
    have ha : Network.answer m.storage l = some m.storage := by
      rw [hstorage]
      exact hok
    obtain ⟨m', hm', hstorage', hconn, -⟩ := Network.step_of_conn ha hc
    exact ⟨NetworkLabel.only_conn i l, m', hm', hstorage'.trans hstorage, hconn⟩
  · rintro m ⟨d, ⟨hstorage, rfl⟩, hP⟩
    exact ⟨hstorage, hP⟩

/-- A session whose client has just connected holds nothing. -/
theorem fresh_held (hrun : (network endpoints).Run (Network.start ι storage) ls n)
    (hnew : (n.conn i).server = .head) : (serverSays (historyOf i ls)).held = [] := by
  obtain ⟨f, hf, hknows⟩ := server_knows (pool_session (network_pool hrun) i)
  have hsession : f.session = .head := hf.symm.trans hnew
  have hcall : f.session.pending serverPass = some .isOpen := by
    rw [hsession]
    rfl
  obtain ⟨f', hs⟩ := server_refines.of_pending hcall true
  rw [← logOf_serverHistory]
  cases hs
  exact hknows.1

/-- **A path that is held can be freed**, without any client, unless its session is in the way. -/
theorem Network.can_free (hrun : (network endpoints).Run (Network.start ι storage) ls n)
    (hreg : storage.Registered) (hshort : ∀ j, Short (endpoints j))
    (hserved : storage.Holds served)
    (hkept : ∀ j, served.path ∈ (serverSays (historyOf j ls)).held →
      (serverSays (historyOf j ls)).stranded = false ∧ (n.conn j).serverCall ≠ some .undefined)
    (hnew : n.conn i = Connection.start.later now) :
    (network endpoints).Can (NetworkLabel.Only i)
      (fun m => (m.storage.tryLockEndpointsByPath served.path).1 = (true, none) ∧
        m.storage.Holds served ∧
        ∃ milliseconds, milliseconds ≤ 5000 ∧
          m.conn i = Connection.start.later (now + milliseconds)) n := by
  have hholds : n.storage.Holds served := ((pool_found (network_pool hrun)).1 served).mpr hserved
  by_cases hfree : (n.storage.tryLockEndpointsByPath served.path).1.1 = true
  · exact .here ⟨Prod.ext hfree (RdmaEndpointStorage.tryLockEndpointsByPath_granted_error hfree),
      hholds, 0, Nat.zero_le _, hnew⟩
  · -- the flag of the path says who holds it
    obtain ⟨x, hx, hpath⟩ := hholds.hasPath
    have hlocked : x.2.endpointLocked = true := by
      by_contra hnot
      exact hfree ((RdmaEndpointStorage.tryLockEndpointsByPath_granted_iff _ _).mpr
        ⟨x, hx, hpath, by simpa using hnot⟩)
    obtain ⟨j, hj⟩ := ((pool_guarded hreg (network_pool hrun)).flags x hx).mp hlocked
    rw [hpath, logOf_serverHistory] at hj
    obtain ⟨hstranded, hdefined⟩ := hkept j hj
    have hij : i ≠ j := by
      rintro rfl
      have hnone := fresh_held hrun (congrArg Connection.server hnew)
      rw [hnone] at hj
      cases hj
    obtain ⟨ms, n', hexec, hunaided, htime, hheld, -, hstorage, hothers⟩ :=
      Network.exec_release hrun (hshort j) (List.ne_nil_of_mem hj) hstranded hdefined
    rw [hheld] at hj
    rw [← List.mem_singleton.mp hj] at hstorage
    refine ⟨ms.map (NetworkLabel.via j), n', hexec, fun l hl => ?_, ?_, ?_,
      (ms.map ConnectionLabel.elapsed).sum, htime, ?_⟩
    · obtain ⟨l', hl', rfl⟩ := List.mem_map.mp hl
      exact NetworkLabel.only_via (hunaided l' hl')
    · rw [hstorage]
      exact RdmaEndpointStorage.unlocked_free hholds.hasPath
    · rw [hstorage, RdmaEndpointStorage.unlockEndpointsByPath_snd]
      exact RdmaEndpointStorage.setLocked_holds.mpr hholds
    · rw [hothers i hij, hnew]
      simp [Connection.later, Nat.add_assoc]

/-- The lock is granted to a connection that asks for it. -/
theorem Network.step_granted {deadline : ℕ} (hpath : served.path = (endpoints i).path)
    (hfree : (n.storage.tryLockEndpointsByPath served.path).1 = (true, none))
    (h : (Standing.waiting (.lock (wireRequest (endpoints i)) served descriptor) deadline).Of
      (endpoints i) now (n.conn i)) :
    ∃ l n', l.Only i ∧ n.step endpoints l = some n' ∧
      n'.storage = n.storage.setLocked served.path true ∧
      (Standing.waiting (granted (wireRequest (endpoints i)) served descriptor) deadline).Of
        (endpoints i) now (n'.conn i) := by
  let ev : SessionEvent := ⟨.tryLockEndpointsByPath (endpoints i).path, (true, none)⟩
  have hanswer : Network.answer n.storage (.server ev) = some (n.storage.setLocked served.path true) := by
    rw [← RdmaEndpointStorage.tryLockEndpointsByPath_snd, hpath]
    exact if_pos (hpath ▸ hfree).symm
  have hc : (n.conn i).step (endpoints i) (.server ev) = _ :=
    Connection.step_of_server h.server (.granted (wireRequest (endpoints i)) served descriptor) rfl
  obtain ⟨n', hn', hstorage, hconn, -⟩ := Network.step_of_conn hanswer hc
  refine ⟨.conn i (.server ev), n', NetworkLabel.only_conn i _, hn', hstorage, ?_⟩
  rw [hconn]
  exact ⟨h.now, rfl, h.client, h.up, h.down, h.serverTimer, h.clientTimer, h.rdma⟩

/-- **Every client can still be served**: from every state the network can be in, a client that has
just connected for a registered endpoint gets its success in at most five seconds, without any other
client, unless a session that holds its path has stranded it or has run into undefined behaviour. -/
theorem client_can_be_served (hrun : (network endpoints).Run (Network.start ι storage) ls n)
    (hreg : storage.Registered) (hshort : ∀ j, Short (endpoints j))
    (hserved : storage.Holds served) (hpath : served.path = (endpoints i).path)
    (htype : served.type = (endpoints i).type) (hknown : (endpoints i).type.Known)
    (hfits : descriptor.length + 5 < 2 ^ 32)
    (hkept : ∀ j, (endpoints i).path ∈ (serverSays (historyOf j ls)).held →
      (serverSays (historyOf j ls)).stranded = false ∧ (n.conn j).serverCall ≠ some .undefined)
    (hnew : n.conn i = Connection.start.later now) :
    (network endpoints).Can (NetworkLabel.Only i)
      (fun n' => (n'.conn i).client = .ended none ∧ (n'.conn i).server = .head ∧
        (n'.storage.tryLockEndpointsByPath (endpoints i).path).1 = (true, none) ∧
        (n'.conn i).now ≤ now + 5000) n := by
  refine (Network.can_free hrun hreg hshort hserved (hpath ▸ hkept) hnew).andThen ?_
  rintro m ⟨hfree, hholds, milliseconds, htime, hconn⟩
  have hwire : (wireRequest (endpoints i)).endpointType = (endpoints i).type := by
    rcases hknown with hw | hr
    · rw [wireRequest, hw]
      rfl
    · rw [wireRequest, hr]
      rfl
  have hfound : m.storage.getEndpoint (makeEndpointId (endpoints i).path
      (wireRequest (endpoints i)).endpointType) = .ok served := by
    refine RdmaEndpointStorage.getEndpoint_eq_ok_iff.mpr ⟨?_, hholds⟩
    rw [hwire, ← hpath, ← htype]
    rfl
  have hfresh : Standing.fresh.Of (endpoints i) (now + milliseconds) (m.conn i) := by
    rw [hconn]
    exact ⟨Nat.zero_add _, rfl, rfl, ⟨rfl, rfl, rfl, rfl⟩, ⟨rfl, rfl, rfl, rfl⟩, rfl, rfl, rfl⟩
  -- up to the lock, the lock, what it protects, the unlock
  have hlock : (network endpoints).Can (NetworkLabel.Only i)
      (fun m' => m'.storage = m.storage ∧
        (Standing.waiting (.lock (wireRequest (endpoints i)) served descriptor)
          (now + milliseconds + 5000)).Of (endpoints i) (now + milliseconds) (m'.conn i)) m :=
    Network.can_of_conn
      (Standing.leads_lock (hshort i) hfound (fun c hc => .here hc) (m.conn i) hfresh)
  refine hlock.andThen ?_
  rintro m₁ ⟨hstorage₁, h₁⟩
  obtain ⟨l, m₂, hl, hstep, hstorage₂, h₂⟩ := Network.step_granted hpath (hstorage₁ ▸ hfree) h₁
  refine .step hl hstep ?_
  have hserves := Network.can_of_conn (Standing.leads_permitted (htype ▸ hknown) hfits
    (Standing.leads_operated hknown (Standing.leads_served hknown htype fun c hc => .here hc))
    (m₂.conn i) h₂)
  refine hserves.andThen ?_
  rintro m₃ ⟨hstorage₃, h₃⟩
  obtain ⟨err, m₄, hunlock, hstorage₄, hconn₄, -⟩ := Network.step_unlock h₃.server
  refine .step (NetworkLabel.only_conn i _) hunlock (.here ⟨?_, ?_, ?_, ?_⟩)
  · rw [hconn₄]
    exact h₃.client
  · rw [hconn₄]
  · have hholds₃ : m₃.storage.Holds served := by
      rw [hstorage₃, hstorage₂, hstorage₁]
      exact RdmaEndpointStorage.setLocked_holds.mpr hholds
    rw [hstorage₄, ← hpath]
    exact RdmaEndpointStorage.unlocked_free hholds₃.hasPath
  · rw [hconn₄]
    exact (Nat.le_of_eq h₃.now).trans (Nat.add_le_add_left htime now)

end Network

omit [Platform] in
/-- One client has crashed and left its path locked, and the next one is served. -/
theorem client_can_be_served_sample :
    letI := Platform.littleEndian
    ∃ n : Network Bool, (network fun _ => sampleWriteEndpoint).exec
        (Network.start Bool sampleWriteStorage) (crashedLabels.map (.via false)) = some n ∧
      (n.storage.tryLockEndpointsByPath []).1 = (false, none) ∧
      (network fun _ => sampleWriteEndpoint).Can (NetworkLabel.Only true)
        (fun n' => (n'.conn true).client = .ended none) n := by
  let _ := Platform.littleEndian
  have hexec : ((network fun _ : Bool => sampleWriteEndpoint).exec
      (Network.start Bool sampleWriteStorage) (crashedLabels.map (.via false))).any
      (fun n => decide ((n.conn false).serverCall ≠ some .undefined ∧
        (n.storage.tryLockEndpointsByPath []).1 = (false, none))) = true := by
    decide +kernel
  obtain ⟨n, hn, hdec⟩ := (Option.any_eq_true _ _).mp hexec
  obtain ⟨hdefined, hlocked⟩ := of_decide_eq_true hdec
  have hrun := Machine.exec_run hn
  have hkept : ∀ j, sampleWriteEndpoint.path
        ∈ (serverSays (historyOf j (crashedLabels.map (.via false)))).held →
      (serverSays (historyOf j (crashedLabels.map (.via false)))).stranded = false ∧
        (n.conn j).serverCall ≠ some .undefined := by
    intro j hj
    cases j with
    | false => exact ⟨by decide +kernel, hdefined⟩
    | true => exact absurd hj (by decide +kernel)
  have hnew : n.conn true = Connection.start.later 0 := by
    have hconn := network_connectionRun true hrun
    rw [List.isEmpty_iff.mp (by decide +kernel :
      (historyOf true (crashedLabels.map (.via false))).isEmpty = true)] at hconn
    exact (Option.some.inj (Machine.run_exec hconn)).symm
  have hserved : sampleWriteStorage.Holds sampleWriteEndpoint :=
    ⟨⟨_, ⟨sampleWriteEndpoint, false⟩⟩, List.mem_singleton_self _, rfl⟩
  have hfits : ([7] : Bytes).length + 5 < 2 ^ 32 := by decide
  exact ⟨n, hn, hlocked, (client_can_be_served (i := true) hrun sampleWriteStorage_registered
    (fun _ => sampleWriteEndpoint_short) hserved rfl rfl (.inl rfl) hfits hkept hnew).mono
    fun _ h => h.1⟩

end DocaCpp
