/-
# What an RDMA operation is submitted to

A client submits its operation to whatever buffer the descriptor in its permission stands for.  The
descriptor has come a long way: the server's user code exported it, the session put it into a
response before it asked for the lock, the serializer cut it into bytes, the client put these
together again.  `operation_designates` says that nothing is lost or mixed up on that way, for any
number of clients and whatever is delayed: the operation is of the type of the client's endpoint,
and its descriptor is the one exported in the same session, for the endpoint registered with that
path and type.

The response must fit the length word of its frame (`Responce.Short`), as the request must
(`Short`); of a longer one the client decodes a part.
-/
import DocaCpp.Net.Filled

namespace DocaCpp

/-! ## 1. What the server discloses -/

/-- A permission carries the descriptor exported for the request. -/
def ServerLog.Disclosed (log : ServerLog) : Prop :=
  ∀ responce ∈ log.current.responces, responce.responceCode = .operationPermitted →
    log.current.exported = some (.ok responce.memoryDescriptor)

/-- The descriptor on record was exported for the endpoint on record. -/
def ServerLog.Exports (evs : List SessionEvent) (log : ServerLog) : Prop :=
  ∀ descriptor, log.current.exported = some (.ok descriptor) → ∃ served,
    log.current.endpoint = some served ∧
      ⟨.exportMemoryDescriptor served, .returned (.ok descriptor)⟩ ∈ evs

section Disclosed

variable [Platform] {f f' : ServerPhase} {ev : SessionEvent} {log : ServerLog}
  {evs : List SessionEvent}

omit [Platform] in
/-- An event that leaves the descriptor and the endpoint alone. -/
theorem ServerLog.Exports.same (h : log.Exports evs)
    (hexported : (log.note ev).current.exported = log.current.exported)
    (hendpoint : (log.note ev).current.endpoint = log.current.endpoint) :
    (log.note ev).Exports (evs ++ [ev]) := by
  intro descriptor hd
  rw [hexported] at hd
  obtain ⟨served, hserved, hm⟩ := h descriptor hd
  exact ⟨served, hendpoint.trans hserved, List.mem_append_left _ hm⟩

theorem ServerLog.Exports.step (h : log.Exports evs) (hk : f.Knows log) (hs : ServerStep f ev f') :
    (log.note ev).Exports (evs ++ [ev]) := by
  cases hs with
  | requestDecode bs request => exact fun _ hd => nomatch hd
  | lookup request served =>
    obtain ⟨-, -, hcur⟩ := hk
    intro descriptor hd
    change log.current.exported = _ at hd
    rw [hcur] at hd
    cases hd
  | exportDescriptor request served descriptor =>
    obtain ⟨-, -, -, hcur⟩ := hk
    intro descriptor' hd
    cases hd
    refine ⟨served, ?_, List.mem_append_right _ (List.mem_singleton_self _)⟩
    exact congrArg Exchange.endpoint hcur
  | exportFailed request served err => exact fun _ hd => nomatch hd
  | _ => exact h.same rfl rfl

/-- **Only the descriptor of the request is disclosed with a permission.** -/
theorem ServerLog.Disclosed.step (h : log.Disclosed) (hk : f.Knows log) (hs : ServerStep f ev f') :
    (log.note ev).Disclosed := by
  cases hs with
  | requestDecode bs request => exact fun _ hm => nomatch hm
  | exportDescriptor request served descriptor | exportFailed request served err =>
    obtain ⟨-, -, -, hcur⟩ := hk
    intro responce hm
    change responce ∈ log.current.responces at hm
    rw [hcur] at hm
    cases hm
  | serialize reply bs =>
    obtain ⟨-, -, -, hcur⟩ := hk
    intro responce hm hcode
    obtain rfl : responce = reply.responce := by
      simpa [ServerLog.note, hcur, Sending.responces] using hm
    cases reply with
    | permitted request served descriptor => exact congrArg Exchange.exported hcur
    | _ => cases hcode
  | _ => exact h

/-- What a server session discloses, along every run. -/
theorem server_discloses {c : Session} (h : ServerRun evs c) :
    (serverLog evs).Disclosed ∧ (serverLog evs).Exports evs := by
  obtain ⟨f, -, -, hdisclosed⟩ := server_refines.run .head
    (I := fun evs f => f.Knows (serverLog evs) ∧ (serverLog evs).Disclosed ∧
      (serverLog evs).Exports evs)
    ⟨knows_start, fun _ hm => (nomatch hm), fun _ hd => nomatch hd⟩
    (fun evs f ev f' hI hp hs => by
      rw [serverLog_snoc]
      exact ⟨hI.1.step hs hp, hI.2.1.step hI.1 hs, hI.2.2.step hI.1 hs⟩) h
  exact hdisclosed

end Disclosed

/-! ## 2. What the client is told -/

/-- The response fits the length word of its frame. -/
def Responce.Short (responce : Responce) : Prop := responce.memoryDescriptor.length + 5 < 2 ^ 32

instance (responce : Responce) : Decidable responce.Short := inferInstanceAs (Decidable (_ < _))

variable [Platform]

/-- What the client has read of the response at a point: all of it. -/
def ClientPhase.Told (responces : List Responce) : ClientPhase → Prop
  | responsePayload size => ∀ made, responces = [made] → made.Short →
      size = (serializeResponse made).length
  | responseDecode bs => ∀ made, responces = [made] → made.Short → bs = serializeResponse made
  | _ => True

omit [Platform] in
/-- The response the client has decoded is the one the server has made. -/
def ClientLog.Told (log : ClientLog) (responces : List Responce) : Prop :=
  ∀ responce made, log.responce = some responce → responces = [made] → made.Short → responce = made

section Told

variable {endpoint : RdmaEndpoint} {g g' : ClientPhase} {ev : SessionEvent} {log : ClientLog}
  {responces responces' : List Responce} {s s' : Side} {now n : ℕ}

/-- The first word the client reads is the length of the response. -/
theorem replies_length_word {made : Responce} (h : made.Short) :
    uint32Of (((replies [made]).drop 0).take 4) = (serializeResponse made).length := by
  rw [replies_singleton, frame, List.drop_zero, List.take_left' (length_uint32Bytes _),
    uint32Of_uint32Bytes, Nat.mod_eq_of_lt]
  rw [length_serializeResponse]
  exact h

/-- The response follows. -/
theorem replies_payload {made : Responce} :
    ((replies [made]).drop 4).take (serializeResponse made).length = serializeResponse made := by
  rw [replies_singleton, frame, List.drop_left' (length_uint32Bytes _), List.take_length]

/-- **The client reads the response as it was made.** -/
theorem ClientPhase.Told.step (h : g.Told responces) (hr : g.Received responces s.inp.consumed)
    (hs : ClientStep endpoint g ev g') (hrep : s.inp.written <+: replies responces)
    (ha : s.answer now ev = some s') : g'.Told responces := by
  cases hs with
  | responseLength bs =>
    have h0 : s.inp.consumed = 0 := hr
    obtain ⟨hbs, -⟩ := Side.read_ok ha hrep
    rintro made rfl hshort
    rw [hbs, h0]
    exact replies_length_word hshort
  | responsePayload size bs =>
    have h4 : s.inp.consumed = 4 := hr
    obtain ⟨hbs, -⟩ := Side.read_ok ha hrep
    rintro made rfl hshort
    rw [hbs, h4, h made rfl hshort]
    exact replies_payload
  | requestJoin responce err timer =>
    unfold requested
    split
    · trivial
    · split <;> trivial
  | imported descriptor => unfold DocaCpp.imported; split <;> trivial
  | connected descriptor =>
    unfold DocaCpp.connected
    split
    · trivial
    · split <;> trivial
  | awaited type result =>
    cases result with
    | timedOut => trivial
    | ready err => cases err <;> trivial
  | ackJoin outcome err timer =>
    unfold Outcome.acknowledged
    cases outcome with
    | completed =>
      dsimp only
      split
      · trivial
      · split <;> trivial
    | _ => trivial
  | _ => trivial

/-- **The client decodes the response as it was made.** -/
theorem ClientLog.Told.step (h : log.Told responces) (hg : g.Told responces)
    (hs : ClientStep endpoint g ev g') (ha : s.answer now ev = some s') :
    (log.note ev).Told responces := by
  cases hs with
  | responseDecode bs responce =>
    have hd : Except.ok responce = deserializeResponse bs := by
      simpa [SessionEvent.computed] using Side.answer_computed ha
    intro decoded made hdecoded hone hshort
    cases hdecoded
    rw [hg made hone hshort] at hd
    refine Except.ok.inj (hd.trans (deserializeTagged_serializeTagged ?_))
    exact Nat.lt_of_le_of_lt (Nat.le_add_right _ 5) hshort
  | _ => exact h

/-- A client that has read of a response has one to read. -/
theorem ClientPhase.Told.respond (h : g.Told responces) (hr : g.Received responces n)
    (hn : n ≤ (replies responces).length) (hkept : responces' = responces ∨ responces = []) :
    g.Told responces' := by
  rcases hkept with rfl | rfl
  · exact h
  · cases g with
    | responsePayload size =>
      have h4 : n = 4 := hr
      rw [h4] at hn
      exact absurd hn (Nat.not_succ_le_zero 3)
    | responseDecode bs =>
      obtain ⟨made, hm, -⟩ := hr
      cases hm
    | _ => trivial

omit [Platform] in
theorem ClientLog.Told.respond (h : log.Told responces) (ha : log.Answered responces)
    (hkept : responces' = responces ∨ responces = []) : log.Told responces' := by
  rcases hkept with rfl | rfl
  · exact h
  · intro responce made hresponce
    obtain ⟨made', hm, -⟩ := ha responce hresponce
    cases hm

end Told

/-! ## 3. What the client submits -/

/-- The operation for an endpoint. -/
def RdmaEndpoint.operationType (endpoint : RdmaEndpoint) : RdmaOperationType :=
  if endpoint.type = .write then .write else .read

/-- The client's service has been called. -/
def Handled (endpoint : RdmaEndpoint) (evs : List SessionEvent) : Prop :=
  ∃ result, ⟨.handle endpoint, result⟩ ∈ evs

omit [Platform] in
/-- What a point of the client says of the type of its endpoint. -/
def ClientPhase.Suits (endpoint : RdmaEndpoint) (evs : List SessionEvent) : ClientPhase → Prop
  | service _ => endpoint.type = .write
  | connection _ => endpoint.type = .write → Handled endpoint evs
  | submit type _ => endpoint.type.Known ∧ type = endpoint.operationType ∧
      (endpoint.type = .write → Handled endpoint evs)
  | finish => endpoint.type = .read
  | _ => True

/-- An operation submitted by a client: it is the one for the endpoint and for the descriptor in the
permission, and for a write endpoint the client's service was called before. -/
structure Submitted (endpoint : RdmaEndpoint) (evs : List SessionEvent) (log : ClientLog)
    (operation : RdmaOperationRequest) : Prop where
  known : endpoint.type.Known
  submitted : log.submitted = true
  type : operation.type = endpoint.operationType
  localBuffer : operation.localBuffer = endpoint.buffer
  permitted : log.responce = some ⟨.operationPermitted, operation.remoteBuffer⟩
  handled : endpoint.type = .write → Handled endpoint evs

section Submits

variable {endpoint : RdmaEndpoint} {g g' : ClientPhase} {ev : SessionEvent} {log : ClientLog}
  {evs : List SessionEvent} {operation : RdmaOperationRequest}

omit [Platform] in
theorem Handled.snoc (h : Handled endpoint evs) : Handled endpoint (evs ++ [ev]) := by
  obtain ⟨result, hm⟩ := h
  exact ⟨result, List.mem_append_left _ hm⟩

omit [Platform] in
theorem Submitted.snoc (h : Submitted endpoint evs log operation)
    (hsubmitted : (log.note ev).submitted = true)
    (hresponce : (log.note ev).responce = log.responce) :
    Submitted endpoint (evs ++ [ev]) (log.note ev) operation :=
  ⟨h.known, hsubmitted, h.type, h.localBuffer, hresponce.trans h.permitted,
    fun hw => (h.handled hw).snoc⟩

theorem ClientPhase.Suits.step (h : g.Suits endpoint evs) (hs : ClientStep endpoint g ev g') :
    g'.Suits endpoint (evs ++ [ev]) := by
  cases hs with
  | requestJoin responce err timer =>
    unfold requested
    split
    · trivial
    · split <;> trivial
  | imported descriptor =>
    unfold DocaCpp.imported
    by_cases hw : endpoint.type = .write
    · rw [if_pos hw]
      exact hw
    · rw [if_neg hw]
      exact fun hw' => absurd hw' hw
  | service descriptor =>
    exact fun _ => ⟨.returned none, List.mem_append_right _ (List.mem_singleton_self _)⟩
  | connected descriptor =>
    unfold DocaCpp.connected
    by_cases hw : endpoint.type = .write
    · rw [if_pos hw]
      exact ⟨Or.inl hw, (if_pos hw).symm, fun _ => (h hw).snoc⟩
    · rw [if_neg hw]
      by_cases hr : endpoint.type = .read
      · rw [if_pos hr]
        exact ⟨Or.inr hr, (if_neg hw).symm, fun hw' => absurd hw' hw⟩
      · rw [if_neg hr]
        trivial
  | awaited type result =>
    cases result with
    | timedOut => trivial
    | ready err => cases err <;> trivial
  | ackJoin outcome err timer =>
    unfold Outcome.acknowledged
    cases outcome with
    | completed =>
      dsimp only
      split
      · trivial
      · split
        · assumption
        · trivial
    | _ => trivial
  | _ => trivial

/-- **What was submitted stays what it was**: the client decodes no second response. -/
theorem Submitted.step (h : ∀ operation, ⟨.submitOperation operation, none⟩ ∈ evs →
      Submitted endpoint evs log operation) (hk : g.Knows log) (hg : g.Suits endpoint evs)
    (hs : ClientStep endpoint g ev g') :
    ∀ operation, ⟨.submitOperation operation, none⟩ ∈ evs ++ [ev] →
      Submitted endpoint (evs ++ [ev]) (log.note ev) operation := by
  intro operation hm
  rcases List.mem_append.mp hm with hm | hm
  · have hold := h operation hm
    cases hs with
    | responseDecode bs responce =>
      have hnone : log = {} := hk
      have hsubmitted := hold.submitted
      rw [hnone] at hsubmitted
      cases hsubmitted
    | submitted type descriptor => exact hold.snoc rfl rfl
    | _ => exact hold.snoc hold.submitted rfl
  · obtain rfl := List.mem_singleton.mp hm
    cases hs with
    | submitted type descriptor =>
      obtain ⟨hknown, htype, hhandled⟩ := hg
      have hlog : log = permittedLog descriptor := hk
      exact ⟨hknown, rfl, htype, rfl, congrArg ClientLog.responce hlog,
        fun hw => (hhandled hw).snoc⟩

/-- **What a client submits**, along every run of its session. -/
theorem client_submits {Good : List SessionEvent → Session → SessionEvent → Prop} {c : Session}
    (h : (handleClientSession true endpoint).RunWith Good .head evs c) :
    ∃ g : ClientPhase, c = g.session endpoint ∧ g.Knows (clientLog evs) ∧ g.Suits endpoint evs ∧
      ∀ operation, ⟨.submitOperation operation, none⟩ ∈ evs →
        Submitted endpoint evs (clientLog evs) operation := by
  refine (client_refines endpoint).run .start
    (I := fun evs g => g.Knows (clientLog evs) ∧ g.Suits endpoint evs ∧
      ∀ operation, ⟨.submitOperation operation, none⟩ ∈ evs →
        Submitted endpoint evs (clientLog evs) operation)
    ⟨rfl, trivial, fun _ hm => nomatch hm⟩ ?_ h
  rintro evs g ev g' ⟨hk, hg, hsubmitted⟩ - hs
  rw [clientLog_snoc]
  exact ⟨hk.step hs, hg.step hs, Submitted.step hsubmitted hk hg hs⟩

end Submits

/-! ## 4. Both together -/

section Designates

variable {endpoint : RdmaEndpoint} {ls : List ConnectionLabel} {c c' : Connection}
  {slog : ServerLog} {clog : ClientLog} {f f' : ServerPhase} {g : ClientPhase} {ev : SessionEvent}
  {operation : RdmaOperationRequest}

/-- A step of the server leaves its responses alone, or makes the first one. -/
theorem Linked.responces (hshort : Short endpoint) (hl : Linked endpoint slog clog f g c)
    (hs : ServerStep f ev f') (hstep : c.step endpoint (.server ev) = some c') :
    (slog.note ev).current.responces = slog.current.responces ∨ slog.current.responces = [] := by
  obtain ⟨s, ha, -⟩ := Connection.step_server hstep
  refine (hs.responces hl.knowsServer ?_).imp_right And.left
  rintro bs request rfl
  cases hs
  have hd : Except.ok request = deserializeRequest bs := by
    simpa [SessionEvent.computed] using Side.answer_computed ha
  rw [(hl.consumed.decode hshort hd).2.1]

/-- **A client decodes the response of its server**, whatever is delayed. -/
theorem told_run (hshort : Short endpoint) (h : ConnectionRun endpoint ls c) :
    (clientSays ls).Told (serverSays ls).current.responces := by
  have hrun : ∃ f g, Linked endpoint (serverSays ls) (clientSays ls) f g c ∧
      g.Told (serverSays ls).current.responces ∧
        (clientSays ls).Told (serverSays ls).current.responces := by
    refine Linked.run hshort (fun _ _ _ hp => hp)
      (J := fun ls _ g _ => g.Told (serverSays ls).current.responces ∧
        (clientSays ls).Told (serverSays ls).current.responces)
      ⟨trivial, fun _ _ hr => nomatch hr⟩ ?_ ?_ ?_ h
    · intro ls f f' g c c' ev hl hJ _ hs hstep
      rw [serverSays_server, clientSays_silent rfl]
      have hkept := hl.responces hshort hs hstep
      have hread : c.down.consumed ≤ (replies (serverSays ls).current.responces).length := by
        have hw := hl.replied.length_le
        have hb := c.down.bounded
        omega
      exact ⟨hJ.1.respond hl.received hread hkept, hJ.2.respond hl.answered hkept⟩
    · intro ls f g g' c c' ev hl hJ _ hs hstep
      rw [serverSays_silent rfl, clientSays_client]
      obtain ⟨s, ha, -⟩ := Connection.step_client hstep
      exact ⟨hJ.1.step hl.received hs hl.replied ha, hJ.2.step hJ.1 hs ha⟩
    · intro ls f g c c' l hl hJ _ hsil hcl hstep
      rw [serverSays_silent hsil, clientSays_silent hcl]
      exact hJ
  obtain ⟨f, g, -, -, htold⟩ := hrun
  exact htold

/-- A descriptor that is exported fits the response it is sent in. -/
def ConnectionLabel.compact : ConnectionLabel → Bool
  | server ⟨.exportMemoryDescriptor _, .returned (.ok descriptor)⟩ =>
    decide (⟨.operationPermitted, descriptor⟩ : Responce).Short
  | _ => true

/-- All descriptors exported fit their responses. -/
def Compact (ls : List ConnectionLabel) : Prop := ∀ l ∈ ls, l.compact = true

instance (ls : List ConnectionLabel) : Decidable (Compact ls) :=
  inferInstanceAs (Decidable (∀ l ∈ ls, l.compact = true))

omit [Platform] in
theorem mem_ofServer : ev ∈ ls.filterMap ConnectionLabel.ofServer ↔ .server ev ∈ ls := by
  rw [List.mem_filterMap]
  constructor
  · rintro ⟨l, hl, hev⟩
    obtain rfl : l = .server ev := by cases l <;> cases hev; rfl
    exact hl
  · exact fun hl => ⟨_, hl, rfl⟩

omit [Platform] in
theorem mem_ofClient : ev ∈ ls.filterMap ConnectionLabel.ofClient ↔ .client ev ∈ ls := by
  rw [List.mem_filterMap]
  constructor
  · rintro ⟨l, hl, hev⟩
    obtain rfl : l = .client ev := by cases l <;> cases hev; rfl
    exact hl
  · exact fun hl => ⟨_, hl, rfl⟩

/-- **The server session of a connection is a server session.** -/
theorem connection_server (h : ConnectionRun endpoint ls c) :
    ServerRun (ls.filterMap ConnectionLabel.ofServer) c.server := by
  refine Machine.RunWith.project Connection.server ConnectionLabel.ofServer ?_ h
  intro ls c l c' _ hp (hstep : c.step endpoint l = some c')
  cases hl : l.ofServer with
  | none => exact (Connection.step_same hstep).1 hl
  | some ev =>
    obtain rfl : l = .server ev := by cases l <;> cases hl; rfl
    obtain ⟨s, -, hr, -⟩ := Connection.step_server hstep
    exact ⟨hp, hr⟩

omit [Platform] in
/-- An endpoint that fits the request of a client whose type is known has that type. -/
theorem wireRequest_type {served : RdmaEndpoint} (hknown : endpoint.type.Known)
    (hfits : (wireRequest endpoint).Fits served) : served.type = endpoint.type := by
  rcases hknown with hw | hr
  · rw [hw]
    refine endpointTypeToString_write (hfits.2.trans ?_)
    rw [wireRequest, hw]
    rfl
  · rw [hr]
    refine endpointTypeToString_read (hfits.2.trans ?_)
    rw [wireRequest, hr]
    rfl

/-- What both sides of a connection know of an operation that was submitted. -/
structure Agreed (endpoint : RdmaEndpoint) (ls : List ConnectionLabel)
    (operation : RdmaOperationRequest) (served : RdmaEndpoint) : Prop where
  submitted : Submitted endpoint (ls.filterMap ConnectionLabel.ofClient) (clientSays ls) operation
  found : (serverSays ls).current.endpoint = some served
  path : served.path = endpoint.path
  type : served.type = endpoint.type
  exported : .server ⟨.exportMemoryDescriptor served, .returned (.ok operation.remoteBuffer)⟩ ∈ ls

/-- **What is submitted was exported**, in the runs of one connection. -/
theorem agreed_run (hshort : Short endpoint) (h : ConnectionRun endpoint ls c)
    (hcompact : Compact ls) (hm : .client ⟨.submitOperation operation, none⟩ ∈ ls) :
    ∃ served, Agreed endpoint ls operation served := by
  obtain ⟨f, g, hl⟩ := linked_run hshort h
  obtain ⟨-, -, -, -, hsubmits⟩ := client_submits (connection_client h)
  have hsubmitted := hsubmits operation (mem_ofClient.mpr hm)
  obtain ⟨hdisclosed, hexports⟩ := server_discloses (connection_server h)
  -- the response the client has decoded, as the server made it
  obtain ⟨made, hmade, hcode⟩ := hl.answered _ hsubmitted.permitted
  have hexported := hdisclosed made (hmade ▸ List.mem_singleton_self made) hcode
  obtain ⟨served, hserved, hevent⟩ := hexports _ hexported
  have hserver := mem_ofServer.mp hevent
  have hmadeshort : made.Short := of_decide_eq_true (hcompact _ hserver)
  have htold := told_run hshort h _ made hsubmitted.permitted hmade hmadeshort
  subst htold
  have hfits := hl.fits served hserved
  exact ⟨served, hsubmitted, hserved, hfits.1, wireRequest_type hsubmitted.known hfits, hserver⟩

end Designates

section Network

variable {ι : Type} [DecidableEq ι] {endpoints : ι → RdmaEndpoint} {n : Network ι} {i : ι}
  {ls ls₁ ls₂ : List (NetworkLabel ι)} {storage : RdmaEndpointStorage}
  {operation : RdmaOperationRequest}

/-- The connection in a run of the network. -/
theorem network_connectionRun {Good : List (NetworkLabel ι) → Network ι → NetworkLabel ι → Prop}
    (i : ι) (hrun : (network endpoints).RunWith Good (Network.start ι storage) ls n) :
    ConnectionRun (endpoints i) (historyOf i ls) (n.conn i) :=
  (network_connection i (P := fun _ _ _ => True) (fun _ _ _ => trivial) (fun _ _ _ _ => trivial)
    hrun).mono fun _ _ _ h => h.1

omit [Platform] in
theorem historyOf_append (i : ι) (ls ms : List (NetworkLabel ι)) :
    historyOf i (ls ++ ms) = historyOf i ls ++ historyOf i ms := List.filterMap_append ..

/-- **An operation goes to the buffer that was exported for it**, for any number of clients and
whatever is delayed: it is of the type of its client's endpoint and on its client's buffer, and the
descriptor of the remote buffer was exported, before the operation was submitted and in the session
that serves the client, for the endpoint registered with that path and type. -/
theorem operation_designates (hrun : (network endpoints).Run (Network.start ι storage) ls n)
    (hshort : Short (endpoints i)) (hcompact : Compact (historyOf i ls))
    (hsplit : ls = ls₁ ++ .conn i (.client ⟨.submitOperation operation, none⟩) :: ls₂) :
    operation.type = (endpoints i).operationType ∧
      operation.localBuffer = (endpoints i).buffer ∧
      ∃ served, storage.Holds served ∧ served.path = (endpoints i).path ∧
        served.type = (endpoints i).type ∧
        .server ⟨.exportMemoryDescriptor served, .returned (.ok operation.remoteBuffer)⟩
          ∈ historyOf i ls₁ := by
  subst hsplit
  rw [List.append_cons] at hrun hcompact
  obtain ⟨n', hbefore, -⟩ := hrun.split
  have hhistory : historyOf i (ls₁ ++ [.conn i (.client ⟨.submitOperation operation, none⟩)])
      = historyOf i ls₁ ++ [.client ⟨.submitOperation operation, none⟩] := by
    simp [historyOf, NetworkLabel.on]
  have hconn := network_connectionRun i hbefore
  have hfound := (pool_found (network_pool hbefore)).2 i
  rw [historyOf_append] at hcompact
  rw [logOf_serverHistory] at hfound
  rw [hhistory] at hconn hcompact hfound
  obtain ⟨served, hagreed⟩ := agreed_run hshort hconn
    (fun l hm => hcompact l (List.mem_append_left _ hm))
    (List.mem_append_right _ (List.mem_singleton_self _))
  refine ⟨hagreed.submitted.type, hagreed.submitted.localBuffer, served,
    hfound served hagreed.found, hagreed.path, hagreed.type, ?_⟩
  rcases List.mem_append.mp hagreed.exported with hm | hm
  · exact hm
  · cases List.mem_singleton.mp hm

end Network

/-- A client of a write endpoint up to its operation. -/
def preparedLabels : List ConnectionLabel :=
  List.flatten [asking sampleWriteEndpoint, granting sampleWriteEndpoint [7], permitted [7],
    (operating sampleWriteEndpoint [7]).dropLast]

omit [Platform] in
theorem operation_designates_sample :
    letI := Platform.littleEndian
    ∃ served, sampleWriteStorage.Holds served ∧ served.path = sampleWriteEndpoint.path ∧
      served.type = sampleWriteEndpoint.type ∧
      .server ⟨.exportMemoryDescriptor served, .returned (.ok [7])⟩
        ∈ historyOf () (preparedLabels.map (.via ())) := by
  let _ := Platform.littleEndian
  let submission : ConnectionLabel := .client ⟨.submitOperation ⟨.write, some 0, [7]⟩, none⟩
  have hsome : ((network fun _ : Unit => sampleWriteEndpoint).exec
      (Network.start Unit sampleWriteStorage)
      (preparedLabels.map (.via ()) ++ [.conn () submission])).isSome = true := by
    decide +kernel
  obtain ⟨n, hn⟩ := Option.isSome_iff_exists.mp hsome
  exact (operation_designates (i := ()) (Machine.exec_run hn) sampleWriteEndpoint_short
    (by decide +kernel) rfl).2.2

end DocaCpp
