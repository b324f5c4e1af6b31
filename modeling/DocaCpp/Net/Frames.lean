/-
# Which bytes are decoded as what

The frames of a connection carry no kind: whether four bytes are the length of a request or of an
acknowledge is decided by where the server stands when it reads them.  `frames_aligned_iff` says
when that goes right.  Acknowledges are always decoded from the client's acknowledge; a request is,
exactly as long as no wait for an acknowledge was lost before.
-/
import DocaCpp.Net.Linked

namespace DocaCpp

variable [Platform]

/-! ## 1. Payloads that are what they are taken for -/

/-- The payload is that of the client's request frame, and the server has read to its end. -/
def RequestFrame (endpoint : RdmaEndpoint) (c : Connection) (b : Bytes) : Prop :=
  b = requestOf endpoint ∧ c.up.consumed = requestEnd endpoint

/-- The payload is that of the client's acknowledge frame for the request being served, and the
server has read to its end. -/
def AcknowledgeFrame (endpoint : RdmaEndpoint) (slog : ServerLog) (clog : ClientLog)
    (c : Connection) (b : Bytes) : Prop :=
  slog.current.request = some (wireRequest endpoint) ∧
    ∃ ack, clog.acks = [ack] ∧ b = serializeAcknowledge ack ∧
      c.up.consumed = (stream endpoint [ack]).length

/-! ## 2. The size of what is decoded -/

/-- A payload is as long as its length word says, so it is shorter than four gigabytes. -/
def ServerPhase.Sized : ServerPhase → Prop
  | requestPayload size => size < 2 ^ 32
  | requestDecode buffer => buffer.length < 2 ^ 32
  | _ => True

section Sized

variable {endpoint : RdmaEndpoint} {f f' : ServerPhase} {ev : SessionEvent} {s s' : Side}
  {now : ℕ} {ls : List ConnectionLabel} {c : Connection}

theorem ServerPhase.Sized.step (h : f.Sized) (hs : ServerStep f ev f')
    (ha : s.answer now ev = some s') : f'.Sized := by
  cases hs with
  | requestLength bs => exact uint32Of_lt (Side.read_ok ha (List.prefix_refl _)).2.1
  | requestPayload size bs =>
    have hsize := (Side.read_ok ha (List.prefix_refl _)).2.1
    exact hsize.trans_lt h
  | granted request served descriptor =>
    rcases granted_cases request served descriptor with heq | heq <;> rw [heq] <;> trivial
  | sendPayload reply bs =>
    cases reply with
    | permitted request served descriptor =>
      rcases Reply.permitted_sent_cases request served descriptor with heq | ⟨err, heq⟩ <;>
        rw [heq] <;> trivial
    | _ => trivial
  | ackJoin request served ack err timer =>
    rcases joined_cases request served (Coro.errorAfter timer err) with heq | heq <;>
      rw [heq] <;> trivial
  | _ => trivial

theorem sized_run (h : ConnectionRun endpoint ls c) :
    ∃ f : ServerPhase, c.server = f.session ∧ f.Sized := by
  refine Machine.RunWith.invariant
    (I := fun _ c => ∃ f : ServerPhase, c.server = f.session ∧ f.Sized)
    ⟨.head, rfl, trivial⟩ ?_ h
  rintro ls c l c' - ⟨f, hf, hsized⟩ - (hstep : c.step endpoint l = some c')
  cases hl : l.ofServer with
  | none => exact ⟨f, ((Connection.step_same hstep).1 hl).trans hf, hsized⟩
  | some ev =>
    obtain rfl : l = .server ev := by cases l <;> cases hl; rfl
    obtain ⟨s, ha, hr, -⟩ := Connection.step_server hstep
    rw [hf] at hr
    obtain ⟨f', hf', hs⟩ := server_refines.step f ev _ hr
    exact ⟨f', hf', hsized.step hs ha⟩

end Sized

/-! ## 3. Alignment -/

section Aligned

variable {endpoint : RdmaEndpoint} {f : ServerPhase} {b : Bytes} {ls : List ConnectionLabel}
  {c : Connection}

theorem decodes_request (h : f.session.pending serverPass = some (.deserializeRequest b)) :
    f = .requestDecode b := by
  obtain ⟨f', hs⟩ := server_refines.of_pending h (.error ⟨0, 0, 0⟩)
  cases hs
  rfl

theorem decodes_acknowledge (h : f.session.pending serverPass = some (.deserializeAcknowledge b)) :
    ∃ request served, f = .ackDecode request served b := by
  obtain ⟨f', hs⟩ := server_refines.of_pending h (.error ⟨0, 0, 0⟩)
  cases hs
  exact ⟨_, _, rfl⟩

/-- **Frame alignment**, wherever a server session can stand with its client: the payload it is
about to decode as a request is the client's request exactly when the path fits its length words
and no wait for an acknowledge was lost before; the payload it is about to decode as an acknowledge
always is the client's acknowledge. -/
theorem frames_aligned_iff (h : ConnectionRun endpoint ls c) :
    (∀ b, c.serverCall = some (.deserializeRequest b) →
      (RequestFrame endpoint c b ↔ Short endpoint ∧ (serverSays ls).lost = false)) ∧
    (Short endpoint → ∀ b, c.serverCall = some (.deserializeAcknowledge b) →
      AcknowledgeFrame endpoint (serverSays ls) (clientSays ls) c b) := by
  constructor
  · intro b hb
    by_cases hshort : Short endpoint
    · obtain ⟨f, g, hl⟩ := linked_run hshort h
      rw [Connection.serverCall, hl.server] at hb
      obtain rfl := decodes_request hb
      rcases hl.consumed with ⟨-, -, hlost, hn, rfl⟩ | ⟨-, hlost, hsmall⟩
      · exact ⟨fun _ => ⟨hshort, hlost⟩, fun _ => ⟨rfl, hn⟩⟩
      · constructor
        · intro hframe
          rw [hframe.1, length_requestOf] at hsmall
          omega
        · intro hok
          rw [hlost] at hok
          cases hok.2
    · obtain ⟨f, hf, hsized⟩ := sized_run h
      rw [Connection.serverCall, hf] at hb
      obtain rfl := decodes_request hb
      refine ⟨fun hframe => ?_, fun hok => absurd hok.1 hshort⟩
      have hlt : b.length < 2 ^ 32 := hsized
      rw [hframe.1, length_requestOf] at hlt
      exact absurd hlt hshort
  · intro hshort b hb
    obtain ⟨f, g, hl⟩ := linked_run hshort h
    rw [Connection.serverCall, hl.server] at hb
    obtain ⟨request, served, rfl⟩ := decodes_acknowledge hb
    obtain ⟨⟨-, -, rfl⟩, hn, ack, hacks, rfl⟩ := hl.consumed
    obtain ⟨-, -, -, -, descriptor, hcur⟩ := hl.knowsServer
    refine ⟨?_, ack, hacks, rfl, ?_⟩
    · rw [hcur]; rfl
    · rw [stream_length]; exact hn

end Aligned

/-! ## 4. A request that is not one -/

/-- The client writes a frame. -/
def clientWrites (payload : Bytes) : List ConnectionLabel :=
  List.flatten [List.replicate 4 .pushUp,
    [.client ⟨.asyncWrite (uint32Bytes payload.length), .ok ()⟩],
    List.replicate payload.length .pushUp, [.client ⟨.asyncWrite payload, .ok ()⟩]]

/-- The server reads a frame. -/
def serverReads (payload : Bytes) : List ConnectionLabel :=
  List.flatten [List.replicate 4 .fetchUp,
    [.server ⟨.asyncRead 4, .ok (uint32Bytes payload.length)⟩],
    List.replicate payload.length .fetchUp, [.server ⟨.asyncRead payload.length, .ok payload⟩]]

/-- The server writes a frame. -/
def serverWrites (payload : Bytes) : List ConnectionLabel :=
  List.flatten [List.replicate 4 .pushDown,
    [.server ⟨.asyncWrite (uint32Bytes payload.length), .ok ()⟩],
    List.replicate payload.length .pushDown, [.server ⟨.asyncWrite payload, .ok ()⟩]]

/-- The client reads a frame. -/
def clientReads (payload : Bytes) : List ConnectionLabel :=
  List.flatten [List.replicate 4 .fetchDown,
    [.client ⟨.asyncRead 4, .ok (uint32Bytes payload.length)⟩],
    List.replicate payload.length .fetchDown, [.client ⟨.asyncRead payload.length, .ok payload⟩]]

/-- The client asks, and the server decodes the request. -/
def asking (endpoint : RdmaEndpoint) : List ConnectionLabel :=
  let payload := requestOf endpoint
  List.flatten [
    [.client ⟨.startTimer 5000, ()⟩, .client ⟨.serializeRequest (clientRequest endpoint), payload⟩],
    clientWrites payload, [.server ⟨.isOpen, true⟩], serverReads payload,
    [.server ⟨.deserializeRequest payload, .ok (wireRequest endpoint)⟩]]

/-- The server grants a write endpoint, responds and waits for the acknowledge. -/
def granting (endpoint : RdmaEndpoint) (descriptor : Bytes) : List ConnectionLabel :=
  let payload := serializeResponse ⟨.operationPermitted, descriptor⟩
  List.flatten [
    [.server ⟨.waitForEstablishedConnection 3000, none⟩,
      .server ⟨.getEndpoint endpoint.makeEndpointId, .ok endpoint⟩,
      .server ⟨.exportMemoryDescriptor endpoint, .returned (.ok descriptor)⟩,
      .server ⟨.tryLockEndpointsByPath endpoint.path, (true, none)⟩,
      .server ⟨.serializeResponse ⟨.operationPermitted, descriptor⟩, payload⟩],
    serverWrites payload, [.server ⟨.startTimer 5000, ()⟩]]

/-- The client reads the permission. -/
def permitted (descriptor : Bytes) : List ConnectionLabel :=
  let payload := serializeResponse ⟨.operationPermitted, descriptor⟩
  List.flatten [clientReads payload,
    [.client ⟨.deserializeResponse payload, .ok ⟨.operationPermitted, descriptor⟩⟩,
      .client ⟨.joinTimer, .cancelled⟩]]

/-- The client of a write endpoint fills its buffer and starts the operation. -/
def operating (endpoint : RdmaEndpoint) (descriptor : Bytes) : List ConnectionLabel :=
  [.client ⟨.fromExportedRemoteDescriptor descriptor, none⟩,
    .client ⟨.handle endpoint, .returned none⟩,
    .client ⟨.getActiveConnection, none⟩,
    .client ⟨.submitOperation ⟨.write, endpoint.buffer, descriptor⟩, none⟩]

/-- The client reports. -/
def acknowledging (ack : Acknowledge) : List ConnectionLabel :=
  let payload := serializeAcknowledge ack
  List.flatten [
    [.client ⟨.startTimer 5000, ()⟩, .client ⟨.serializeAcknowledge ack, payload⟩],
    clientWrites payload, [.client ⟨.joinTimer, .cancelled⟩]]

/-- Time passes, the server's timer runs before anything of the acknowledge has come, and the
server goes back to its loop. -/
def losing (endpoint : RdmaEndpoint) (milliseconds : ℕ) : List ConnectionLabel :=
  [.tick milliseconds, .serverTimeout, .server ⟨.asyncRead 4, .error ⟨"Operation canceled"⟩⟩,
    .server ⟨.joinTimer, .ranFirst⟩, .server ⟨.unlockEndpointsByPath endpoint.path, none⟩,
    .server ⟨.isOpen, true⟩]

/-- A write endpoint with the empty path. -/
def sampleWriteEndpoint : RdmaEndpoint := ⟨[], .write, some 0, some 0⟩

/-- The storage it is registered in. -/
def sampleWriteStorage : RdmaEndpointStorage :=
  (RdmaEndpointStorage.create.registerEndpoint (some sampleWriteEndpoint)).2

/-- A run evaluated on a storage is a run of a connection. -/
theorem connectionRun_of_exec {endpoint : RdmaEndpoint} {ls : List ConnectionLabel}
    {c : Connection} (storage : RdmaEndpointStorage)
    (h : (connection endpoint).exec .start ls = some c)
    (hok : ls.all (fun l => l.ofServer.all fun ev => (storage.answer ev).isSome) = true) :
    ConnectionRun endpoint ls c := by
  refine (Machine.exec_runWith h hok).mono fun _ _ l hl => ?_
  cases l with
  | server ev =>
    obtain ⟨storage', h'⟩ := Option.isSome_iff_exists.mp hl
    exact ⟨storage, storage', h'⟩
  | _ => trivial

/-- The server reads the acknowledge. -/
def acknowledged (ack : Acknowledge) : List ConnectionLabel :=
  serverReads (serializeAcknowledge ack)

/-- A client that writes and acknowledges in time. -/
def promptLabels : List ConnectionLabel :=
  List.flatten [asking sampleWriteEndpoint, granting sampleWriteEndpoint [7], permitted [7],
    operating sampleWriteEndpoint [7],
    [.complete none, .client ⟨.awaitWithTimeout 5000, .ready none⟩],
    acknowledging ⟨.operationCompleted⟩, acknowledged ⟨.operationCompleted⟩]

omit [Platform] in
theorem sampleWriteEndpoint_short : Short sampleWriteEndpoint := by decide

omit [Platform] in
/-- The request and then the acknowledge of that client, each as it is about to be decoded. -/
theorem frames_aligned_sample :
    letI := Platform.littleEndian
    (∃ c, RequestFrame sampleWriteEndpoint c (requestOf sampleWriteEndpoint)) ∧
      ∃ c, AcknowledgeFrame sampleWriteEndpoint (serverSays promptLabels)
        (clientSays promptLabels) c [4] := by
  let _ := Platform.littleEndian
  constructor
  · have hexec : ((connection sampleWriteEndpoint).exec .start
        (asking sampleWriteEndpoint).dropLast).any (fun c => decide
          (c.serverCall = some (.deserializeRequest (requestOf sampleWriteEndpoint)))) = true := by
      decide +kernel
    obtain ⟨c, hc, hcall⟩ := (Option.any_eq_true _ _).mp hexec
    have hrun := connectionRun_of_exec sampleWriteStorage hc (by decide +kernel)
    exact ⟨c, ((frames_aligned_iff hrun).1 _ (of_decide_eq_true hcall)).mpr
      ⟨sampleWriteEndpoint_short, by decide +kernel⟩⟩
  · have hexec : ((connection sampleWriteEndpoint).exec .start promptLabels).any
        (fun c => decide (c.serverCall = some (.deserializeAcknowledge [4]))) = true := by
      decide +kernel
    obtain ⟨c, hc, hcall⟩ := (Option.any_eq_true _ _).mp hexec
    have hrun := connectionRun_of_exec sampleWriteStorage hc (by decide +kernel)
    exact ⟨c, (frames_aligned_iff hrun).2 sampleWriteEndpoint_short _ (of_decide_eq_true hcall)⟩

/-- The client fills its buffer for a second and then writes for four, and the server's timer runs
meanwhile.  The acknowledge is decoded as a request. -/
def misreadLabels : List ConnectionLabel :=
  List.flatten [asking sampleWriteEndpoint, granting sampleWriteEndpoint [7], permitted [7],
    [.tick 1000], operating sampleWriteEndpoint [7], losing sampleWriteEndpoint 4000,
    [.complete none, .client ⟨.awaitWithTimeout 5000, .ready none⟩],
    acknowledging ⟨.operationCompleted⟩, acknowledged ⟨.operationCompleted⟩]

omit [Platform] in
/-- The payload `[4]` is about to be decoded as a request, and it is none. -/
theorem frames_misaligned :
    letI := Platform.littleEndian
    ∃ ls c b, ConnectionRun sampleWriteEndpoint ls c ∧
      c.serverCall = some (.deserializeRequest b) ∧ ¬ RequestFrame sampleWriteEndpoint c b := by
  let _ := Platform.littleEndian
  have hexec : ((connection sampleWriteEndpoint).exec .start misreadLabels).any
      (fun c => decide (c.serverCall = some (.deserializeRequest [4]))) = true := by decide +kernel
  obtain ⟨c, hc, hcall⟩ := (Option.any_eq_true _ _).mp hexec
  refine ⟨misreadLabels, c, [4], ?_, of_decide_eq_true hcall, fun hframe => ?_⟩
  · exact connectionRun_of_exec sampleWriteStorage hc (by decide +kernel)
  · exact absurd hframe.1 (by decide +kernel)

end DocaCpp
