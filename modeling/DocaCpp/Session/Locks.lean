/-
# What one server session does with its lock

Two questions about a single server session, whatever the storage and the rest of the world answer.

§1: does it give its lock back?  Locking and unlocking are written out by hand around a dozen exits
of the loop.  All the exits that continue do unlock; of those that return, every one taken between
the grant and the acknowledge does not, and an exception out of the user's service leaves the lock
behind as well.  `locks_released_iff` is exact: at rest the session holds a lock if and only if one
of these happened.

§2: whom does it give the memory descriptor to?  `response` is filled with the descriptor before
the lock is asked for and reused for every later refusal, so `descriptor_disclosed_iff` has the
refusals after the export as its exceptions.
-/
import DocaCpp.Session.ServerHistory

namespace DocaCpp

/-! ## 1. The lock -/

variable [Platform]

/-- The coroutine is about to test `IsOpen` at the head of its loop, has returned, or has been left
by an exception. -/
def AtRest (c : Session) : Prop :=
  c.pending serverPass = some .isOpen ∨ c.pending serverPass = none ∨
    c.pending serverPass = some .unwind

instance (c : Session) : Decidable (AtRest c) := inferInstanceAs (Decidable (_ ∨ _ ∨ _))

/-- The points at rest. -/
theorem atRest_session {f : ServerPhase} (h : AtRest f.session) :
    f = .head ∨ f = .unwound ∨ ∃ err, f = .ended err := by
  cases f with
  | head => exact Or.inl rfl
  | unwound => exact Or.inr (Or.inl rfl)
  | ended err => exact Or.inr (Or.inr ⟨err, rfl⟩)
  | respond reply sending => cases sending <;> rcases h with h | h | h <;> cases h
  | _ => rcases h with h | h | h <;> cases h

/-- **At rest a session holds no lock, exactly when none was stranded**: no response failed to be
sent and no service threw while a lock was held, and no lock was granted for an endpoint whose type
is neither write nor read. -/
theorem locks_released_iff {evs : List SessionEvent} {c : Session} (h : ServerRun evs c)
    (hrest : AtRest c) : (serverLog evs).held = [] ↔ (serverLog evs).stranded = false := by
  obtain ⟨f, rfl, hf⟩ := server_knows h
  rcases atRest_session hrest with rfl | rfl | ⟨err, rfl⟩
  · obtain ⟨hheld, hstranded, -⟩ := hf
    exact ⟨fun _ => hstranded, fun _ => hheld⟩
  · exact hf
  · exact hf

/-- The events from the head of the loop to the lock, for a request that is found. -/
def exportEvents (request : Request) (endpoint : RdmaEndpoint) (descriptor : Bytes) :
    List SessionEvent :=
  let payload := serializeRequest request
  [⟨.isOpen, true⟩,
    ⟨.asyncRead 4, .ok (uint32Bytes payload.length)⟩,
    ⟨.asyncRead payload.length, .ok payload⟩,
    ⟨.deserializeRequest payload, .ok request⟩,
    ⟨.waitForEstablishedConnection 3000, none⟩,
    ⟨.getEndpoint (makeEndpointId request.endpointPath request.endpointType), .ok endpoint⟩,
    ⟨.exportMemoryDescriptor endpoint, .returned (.ok descriptor)⟩]

/-- The same up to the grant. -/
def grantEvents (request : Request) (endpoint : RdmaEndpoint) (descriptor : Bytes) :
    List SessionEvent :=
  exportEvents request endpoint descriptor ++
    [⟨.tryLockEndpointsByPath request.endpointPath, (true, none)⟩]

/-- The events of a response that is sent. -/
def responceEvents (responce : Responce) : List SessionEvent :=
  let payload := serializeResponse responce
  [⟨.serializeResponse responce, payload⟩,
    ⟨.asyncWrite (uint32Bytes payload.length), .ok ()⟩,
    ⟨.asyncWrite payload, .ok ()⟩]

/-- A read endpoint with the empty path. -/
def sampleEndpoint : RdmaEndpoint := ⟨[], .read, some 0, some 0⟩

/-- The request for it. -/
def sampleRequest : Request := ⟨.read, []⟩

/-- The storage it is registered in. -/
def sampleStorage : RdmaEndpointStorage :=
  (RdmaEndpointStorage.create.registerEndpoint (some sampleEndpoint)).2

/-- A run evaluated on a storage is a run of a server session. -/
theorem serverRun_of_exec {evs : List SessionEvent} {c : Session} {storage : RdmaEndpointStorage}
    (h : handleServerSession.exec .head evs = some c)
    (hok : evs.all (fun ev => (storage.answer ev).isSome) = true) : ServerRun evs c := by
  refine (Machine.exec_runWith h hok).mono fun _ _ ev hev => ?_
  obtain ⟨storage', h'⟩ := Option.isSome_iff_exists.mp hev
  exact ⟨storage, storage', h'⟩

/-- A run evaluated to a state at rest. -/
theorem serverRun_atRest (evs : List SessionEvent) (storage : RdmaEndpointStorage)
    (h : (handleServerSession.exec .head evs).any (fun c => decide (AtRest c)) = true)
    (hok : evs.all (fun ev => (storage.answer ev).isSome) = true) :
    ∃ c, ServerRun evs c ∧ AtRest c := by
  obtain ⟨c, hc, hrest⟩ := (Option.any_eq_true _ _).mp h
  exact ⟨c, serverRun_of_exec hc hok, of_decide_eq_true hrest⟩

/-- The exchange of a read request that ends well. -/
def servedEvents : List SessionEvent :=
  grantEvents sampleRequest sampleEndpoint [7] ++
    [⟨.handle sampleEndpoint, .returned none⟩] ++
    responceEvents ⟨.operationPermitted, [7]⟩ ++
    [⟨.startTimer 5000, ()⟩,
      ⟨.asyncRead 4, .ok (uint32Bytes 1)⟩,
      ⟨.asyncRead 1, .ok [4]⟩,
      ⟨.deserializeAcknowledge [4], .ok ⟨.operationCompleted⟩⟩,
      ⟨.joinTimer, .cancelled⟩,
      ⟨.unlockEndpointsByPath [], none⟩]

/-- The same request, when the service fails and the response cannot be sent. -/
def strandedEvents : List SessionEvent :=
  grantEvents sampleRequest sampleEndpoint [7] ++
    [⟨.handle sampleEndpoint, .returned (some (.new "no data"))⟩,
      ⟨.serializeResponse ⟨.operationServiceError, [7]⟩,
        serializeResponse ⟨.operationServiceError, [7]⟩⟩,
      ⟨.asyncWrite (uint32Bytes 6), .error ⟨"Broken pipe"⟩⟩]

omit [Platform] in
theorem locks_released_sample :
    letI := Platform.littleEndian
    (serverLog servedEvents).held = [] ↔ (serverLog servedEvents).stranded = false := by
  let _ := Platform.littleEndian
  obtain ⟨c, hrun, hrest⟩ := serverRun_atRest servedEvents sampleStorage
    (by decide +kernel) (by decide +kernel)
  exact locks_released_iff hrun hrest

omit [Platform] in
/-- A session that has returned and still holds its lock. -/
theorem locks_not_released :
    letI := Platform.littleEndian
    ∃ evs c, ServerRun evs c ∧ AtRest c ∧ (serverLog evs).held ≠ [] := by
  let _ := Platform.littleEndian
  obtain ⟨c, hrun, hrest⟩ := serverRun_atRest strandedEvents sampleStorage
    (by decide +kernel) (by decide +kernel)
  exact ⟨strandedEvents, c, hrun, hrest, by decide +kernel⟩

/-! ## 2. The memory descriptor -/

/-- An event by which a session sends a response: it is serialized, or a buffer is written while
it is the response of the current exchange. -/
def Sends (log : ServerLog) (ev : SessionEvent) (responce : Responce) : Prop :=
  ev.op = .serializeResponse responce ∨
    (∃ bs, ev.op = .asyncWrite bs) ∧ log.current.responces.head? = some responce

/-- The session holds the lock of the path it was asked for. -/
def ServerLog.HoldsRequested (log : ServerLog) : Prop :=
  ∃ request, log.current.request = some request ∧ request.endpointPath ∈ log.held

/-- The request is refused although its descriptor has been exported: the lock was not granted, or
the service failed. -/
def ServerLog.RefusesExported (log : ServerLog) : Prop :=
  ∃ descriptor, log.current.exported = some (.ok descriptor) ∧ descriptor ≠ [] ∧
    (log.current.lock ≠ some (true, none) ∨ ∃ x ∈ log.current.handled, x.2 ≠ .returned none)

/-- Only at `SendResponse` is a response sent. -/
theorem ServerStep.sends {f f' : ServerPhase} {ev : SessionEvent} {log : ServerLog}
    {responce : Responce} (hs : ServerStep f ev f') (hf : f.Knows log)
    (h : Sends log ev responce) :
    ∃ reply sending, f = .respond reply sending ∧ responce = reply.responce := by
  cases hs with
  | serialize reply bs =>
    rcases h with h | ⟨⟨bs', h⟩, -⟩
    · cases h
      exact ⟨reply, .serialize, rfl, rfl⟩
    · cases h
  | sendLength reply bs | sendLengthFailed reply bs ec =>
    rcases h with h | ⟨-, h⟩
    · cases h
    · rw [hf.2.2.2] at h
      exact ⟨reply, .length bs, rfl, (Option.some.inj h).symm⟩
  | sendPayload reply bs | sendPayloadFailed reply bs ec =>
    rcases h with h | ⟨-, h⟩
    · cases h
    · rw [hf.2.2.2] at h
      exact ⟨reply, .payload bs, rfl, (Option.some.inj h).symm⟩
  | _ => rcases h with h | ⟨⟨bs', h⟩, -⟩ <;> cases h

omit [Platform] in
/-- What is disclosed while a reply is being sent. -/
theorem reply_discloses_iff {log : ServerLog} {reply : Reply} {sending : Sending}
    (hf : (ServerPhase.respond reply sending).Knows log) :
    (reply.responce.memoryDescriptor ≠ [] →
        reply.responce.responceCode = .operationPermitted ∧ log.HoldsRequested) ↔
      ¬ log.RefusesExported := by
  obtain ⟨held, stranded, lost, decoded, current⟩ := log
  obtain ⟨rfl, rfl, hfit, rfl⟩ := hf
  unfold ServerLog.RefusesExported ServerLog.HoldsRequested
  cases reply with
  | notFound request => simp [Reply.responce, Reply.exchange]
  | exportFailed request endpoint descErr => simp [Reply.responce, Reply.exchange]
  | lockFailed request endpoint descriptor lockErr =>
    simp [Reply.responce, Reply.exchange, serving, Responce.Code.operationInternalError,
      Responce.Code.operationPermitted]
  | locked request endpoint descriptor =>
    simp [Reply.responce, Reply.exchange, serving, Responce.Code.operationEndpointLocked,
      Responce.Code.operationPermitted]
  | serviceFailed request endpoint descriptor srvErr =>
    simp [Reply.responce, Reply.exchange, serving, Responce.Code.operationServiceError,
      Responce.Code.operationPermitted]
  | permitted request endpoint descriptor =>
    by_cases hr : endpoint.type = .read <;>
      simp [Reply.responce, Reply.exchange, Reply.held, serving, hr]

/-- **A response discloses a descriptor only with the permission and under the lock, exactly when
the request is not refused after a non-empty descriptor was exported for it.** -/
theorem descriptor_disclosed_iff {evs : List SessionEvent} {ev : SessionEvent} {c : Session}
    {responce : Responce} (h : ServerRun (evs ++ [ev]) c)
    (hsend : Sends (serverLog evs) ev responce) :
    (responce.memoryDescriptor ≠ [] →
        responce.responceCode = .operationPermitted ∧ (serverLog evs).HoldsRequested) ↔
      ¬ (serverLog evs).RefusesExported := by
  obtain ⟨f, f', hf, hs, -⟩ := server_last h
  obtain ⟨reply, sending, rfl, rfl⟩ := hs.sends hf hsend
  exact reply_discloses_iff hf

/-- A run evaluated to any state. -/
theorem serverRun_some (evs : List SessionEvent) (storage : RdmaEndpointStorage)
    (h : (handleServerSession.exec .head evs).isSome = true)
    (hok : evs.all (fun ev => (storage.answer ev).isSome) = true) : ∃ c, ServerRun evs c := by
  obtain ⟨c, hc⟩ := Option.isSome_iff_exists.mp h
  exact ⟨c, serverRun_of_exec hc hok⟩

/-- The permission of a read request, on its way. -/
def permittedEvents : List SessionEvent :=
  grantEvents sampleRequest sampleEndpoint [7] ++ [⟨.handle sampleEndpoint, .returned none⟩]

omit [Platform] in
theorem descriptor_disclosed_sample :
    letI := Platform.littleEndian
    ((⟨.operationPermitted, [7]⟩ : Responce).memoryDescriptor ≠ [] →
        (⟨.operationPermitted, [7]⟩ : Responce).responceCode = .operationPermitted ∧
          (serverLog permittedEvents).HoldsRequested) ↔
      ¬ (serverLog permittedEvents).RefusesExported := by
  let _ := Platform.littleEndian
  obtain ⟨c, hrun⟩ := serverRun_some
    (permittedEvents ++ [⟨.serializeResponse ⟨.operationPermitted, [7]⟩,
      serializeResponse ⟨.operationPermitted, [7]⟩⟩]) sampleStorage
    (by decide +kernel) (by decide +kernel)
  exact descriptor_disclosed_iff hrun (Or.inl rfl)

/-- The refusal of a read request whose path another session has locked. -/
def refusedEvents : List SessionEvent :=
  exportEvents sampleRequest sampleEndpoint [7] ++
    [⟨.tryLockEndpointsByPath [], (false, none)⟩]

omit [Platform] in
/-- The session that is told the endpoint is locked is given its descriptor all the same. -/
theorem descriptor_leaks :
    letI := Platform.littleEndian
    ∃ evs ev c responce, ServerRun (evs ++ [ev]) c ∧ Sends (serverLog evs) ev responce ∧
      responce.memoryDescriptor ≠ [] ∧ responce.responceCode = .operationEndpointLocked ∧
      ¬ (serverLog evs).HoldsRequested := by
  let _ := Platform.littleEndian
  let ev : SessionEvent := ⟨.serializeResponse ⟨.operationEndpointLocked, [7]⟩,
    serializeResponse ⟨.operationEndpointLocked, [7]⟩⟩
  obtain ⟨c, hrun⟩ := serverRun_some (refusedEvents ++ [ev])
    (sampleStorage.setLocked [] true) (by decide +kernel) (by decide +kernel)
  refine ⟨refusedEvents, ev, c, _, hrun, Or.inl rfl, by decide, rfl, ?_⟩
  rintro ⟨request, -, hmem⟩
  have hheld : (serverLog refusedEvents).held = [] := by decide +kernel
  rw [hheld] at hmem
  cases hmem

end DocaCpp
