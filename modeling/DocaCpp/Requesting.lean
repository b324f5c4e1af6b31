/-
# What `RequestEndpointProcessing` reports

Behind its checks `RequestEndpointProcessing` spawns a coroutine that connects to the server and
then spawns `HandleClientSession`, and it goes around its event loop until both are over.  Whatever
goes wrong must get into `processingError`.  An error that is returned does.  An exception does not:
the first coroutine is `detached`, which drops it, and the handler of the second is given it beside
a null error and looks at the error only.

`requesting_truthful_iff` says that a null result means what it should exactly if no exception has
left either coroutine.
-/
import DocaCpp.Client
import DocaCpp.Session.Client
import DocaCpp.Session.Connect

namespace DocaCpp

variable [Platform]

/-! ## 1. The machine -/

/-- Where a request stands. -/
inductive RequestPhase
  /-- the spawned coroutine awaits `Connect` -/
  | connecting (endpoint : RdmaEndpoint)
  | handling (endpoint : RdmaEndpoint) (session : Session)
  /-- both coroutines are over, so the `io_context` stops -/
  | stopped
  | returned (result : error)

/-- A call of `RequestEndpointProcessing`. -/
structure Requesting where
  phase : RequestPhase
  processingError : error := none

/-- What can happen next. -/
inductive RequestLabel
  /-- `Connect` ends.  If it has run off its end, its caller finds anything for the result. -/
  | connected (result : RdmaSessionClient.ConnectEnd) (found : error)
  /-- a step of `HandleClientSession` -/
  | session (ev : SessionEvent)
  /-- an exception leaves `HandleClientSession` -/
  | threw
  /-- `HandleClientSession` returns, and its handler runs -/
  | handled (handleError : error)
  | returns (result : error)

/-- The step of `HandleClientSession`, if it is one. -/
def RequestLabel.ofSession : RequestLabel → Option SessionEvent
  | session ev => some ev
  | _ => none

/-- An exception leaves one of the coroutines. -/
def RequestLabel.throws : RequestLabel → Bool
  | connected .threw _ => true
  | threw => true
  | _ => false

namespace Requesting

/-- The session is over. -/
def ended : Session → Bool
  | .ended _ => true
  | _ => false

/-- The request behind its checks. -/
def start {κ : Type} (x : RdmaClient κ) (endpointId : RdmaEndpointId) : Requesting :=
  match x.requestEndpointProcessing endpointId with
  | .error err => { phase := .returned (some err) }
  | .ok p => { phase := .connecting p.endpoint }

/-- The coroutine that connects, given the value of `Connect`. -/
def connect (x : Requesting) (endpoint : RdmaEndpoint) (err : error) : Requesting :=
  match err with
  | some err =>
    { phase := .stopped
      processingError :=
        some (.wrap err "Failed to connect to server via TCP communication channel") }
  | none => { x with phase := .handling endpoint .head }

/-- The result, by `processingError`. -/
def result (processingError : error) : error :=
  match processingError with
  | some err => some (.wrap err "Failed to process endpoint")
  | none => none

/-- One step. -/
def step (x : Requesting) : RequestLabel → Option Requesting
  | .connected result found =>
    match x.phase with
    | .connecting endpoint =>
      match result with
      | .returned err => some (x.connect endpoint err)
      -- `asio::detached` drops the exception
      | .threw => some { x with phase := .stopped }
      | .flowsOff => some (x.connect endpoint found)
    | _ => none
  | .session ev =>
    match x.phase with
    | .handling endpoint session =>
      ((handleClientSession true endpoint).step session ev).map fun session =>
        { x with phase := .handling endpoint session }
    | _ => none
  | .threw =>
    match x.phase with
    | .handling _ session =>
      -- the handler is given a null error beside the exception
      if ended session then none else some { phase := .stopped, processingError := none }
    | _ => none
  | .handled handleError =>
    match x.phase with
    | .handling _ (.ended err) =>
      if handleError = err then some { phase := .stopped, processingError := handleError } else none
    | _ => none
  | .returns r =>
    match x.phase with
    | .stopped =>
      if r = result x.processingError then some { x with phase := .returned r } else none
    | _ => none

/-- A call of `RequestEndpointProcessing`, as a machine. -/
def machine : Machine Requesting RequestLabel := ⟨step⟩

/-! ## 2. What has happened -/

/-- `HandleClientSession` was started for the endpoint asked for, and ran to its end, where it
returned null. -/
def Completed {κ : Type} (x : RdmaClient κ) (endpointId : RdmaEndpointId)
    (ls : List RequestLabel) : Prop :=
  ∃ p, x.requestEndpointProcessing endpointId = .ok p ∧
    (handleClientSession true p.endpoint).Run .head (ls.filterMap RequestLabel.ofSession)
      (.ended none)

/-- No exception has left a coroutine. -/
def Quiet (ls : List RequestLabel) : Prop := ∀ l ∈ ls, l.throws = false

omit [Platform] in
theorem quiet_concat {ls : List RequestLabel} {l : RequestLabel} :
    Quiet (ls ++ [l]) ↔ Quiet ls ∧ l.throws = false := by
  simp [Quiet, or_imp, forall_and]

omit [Platform] in
theorem not_quiet {ls : List RequestLabel} {l : RequestLabel} (h : l.throws = true) :
    ¬ Quiet (ls ++ [l]) := by
  rw [quiet_concat, h]
  simp

omit [Platform] in
/-- What is no step of the session. -/
theorem sessions_concat {ls : List RequestLabel} {l : RequestLabel} (h : l.ofSession = none) :
    (ls ++ [l]).filterMap RequestLabel.ofSession = ls.filterMap RequestLabel.ofSession := by
  simp [List.filterMap_append, h]

section Runs

variable {κ : Type} {client : RdmaClient κ} {endpointId : RdmaEndpointId} {x y : Requesting}
  {ls : List RequestLabel} {l : RequestLabel} {r : error}

/-- What is known of a request whose coroutines are over, by the error it has or returns: an
exception has been lost and the session did not complete, or there was none and null says that it
did. -/
def Told (client : RdmaClient κ) (endpointId : RdmaEndpointId) (ls : List RequestLabel)
    (err : error) : Prop :=
  (¬ Quiet ls ∧ ¬ Completed client endpointId ls ∧ err = none) ∨
    (Quiet ls ∧ (err = none → Completed client endpointId ls))

/-- What holds along every run. -/
def Invariant (client : RdmaClient κ) (endpointId : RdmaEndpointId) (ls : List RequestLabel)
    (x : Requesting) : Prop :=
  match x.phase with
  | .connecting endpoint =>
    Quiet ls ∧ x.processingError = none ∧ ls.filterMap RequestLabel.ofSession = [] ∧
      ∃ p, client.requestEndpointProcessing endpointId = .ok p ∧ p.endpoint = endpoint
  | .handling endpoint session =>
    Quiet ls ∧ (∃ p, client.requestEndpointProcessing endpointId = .ok p ∧ p.endpoint = endpoint) ∧
      (handleClientSession true endpoint).Run .head (ls.filterMap RequestLabel.ofSession) session
  | .stopped => Told client endpointId ls x.processingError
  | .returned result => Told client endpointId ls result

/-- A session that has not returned null has not completed. -/
theorem not_completed {endpoint : RdmaEndpoint} {session : Session}
    (hp : ∃ p, client.requestEndpointProcessing endpointId = .ok p ∧ p.endpoint = endpoint)
    (hrun : (handleClientSession true endpoint).Run .head (ls.filterMap RequestLabel.ofSession)
      session)
    (hsession : session ≠ .ended none) : ¬ Completed client endpointId ls := by
  obtain ⟨p, hp, rfl⟩ := hp
  rintro ⟨p', hp', hrun'⟩
  rw [hp] at hp'
  cases hp'
  have hexec := (Machine.run_exec hrun).symm.trans (Machine.run_exec hrun')
  exact hsession (Option.some.inj hexec)

/-- **An exception** leaves a coroutine, and the session has not returned null. -/
theorem told_thrown {endpoint : RdmaEndpoint} {session : Session}
    (hp : ∃ p, client.requestEndpointProcessing endpointId = .ok p ∧ p.endpoint = endpoint)
    (hrun : (handleClientSession true endpoint).Run .head (ls.filterMap RequestLabel.ofSession)
      session)
    (hsession : session ≠ .ended none) (hthrows : l.throws = true) (hl : l.ofSession = none) :
    Told client endpointId (ls ++ [l]) none := by
  rw [← sessions_concat hl] at hrun
  exact .inl ⟨not_quiet hthrows, not_completed hp hrun hsession, rfl⟩

/-- **The session returns.** -/
theorem told_handled {endpoint : RdmaEndpoint} {err : error} (hquiet : Quiet ls)
    (hp : ∃ p, client.requestEndpointProcessing endpointId = .ok p ∧ p.endpoint = endpoint)
    (hrun : (handleClientSession true endpoint).Run .head (ls.filterMap RequestLabel.ofSession)
      (.ended err)) : Told client endpointId (ls ++ [.handled err]) err := by
  obtain ⟨p, hp, rfl⟩ := hp
  rw [← sessions_concat (l := .handled err) rfl] at hrun
  refine .inr ⟨quiet_concat.mpr ⟨hquiet, rfl⟩, ?_⟩
  rintro rfl
  exact ⟨p, hp, hrun⟩

/-- What has been told stays true when nothing more happens than that the call returns. -/
theorem Told.returns (h : Told client endpointId ls x.processingError) :
    Told client endpointId (ls ++ [.returns (result x.processingError)])
      (result x.processingError) := by
  have hquiet : Quiet (ls ++ [.returns (result x.processingError)]) ↔ Quiet ls :=
    quiet_concat.trans (and_iff_left rfl)
  have hcompleted : Completed client endpointId (ls ++ [.returns (result x.processingError)]) ↔
      Completed client endpointId ls := by
    rw [Completed, Completed, sessions_concat rfl]
  have hnull : result x.processingError = none ↔ x.processingError = none := by
    cases x.processingError with
    | none => exact iff_of_true rfl rfl
    | some err => exact iff_of_false nofun nofun
  rw [Told, hquiet, hcompleted, hnull]
  exact h

/-- The connection is made or has failed, and no exception has left the coroutine. -/
theorem Invariant.connect {endpoint : RdmaEndpoint} {found err : error}
    {connectEnd : RdmaSessionClient.ConnectEnd}
    (hx : Invariant client endpointId ls x) (hphase : x.phase = .connecting endpoint)
    (hthrows : (RequestLabel.connected connectEnd found).throws = false) :
    Invariant client endpointId (ls ++ [.connected connectEnd found]) (x.connect endpoint err) := by
  rw [Invariant, hphase] at hx
  obtain ⟨hquiet, -, hnone, hp⟩ := hx
  have hquiet' := quiet_concat.mpr ⟨hquiet, hthrows⟩
  cases err with
  | some err => exact .inr ⟨hquiet', fun h => nomatch h⟩
  | none =>
    refine ⟨hquiet', hp, ?_⟩
    rw [sessions_concat rfl, hnone]
    exact .refl _

/-- **One step** keeps the invariant. -/
theorem Invariant.step (hx : Invariant client endpointId ls x)
    (h : x.step l = some y) : Invariant client endpointId (ls ++ [l]) y := by
  cases l with
  | connected connectEnd found =>
    rw [Requesting.step] at h
    split at h
    next endpoint hphase =>
      cases connectEnd with
      | returned err =>
        cases h
        exact hx.connect hphase rfl
      | flowsOff =>
        cases h
        exact hx.connect hphase rfl
      | threw =>
        cases h
        rw [Invariant, hphase] at hx
        obtain ⟨-, herr, hnone, hp⟩ := hx
        have hrun : (handleClientSession true endpoint).Run .head
            (ls.filterMap RequestLabel.ofSession) .head := by
          rw [hnone]
          exact .refl _
        rw [Invariant]
        dsimp only
        rw [herr]
        refine told_thrown hp hrun ?_ rfl rfl
        intro h
        cases h
    next => cases h
  | session ev =>
    rw [Requesting.step] at h
    split at h
    next endpoint session hphase =>
      obtain ⟨session', hstep, rfl⟩ := Option.map_eq_some_iff.mp h
      rw [Invariant, hphase] at hx
      obtain ⟨hquiet, hp, hrun⟩ := hx
      refine ⟨quiet_concat.mpr ⟨hquiet, rfl⟩, hp, ?_⟩
      rw [List.filterMap_append]
      exact .tail hrun trivial hstep
    next => cases h
  | threw =>
    rw [Requesting.step] at h
    split at h
    next endpoint session hphase =>
      split at h
      next => cases h
      next hended =>
        cases h
        rw [Invariant, hphase] at hx
        obtain ⟨-, hp, hrun⟩ := hx
        refine told_thrown hp hrun ?_ rfl rfl
        rintro rfl
        exact hended rfl
    next => cases h
  | handled handleError =>
    rw [Requesting.step] at h
    split at h
    next endpoint err hphase =>
      split at h
      next heq =>
        cases h
        subst heq
        rw [Invariant, hphase] at hx
        obtain ⟨hquiet, hp, hrun⟩ := hx
        exact told_handled hquiet hp hrun
      next => cases h
    next => cases h
  | returns r =>
    rw [Requesting.step] at h
    split at h
    next hphase =>
      split at h
      next heq =>
        cases h
        subst heq
        rw [Invariant, hphase] at hx
        exact Told.returns hx
      next => cases h
    next => cases h

theorem invariant_of_run (h : machine.Run (start client endpointId) ls x) :
    Invariant client endpointId ls x := by
  refine h.invariant (I := Invariant client endpointId) ?_ fun _ _ _ _ _ hx _ hs => hx.step hs
  have hquiet : Quiet [] := fun _ hl => nomatch hl
  rw [start]
  split
  next err herr => exact .inr ⟨hquiet, fun h => nomatch h⟩
  next p hp => exact ⟨hquiet, rfl, rfl, p, hp, rfl⟩

/-- **When a null result of `RequestEndpointProcessing` means what it should**: exactly if no
exception has left the coroutine that connects, or `HandleClientSession`. -/
theorem requesting_truthful_iff (h : machine.Run (start client endpointId) ls x)
    (hreturned : x.phase = .returned r) :
    (r = none → Completed client endpointId ls) ↔ Quiet ls := by
  have hx := invariant_of_run h
  rw [Invariant, hreturned] at hx
  rcases hx with ⟨hquiet, hcompleted, hnull⟩ | ⟨hquiet, hnull⟩
  · exact iff_of_false (fun h => hcompleted (h hnull)) hquiet
  · exact iff_of_true hnull hquiet

end Runs

/-- A client that has an executor, and a write endpoint to process. -/
def connectedClient : RdmaClient ℕ :=
  { device := 0
    endpointsStorage :=
      some (RdmaEndpointStorage.create.registerEndpoint (some RdmaClient.requestedEndpoint)).2
    executor := some { number := 0, members := {} }
    serverAddress := "192.168.1.1" }

/-- The server permits the operation. -/
def permission : Responce := ⟨.operationPermitted, [7]⟩

/-- The session up to the call of the user's service: the request is sent, the server permits the
operation, and the server's buffer is imported. -/
def permittedEvents : List SessionEvent :=
  let endpoint := RdmaClient.requestedEndpoint
  let request : Request := { endpointType := endpoint.type, endpointPath := endpoint.path }
  let payload := serializeResponse permission
  [⟨.startTimer 5000, ()⟩, ⟨.serializeRequest request, serializeRequest request⟩,
    ⟨.asyncWrite (uint32Bytes 6), .ok ()⟩, ⟨.asyncWrite (serializeRequest request), .ok ()⟩,
    ⟨.asyncRead 4, .ok (uint32Bytes payload.length)⟩, ⟨.asyncRead payload.length, .ok payload⟩,
    ⟨.deserializeResponse payload, .ok permission⟩, ⟨.joinTimer, .cancelled⟩,
    ⟨.fromExportedRemoteDescriptor [7], none⟩]

/-- The rest of it: the service fills the buffer, the write is done and acknowledged. -/
def servedEvents : List SessionEvent :=
  let endpoint := RdmaClient.requestedEndpoint
  let payload := serializeAcknowledge ⟨.operationCompleted⟩
  [⟨.handle endpoint, .returned none⟩, ⟨.getActiveConnection, none⟩,
    ⟨.submitOperation ⟨.write, endpoint.buffer, [7]⟩, none⟩, ⟨.awaitWithTimeout 5000, .ready none⟩,
    ⟨.startTimer 5000, ()⟩, ⟨.serializeAcknowledge ⟨.operationCompleted⟩, payload⟩,
    ⟨.asyncWrite (uint32Bytes payload.length), .ok ()⟩, ⟨.asyncWrite payload, .ok ()⟩,
    ⟨.joinTimer, .cancelled⟩]

/-- The connection is made, the session returns null, and so does the call. -/
def servedLabels : List RequestLabel :=
  [.connected .flowsOff none] ++ (permittedEvents ++ servedEvents).map .session ++
    [.handled none, .returns none]

/-- The connection is made, the server permits the operation, and the user's service throws. -/
def throwingLabels : List RequestLabel :=
  [.connected .flowsOff none] ++ permittedEvents.map .session ++
    [.session ⟨.handle RdmaClient.requestedEndpoint, .threw⟩, .threw, .returns none]

/-- The call has returned null. -/
def succeeded (x : Requesting) : Bool :=
  match x.phase with
  | .returned none => true
  | _ => false

omit [Platform] in
theorem returned_of_succeeded {x : Requesting} (h : succeeded x = true) :
    x.phase = .returned none := by
  rw [succeeded] at h
  split at h
  next hphase => exact hphase
  next => cases h

/-- Steps after which the call has returned null are a run of it. -/
theorem run_of_succeeded (x : Requesting) (ls : List RequestLabel)
    (h : (machine.exec x ls).any succeeded = true) :
    ∃ y, machine.Run x ls y ∧ y.phase = .returned none := by
  obtain ⟨y, hy, hsucceeded⟩ := (Option.any_eq_true _ _).mp h
  exact ⟨y, Machine.exec_run hy, returned_of_succeeded hsucceeded⟩

omit [Platform] in
/-- Null, and the session has run to its end. -/
theorem requesting_truthful_sample :
    letI := Platform.littleEndian
    ∃ x, machine.Run (start connectedClient RdmaClient.requestedEndpoint.makeEndpointId)
        servedLabels x ∧ x.phase = .returned none ∧
      Completed connectedClient RdmaClient.requestedEndpoint.makeEndpointId servedLabels := by
  let _ := Platform.littleEndian
  obtain ⟨x, hrun, hphase⟩ := run_of_succeeded
    (start connectedClient RdmaClient.requestedEndpoint.makeEndpointId) servedLabels
    (by decide +kernel)
  have hquiet : Quiet servedLabels := by
    rw [Quiet]
    decide
  exact ⟨x, hrun, hphase, (requesting_truthful_iff hrun hphase).mpr hquiet rfl⟩

omit [Platform] in
/-- The service has thrown, and the request is reported as processed. -/
theorem exception_unreported :
    letI := Platform.littleEndian
    ∃ x, machine.Run (start connectedClient RdmaClient.requestedEndpoint.makeEndpointId)
        throwingLabels x ∧ x.phase = .returned none ∧
      ¬ Completed connectedClient RdmaClient.requestedEndpoint.makeEndpointId throwingLabels := by
  let _ := Platform.littleEndian
  obtain ⟨x, hrun, hphase⟩ := run_of_succeeded
    (start connectedClient RdmaClient.requestedEndpoint.makeEndpointId) throwingLabels
    (by decide +kernel)
  have hinv := invariant_of_run hrun
  rw [Invariant, hphase] at hinv
  refine ⟨x, hrun, hphase, ?_⟩
  rcases hinv with ⟨-, hcompleted, -⟩ | ⟨hquiet, -⟩
  · exact hcompleted
  · have hthrows := hquiet .threw (by simp [throwingLabels])
    cases hthrows

end Requesting

end DocaCpp
