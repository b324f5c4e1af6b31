/-
# What one client can do to a server

The outcome of every session goes to a variable of the whole server, and `Serve` returns when it
holds an error.  Two of the errors a session returns are of its peer's making: a response that
cannot be written because the peer has gone, and an RDMA connection the peer never made.  A third
way out is a payload the decoder indexes outside of, behind which nothing is known of the program.

`clients_served` says that there is no other way: as long as none of the three occurs, `Serve` goes
on until it is told to stop and every session with it.  `client_stops_server` is a client that sends
one request and has no RDMA connection.
-/
import DocaCpp.Net.Connection
import DocaCpp.Server.Serve
import DocaCpp.Session.Closing

namespace DocaCpp

/-! ## 1. One session -/

/-- What is granted of a session's surroundings: the native calls and the services do what they are
asked for. -/
def SessionEvent.granted : SessionEvent → Bool
  | ⟨.exportMemoryDescriptor _, .returned (.ok _)⟩ => true
  | ⟨.exportMemoryDescriptor _, _⟩ => false
  | ⟨.handle _, .returned none⟩ => true
  | ⟨.handle _, _⟩ => false
  | _ => true

/-- What a peer can do to the server by: a response cannot be written, there is no RDMA connection
in time, a payload is too short for what is read of it. -/
def SessionEvent.harmless : SessionEvent → Bool
  | ⟨.asyncWrite _, .error _⟩ => false
  | ⟨.waitForEstablishedConnection _, some _⟩ => false
  | ⟨.deserializeRequest _, .error _⟩ => false
  | ⟨.deserializeAcknowledge _, .error _⟩ => false
  | _ => true

/-- The points from which a session over these endpoints goes on. -/
def ServerPhase.Going (Registered : RdmaEndpoint → Prop) : ServerPhase → Prop
  | exportDescriptor _ endpoint | lock _ endpoint _ | prepare _ endpoint _ => Registered endpoint
  | respond reply _ => reply.Continues
  | unwound | undefined | ended _ => False
  | _ => True

variable [Platform]

/-- A point from which a session goes on is not one at which it is over. -/
theorem ServerPhase.Going.not_finished {Registered : RdmaEndpoint → Prop} {f : ServerPhase}
    (h : f.Going Registered) : Connection.finished (f.session.pending serverPass) = false := by
  cases f with
  | respond reply sending => cases sending <;> rfl
  | unwound | undefined | ended err => exact h.elim
  | _ => rfl

/-- **A session goes on**, unless it finds its own end of the socket closed. -/
theorem ServerPhase.Going.step {storage storage' : RdmaEndpointStorage}
    {Registered : RdmaEndpoint → Prop} {f f' : ServerPhase} {ev : SessionEvent} {log : ServerLog}
    (hg : f.Going Registered) (hf : f.Knows log) (hs : ServerStep f ev f')
    (ha : storage.answer ev = some storage')
    (hholds : ∀ endpoint, storage.Holds endpoint ↔ Registered endpoint)
    (hknown : ∀ endpoint, Registered endpoint → endpoint.type.Known)
    (hgranted : ev.granted = true) (hharmless : ev.harmless = true) :
    f'.Going Registered ∨ ev = ⟨.isOpen, false⟩ ∧ f' = .ended none := by
  cases hs with
  | closed => exact .inr ⟨rfl, rfl⟩
  | requestFault | connectionFailed | ackFault | sendLengthFailed | sendPayloadFailed =>
    cases hharmless
  | exportFailed | exportThrew | exportNull | prepareFailed | prepareThrew | prepareNull
  | processThrew | processNull => cases hgranted
  | lookup request endpoint =>
    have hfound := (RdmaEndpointStorage.answer_getEndpoint ha).1
    exact .inl ((hholds endpoint).mp (RdmaEndpointStorage.getEndpoint_holds hfound.symm))
  | lockFailed request endpoint descriptor flag err =>
    -- the endpoint is registered, so its path is
    obtain ⟨-, -, hfit, -⟩ := hf
    have hpath : storage.HasPath request.endpointPath := hfit.1 ▸ ((hholds endpoint).mpr hg).hasPath
    have hnone := (RdmaEndpointStorage.tryLockEndpointsByPath_error_iff storage _).mpr hpath
    have hanswer := congrArg Prod.snd (RdmaEndpointStorage.answer_tryLock ha).1
    cases hanswer.trans hnone
  | granted request endpoint descriptor =>
    rcases granted_cases request endpoint descriptor with heq | heq
    · rw [heq]
      exact .inl hg
    · rw [heq]
      exact .inl (hknown endpoint hg)
  | prepared request endpoint descriptor => exact .inl (hknown endpoint hg)
  | sendPayload reply bs =>
    cases reply with
    | exportFailed | lockFailed => exact hg.elim
    | permitted request endpoint descriptor =>
      rw [Reply.sent, serverPerformRdmaOperation_known hg]
      exact .inl trivial
    | _ => exact .inl trivial
  | ackJoin request endpoint ack err timer =>
    rcases joined_cases request endpoint (Coro.errorAfter timer err) with heq | heq <;>
      rw [heq] <;> exact .inl trivial
  | exportDescriptor | serialize | sendLength => exact .inl hg
  | _ => exact .inl trivial

/-! ## 2. The server -/

variable {ι : Type} [DecidableEq ι]

/-- What is granted of a step: nothing fails that is not a client's affair. -/
def ServeLabel.granted : ServeLabel ι → Bool
  | .setup err => err.isNone
  | .throws _ | .acceptThrows => false
  | .session _ ev => ev.granted
  | _ => true

/-- No client does the server any harm by it. -/
def ServeLabel.harmless : ServeLabel ι → Bool
  | .session _ ev => ev.harmless
  | _ => true

/-- The points of a `Serve` that has not been told to stop. -/
def ServePhase.serving : ServePhase → Bool
  | .close | .forced | .drained | .drain | .returned _ => false
  | _ => true

/-- A session goes on, or it has returned because its own end of the socket was closed. -/
def Served (evs : List SessionEvent) (c : Session) : Prop :=
  Connection.finished (c.pending serverPass) = false ∨
    evs.getLast? = some ⟨.isOpen, false⟩ ∧ c = .ended none

/-- **What every state says of a server no client has harmed.** -/
structure Serving.Carries (storage : RdmaEndpointStorage) (x : Serving ι)
    (ls : List (ServeLabel ι)) : Prop where
  first : x.phase = .guard → x.isServing = false
  noError : x.serverInternalError = none
  holds : ∀ endpoint, x.pool.storage.Holds endpoint ↔ storage.Holds endpoint
  sessions : ∀ i,
    (∃ f : ServerPhase, x.pool.session i = f.session ∧
        f.Knows (logOf i (sessionHistory ls)) ∧ f.Going storage.Holds) ∨
      (eventsOf i (sessionHistory ls)).getLast? = some ⟨.isOpen, false⟩ ∧
        x.pool.session i = .ended none
  serving : .stopServing ∉ ls → x.continueServing = true ∧ x.stopped = false ∧
    (x.acceptLoop = .head ∨ x.acceptLoop = .accepting) ∧ x.phase.serving = true

section Carries

variable {storage : RdmaEndpointStorage} {x y : Serving ι} {ls : List (ServeLabel ι)}
  {l : ServeLabel ι}

/-- **What a step does to the sessions.** -/
theorem Serving.Carries.sessions_step (hc : x.Carries storage ls) (h : Serving.Moves x l y)
    (hknown : ∀ endpoint, storage.Holds endpoint → endpoint.type.Known)
    (hgranted : l.granted = true) (hharmless : l.harmless = true) (i : ι) :
    (∃ f : ServerPhase, y.pool.session i = f.session ∧
        f.Knows (logOf i (sessionHistory (ls ++ [l]))) ∧ f.Going storage.Holds) ∨
      (eventsOf i (sessionHistory (ls ++ [l]))).getLast? = some ⟨.isOpen, false⟩ ∧
        y.pool.session i = .ended none := by
  cases hl : l.atSession with
  | none =>
    have hpool : y.pool = x.pool := by
      have hmove := h.pool
      rwa [hl] at hmove
    rw [hpool, sessionHistory_snoc, hl, Option.toList_none, List.append_nil]
    exact hc.sessions i
  | some e =>
    obtain ⟨j, ev⟩ := e
    obtain rfl : l = .session j ev := by
      cases l <;> cases hl
      rfl
    obtain ⟨ha, hres, hother⟩ := Pool.step_inv h.pool
    by_cases hij : i = j
    · subst hij
      have hsnoc : sessionHistory (ls ++ [.session i ev]) = sessionHistory ls ++ [(i, ev)] := by
        rw [sessionHistory_snoc]
        rfl
      rw [hsnoc]
      rcases hc.sessions i with ⟨f, hf, hk, hg⟩ | ⟨-, hended⟩
      · rw [hf] at hres
        obtain ⟨f', hf', hs⟩ := server_refines.step f ev _ hres
        rw [logOf_snoc_same]
        rcases hg.step hk hs ha hc.holds hknown hgranted hharmless with hg' | ⟨rfl, rfl⟩
        · exact .inl ⟨f', hf', hk.step hs ⟨_, _, ha⟩, hg'⟩
        · refine .inr ⟨?_, hf'⟩
          simp [eventsOf]
      · rw [hended] at hres
        cases hres
    · rw [hother i hij]
      have hsame : eventsOf i (sessionHistory (ls ++ [.session j ev]))
          = eventsOf i (sessionHistory ls) := by
        refine eventsOf_snoc fun ev' heq => ?_
        cases heq
        exact hij rfl
      unfold logOf
      rw [hsame]
      exact hc.sessions i

/-- A session that goes on hands no error to anybody. -/
theorem Serving.Carries.noError_step (hc : x.Carries storage ls) (h : Serving.Moves x l y) :
    y.serverInternalError = none := by
  cases h with
  | complete i err hp hi hcompleted he =>
    rcases hc.sessions i with ⟨f, hf, -, hg⟩ | ⟨-, hended⟩
    · exfalso
      have hlive := hg.not_finished
      rw [← hf] at hlive
      rcases completionError_cases he with hended | ⟨hunwind, -⟩
      · rw [hended] at hlive
        cases hlive
      · rw [hunwind] at hlive
        cases hlive
    · rw [hended] at he
      cases he
      rfl
  | _ => exact hc.noError

/-- Nobody else is inside of `Serve` when it is called. -/
theorem Serving.Carries.first_step (hc : x.Carries storage ls) (h : Serving.Moves x l y)
    (hy : y.phase = .guard) : y.isServing = false := by
  cases h with
  | setup s hp => cases s <;> cases hy
  | head hp =>
    dsimp only at hy
    split at hy <;> cases hy
  | accepting | accept | acceptThrows | session | complete | stopServing | force =>
    exact hc.first hy
  | _ => cases hy

/-- **A server that is not told to stop goes on.** -/
theorem Serving.Carries.serving_step (hc : x.Carries storage ls) (h : Serving.Moves x l y)
    (hsome : ∃ endpoint, storage.Holds endpoint) (hgranted : l.granted = true)
    (hstop : .stopServing ∉ ls ++ [l]) :
    y.continueServing = true ∧ y.stopped = false ∧
      (y.acceptLoop = .head ∨ y.acceptLoop = .accepting) ∧ y.phase.serving = true := by
  rw [List.mem_append, not_or] at hstop
  obtain ⟨hcontinue, hstopped, hloop, hphase⟩ := hc.serving hstop.1
  have hleft : ∀ {p : ServePhase}, x.phase = p → p.serving = false → False := by
    rintro p rfl hp
    exact absurd (hp.symm.trans hphase) Bool.false_ne_true
  cases h with
  | refused hp hs => exact absurd ((hc.first hp).symm.trans hs) Bool.false_ne_true
  | noEndpoints hp hs =>
    obtain ⟨endpoint, he⟩ := hsome
    have hempty := RdmaEndpointStorage.isEmpty_of_holds ((hc.holds endpoint).mpr he)
    exact absurd (hempty.symm.trans hs) Bool.false_ne_true
  | setupFailed | throws | acceptThrows => cases hgranted
  | checkFailed err hp he =>
    rw [hc.noError] at he
    cases he
  | drainPolled hp | close hp | interrupted hp | forced hp | finished hp | drained hp =>
    exact (hleft hp rfl).elim
  | head hp =>
    refine ⟨hcontinue, hstopped, hloop, ?_⟩
    dsimp only
    rw [hcontinue]
    rfl
  | setup s hp => exact ⟨hcontinue, hstopped, hloop, by cases s <;> rfl⟩
  | accepting hp ha =>
    refine ⟨hcontinue, hstopped, .inr ?_, hphase⟩
    dsimp only
    rw [hcontinue]
    rfl
  | accept i hp ha hi => exact ⟨hcontinue, hstopped, .inl rfl, hphase⟩
  | stopServing => exact absurd (List.mem_singleton_self _) hstop.2
  | session | complete | force => exact ⟨hcontinue, hstopped, hloop, hphase⟩
  | _ => exact ⟨hcontinue, hstopped, hloop, rfl⟩

/-- Only granted and harmless steps. -/
def Spared (_ : List (ServeLabel ι)) (_ : Serving ι) (l : ServeLabel ι) : Prop :=
  l.granted = true ∧ l.harmless = true

theorem serve_carries (hsome : ∃ endpoint, storage.Holds endpoint)
    (hknown : ∀ endpoint, storage.Holds endpoint → endpoint.type.Known)
    (h : (serve ι).RunWith Spared (Serving.start storage false) ls x) : x.Carries storage ls := by
  refine Machine.RunWith.invariant (I := fun ls x => x.Carries storage ls) ?_ ?_ h
  · exact {
      first := fun _ => rfl
      noError := rfl
      holds := fun _ => Iff.rfl
      sessions := fun i => .inl ⟨.head, rfl, ⟨rfl, rfl, fun ⟨_, hr, _⟩ => (nomatch hr),
        fun _ he => (nomatch he), fun _ _ he => (nomatch he)⟩, trivial⟩
      serving := fun _ => ⟨rfl, rfl, .inl rfl, rfl⟩ }
  · intro ls x l y _ hI hspared hstep
    have hmove := Serving.step_moves hstep
    refine {
      first := hI.first_step hmove
      noError := hI.noError_step hmove
      holds := fun endpoint => ?_
      sessions := hI.sessions_step hmove hknown hspared.1 hspared.2
      serving := hI.serving_step hmove hsome hspared.1 }
    rw [← hI.holds endpoint]
    have hpool := hmove.pool
    cases hl : l.atSession with
    | none =>
      rw [hl] at hpool
      rw [hpool]
    | some e =>
      rw [hl] at hpool
      exact RdmaEndpointStorage.answer_holds (Pool.step_inv hpool).1 endpoint

/-- **No client stops the server** as long as no response fails to be written, no wait for an RDMA
connection fails and no payload is read outside of: `Serve` returns only behind a call that tells it
to, and until then its event loop is not stopped, its accept loop accepts, and every session goes on
or has found its own end of the socket closed. -/
theorem clients_served (hsome : ∃ endpoint, storage.Holds endpoint)
    (hknown : ∀ endpoint, storage.Holds endpoint → endpoint.type.Known)
    (h : (serve ι).RunWith Spared (Serving.start storage false) ls x) :
    ((∃ err, x.phase = .returned err) → .stopServing ∈ ls) ∧
      (.stopServing ∉ ls → x.stopped = false ∧
        (x.acceptLoop = .head ∨ x.acceptLoop = .accepting)) ∧
      ∀ i, Served (eventsOf i (sessionHistory ls)) (x.pool.session i) := by
  have hc := serve_carries hsome hknown h
  refine ⟨?_, fun hstop => ?_, fun i => ?_⟩
  · rintro ⟨err, hp⟩
    by_contra hstop
    have hphase := (hc.serving hstop).2.2.2
    rw [hp] at hphase
    cases hphase
  · obtain ⟨-, hstopped, hloop, -⟩ := hc.serving hstop
    exact ⟨hstopped, hloop⟩
  · rcases hc.sessions i with ⟨f, hf, -, hg⟩ | hclosed
    · left
      rw [hf]
      exact hg.not_finished
    · exact .inr hclosed

end Carries

/-! ### Two runs -/

/-- A server with one endpoint that has accepted two clients, in its first poll. -/
def twoClientsLabels : List (ServeLabel Bool) :=
  [.guard, .endpoints, .setup none, .setup none, .setup none, .setup none, .spawn, .head, .check,
    .progress, .accepting, .accept false, .accepting, .accept true]

/-- A read that ends well, and `Serve` looks. -/
def sparedLabels : List (ServeLabel Bool) :=
  twoClientsLabels ++ servedEvents.map (.session false) ++ [.polled, .head, .check]

omit [Platform] in
/-- Both clients are served. -/
theorem clients_served_sample :
    letI := Platform.littleEndian
    ∃ x, (serve Bool).RunWith Spared (Serving.start sampleStorage false) sparedLabels x ∧
      x.stopped = false ∧
      Served (eventsOf true (sessionHistory sparedLabels)) (x.pool.session true) := by
  let _ := Platform.littleEndian
  have hexec : ((serve Bool).exec (Serving.start sampleStorage false) sparedLabels).isSome
      = true := by decide +kernel
  obtain ⟨x, hx⟩ := Option.isSome_iff_exists.mp hexec
  have hall : sparedLabels.all (fun l => l.granted && l.harmless) = true := by decide +kernel
  have hrun : (serve Bool).RunWith Spared (Serving.start sampleStorage false)
      sparedLabels x :=
    (Machine.exec_runWith hx hall).mono fun _ _ l hl => Bool.and_eq_true_iff.mp hl
  have hholds : ∀ endpoint, sampleStorage.Holds endpoint → endpoint = sampleEndpoint := by
    rintro endpoint ⟨e, he, rfl⟩
    have hall : ∀ e ∈ sampleStorage.endpointsMap, e.2.endpoint = sampleEndpoint := by decide
    exact hall e he
  obtain ⟨-, hgoes, hserved⟩ := clients_served
    ⟨sampleEndpoint, ⟨sampleEndpoint.makeEndpointId, ⟨sampleEndpoint, false⟩⟩, by decide, rfl⟩
    (fun endpoint he => hholds endpoint he ▸ by decide) hrun
  exact ⟨x, hrun, (hgoes (by simp [sparedLabels, twoClientsLabels])).1, hserved true⟩

/-- A well-formed request of a client that has no RDMA connection. -/
def unconnectedEvents : List SessionEvent :=
  (exportEvents sampleRequest sampleEndpoint [7]).take 4
    ++ [⟨.waitForEstablishedConnection 3000, some .timeoutExpired⟩]

/-- It sends that, and `Serve` looks. -/
def unconnectedLabels : List (ServeLabel Bool) :=
  twoClientsLabels ++ unconnectedEvents.map (.session false)
    ++ [.complete false, .polled, .head, .check]

omit [Platform] in
/-- Everything else succeeds and nobody calls `Shutdown`, and yet `Serve` has returned, with the
session of the other client still open. -/
theorem client_stops_server :
    letI := Platform.littleEndian
    ∃ x err, (serve Bool).Run (Serving.start sampleStorage false) unconnectedLabels x ∧
      (∀ l ∈ unconnectedLabels, l.granted = true) ∧ x.phase = .returned err ∧
      .stopServing ∉ unconnectedLabels ∧ x.accepted true = true ∧
      Connection.finished ((x.pool.session true).pending serverPass) = false := by
  let _ := Platform.littleEndian
  have hexec : ((serve Bool).exec (Serving.start sampleStorage false) unconnectedLabels).any
      (fun x => decide (x.phase = .returned (some (.wrap (.wrap .timeoutExpired
          "Failed to get active connection from executor") "Server internal error")) ∧
        x.accepted true = true ∧
        Connection.finished ((x.pool.session true).pending serverPass) = false)) = true := by
    decide +kernel
  obtain ⟨x, hx, hp⟩ := (Option.any_eq_true _ _).mp hexec
  obtain ⟨hphase, haccepted, hopen⟩ := of_decide_eq_true hp
  refine ⟨x, _, Machine.exec_run hx, ?_, hphase, ?_, haccepted, hopen⟩
  · have hall : unconnectedLabels.all ServeLabel.granted = true := by decide +kernel
    exact List.all_eq_true.mp hall
  · simp [unconnectedLabels, twoClientsLabels]

end DocaCpp
