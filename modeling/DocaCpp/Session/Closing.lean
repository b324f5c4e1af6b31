/-
# A server session whose peer has gone

Once the peer has closed the connection every read of the session fails, but its own end of the
socket stays open: nothing in `HandleServerSession` closes it.  The loop tests only that, and a
failed `ReceiveRequest` continues the loop, so a session at its head spins for ever.

`server_stops_iff` says from which points it does not: the session is over already, or it is on
its way out of the loop for a reason of its own (`Leaving`).  `ServerPhase.Live` is the rest, and
the proof shows an endless execution from each live point and a bound on the steps from every
other.
-/
import DocaCpp.Session.Locks

namespace DocaCpp

variable [Platform]

/-! ## 1. The surroundings after the close -/

/-- The answers a session gets once its peer has closed: its own end of the socket is still open,
and no read succeeds. -/
def SessionEvent.AfterClose (ev : SessionEvent) : Prop :=
  ev.Possible ∧ ev ≠ ⟨.isOpen, false⟩ ∧ ∀ size bs, ev ≠ ⟨.asyncRead size, .ok bs⟩

/-- The session runs on for ever although its peer is gone. -/
def Spins (c : Session) : Prop := handleServerSession.Endless SessionEvent.AfterClose c

/-- The session is over or about to be, whatever happens: it has returned, or has been left by an
exception, or its behaviour is undefined, or it decodes a payload the decoder indexes outside of;
or the export of the descriptor or the attempt to lock has failed, or the lock is stranded, and it
is about to say so. -/
def Leaving (log : ServerLog) (c : Session) : Prop :=
  (c.pending serverPass = none ∨ c.pending serverPass = some .unwind ∨
      c.pending serverPass = some .undefined) ∨
    (∃ bs fault, c.pending serverPass = some (.deserializeRequest bs) ∧
      deserializeRequest bs = .error fault) ∨
    c.pending serverPass = some (.deserializeAcknowledge []) ∨
    ¬ log.Proceeds ∨ log.stranded = true

/-! ## 2. The live points -/

/-- A reply after which the session goes on. -/
def Reply.Continues : Reply → Prop
  | notFound _ | locked _ _ _ | serviceFailed _ _ _ _ => True
  | exportFailed _ _ _ | lockFailed _ _ _ _ => False
  | permitted _ endpoint _ => endpoint.type.Known

/-- The points from which the session can get back to the head of its loop. -/
def ServerPhase.Live : ServerPhase → Prop
  | requestDecode bs => ∃ request, deserializeRequest bs = .ok request
  | respond reply _ => reply.Continues
  | ackDecode _ _ bs => bs ≠ []
  | unwound | undefined | ended _ => False
  | _ => True

/-- What has not failed so far is known at a live point. -/
theorem ServerPhase.Live.proceeds {f : ServerPhase} {log : ServerLog} (hl : f.Live)
    (hf : f.Knows log) : log.Proceeds ∧ log.stranded = false := by
  obtain ⟨held, stranded, lost, decoded, current⟩ := log
  cases f with
  | head | requestLength | requestPayload size | requestDecode bs =>
    exact ⟨hf.2.2.2, hf.2.1⟩
  | connection request | lookup request =>
    obtain ⟨-, rfl, rfl⟩ := hf
    exact ⟨⟨fun _ h => (nomatch h), fun _ _ h => nomatch h⟩, rfl⟩
  | exportDescriptor request endpoint =>
    obtain ⟨-, rfl, -, rfl⟩ := hf
    exact ⟨⟨fun _ h => (nomatch h), fun _ _ h => nomatch h⟩, rfl⟩
  | lock request endpoint descriptor =>
    obtain ⟨-, rfl, -, rfl⟩ := hf
    exact ⟨⟨fun _ h => (nomatch h), fun _ _ h => nomatch h⟩, rfl⟩
  | prepare request endpoint descriptor =>
    obtain ⟨-, rfl, -, -, rfl⟩ := hf
    exact ⟨ServerLog.proceeds_of_lock rfl rfl, rfl⟩
  | respond reply sending =>
    obtain ⟨-, rfl, -, rfl⟩ := hf
    cases reply with
    | notFound request => exact ⟨⟨fun _ h => (nomatch h), fun _ _ h => nomatch h⟩, rfl⟩
    | exportFailed request endpoint descErr => exact hl.elim
    | lockFailed request endpoint descriptor lockErr => exact hl.elim
    | locked request endpoint descriptor | serviceFailed request endpoint descriptor srvErr =>
      exact ⟨ServerLog.proceeds_of_lock rfl rfl, rfl⟩
    | permitted request endpoint descriptor =>
      have hknown : endpoint.type.Known := hl
      exact ⟨ServerLog.proceeds_of_lock rfl rfl, by simp [Reply.strands, hknown]⟩
  | ackTimer request endpoint | ackLength request endpoint | ackPayload request endpoint size
  | ackDecode request endpoint bs | ackJoin request endpoint ack err =>
    obtain ⟨-, rfl, -, -, descriptor, rfl⟩ := hf
    exact ⟨ServerLog.proceeds_of_lock rfl rfl, rfl⟩
  | process request endpoint =>
    obtain ⟨-, ack, -, rfl, -, -, descriptor, rfl⟩ := hf
    exact ⟨ServerLog.proceeds_of_lock rfl rfl, rfl⟩
  | unlock request => exact ⟨hf.2.2.2.1, hf.2.1⟩
  | unwound | undefined | ended err => exact hl.elim

/-- **A point is live or the session is leaving.** -/
theorem leaving_iff {f : ServerPhase} {log : ServerLog} (hf : f.Knows log) :
    Leaving log f.session ↔ ¬ f.Live := by
  constructor
  · rintro h hl
    obtain ⟨hp, hs⟩ := hl.proceeds hf
    rcases h with h | ⟨bs, fault, h, hfault⟩ | h | h | h
    · cases f with
      | respond reply sending => cases sending <;> rcases h with h | h | h <;> cases h
      | unwound | undefined | ended err => exact hl
      | _ => rcases h with h | h | h <;> cases h
    · cases f with
      | requestDecode bs' =>
        cases h
        obtain ⟨request, hok⟩ := hl
        rw [hok] at hfault
        cases hfault
      | respond reply sending => cases sending <;> cases h
      | _ => cases h
    · cases f with
      | ackDecode request endpoint bs' =>
        cases h
        exact hl rfl
      | respond reply sending => cases sending <;> cases h
      | _ => cases h
    · exact h hp
    · rw [hs] at h
      cases h
  · intro hl
    cases f with
    | requestDecode bs =>
      cases hd : deserializeRequest bs with
      | error fault => exact Or.inr (Or.inl ⟨bs, fault, rfl, hd⟩)
      | ok request => exact absurd ⟨request, hd⟩ hl
    | ackDecode request endpoint bs =>
      cases bs with
      | nil => exact Or.inr (Or.inr (Or.inl rfl))
      | cons b bs => exact absurd (List.cons_ne_nil b bs) hl
    | respond reply sending =>
      obtain ⟨held, stranded, lost, decoded, current⟩ := log
      obtain ⟨-, rfl, -, rfl⟩ := hf
      refine Or.inr (Or.inr (Or.inr ?_))
      cases reply with
      | exportFailed request endpoint descErr => exact Or.inl fun hp => hp.1 descErr rfl
      | lockFailed request endpoint descriptor lockErr =>
        exact Or.inl fun hp => hp.2 false lockErr rfl
      | permitted request endpoint descriptor =>
        have hunknown : ¬ endpoint.type.Known := hl
        exact Or.inr (by simp [Reply.strands, hunknown])
      | _ => exact absurd trivial hl
    | unwound => exact Or.inl (Or.inr (Or.inl rfl))
    | undefined => exact Or.inl (Or.inr (Or.inr rfl))
    | ended err => exact Or.inl (Or.inl rfl)
    | _ => exact absurd trivial hl

/-! ## 3. The session goes on from a live point -/

/-- An answer any storage gives is possible after the close, unless it is one of the two the close
rules out. -/
theorem afterClose_of_computed {ev : SessionEvent}
    (h : RdmaEndpointStorage.create.answer ev = some RdmaEndpointStorage.create)
    (hopen : ev.op ≠ .isOpen) (hread : ∀ size, ev.op ≠ .asyncRead size) : ev.AfterClose :=
  ⟨⟨_, _, h⟩, fun he => hopen (congrArg Event.op he),
    fun size _ he => hread size (congrArg Event.op he)⟩

theorem afterClose_isOpen : SessionEvent.AfterClose ⟨.isOpen, true⟩ :=
  ⟨⟨_, RdmaEndpointStorage.create, rfl⟩, fun h => (nomatch h), fun _ _ h => nomatch h⟩

theorem afterClose_read (size : Nat) (ec : ErrorCode) :
    SessionEvent.AfterClose ⟨.asyncRead size, .error ec⟩ :=
  ⟨⟨_, RdmaEndpointStorage.create, rfl⟩, fun h => (nomatch h), fun _ _ h => nomatch h⟩

/-- Some storage refuses the lock. -/
theorem afterClose_locked (path : RdmaEndpointPath) :
    SessionEvent.AfterClose ⟨.tryLockEndpointsByPath path, (false, none)⟩ := by
  let endpoint : RdmaEndpoint := ⟨path, .write, none, none⟩
  let storage : RdmaEndpointStorage :=
    ⟨[(endpoint.makeEndpointId, ⟨endpoint, true⟩)], by simp, by simp⟩
  have h : (storage.tryLockEndpointsByPath path).1 = (false, none) := by
    simp [storage, endpoint, RdmaEndpointStorage.tryLockEndpointsByPath,
      RdmaEndpointStorage.tryLockLoop]
  refine ⟨⟨storage, (storage.tryLockEndpointsByPath path).2, ?_⟩, by simp, by simp⟩
  simp only [RdmaEndpointStorage.answer, h, if_true]

/-- Some storage does not have the endpoint. -/
theorem afterClose_notFound (id : RdmaEndpointId) :
    ∃ err, SessionEvent.AfterClose ⟨.getEndpoint id, .error err⟩ := by
  refine ⟨_, ⟨RdmaEndpointStorage.create, RdmaEndpointStorage.create, if_pos rfl⟩,
    fun h => (nomatch h), fun _ _ h => nomatch h⟩

/-- Every storage answers an unlock. -/
theorem afterClose_unlock (path : RdmaEndpointPath) :
    ∃ err, SessionEvent.AfterClose ⟨.unlockEndpointsByPath path, err⟩ :=
  ⟨(RdmaEndpointStorage.create.unlockEndpointsByPath path).1,
    ⟨RdmaEndpointStorage.create, (RdmaEndpointStorage.create.unlockEndpointsByPath path).2,
      by simp [RdmaEndpointStorage.answer]⟩, fun h => (nomatch h), fun _ _ h => nomatch h⟩

/-- **From a live point the session can go on to a live point.** -/
theorem ServerPhase.Live.next {f : ServerPhase} (hl : f.Live) :
    ∃ ev f', SessionEvent.AfterClose ev ∧ ServerStep f ev f' ∧ f'.Live := by
  cases f with
  | head => exact ⟨_, _, afterClose_isOpen, .isOpen, trivial⟩
  | requestLength => exact ⟨_, _, afterClose_read _ ⟨""⟩, .requestLengthFailed _, trivial⟩
  | requestPayload size =>
    exact ⟨_, _, afterClose_read _ ⟨""⟩, .requestPayloadFailed size _, trivial⟩
  | requestDecode bs =>
    obtain ⟨request, hok⟩ := hl
    refine ⟨_, _, afterClose_of_computed ?_ ?_ ?_, .requestDecode bs request, trivial⟩
    · simp [RdmaEndpointStorage.answer, SessionEvent.computed, hok]
    · simp
    · simp
  | connection request =>
    exact ⟨_, _, afterClose_of_computed rfl (by simp) (by simp), .connection request, trivial⟩
  | lookup request =>
    obtain ⟨err, hafter⟩ := afterClose_notFound
      (makeEndpointId request.endpointPath request.endpointType)
    exact ⟨_, _, hafter, .lookupFailed request err, trivial⟩
  | exportDescriptor request endpoint =>
    exact ⟨_, _, afterClose_of_computed rfl (by simp) (by simp),
      .exportDescriptor request endpoint [], trivial⟩
  | lock request endpoint descriptor =>
    exact ⟨_, _, afterClose_locked _, .locked request endpoint descriptor, trivial⟩
  | prepare request endpoint descriptor =>
    exact ⟨_, _, afterClose_of_computed rfl (by simp) (by simp),
      .prepareFailed request endpoint descriptor (.new ""), trivial⟩
  | respond reply sending =>
    cases sending with
    | serialize =>
      refine ⟨_, _, afterClose_of_computed ?_ ?_ ?_,
        .serialize reply (serializeResponse reply.responce), hl⟩
      · simp [RdmaEndpointStorage.answer, SessionEvent.computed]
      · simp
      · simp
    | length bs =>
      exact ⟨_, _, afterClose_of_computed rfl (by simp) (by simp), .sendLength reply bs, hl⟩
    | payload bs =>
      refine ⟨_, _, afterClose_of_computed rfl (by simp) (by simp), .sendPayload reply bs, ?_⟩
      cases reply with
      | permitted request endpoint descriptor =>
        rw [Reply.sent, serverPerformRdmaOperation_known hl]
        trivial
      | exportFailed | lockFailed => exact hl.elim
      | _ => trivial
  | ackTimer request endpoint =>
    exact ⟨_, _, afterClose_of_computed rfl (by simp) (by simp), .ackTimer request endpoint,
      trivial⟩
  | ackLength request endpoint =>
    exact ⟨_, _, afterClose_read _ ⟨""⟩, .ackLengthFailed request endpoint _, trivial⟩
  | ackPayload request endpoint size =>
    exact ⟨_, _, afterClose_read _ ⟨""⟩, .ackPayloadFailed request endpoint size _, trivial⟩
  | ackDecode request endpoint bs =>
    cases bs with
    | nil => exact absurd rfl hl
    | cons b bs =>
      have hok : deserializeAcknowledge (b :: bs) = .ok ⟨⟨b⟩⟩ := rfl
      refine ⟨_, _, afterClose_of_computed ?_ ?_ ?_, .ackDecode request endpoint (b :: bs) ⟨⟨b⟩⟩,
        trivial⟩
      · simp [RdmaEndpointStorage.answer, SessionEvent.computed, hok]
      · simp
      · simp
  | ackJoin request endpoint ack err =>
    refine ⟨_, _, afterClose_of_computed rfl (by simp) (by simp),
      .ackJoin request endpoint ack err .cancelled, ?_⟩
    rcases joined_cases request endpoint (Coro.errorAfter .cancelled err) with heq | heq <;>
      rw [heq] <;> trivial
  | process request endpoint =>
    exact ⟨_, _, afterClose_of_computed rfl (by simp) (by simp),
      .processed request endpoint none, trivial⟩
  | unlock request =>
    obtain ⟨err, hafter⟩ := afterClose_unlock request.endpointPath
    exact ⟨_, _, hafter, .unlock request err, trivial⟩
  | unwound | undefined | ended err => exact hl.elim

/-- A session at a live point spins. -/
theorem spins_of_live {f : ServerPhase} (hl : f.Live) : Spins f.session := by
  refine Machine.endless_of_progress (fun c => ∃ f : ServerPhase, c = f.session ∧ f.Live) ?_
    ⟨f, rfl, hl⟩
  rintro c ⟨f, rfl, hl⟩
  obtain ⟨ev, f', hafter, hs, hl'⟩ := hl.next
  exact ⟨ev, f'.session, hafter, hs.resume, f', rfl, hl'⟩

/-! ## 4. The session stops at any other -/

/-- The number of calls a session that is leaving still makes. -/
def ServerPhase.remaining : ServerPhase → ℕ
  | requestDecode _ | ackDecode _ _ _ => 1
  | respond _ .serialize => 3
  | respond _ (.length _) => 2
  | respond _ (.payload _) => 1
  | _ => 0

/-- A session that is leaving stays so, and makes one call less. -/
theorem ServerStep.leave {f f' : ServerPhase} {ev : SessionEvent} (hs : ServerStep f ev f')
    (hp : ev.Possible) (hl : ¬ f.Live) : ¬ f'.Live ∧ f'.remaining < f.remaining := by
  cases hs with
  | requestDecode bs request =>
    have hok : Except.ok request = deserializeRequest bs := by
      simpa [SessionEvent.computed] using hp.computed
    exact absurd ⟨request, hok.symm⟩ hl
  | requestFault bs fault => exact ⟨fun h => h, Nat.one_pos⟩
  | ackDecode request endpoint bs ack =>
    have hnil : bs = [] := not_not.mp hl
    subst hnil
    have hok : Except.ok ack = deserializeAcknowledge [] := by
      simpa [SessionEvent.computed] using hp.computed
    cases hok
  | ackFault request endpoint bs fault => exact ⟨fun h => h, Nat.one_pos⟩
  | serialize reply bs => exact ⟨hl, Nat.lt_succ_self 2⟩
  | sendLength reply bs => exact ⟨hl, Nat.lt_succ_self 1⟩
  | sendLengthFailed reply bs ec => exact ⟨fun h => h, Nat.two_pos⟩
  | sendPayload reply bs =>
    cases reply with
    | exportFailed request endpoint descErr => exact ⟨fun h => h, Nat.one_pos⟩
    | lockFailed request endpoint descriptor lockErr => exact ⟨fun h => h, Nat.one_pos⟩
    | permitted request endpoint descriptor =>
      obtain ⟨err, herr⟩ := serverPerformRdmaOperation_unknown endpoint hl
      rw [Reply.sent, herr]
      exact ⟨fun h => h, Nat.one_pos⟩
    | _ => exact absurd trivial hl
  | sendPayloadFailed reply bs ec => exact ⟨fun h => h, Nat.one_pos⟩
  | _ => exact absurd trivial hl

/-- A session at a point that is not live stops. -/
theorem not_spins_of_not_live {f : ServerPhase} (hl : ¬ f.Live) : ¬ Spins f.session := by
  refine Machine.not_endless_of_bound
    (fun n c => ∃ f : ServerPhase, c = f.session ∧ ¬ f.Live ∧ f.remaining = n) ?_ f.remaining _
    ⟨f, rfl, hl, rfl⟩
  rintro n c ev c' ⟨f, rfl, hl, rfl⟩ hafter hstep
  obtain ⟨f', rfl, hs⟩ := server_refines.step f ev c' hstep
  obtain ⟨hl', hlt⟩ := hs.leave hafter.1 hl
  exact ⟨f'.remaining, hlt, f', rfl, hl', rfl⟩

end DocaCpp
