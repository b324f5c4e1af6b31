/-
# One acknowledge for every permission

The counterpart of `Responses` for `HandleClientSession`.  Once its request is permitted the server
holds the endpoint until it reads an acknowledge or its timer fires.  `permission_acknowledged_iff`
says when a permitted client that is over has made exactly one, with the code of how its operation
ended: unless the import of the descriptor fails, which returns without an acknowledge where every
later failure sends one, or the service of a write endpoint does not come back.
-/
import DocaCpp.Session.ClientHistory

namespace DocaCpp

/-! ## 1. Permitted and acknowledged -/

/-- The event with which `SendRequest` returns the permission. -/
def Permits (pre : List SessionEvent) (ev : SessionEvent) : Prop :=
  ev = ⟨.joinTimer, .cancelled⟩ ∧
    ∃ descriptor, (clientLog pre).responce = some ⟨.operationPermitted, descriptor⟩

/-- `SendRequest` has returned a response with code `operationPermitted`. -/
def Permitted (evs : List SessionEvent) : Prop := ∃ pre ev, pre ++ [ev] <+: evs ∧ Permits pre ev

/-- One acknowledge has been attempted, and it reports a completion exactly if the RDMA operation
returned no error. -/
def Acknowledged (evs : List SessionEvent) : Prop :=
  ∃ ack, (clientLog evs).acks = [ack] ∧
    (ack.ackCode = .operationCompleted ↔ (clientLog evs).operation = some (.ready none))

/-- **The steps that forget the server**: the import fails, or the service of a write endpoint does
not come back. -/
def Forgets (ev : SessionEvent) : Prop :=
  match ev with
  | ⟨.fromExportedRemoteDescriptor _, some _⟩ => True
  | ⟨.handle endpoint, .threw⟩ | ⟨.handle endpoint, .nullPointer⟩ => endpoint.type = .write
  | _ => False

/-- No step so far has forgotten the server. -/
def Mindful (evs : List SessionEvent) : Prop := ∀ ev ∈ evs, ¬ Forgets ev

section Events

variable {evs : List SessionEvent} {ev : SessionEvent}

theorem not_permitted_nil : ¬ Permitted [] := by
  rintro ⟨pre, ev, h, -⟩
  simp at h

theorem permitted_snoc : Permitted (evs ++ [ev]) ↔ Permitted evs ∨ Permits evs ev := by
  constructor
  · rintro ⟨pre, ev', hpre, hev⟩
    rcases List.prefix_concat_iff.mp hpre with heq | hpre
    · obtain ⟨rfl, hsame⟩ := List.append_inj' heq rfl
      obtain rfl := List.singleton_inj.mp hsame
      exact .inr hev
    · exact .inl ⟨pre, ev', hpre, hev⟩
  · rintro (⟨pre, ev', hpre, hev⟩ | hev)
    · exact ⟨pre, ev', hpre.trans (List.prefix_append _ _), hev⟩
    · exact ⟨evs, ev, List.prefix_refl _, hev⟩

theorem Permitted.snoc (h : Permitted evs) : Permitted (evs ++ [ev]) := permitted_snoc.mpr (.inl h)

theorem not_permitted_snoc (h : ¬ Permitted evs) (hev : ¬ Permits evs ev) :
    ¬ Permitted (evs ++ [ev]) :=
  fun hsnoc => (permitted_snoc.mp hsnoc).elim h hev

theorem mindful_nil : Mindful [] := fun _ hmem => nomatch hmem

theorem mindful_snoc (h : Mindful evs) (hev : ¬ Forgets ev) : Mindful (evs ++ [ev]) :=
  List.forall_mem_append.mpr ⟨h, List.forall_mem_singleton.mpr hev⟩

theorem not_mindful_snoc (hev : Forgets ev) : ¬ Mindful (evs ++ [ev]) :=
  fun h => h ev (List.mem_concat_self ..) hev

theorem not_acknowledged (h : (clientLog evs).acks = []) : ¬ Acknowledged evs := by
  rintro ⟨ack, hack, -⟩
  rw [h] at hack
  cases hack

/-- An acknowledge of how the operation ended. -/
theorem Outcome.Follows.acknowledged {outcome : Outcome} (h : outcome.Follows (clientLog evs))
    (hacks : (clientLog evs).acks = [outcome.acknowledge]) : Acknowledged evs := by
  refine ⟨outcome.acknowledge, hacks, ?_⟩
  rw [← h.1]
  cases outcome with
  | completed => exact iff_of_true rfl rfl
  | _ => exact iff_of_false (fun hc => nomatch hc) (fun hc => nomatch hc)

/-- An event the log does not note. -/
theorem Acknowledged.snoc (h : Acknowledged evs) (hev : (clientLog evs).note ev = clientLog evs) :
    Acknowledged (evs ++ [ev]) := by
  rw [Acknowledged, clientLog_snoc, hev]
  exact h

end Events

/-! ## 2. What is owed at a point -/

/-- **What a client owes the server at a point**: nothing before the permission; behind it nothing
has been forgotten yet; and where it is over, it has paid exactly if it forgot nothing.  The service
is called in front of the acknowledge for a write endpoint and behind it for a read endpoint. -/
def ClientPhase.Owes (endpoint : RdmaEndpoint) (evs : List SessionEvent) : ClientPhase → Prop
  | start | requestSerialize | requestLength _ | requestPayload _ | responseLength
  | responsePayload _ | responseDecode _ | requestJoin _ _ => ¬ Permitted evs ∧ Mindful evs
  | ended _ | unwound | undefined => (Permitted evs → Acknowledged evs) ↔ Mindful evs
  | service _ => endpoint.type = .write ∧ Permitted evs ∧ Mindful evs
  | finish => endpoint.type = .read ∧ Permitted evs ∧ Mindful evs
  | _ => Permitted evs ∧ Mindful evs

section Owes

variable {evs : List SessionEvent} {ev : SessionEvent} {endpoint : RdmaEndpoint}

/-- A client that is over without a permission owes nothing. -/
theorem owes_nothing (h : ¬ Permitted evs) (hmindful : Mindful evs) :
    (Permitted evs → Acknowledged evs) ↔ Mindful evs :=
  iff_of_true (fun hp => absurd hp h) hmindful

/-- A client that forgets the server before its acknowledge is over without one. -/
theorem owes_forgotten (h : Permitted evs) (hev : Forgets ev)
    (hacks : (clientLog (evs ++ [ev])).acks = []) :
    (Permitted (evs ++ [ev]) → Acknowledged (evs ++ [ev])) ↔ Mindful (evs ++ [ev]) :=
  iff_of_false (fun hp => not_acknowledged hacks (hp h.snoc)) (not_mindful_snoc hev)

theorem owes_paid (h : Acknowledged evs) (hmindful : Mindful evs) :
    (Permitted evs → Acknowledged evs) ↔ Mindful evs :=
  iff_of_true (fun _ => h) hmindful

theorem owes_imported {descriptor : Bytes} (h : Permitted evs ∧ Mindful evs) :
    (imported endpoint descriptor).Owes endpoint evs := by
  unfold imported
  by_cases hw : endpoint.type = .write
  · rw [if_pos hw]
    exact ⟨hw, h⟩
  · rw [if_neg hw]
    exact h

theorem owes_connected {descriptor : Bytes} (h : Permitted evs ∧ Mindful evs) :
    (connected endpoint descriptor).Owes endpoint evs := by
  unfold connected
  split
  · exact h
  · split <;> exact h

theorem owes_awaited {result : Awaited} (h : Permitted evs ∧ Mindful evs) :
    (awaited result).Owes endpoint evs := by
  cases result with
  | timedOut => exact h
  | ready err => cases err <;> exact h

variable [Platform]

theorem owes_acknowledged {outcome : Outcome} {err : error} (h : Permitted evs ∧ Mindful evs)
    (hpaid : Acknowledged evs) : (outcome.acknowledged endpoint err).Owes endpoint evs := by
  have hover := owes_paid hpaid h.2
  cases outcome with
  | canceled srvErr => exact hover
  | failed opErr => exact hover
  | completed =>
    cases err with
    | some err => exact hover
    | none =>
      unfold Outcome.acknowledged
      by_cases hr : endpoint.type = .read
      · simp only [hr, if_true]
        exact ⟨hr, h⟩
      · simp only [hr, if_false]
        exact hover

/-- The end of the request gives the permission, exactly if the client goes on to use it. -/
theorem owes_requested {responce : Responce} {err : error} {timer : TimerEnd}
    (h : ¬ Permitted evs ∧ Mindful evs)
    (hlog : clientLog evs = { responce := if err.isSome then none else some responce }) :
    (requested responce (Coro.errorAfter timer err)).Owes endpoint
      (evs ++ [⟨.joinTimer, timer⟩]) := by
  have hmindful : Mindful (evs ++ [⟨.joinTimer, timer⟩]) := mindful_snoc h.2 id
  have hrefused : ¬ Permits evs ⟨.joinTimer, timer⟩ →
      ((Permitted (evs ++ [⟨.joinTimer, timer⟩]) → Acknowledged (evs ++ [⟨.joinTimer, timer⟩])) ↔
        Mindful (evs ++ [⟨.joinTimer, timer⟩])) :=
    fun hev => owes_nothing (not_permitted_snoc h.1 hev) hmindful
  cases err with
  | some e =>
    have hev : ¬ Permits evs ⟨.joinTimer, timer⟩ := by
      rintro ⟨-, descriptor, hd⟩
      rw [hlog] at hd
      cases hd
    cases timer <;> exact hrefused hev
  | none =>
    cases timer with
    | ranFirst | ranLast =>
      refine hrefused ?_
      rintro ⟨hev, -⟩
      cases hev
    | cancelled =>
      obtain ⟨code, descriptor⟩ := responce
      unfold requested
      by_cases hc : code = .operationPermitted
      · subst hc
        have hresponce := congrArg ClientLog.responce hlog
        exact ⟨permitted_snoc.mpr (.inr ⟨rfl, descriptor, hresponce⟩), hmindful⟩
      · simp only [Coro.errorAfter, hc, if_false]
        refine hrefused ?_
        rintro ⟨-, descriptor', hd⟩
        rw [hlog] at hd
        cases hd
        exact hc rfl

/-- **What is owed at a point is owed at the next.** -/
theorem ClientPhase.Owes.step {g g' : ClientPhase} (h : g.Owes endpoint evs)
    (hk : g.Knows (clientLog evs)) (hs : ClientStep endpoint g ev g') :
    g'.Owes endpoint (evs ++ [ev]) := by
  have hbefore : ¬ Permits evs ev → ¬ Forgets ev → ¬ Permitted evs ∧ Mindful evs →
      ¬ Permitted (evs ++ [ev]) ∧ Mindful (evs ++ [ev]) :=
    fun hp hf h => ⟨not_permitted_snoc h.1 hp, mindful_snoc h.2 hf⟩
  have hbehind : ¬ Forgets ev → Permitted evs ∧ Mindful evs →
      Permitted (evs ++ [ev]) ∧ Mindful (evs ++ [ev]) :=
    fun hf h => ⟨h.1.snoc, mindful_snoc h.2 hf⟩
  cases hs with
  | start | requestSerialize bs | requestLength bs | requestPayload bs | responseLength bs
  | responsePayload size bs | requestLengthFailed bs ec | requestPayloadFailed bs ec
  | responseLengthFailed ec | responsePayloadFailed size ec | responseDecode bs responce =>
    exact hbefore (fun hp => nomatch hp.1) id h
  | responseFault bs fault =>
    obtain ⟨hp, hm⟩ := hbefore (fun hp => nomatch hp.1) id h
    exact owes_nothing hp hm
  | requestJoin responce err timer => exact owes_requested h hk
  | imported descriptor => exact owes_imported (hbehind id h)
  | importFailed descriptor err =>
    refine owes_forgotten h.1 trivial ?_
    rw [clientLog_snoc]
    exact congrArg ClientLog.acks hk
  | service descriptor | serviceFailed descriptor err => exact hbehind id h.2
  | connectionFailed descriptor err
  | submitted type descriptor | submitFailed type descriptor err | ackTimer outcome
  | ackSerialize outcome bs | ackLength outcome bs | ackLengthFailed outcome bs ec
  | ackPayload outcome bs | ackPayloadFailed outcome bs ec => exact hbehind id h
  | serviceThrew descriptor | serviceNull descriptor =>
    refine owes_forgotten h.2.1 h.1 ?_
    rw [clientLog_snoc]
    exact congrArg ClientLog.acks hk
  | connected descriptor => exact owes_connected (hbehind id h)
  | awaited type result => exact owes_awaited (hbehind id h)
  | ackJoin outcome err timer =>
    exact owes_acknowledged (hbehind id h) ((hk.1.acknowledged hk.2).snoc rfl)
  | finished => exact owes_paid ((hk.1.acknowledged hk.2).snoc rfl) (hbehind id h.2).2
  | finishFailed err => exact owes_paid ((hk.1.acknowledged hk.2).snoc rfl) (hbehind id h.2).2
  | finishThrew | finishNull =>
    have hread : endpoint.type ≠ .write := fun hwrite => nomatch hwrite.symm.trans h.1
    exact owes_paid ((hk.1.acknowledged hk.2).snoc rfl) (hbehind hread h.2).2

end Owes

/-! ## 3. Every permission -/

section Permissions

variable [Platform] {evs : List SessionEvent} {isConnected : Bool} {endpoint : RdmaEndpoint}
  {c : Session}

/-- The client has returned, or an exception or undefined behaviour has ended it. -/
def Over (isConnected : Bool) (endpoint : RdmaEndpoint) (c : Session) : Prop :=
  c.pending (clientPass isConnected endpoint) = none ∨
    c.pending (clientPass isConnected endpoint) = some .unwind ∨
    c.pending (clientPass isConnected endpoint) = some .undefined

instance decidableSessionOver : Decidable (Over isConnected endpoint c) :=
  inferInstanceAs (Decidable (_ ∨ _ ∨ _))

/-- The points where a connected client is over. -/
theorem over_session {g : ClientPhase} (h : Over true endpoint (g.session endpoint)) :
    g = .unwound ∨ g = .undefined ∨ ∃ err, g = .ended err := by
  cases g with
  | unwound => exact .inl rfl
  | undefined => exact .inr (.inl rfl)
  | ended err => exact .inr (.inr ⟨err, rfl⟩)
  | _ => rcases h with h | h | h <;> cases h

/-- Where a connected client has got to, it owes what it must. -/
theorem client_owes (h : (handleClientSession true endpoint).Run .head evs c) :
    ∃ g : ClientPhase, c = g.session endpoint ∧ g.Owes endpoint evs := by
  have hrun := (client_refines endpoint).run .start
    (I := fun evs g => g.Knows (clientLog evs) ∧ g.Owes endpoint evs)
    ⟨rfl, not_permitted_nil, mindful_nil⟩ (fun evs g ev g' hI _ hs => ?_) h
  · obtain ⟨g, hc, -, howes⟩ := hrun
    exact ⟨g, hc, howes⟩
  · rw [clientLog_snoc]
    exact ⟨hI.1.step hs, hI.2.step hI.1 hs⟩

/-- A client without a connection returns at once. -/
theorem disconnected_run (h : (handleClientSession false endpoint).Run .head evs c) : evs = [] := by
  have hexec := Machine.run_exec h
  cases evs with
  | nil => rfl
  | cons ev evs => cases hexec

/-- **A permitted client answers once**, with the code of how its operation ended, exactly if no
step of the run forgets the server. -/
theorem permission_acknowledged_iff
    (h : (handleClientSession isConnected endpoint).Run .head evs c) :
    (Over isConnected endpoint c → Permitted evs → Acknowledged evs) ↔ Mindful evs := by
  cases isConnected with
  | false =>
    obtain rfl := disconnected_run h
    exact iff_of_true (fun _ hp => absurd hp not_permitted_nil) mindful_nil
  | true =>
    obtain ⟨g, rfl, howes⟩ := client_owes h
    by_cases hover : Over true endpoint (g.session endpoint)
    · rw [forall_prop_of_true hover]
      rcases over_session hover with rfl | rfl | ⟨err, rfl⟩ <;> exact howes
    · refine iff_of_true (fun ho => absurd ho hover) ?_
      cases g with
      | ended err => exact absurd (.inl rfl) hover
      | unwound => exact absurd (.inr (.inl rfl)) hover
      | undefined => exact absurd (.inr (.inr rfl)) hover
      | service descriptor => exact howes.2.2
      | finish => exact howes.2.2
      | _ => exact howes.2

/-- A run that is given by its events and comes to an end. -/
theorem clientRun_over (endpoint : RdmaEndpoint) (evs : List SessionEvent)
    (h : ((handleClientSession true endpoint).exec .head evs).any
      (fun c => decide (Over true endpoint c)) = true) :
    ∃ c, (handleClientSession true endpoint).Run .head evs c ∧ Over true endpoint c := by
  obtain ⟨c, hc, hover⟩ := (Option.any_eq_true _ _).mp h
  exact ⟨c, Machine.exec_run hc, of_decide_eq_true hover⟩

/-- A request for an endpoint that is permitted, with the descriptor of the server's buffer. -/
def permitEvents (endpoint : RdmaEndpoint) (descriptor : Bytes) : List SessionEvent :=
  let request := serializeRequest (clientRequest endpoint)
  let responce : Responce := ⟨.operationPermitted, descriptor⟩
  let payload := serializeResponse responce
  [⟨.startTimer 5000, ()⟩,
    ⟨.serializeRequest (clientRequest endpoint), request⟩,
    ⟨.asyncWrite (uint32Bytes request.length), .ok ()⟩,
    ⟨.asyncWrite request, .ok ()⟩,
    ⟨.asyncRead 4, .ok (uint32Bytes payload.length)⟩,
    ⟨.asyncRead payload.length, .ok payload⟩,
    ⟨.deserializeResponse payload, .ok responce⟩,
    ⟨.joinTimer, .cancelled⟩]

/-- A read endpoint with the empty path. -/
def askingEndpoint : RdmaEndpoint := ⟨[], .read, some 0, some 0⟩

/-- The exchange of a read endpoint that ends well. -/
def completedEvents : List SessionEvent :=
  let ack := serializeAcknowledge ⟨.operationCompleted⟩
  permitEvents askingEndpoint [7] ++
    [⟨.fromExportedRemoteDescriptor [7], none⟩,
      ⟨.getActiveConnection, none⟩,
      ⟨.submitOperation ⟨.read, some 0, [7]⟩, none⟩,
      ⟨.awaitWithTimeout 5000, .ready none⟩,
      ⟨.startTimer 5000, ()⟩,
      ⟨.serializeAcknowledge ⟨.operationCompleted⟩, ack⟩,
      ⟨.asyncWrite (uint32Bytes ack.length), .ok ()⟩,
      ⟨.asyncWrite ack, .ok ()⟩,
      ⟨.joinTimer, .cancelled⟩,
      ⟨.handle askingEndpoint, .returned none⟩]

omit [Platform] in
theorem permission_acknowledged_sample :
    letI := Platform.littleEndian
    ∃ c, (handleClientSession true askingEndpoint).Run .head completedEvents c ∧
      ((Over true askingEndpoint c → Permitted completedEvents →
          Acknowledged completedEvents) ↔ Mindful completedEvents) := by
  let _ := Platform.littleEndian
  obtain ⟨c, hrun, -⟩ := clientRun_over askingEndpoint completedEvents
    (by decide +kernel)
  exact ⟨c, hrun, permission_acknowledged_iff hrun⟩

/-- The same client, when its device cannot import the descriptor. -/
def forgottenEvents : List SessionEvent :=
  permitEvents askingEndpoint [7] ++
    [⟨.fromExportedRemoteDescriptor [7], some (.new "Failed to create memory map from export")⟩]

omit [Platform] in
/-- The client returns and the server, which holds the endpoint for it, is never told. -/
theorem permission_unacknowledged :
    letI := Platform.littleEndian
    ∃ c, (handleClientSession true askingEndpoint).Run .head forgottenEvents c ∧
      Over true askingEndpoint c ∧ Permitted forgottenEvents ∧
      ¬ Acknowledged forgottenEvents := by
  let _ := Platform.littleEndian
  obtain ⟨c, hrun, hover⟩ := clientRun_over askingEndpoint forgottenEvents
    (by decide +kernel)
  refine ⟨c, hrun, hover, .snoc ?_, not_acknowledged (by decide +kernel)⟩
  refine ⟨(permitEvents askingEndpoint [7]).dropLast, ⟨.joinTimer, .cancelled⟩,
    List.prefix_refl _, rfl, [7], ?_⟩
  decide +kernel

end Permissions

end DocaCpp
