/-
# When the server processes a write

`HandleServerSession` calls the service of a write endpoint once it has received an acknowledge,
and does not look at the code in it.  `write_processed_iff` says when that is right: exactly if no
call of the client failed on the way to its RDMA operation.  Everything needed about the client is
in `client_reports`, which relates the code of its acknowledge to the answers it got.
-/
import DocaCpp.Net.Frames

namespace DocaCpp

/-! ## 1. What an acknowledge reports -/

/-- A call of the client fails, so that it does not complete its operation. -/
def falters (ev : SessionEvent) : Bool :=
  match ev with
  | ⟨.handle endpoint, .returned (some _)⟩ => endpoint.type = .write
  | ⟨.getActiveConnection, some _⟩ => true
  | ⟨.submitOperation _, some _⟩ => true
  | ⟨.awaitWithTimeout _, result⟩ => result ≠ .ready none
  | _ => false

/-- No call of the client has failed, and the type of its endpoint is one it knows. -/
def Smooth (endpoint : RdmaEndpoint) (evs : List SessionEvent) : Prop :=
  endpoint.type.Known ∧ ∀ ev ∈ evs, falters ev = false

/-- What the answers so far say at a point of the client. -/
def ClientPhase.Reports (endpoint : RdmaEndpoint) (evs : List SessionEvent) : ClientPhase → Prop
  | start | requestSerialize | requestLength _ | requestPayload _ | responseLength
  | responsePayload _ | responseDecode _ | requestJoin _ _ | importDescriptor _ | connection _ =>
    ∀ ev ∈ evs, falters ev = false
  | service _ => endpoint.type = .write ∧ ∀ ev ∈ evs, falters ev = false
  | submit _ _ | await _ => Smooth endpoint evs
  | ackTimer outcome | ackSerialize outcome => outcome = .completed ↔ Smooth endpoint evs
  | finish =>
    endpoint.type = .read ∧
      ∀ ack ∈ (clientLog evs).acks, ack.ackCode = .operationCompleted ↔ Smooth endpoint evs
  | _ => ∀ ack ∈ (clientLog evs).acks, ack.ackCode = .operationCompleted ↔ Smooth endpoint evs

section Reports

variable {endpoint : RdmaEndpoint} {evs : List SessionEvent} {ev : SessionEvent}
  {g g' : ClientPhase}

theorem untroubled_snoc (h : falters ev = false) :
    (∀ e ∈ evs ++ [ev], falters e = false) ↔ ∀ e ∈ evs, falters e = false := by
  simp only [List.forall_mem_append, List.forall_mem_singleton, h, and_true]

theorem smooth_snoc (h : falters ev = false) :
    Smooth endpoint (evs ++ [ev]) ↔ Smooth endpoint evs :=
  and_congr_right fun _ => untroubled_snoc h

theorem not_smooth_snoc (h : falters ev = true) : ¬ Smooth endpoint (evs ++ [ev]) := by
  intro hs
  have hlast := hs.2 ev (List.mem_append_right _ (List.mem_singleton_self ev))
  rw [h] at hlast
  cases hlast

/-- A client that has reported reports no more. -/
theorem reports_snoc (h : ∀ ack ∈ (clientLog evs).acks,
      ack.ackCode = .operationCompleted ↔ Smooth endpoint evs) (hf : falters ev = false)
    (hacks : ((clientLog evs).note ev).acks = (clientLog evs).acks) :
    ∀ ack ∈ (clientLog (evs ++ [ev])).acks,
      ack.ackCode = .operationCompleted ↔ Smooth endpoint (evs ++ [ev]) := by
  rw [clientLog_snoc, hacks]
  exact fun ack hack => (h ack hack).trans (smooth_snoc hf).symm

/-- A client that has not reported has nothing to answer for. -/
theorem reports_none (h : ((clientLog evs).note ev).acks = []) :
    ∀ ack ∈ (clientLog (evs ++ [ev])).acks,
      ack.ackCode = .operationCompleted ↔ Smooth endpoint (evs ++ [ev]) := by
  rw [clientLog_snoc, h]
  exact fun ack hack => nomatch hack

theorem Outcome.completed_iff (outcome : Outcome) :
    outcome.acknowledge.ackCode = .operationCompleted ↔ outcome = .completed := by
  cases outcome <;> simp [Outcome.acknowledge] <;> decide

variable [Platform]

/-- **What the answers say at a point they say at the next.** -/
theorem ClientPhase.Reports.step (h : g.Reports endpoint evs) (hk : g.Knows (clientLog evs))
    (hs : ClientStep endpoint g ev g') : g'.Reports endpoint (evs ++ [ev]) := by
  cases hs with
  | start | requestSerialize bs | requestLength bs | requestLengthFailed bs ec
  | requestPayload bs | requestPayloadFailed bs ec | responseLength bs | responseLengthFailed ec
  | responsePayload size bs | responsePayloadFailed size ec | responseDecode bs responce =>
    exact (untroubled_snoc rfl).mpr h
  | responseFault bs fault => exact reports_none (congrArg ClientLog.acks hk)
  | requestJoin responce err timer =>
    have hacks : (clientLog evs).acks = [] := congrArg ClientLog.acks hk
    unfold requested
    split
    · exact reports_none hacks
    · split
      · exact (untroubled_snoc rfl).mpr h
      · exact reports_none hacks
  | imported descriptor =>
    unfold DocaCpp.imported
    by_cases hw : endpoint.type = .write
    · rw [if_pos hw]
      exact ⟨hw, (untroubled_snoc rfl).mpr h⟩
    · rw [if_neg hw]
      exact (untroubled_snoc rfl).mpr h
  | importFailed descriptor err => exact reports_none (congrArg ClientLog.acks hk)
  | service descriptor => exact (untroubled_snoc rfl).mpr h.2
  | serviceFailed descriptor err =>
    refine ⟨fun hc => (nomatch hc), fun hc => absurd hc (not_smooth_snoc ?_)⟩
    exact decide_eq_true h.1
  | serviceThrew descriptor | serviceNull descriptor =>
    exact reports_none (congrArg ClientLog.acks hk)
  | connected descriptor =>
    unfold DocaCpp.connected
    by_cases hw : endpoint.type = .write
    · rw [if_pos hw]
      exact ⟨Or.inl hw, (untroubled_snoc rfl).mpr h⟩
    · rw [if_neg hw]
      by_cases hr : endpoint.type = .read
      · rw [if_pos hr]
        exact ⟨Or.inr hr, (untroubled_snoc rfl).mpr h⟩
      · rw [if_neg hr]
        exact ⟨fun hc => (nomatch hc), fun hc => absurd hc.1 (not_or.mpr ⟨hw, hr⟩)⟩
  | connectionFailed descriptor err =>
    exact ⟨fun hc => (nomatch hc), fun hc => absurd hc (not_smooth_snoc rfl)⟩
  | submitted type descriptor => exact (smooth_snoc rfl).mpr h
  | submitFailed type descriptor err =>
    exact ⟨fun hc => (nomatch hc), fun hc => absurd hc (not_smooth_snoc rfl)⟩
  | awaited type result =>
    cases result with
    | timedOut => exact ⟨fun hc => (nomatch hc), fun hc => absurd hc (not_smooth_snoc rfl)⟩
    | ready err =>
      cases err with
      | none => exact ⟨fun _ => (smooth_snoc rfl).mpr h, fun _ => rfl⟩
      | some err =>
        exact ⟨fun hc => (nomatch hc), fun hc => absurd hc (not_smooth_snoc (by simp [falters]))⟩
  | ackTimer outcome => exact h.trans (smooth_snoc rfl).symm
  | ackSerialize outcome bs =>
    change ∀ ack ∈ (clientLog (evs ++ [_])).acks, _
    rw [clientLog_snoc]
    have hacks : ((clientLog evs).note ⟨.serializeAcknowledge outcome.acknowledge, bs⟩).acks
        = [outcome.acknowledge] := congrArg (outcome.acknowledge :: ·) hk.2
    rw [hacks]
    intro ack hack
    rw [List.mem_singleton.mp hack, outcome.completed_iff]
    exact h.trans (smooth_snoc rfl).symm
  | ackLength outcome bs | ackLengthFailed outcome bs ec | ackPayload outcome bs
  | ackPayloadFailed outcome bs ec => exact reports_snoc h rfl rfl
  | ackJoin outcome err timer =>
    have hnext : ∀ ack ∈ (clientLog (evs ++ [⟨.joinTimer, timer⟩])).acks,
        ack.ackCode = .operationCompleted ↔ Smooth endpoint (evs ++ [⟨.joinTimer, timer⟩]) :=
      reports_snoc h rfl rfl
    cases outcome with
    | canceled srvErr | failed opErr => exact hnext
    | completed =>
      unfold Outcome.acknowledged
      dsimp only
      split
      · exact hnext
      · by_cases hr : endpoint.type = .read
        · rw [if_pos hr]
          exact ⟨hr, hnext⟩
        · rw [if_neg hr]
          exact hnext
  | finished | finishThrew | finishNull => exact reports_snoc h.2 rfl rfl
  | finishFailed err =>
    refine reports_snoc h.2 ?_ rfl
    exact decide_eq_false (h.1 ▸ RdmaEndpointType.read_ne_write)

/-- **What a client reports** is whether it got all the way. -/
theorem client_reports {c : Session} (h : (handleClientSession true endpoint).Run .head evs c) :
    ∀ ack ∈ (clientLog evs).acks, ack.ackCode = .operationCompleted ↔ Smooth endpoint evs := by
  obtain ⟨g, -, hk, hr⟩ := (client_refines endpoint).run .start
    (I := fun evs g => g.Knows (clientLog evs) ∧ g.Reports endpoint evs)
    ⟨rfl, fun _ h => nomatch h⟩
    (fun evs g ev g' hI _ hs => ⟨clientLog_snoc evs ev ▸ hI.1.step hs, hI.2.step hI.1 hs⟩) h
  cases g with
  | ackLength outcome buffer | ackPayload outcome buffer | ackJoin outcome err | unwound
  | undefined | ended err => exact hr
  | finish => exact hr.2
  | ackTimer outcome | ackSerialize outcome =>
    rw [hk.2]
    exact fun ack hack => nomatch hack
  | await type =>
    obtain ⟨descriptor, hk⟩ := hk
    rw [congrArg ClientLog.acks hk]
    exact fun ack hack => nomatch hack
  | _ =>
    rw [congrArg ClientLog.acks hk]
    exact fun ack hack => nomatch hack

end Reports

/-! ## 2. The call of the service -/

section Processed

variable [Platform] {endpoint served : RdmaEndpoint} {slog : ServerLog} {clog : ClientLog}
  {f : ServerPhase} {g : ClientPhase} {ls : List ConnectionLabel} {c : Connection}

theorem handles (h : f.session.pending serverPass = some (.handle served)) :
    (∃ request descriptor, f = .prepare request served descriptor) ∨
      ∃ request, f = .process request served := by
  obtain ⟨f', hs⟩ := server_refines.of_pending h .threw
  cases hs with
  | prepareThrew request served descriptor => exact Or.inl ⟨request, descriptor, rfl⟩
  | processThrew request served => exact Or.inr ⟨request, rfl⟩

/-- Where a service is called, the session has decoded the client's request, holds its path and
calls the service of an endpoint that fits it. -/
theorem Linked.calling (h : Linked endpoint slog clog f g c)
    (hcall : c.serverCall = some (.handle served)) :
    slog.held = [endpoint.path] ∧ slog.decoded = 1 ∧
      slog.current.request = some (wireRequest endpoint) ∧ (wireRequest endpoint).Fits served := by
  rw [Connection.serverCall, h.server] at hcall
  rcases handles hcall with ⟨request, descriptor, rfl⟩ | ⟨request, rfl⟩
  · obtain ⟨hheld, -, hfit, -, hcur⟩ := h.knowsServer
    obtain ⟨⟨hdecoded, -, rfl⟩, -⟩ := h.consumed
    exact ⟨hheld, hdecoded, by rw [hcur]; rfl, hfit⟩
  · obtain ⟨-, ack, hheld, -, hfit, -, descriptor, hcur⟩ := h.knowsServer
    obtain ⟨⟨hdecoded, -, rfl⟩, -⟩ := h.consumed
    exact ⟨hheld, hdecoded, by rw [hcur]; rfl, hfit⟩

/-- Where a write endpoint is processed, the client has acknowledged and the server knows how. -/
theorem Linked.processing (h : Linked endpoint slog clog f g c) (hw : served.type = .write)
    (hcall : c.serverCall = some (.handle served)) :
    ∃ outcome : Outcome, outcome.Follows clog ∧ clog.acks = [outcome.acknowledge] ∧
      slog.current.ack = some outcome.acknowledge ∧ slog.held = [endpoint.path] ∧
      served.path = endpoint.path ∧ slog.lost = false := by
  rw [Connection.serverCall, h.server] at hcall
  rcases handles hcall with ⟨request, descriptor, rfl⟩ | ⟨request, rfl⟩
  · obtain ⟨-, -, -, hr, -⟩ := h.knowsServer
    rw [hr] at hw
    exact absurd hw RdmaEndpointType.read_ne_write
  · obtain ⟨-, ack, hheld, -, hfit, -, descriptor, hcur⟩ := h.knowsServer
    obtain ⟨⟨-, hlost, rfl⟩, -⟩ := h.consumed
    have hack : slog.current.ack = some ack := by rw [hcur]
    have hone := h.acked ack hack
    rcases h.knowsClient.acks with h0 | ⟨outcome, hfollows, hacks⟩
    · rw [h0] at hone
      cases hone
    · rw [hacks] at hone
      cases hone
      exact ⟨outcome, hfollows, hacks, hack, hheld, hfit.1, hlost⟩

/-- **A write endpoint is processed after a write that has completed exactly if the client got all
the way**: whenever the server is about to call the service of a write endpoint, it has received
`operationCompleted` and the client's RDMA operation has ended well if and only if the client knows
the type of its endpoint and none of its calls has failed. -/
theorem write_processed_iff (hshort : Short endpoint) (h : ConnectionRun endpoint ls c)
    (hw : served.type = .write) (hcall : c.serverCall = some (.handle served)) :
    (serverSays ls).current.ack = some ⟨.operationCompleted⟩ ∧ c.rdma = .ended none ↔
      Smooth endpoint (ls.filterMap ConnectionLabel.ofClient) := by
  obtain ⟨f, g, hl⟩ := linked_run hshort h
  obtain ⟨outcome, hfollows, hacks, hack, -⟩ := hl.processing hw hcall
  have hreports := client_reports (connection_client h) outcome.acknowledge
    (by rw [← clientSays, hacks]; exact List.mem_singleton_self _)
  rw [← hreports, outcome.completed_iff]
  constructor
  · rintro ⟨hdone, -⟩
    rw [hack] at hdone
    exact outcome.completed_iff.mp (congrArg Acknowledge.ackCode (Option.some.inj hdone))
  · rintro rfl
    exact ⟨hack, hl.operated.2 none (hfollows.1.mp rfl)⟩

end Processed

/-- The server decodes the acknowledge and ends its wait. -/
def accepting (ack : Acknowledge) : List ConnectionLabel :=
  [.server ⟨.deserializeAcknowledge (serializeAcknowledge ack), .ok ack⟩,
    .server ⟨.joinTimer, .cancelled⟩]

section Samples

variable [Platform]

/-- A client that writes, up to the call of the service. -/
def processedLabels : List ConnectionLabel :=
  promptLabels ++ accepting ⟨.operationCompleted⟩

/-- A client whose own service fails, so that it never writes. -/
def canceledLabels : List ConnectionLabel :=
  List.flatten [asking sampleWriteEndpoint, granting sampleWriteEndpoint [7], permitted [7],
    [.client ⟨.fromExportedRemoteDescriptor [7], none⟩,
      .client ⟨.handle sampleWriteEndpoint, .returned (some (.new "no data"))⟩],
    acknowledging ⟨.operationCanceled⟩, acknowledged ⟨.operationCanceled⟩,
    accepting ⟨.operationCanceled⟩]

omit [Platform] in
theorem write_processed_sample :
    letI := Platform.littleEndian
    ∃ ls c, ConnectionRun sampleWriteEndpoint ls c ∧
      (serverSays ls).current.ack = some ⟨.operationCompleted⟩ ∧ c.rdma = .ended none := by
  let _ := Platform.littleEndian
  have hexec : ((connection sampleWriteEndpoint).exec .start processedLabels).any
      (fun c => decide (c.serverCall = some (.handle sampleWriteEndpoint))) = true := by
    decide +kernel
  obtain ⟨c, hc, hcall⟩ := (Option.any_eq_true _ _).mp hexec
  have hrun := connectionRun_of_exec sampleWriteStorage hc (by decide +kernel)
  refine ⟨processedLabels, c, hrun, ?_⟩
  exact (write_processed_iff sampleWriteEndpoint_short hrun rfl (of_decide_eq_true hcall)).mpr
    ⟨Or.inl rfl, by decide +kernel⟩

omit [Platform] in
/-- The service of a write endpoint is called after `operationCanceled`, with no RDMA operation
ever submitted. -/
theorem write_processed_unwritten :
    letI := Platform.littleEndian
    ∃ ls c, ConnectionRun sampleWriteEndpoint ls c ∧
      c.serverCall = some (.handle sampleWriteEndpoint) ∧ c.rdma = .idle ∧
      (serverSays ls).current.ack = some ⟨.operationCanceled⟩ := by
  let _ := Platform.littleEndian
  have hexec : ((connection sampleWriteEndpoint).exec .start canceledLabels).any
      (fun c => decide (c.serverCall = some (.handle sampleWriteEndpoint) ∧ c.rdma = .idle))
      = true := by decide +kernel
  obtain ⟨c, hc, hcall⟩ := (Option.any_eq_true _ _).mp hexec
  obtain ⟨hcall, hidle⟩ := of_decide_eq_true hcall
  have hrun := connectionRun_of_exec sampleWriteStorage hc (by decide +kernel)
  exact ⟨canceledLabels, c, hrun, hcall, hidle, by decide +kernel⟩

end Samples

end DocaCpp
