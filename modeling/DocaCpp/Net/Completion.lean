/-
# When a client's success is the server's

A client of a write endpoint returns success once its acknowledge is written; whether the server
takes it up is decided by a timer of the server alone.  As long as that timer does not run the two
agree (`completion_agreed`): everything read, the service has been called once for the request,
after the write and under the lock.  Otherwise the write is lost and neither side says so.

§1 shows that a wait for an acknowledge is lost in two ways only, by the timer or by a connection
that breaks before the acknowledge is read (`lost_cause`).
-/
import DocaCpp.Net.Network
import DocaCpp.Net.Writes
import Mathlib.Data.List.Infix

namespace DocaCpp

variable [Platform]

/-! ## 1. How a wait is lost -/

/-- The server's timer runs, in time or behind the operation it was set for. -/
def timerRuns : ConnectionLabel → Bool
  | .serverTimeout => true
  | .server ⟨.joinTimer, .ranLast⟩ => true
  | _ => false

/-- The server's timer has not run. -/
def Untimed (ls : List ConnectionLabel) : Prop := ∀ l ∈ ls, timerRuns l = false

instance (ls : List ConnectionLabel) : Decidable (Untimed ls) :=
  inferInstanceAs (Decidable (∀ l ∈ ls, timerRuns l = false))

omit [Platform] in
theorem untimed_snoc {ls : List ConnectionLabel} {l : ConnectionLabel} :
    Untimed (ls ++ [l]) ↔ Untimed ls ∧ timerRuns l = false := by
  simp only [Untimed, List.forall_mem_append, List.forall_mem_singleton]

/-- The connection broke before the acknowledge was read. -/
def Broke (endpoint : RdmaEndpoint) (c : Connection) : Prop :=
  c.up.dead = true ∧ c.up.consumed < requestEnd endpoint + 5

/-- A wait that has failed by itself failed because the connection broke. -/
def ServerPhase.Failed (endpoint : RdmaEndpoint) (c : Connection) : ServerPhase → Prop
  | ackJoin _ _ _ (some _) => Broke endpoint c
  | _ => True

section Lost

variable {endpoint : RdmaEndpoint} {f f' : ServerPhase} {g g' : ClientPhase} {c c' : Connection}
  {ev : SessionEvent} {ls : List ConnectionLabel} {slog : ServerLog} {clog : ClientLog}

theorem Broke.stepServer (h : Broke endpoint c) (hstep : c.step endpoint (.server ev) = some c') :
    Broke endpoint c' := by
  obtain ⟨s, ha, -, hc'⟩ := Connection.step_server hstep
  obtain ⟨hd, hn⟩ := Side.answer_dead ha h.1
  rw [hc']
  exact ⟨hd, hn ▸ h.2⟩

theorem Broke.stepClient (h : Broke endpoint c) (hstep : c.step endpoint (.client ev) = some c') :
    Broke endpoint c' := by
  obtain ⟨s, ha, -, -, hc'⟩ := Connection.step_client hstep
  obtain ⟨-, hn, hd, -⟩ := Side.answer_out_frame ha
  rw [hc']
  exact ⟨hd.trans h.1, hn ▸ h.2⟩

theorem ServerPhase.Failed.mono (h : f.Failed endpoint c)
    (hb : Broke endpoint c → Broke endpoint c') : f.Failed endpoint c' := by
  cases f with
  | ackJoin request served ack err =>
    cases err with
    | none => trivial
    | some err => exact hb h
  | _ => trivial

theorem ServerPhase.Failed.step (hl : Linked endpoint slog clog f g c)
    (hs : ServerStep f ev f') (ht : c.serverTimer ≠ .ran)
    (hstep : c.step endpoint (.server ev) = some c') : f'.Failed endpoint c' := by
  obtain ⟨s, ha, -, hc'⟩ := Connection.step_server hstep
  rw [hc']
  cases hs with
  | ackLengthFailed request served ec =>
    obtain ⟨-, hlt, -, hdead⟩ := Side.read_failed ha
    have hn := hl.consumed.2
    exact ⟨(hdead ht).2, by change s.inp.consumed < _; change _ < c.up.consumed + 4 at hlt; omega⟩
  | ackPayloadFailed request served size ec =>
    obtain ⟨-, hlt, -, hdead⟩ := Side.read_failed ha
    obtain ⟨-, hn, rfl⟩ := hl.consumed
    exact ⟨(hdead ht).2, by change s.inp.consumed < _; change _ < c.up.consumed + 1 at hlt; omega⟩
  | granted request served descriptor =>
    rcases granted_cases request served descriptor with heq | heq <;> rw [heq] <;> trivial
  | sendPayload reply bs =>
    cases reply with
    | permitted request served descriptor =>
      rcases Reply.permitted_sent_cases request served descriptor with heq | ⟨err, heq⟩ <;>
        rw [heq] <;> trivial
    | _ => trivial
  | ackJoin request served ack err timer =>
    rcases joined_cases request served (Coro.errorAfter timer err) with heq | heq <;>
      rw [heq] <;> trivial
  | _ => trivial

/-- The one event after which a wait is lost. -/
theorem lost_of_note (hs : ServerStep f ev f') (hk : f.Knows slog) (h : slog.lost = false)
    (h' : (slog.note ev).lost = true) :
    ∃ request served ack err timer, f = .ackJoin request served ack err ∧
      ev = ⟨.joinTimer, timer⟩ ∧ (timer ≠ .cancelled ∨ err ≠ none) := by
  cases hs with
  | ackJoin request served ack err timer =>
    refine ⟨request, served, ack, err, timer, rfl, rfl, ?_⟩
    obtain ⟨-, -, -, -, descriptor, hcur⟩ := hk
    cases timer <;> cases err <;> simp_all [ServerLog.note]
  | _ => exact absurd (h.symm.trans h') (by simp)

/-- **A wait is lost by the timer or with the connection.** -/
theorem lost_cause (hshort : Short endpoint) (h : ConnectionRun endpoint ls c)
    (ht : Untimed ls) : (serverSays ls).lost = true → Broke endpoint c := by
  have hrun : ∃ f g, Linked endpoint (serverSays ls) (clientSays ls) f g c ∧ (Untimed ls →
      c.serverTimer ≠ .ran ∧ f.Failed endpoint c ∧
        ((serverSays ls).lost = true → Broke endpoint c)) := by
    refine Linked.run hshort (fun _ _ _ hp => hp)
      (J := fun ls f _ c => Untimed ls → c.serverTimer ≠ .ran ∧ f.Failed endpoint c ∧
        ((serverSays ls).lost = true → Broke endpoint c))
      (fun _ => ⟨fun h => (nomatch h), trivial, fun h => nomatch h⟩) ?_ ?_ ?_ h
    · intro ls f f' g c c' ev hl hJ _ hs hstep ht
      obtain ⟨hls, hev⟩ := untimed_snoc.mp ht
      obtain ⟨htimer, hfailed, hlost⟩ := hJ hls
      obtain ⟨s, ha, -, hc'⟩ := Connection.step_server hstep
      refine ⟨?_, ServerPhase.Failed.step hl hs htimer hstep, fun hlost' => ?_⟩
      · rw [hc']
        exact Side.answer_not_ran ha htimer
      · refine Broke.stepServer ?_ hstep
        rw [serverSays_server] at hlost'
        by_cases hbefore : (serverSays ls).lost = true
        · exact hlost hbefore
        · obtain ⟨request, served, ack, err, timer, rfl, rfl, hcause⟩ :=
            lost_of_note hs hl.knowsServer (by simpa using hbefore) hlost'
          have hjoin : c.serverTimer.join c.now timer = true := (Side.answer_join ha).1
          cases timer with
          | cancelled =>
            cases err with
            | none => exact absurd rfl (hcause.resolve_left (by simp))
            | some err => exact hfailed
          | ranFirst =>
            cases hst : c.serverTimer with
            | ran => exact absurd hst htimer
            | off | armed deadline => rw [hst] at hjoin; cases hjoin
          | ranLast => cases hev
    · intro ls f g g' c c' ev hl hJ _ hs hstep ht
      obtain ⟨htimer, hfailed, hlost⟩ := hJ (untimed_snoc.mp ht).1
      have hsame : c'.serverTimer = c.serverTimer := by
        obtain ⟨s, -, -, -, hc'⟩ := Connection.step_client hstep
        rw [hc']
      refine ⟨by rw [hsame]; exact htimer, hfailed.mono fun hb => hb.stepClient hstep, fun h => ?_⟩
      rw [serverSays_silent rfl] at h
      exact (hlost h).stepClient hstep
    · intro ls f g c c' l hl hJ _ hsil hcl hstep ht
      obtain ⟨hls, hev⟩ := untimed_snoc.mp ht
      obtain ⟨htimer, hfailed, hlost⟩ := hJ hls
      obtain ⟨hn, hd, hsame, -⟩ := Connection.step_quiet hstep hsil hcl
      have hne : l ≠ .serverTimeout := by
        rintro rfl
        cases hev
      have hbroke : Broke endpoint c → Broke endpoint c' := fun hb => ⟨hd.trans hb.1, hn ▸ hb.2⟩
      refine ⟨by rw [hsame hne]; exact htimer, hfailed.mono hbroke, fun h => ?_⟩
      rw [serverSays_silent hsil] at h
      exact hbroke (hlost h)
  obtain ⟨f, g, -, hJ⟩ := hrun
  exact (hJ ht).2.2

end Lost

/-! ## 2. Agreement -/

/-- A session that waits for bytes, is at the head of its loop or is over. -/
def idle : Option SessionCall → Bool
  | none | some .unwind | some .isOpen | some (.asyncRead _) => true
  | _ => false

section Agreed

variable {endpoint : RdmaEndpoint} {f : ServerPhase} {g : ClientPhase} {c : Connection}
  {slog : ServerLog} {clog : ClientLog} {ls : List ConnectionLabel} {err : error}

theorem client_ended (h : g.session endpoint = .ended err) : g = .ended err := by
  have hnone : (g.session endpoint).pending (clientPass true endpoint) = none := by rw [h]; rfl
  cases g with
  | ended err' => cases h; rfl
  | _ => cases hnone

/-- An exchange that was permitted and not lost has come to its end. -/
theorem Linked.handled (h : Linked endpoint slog clog f g c) (hw : endpoint.type = .write)
    (hserved : slog.Served) (hperm : slog.Permitted) (hlost : slog.lost = false) :
    ∃ served result, slog.current.handled = [(served, result)] ∧ served.path = endpoint.path ∧
      served.type = .write := by
  rcases hserved hperm with hl | ⟨served, ack, hserved, -, hhandled⟩
  · rw [hlost] at hl
    cases hl
  · obtain ⟨hpath, htype⟩ := h.fits served hserved
    have hwrite : served.type = .write := by
      refine endpointTypeToString_write (htype.trans ?_)
      rw [wireRequest, hw]
      rfl
    obtain ⟨result, hresult⟩ := hhandled hwrite
    exact ⟨served, result, hresult, hpath, hwrite⟩

/-- What a client that has returned success has written, all of it read. -/
theorem Linked.readAll (h : Linked endpoint slog clog f g c) (hclient : c.client = .ended none)
    (hall : c.up.consumed = c.up.written.length) :
    c.up.consumed = requestEnd endpoint + 5 ∧ clog.acks = [⟨.operationCompleted⟩] := by
  obtain rfl := client_ended (h.client.symm.trans hclient)
  refine ⟨?_, h.knowsClient.2⟩
  have hw : c.up.written = stream endpoint [Outcome.completed.acknowledge] := h.wrote
  rw [hall, hw, stream_length]
  rfl

/-- **Agreement**, of the state of a connection: the client has returned success and the server has
read everything. -/
theorem Linked.agreed (h : Linked endpoint slog clog f g c) (hw : endpoint.type = .write)
    (hclient : c.client = .ended none) (hall : c.up.consumed = c.up.written.length)
    (hidle : idle c.serverCall = true) (hlost : slog.lost = false) :
    slog.decoded = 1 ∧ ∃ served result, slog.current.handled = [(served, result)] ∧
      served.path = endpoint.path ∧ served.type = .write := by
  obtain ⟨hn, hacks⟩ := h.readAll hclient hall
  have hperm : slog.Permitted := h.permitted (by rw [hacks]; exact List.cons_ne_nil _ _)
  have hnone : ¬ (slog.current = {}) := fun hc => by
    obtain ⟨responce, hm, -⟩ := hperm
    rw [hc] at hm
    cases hm
  have hfin : (slog.decoded = 0 ∧ slog.current = {} ∨
      slog.decoded = 1 ∧ (c.up.consumed = requestEnd endpoint ∨ slog.Served)) →
      slog.decoded = 1 ∧ slog.Served := by
    rintro (⟨-, hc⟩ | ⟨hd, hn' | hserved⟩)
    · exact absurd hc hnone
    · omega
    · exact ⟨hd, hserved⟩
  have hhead : slog.Fresh c.up.consumed c.up.dead ∨ slog.Done endpoint c.up.consumed →
      slog.Served → slog.decoded = 1 ∧ slog.Served := by
    rintro (⟨-, hc, -⟩ | ⟨hd, -⟩) hserved
    · exact absurd hc hnone
    · exact ⟨hd, hserved⟩
  have hserved : slog.decoded = 1 ∧ slog.Served := by
    rw [Connection.serverCall, h.server] at hidle
    cases f with
    | head => exact hhead h.consumed h.knowsServer.2.2.1
    | requestLength => exact hhead h.consumed h.knowsServer.2.2.1
    | requestPayload size =>
      rcases h.consumed with ⟨-, hc, -⟩ | ⟨-, hl, -⟩
      · exact absurd hc hnone
      · rw [hlost] at hl; cases hl
    | ackLength request served =>
      have hn' := h.consumed.2
      omega
    | ackPayload request served size =>
      have hn' := h.consumed.2.1
      omega
    | unwound => exact hfin h.consumed
    | ended err => exact hfin h.consumed
    | respond reply sending => cases sending <;> cases hidle
    | _ => cases hidle
  exact ⟨hserved.1, h.handled hw hserved.2 hperm hlost⟩

end Agreed

/-! ## 3. When the service was called -/

section Called

variable {ls ms : List ConnectionLabel} {x : RdmaEndpoint × UserCall error}

omit [Platform] in
theorem handled_note {log : ServerLog} {ev : SessionEvent}
    (h : x ∈ (log.note ev).current.handled) :
    x ∈ log.current.handled ∨ ev = ⟨.handle x.1, x.2⟩ := by
  obtain ⟨op, r⟩ := ev
  cases op with
  | handle served =>
    rcases List.mem_cons.mp h with rfl | h
    · exact Or.inr rfl
    · exact Or.inl h
  | deserializeRequest buffer =>
    cases r with
    | ok request => cases h
    | error fault => exact Or.inl h
  | getEndpoint id | exportMemoryDescriptor served | deserializeAcknowledge buffer =>
    cases r <;> exact Or.inl h
  | _ => exact Or.inl h

omit [Platform] in
/-- Every call of the service on record was made at some point. -/
theorem handled_split (h : x ∈ (serverSays ls).current.handled) :
    ∃ ms₁ ms₂, ls = ms₁ ++ .server ⟨.handle x.1, x.2⟩ :: ms₂ := by
  induction ls using List.reverseRecOn with
  | nil => cases h
  | append_singleton ls l ih =>
    have hold : x ∈ (serverSays ls).current.handled →
        ∃ ms₁ ms₂, ls ++ [l] = ms₁ ++ .server ⟨.handle x.1, x.2⟩ :: ms₂ := fun h => by
      obtain ⟨ms₁, ms₂, rfl⟩ := ih h
      exact ⟨ms₁, ms₂ ++ [l], by simp⟩
    cases hl : l.ofServer with
    | none => exact hold (serverSays_silent hl ▸ h)
    | some ev =>
      obtain rfl : l = .server ev := by cases l <;> cases hl; rfl
      rw [serverSays_server] at h
      rcases handled_note h with h | rfl
      · exact hold h
      · exact ⟨ls, [], rfl⟩

omit [Platform] in
/-- Acknowledges once made stay made. -/
theorem acks_suffix : (clientSays ls).acks <:+ (clientSays (ls ++ ms)).acks := by
  induction ms using List.reverseRecOn with
  | nil => rw [List.append_nil]
  | append_singleton ms l ih =>
    rw [← List.append_assoc]
    refine ih.trans ?_
    cases hl : l.ofClient with
    | none => rw [clientSays_silent hl]
    | some ev =>
      obtain rfl : l = .client ev := by cases l <;> cases hl; rfl
      rw [clientSays_client]
      obtain ⟨op, r⟩ := ev
      cases op with
      | serializeAcknowledge ack => exact List.suffix_cons _ _
      | deserializeResponse buffer | submitOperation operation =>
        cases r <;> exact List.suffix_refl _
      | _ => exact List.suffix_refl _

end Called

/-! ## 4. The network -/

section Completion

variable {ι : Type} [DecidableEq ι] {endpoints : ι → RdmaEndpoint} {n : Network ι} {i : ι}
  {ls : List (NetworkLabel ι)} {storage : RdmaEndpointStorage}

/-- The state in which a service was called, seen from a later one. -/
theorem handle_called {endpoint served : RdmaEndpoint} {result : UserCall error}
    {ms₁ ms₂ : List ConnectionLabel} {c : Connection} (hshort : Short endpoint)
    (h : ConnectionRun endpoint (ms₁ ++ .server ⟨.handle served, result⟩ :: ms₂) c) :
    ∃ f g d, Linked endpoint (serverSays ms₁) (clientSays ms₁) f g d ∧
      d.serverCall = some (.handle served) := by
  rw [List.append_cons] at h
  obtain ⟨d', hrun, -⟩ := h.split
  obtain ⟨d, hbefore, -, hstep⟩ := Machine.RunWith.last hrun
  obtain ⟨f, g, hl⟩ := linked_run hshort hbefore
  have hserver : d.step endpoint (.server ⟨.handle served, result⟩) = some d' := hstep
  obtain ⟨s, -, hr, -⟩ := Connection.step_server hserver
  exact ⟨f, g, d, hl, Loop.pending_of_resume hr⟩

/-- The same of a write endpoint. -/
theorem write_called {endpoint served : RdmaEndpoint} {result : UserCall error}
    {ms₁ ms₂ : List ConnectionLabel} {c : Connection} (hshort : Short endpoint)
    (h : ConnectionRun endpoint (ms₁ ++ .server ⟨.handle served, result⟩ :: ms₂) c)
    (hw : served.type = .write) :
    ∃ outcome : Outcome, outcome.Follows (clientSays ms₁) ∧
      (clientSays ms₁).acks = [outcome.acknowledge] ∧
      (serverSays ms₁).held = [endpoint.path] := by
  obtain ⟨f, g, d, hl, hcall⟩ := handle_called hshort h
  obtain ⟨outcome, hfollows, hacks, -, hheld, -⟩ := hl.processing hw hcall
  exact ⟨outcome, hfollows, hacks, hheld⟩

/-- **Client and server agree on completion**, for any number of clients and whatever is delayed:
if a client of a write endpoint has returned success, its server session has read everything and
waits for more or is over, and that session's timer has not run, then the service of the endpoint
was called once for the request, after the client's write and under the lock of its path. -/
theorem completion_agreed (hrun : (network endpoints).Run (Network.start ι storage) ls n)
    (hshort : Short (endpoints i)) (hw : (endpoints i).type = .write)
    (hclient : (n.conn i).client = .ended none)
    (hall : (n.conn i).up.consumed = (n.conn i).up.written.length)
    (hidle : idle (n.conn i).serverCall = true) (htimer : Untimed (historyOf i ls)) :
    ∃ served result ms₁ ms₂, (serverSays (historyOf i ls)).decoded = 1 ∧
      (serverSays (historyOf i ls)).current.handled = [(served, result)] ∧
      served.path = (endpoints i).path ∧ served.type = .write ∧
      historyOf i ls = ms₁ ++ .server ⟨.handle served, result⟩ :: ms₂ ∧
      (clientSays ms₁).operation = some (.ready none) ∧
      (endpoints i).path ∈ (serverSays ms₁).held := by
  have hconn : ConnectionRun (endpoints i) (historyOf i ls) (n.conn i) :=
    (network_connection i (P := fun _ _ _ => True) (fun _ _ _ => trivial) (fun _ _ _ _ => trivial)
      hrun).mono fun _ _ _ h => h.1
  obtain ⟨f, g, hl⟩ := linked_run hshort hconn
  obtain ⟨hn, hacks⟩ := hl.readAll hclient hall
  have hlost : (serverSays (historyOf i ls)).lost = false := by
    by_contra hlost
    obtain ⟨-, hlt⟩ := lost_cause hshort hconn htimer (by simpa using hlost)
    omega
  obtain ⟨hd, served, result, hhandled, hpath, htype⟩ := hl.agreed hw hclient hall hidle hlost
  obtain ⟨ms₁, ms₂, hsplit⟩ := handled_split (by rw [hhandled]; exact List.mem_singleton_self _)
  dsimp only at hsplit
  refine ⟨served, result, ms₁, ms₂, hd, hhandled, hpath, htype, hsplit, ?_⟩
  rw [hsplit] at hconn hacks
  obtain ⟨outcome, hfollows, hone, hheld⟩ := write_called hshort hconn htype
  have hsuffix : (clientSays ms₁).acks <:+ [⟨.operationCompleted⟩] := hacks ▸ acks_suffix
  rw [hone] at hsuffix
  have hcode := congrArg Acknowledge.ackCode (List.cons.inj (hsuffix.eq_of_length rfl)).1
  refine ⟨hfollows.1.mp (outcome.completed_iff.mp hcode), ?_⟩
  rw [hheld]
  exact List.mem_singleton_self _

/-- A label of a connection, in the network. -/
def NetworkLabel.via (i : ι) : ConnectionLabel → NetworkLabel ι
  | .tick milliseconds => .tick milliseconds
  | l => .conn i l

end Completion

/-- A client that writes and is served. -/
def servedLabels : List ConnectionLabel :=
  processedLabels ++ [.server ⟨.handle sampleWriteEndpoint, .returned none⟩,
    .server ⟨.unlockEndpointsByPath [], none⟩]

/-- The acknowledge comes in two pieces.  Between them the server's timer runs, so the second
piece is read as the beginning of a request, behind which the connection is closed. -/
def lateLabels : List ConnectionLabel :=
  List.flatten [asking sampleWriteEndpoint, granting sampleWriteEndpoint [7], permitted [7],
    operating sampleWriteEndpoint [7],
    [.complete none, .client ⟨.awaitWithTimeout 5000, .ready none⟩],
    acknowledging ⟨.operationCompleted⟩,
    List.replicate 4 .fetchUp, [.server ⟨.asyncRead 4, .ok (uint32Bytes 1)⟩],
    [.tick 5000, .serverTimeout, .server ⟨.asyncRead 1, .error ⟨"Operation canceled"⟩⟩,
      .server ⟨.joinTimer, .ranFirst⟩, .server ⟨.unlockEndpointsByPath [], none⟩,
      .server ⟨.isOpen, true⟩, .fetchUp, .clientCloses,
      .server ⟨.asyncRead 4, .error ⟨"End of file"⟩⟩]]

/-- The client has returned success, the server has read everything and has nothing left to do. -/
def settled (c : Connection) : Bool :=
  (match c.client with
    | .ended none => true
    | _ => false) &&
    decide (c.up.consumed = c.up.written.length) && idle c.serverCall

theorem settled_iff {c : Connection} (h : settled c = true) :
    c.client = .ended none ∧ c.up.consumed = c.up.written.length ∧ idle c.serverCall = true := by
  obtain ⟨h, hidle⟩ := Bool.and_eq_true_iff.mp h
  obtain ⟨hclient, hall⟩ := Bool.and_eq_true_iff.mp h
  refine ⟨?_, of_decide_eq_true hall, hidle⟩
  split at hclient
  · assumption
  · cases hclient

omit [Platform] in
theorem completion_agreed_sample :
    letI := Platform.littleEndian
    ∃ ls served result ms₁ ms₂, (serverSays (historyOf () ls)).decoded = 1 ∧
      (serverSays (historyOf () ls)).current.handled = [(served, result)] ∧
      served.path = sampleWriteEndpoint.path ∧ served.type = .write ∧
      historyOf () ls = ms₁ ++ .server ⟨.handle served, result⟩ :: ms₂ ∧
      (clientSays ms₁).operation = some (.ready none) ∧
      sampleWriteEndpoint.path ∈ (serverSays ms₁).held := by
  let _ := Platform.littleEndian
  have hexec : ((network fun _ : Unit => sampleWriteEndpoint).exec
      (Network.start Unit sampleWriteStorage) (servedLabels.map (.via ()))).any
      (fun n => settled (n.conn ())) = true := by decide +kernel
  obtain ⟨n, hn, hsettled⟩ := (Option.any_eq_true _ _).mp hexec
  obtain ⟨hclient, hall, hidle⟩ := settled_iff hsettled
  exact ⟨servedLabels.map (.via ()), completion_agreed (Machine.exec_run hn)
    sampleWriteEndpoint_short rfl hclient hall hidle (by decide +kernel)⟩

omit [Platform] in
/-- A client that has returned success, all of whose bytes were read, and no call of the service. -/
theorem completion_disagreed :
    letI := Platform.littleEndian
    ∃ ls n, (network fun _ : Unit => sampleWriteEndpoint).Run
        (Network.start Unit sampleWriteStorage) ls n ∧
      (n.conn ()).client = .ended none ∧
      (n.conn ()).up.consumed = (n.conn ()).up.written.length ∧
      idle (n.conn ()).serverCall = true ∧
      (serverSays (historyOf () ls)).current.handled = [] := by
  let _ := Platform.littleEndian
  have hexec : ((network fun _ : Unit => sampleWriteEndpoint).exec
      (Network.start Unit sampleWriteStorage) (lateLabels.map (.via ()))).any
      (fun n => settled (n.conn ())) = true := by decide +kernel
  obtain ⟨n, hn, hsettled⟩ := (Option.any_eq_true _ _).mp hexec
  obtain ⟨hclient, hall, hidle⟩ := settled_iff hsettled
  exact ⟨lateLabels.map (.via ()), n, Machine.exec_run hn, hclient, hall, hidle, by decide +kernel⟩

end DocaCpp
