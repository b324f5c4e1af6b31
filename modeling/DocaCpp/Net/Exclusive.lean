/-
# Who uses the buffer of an endpoint

The lock of a path is a flag at the server, but what it protects is used by clients: from the moment
a client reads its permission until its RDMA operation is over.  The server gives the flag back when
its wait for the acknowledge ends, and a timer can end that wait at any moment; a client gives up
its own wait for the operation after five seconds, and the operation goes on.

Apart from these two timers the lock does what it is for.  `Timely` says of a step that neither of
them cuts an operation short, and `exclusive_use` that in a run of such steps no two clients use the
buffers of a path at once and the server's service is never called on a buffer that a client's
operation is still working on.
-/
import DocaCpp.Net.Completion

namespace DocaCpp

variable [Platform]

/-! ## 1. Use of a buffer -/

/-- The client has begun to acknowledge, or its session is over. -/
def Finished (endpoint : RdmaEndpoint) (clog : ClientLog) (c : Connection) : Prop :=
  clog.acks ≠ [] ∨ Connection.finished (c.clientCall endpoint) = true

/-- The client is between its permission and the end of its RDMA operation. -/
def Using (endpoint : RdmaEndpoint) (clog : ClientLog) (c : Connection) : Prop :=
  clog.responce.map Responce.responceCode = some .operationPermitted ∧
    (c.rdma.busy = true ∨ c.rdma = .idle ∧ ¬ Finished endpoint clog c)

instance (endpoint : RdmaEndpoint) (clog : ClientLog) (c : Connection) :
    Decidable (Finished endpoint clog c) := inferInstanceAs (Decidable (_ ∨ _))

instance (endpoint : RdmaEndpoint) (clog : ClientLog) (c : Connection) :
    Decidable (Using endpoint clog c) := inferInstanceAs (Decidable (_ ∧ (_ ∨ _ ∧ ¬ _)))

/-- A step in which no timer cuts short what a client is doing: the timer of the server runs only
for a client that has finished, and the client's wait for its operation does not run out. -/
def Timely (endpoint : RdmaEndpoint) (ls : List ConnectionLabel) (c : Connection)
    (l : ConnectionLabel) : Prop :=
  (timerRuns l = true → Finished endpoint (clientSays ls) c) ∧
    ∀ milliseconds, l ≠ .client ⟨.awaitWithTimeout milliseconds, .timedOut⟩

/-! ## 2. The lock outlives the use -/

/-- A wait that has failed by itself failed at a client that has finished. -/
def ServerPhase.Abandoned (finished : Prop) : ServerPhase → Prop
  | ackJoin _ _ _ (some _) => finished
  | _ => True

/-- **What protects the buffer**: whatever ends the server's wait, the client has finished first,
and as long as it has not the server holds the lock of what it has permitted. -/
structure Protected (endpoint : RdmaEndpoint) (slog : ServerLog) (clog : ClientLog)
    (f : ServerPhase) (g : ClientPhase) (c : Connection) : Prop where
  timer : c.serverTimer = .ran → Finished endpoint clog c
  failed : f.Abandoned (Finished endpoint clog c)
  lost : slog.lost = true → Finished endpoint clog c
  held : slog.Permitted → endpoint.path ∈ slog.held ∨ Finished endpoint clog c
  busy : c.rdma.busy = true → ∃ type, g = .await type

section Protected

variable {endpoint : RdmaEndpoint} {f f' : ServerPhase} {g g' : ClientPhase} {c c' : Connection}
  {ev : SessionEvent} {ls : List ConnectionLabel} {slog : ServerLog} {clog : ClientLog}
  {s s' : Side} {now : ℕ} {p q : Prop}

omit [Platform] in
theorem ServerPhase.Abandoned.mono (h : f.Abandoned p) (hpq : p → q) : f.Abandoned q := by
  cases f with
  | ackJoin request served ack err =>
    cases err with
    | none => trivial
    | some err => exact hpq h
  | _ => trivial

/-- A read for an acknowledge fails by itself at a client that has finished. -/
theorem ServerPhase.Abandoned.step (hs : ServerStep f ev f') (ha : s.answer now ev = some s')
    (htimer : s.timer = .ran → p) (hclosed : s.inp.closed = true → p) : f'.Abandoned p := by
  have hread : ∀ {size : ℕ} {ec : ErrorCode},
      s.answer now ⟨.asyncRead size, .error ec⟩ = some s' → p := fun ha => by
    by_cases ht : s.timer = .ran
    · exact htimer ht
    · exact hclosed ((Side.read_failed ha).2.2.2 ht).1
  cases hs with
  | ackLengthFailed request served ec => exact hread ha
  | ackPayloadFailed request served size ec => exact hread ha
  | granted request served descriptor =>
    rcases granted_cases request served descriptor with heq | heq <;> rw [heq] <;> trivial
  | sendPayload reply bs =>
    cases reply with
    | permitted request served descriptor =>
      rcases Reply.permitted_sent_cases request served descriptor with heq | ⟨err, heq⟩ <;>
        rw [heq] <;> trivial
    | _ => trivial
  | ackJoin request served ack err timer =>
    rcases joined_cases request served (Coro.errorAfter timer err) with heq | heq <;>
      rw [heq] <;> trivial
  | _ => trivial

/-- The lock of what is permitted is given back to nobody but a client that has finished. -/
theorem Linked.stepHeld (hl : Linked endpoint slog clog f g c) (hs : ServerStep f ev f')
    (hlost : slog.lost = true → Finished endpoint clog c)
    (h : slog.Permitted → endpoint.path ∈ slog.held ∨ Finished endpoint clog c) :
    (slog.note ev).Permitted → endpoint.path ∈ (slog.note ev).held ∨ Finished endpoint clog c := by
  cases hs with
  | requestDecode bs request =>
    rintro ⟨responce, hm, -⟩
    cases hm
  | serialize reply bs =>
    obtain ⟨hheld, -, -, hcur⟩ := hl.knowsServer
    obtain ⟨⟨-, -, hreq⟩, -⟩ := hl.consumed
    rintro ⟨responce, hm, hcode⟩
    obtain rfl : responce = reply.responce := by
      simpa [ServerLog.note, hcur, Sending.responces] using hm
    cases reply with
    | permitted request served descriptor =>
      left
      change endpoint.path ∈ slog.held
      rw [hheld, show request = wireRequest endpoint from hreq]
      exact List.mem_singleton_self _
    | _ => cases hcode
  | unlock request err =>
    intro hp
    right
    obtain ⟨⟨-, -, hdone⟩, -⟩ := hl.consumed
    rcases hdone with hlost' | hnot | hn
    · exact hlost hlost'
    · exact absurd hp hnot
    · have hle := c.up.bounded
      have hw := hl.sent.length_le
      rw [stream_length] at hw
      refine Or.inl fun h0 => ?_
      rw [h0, List.length_nil] at hw
      omega
  | lockFailed request served descriptor flag err =>
    cases flag with
    | false => exact h
    | true => exact fun hp => (h hp).imp_left (List.mem_cons_of_mem _)
  | granted request served descriptor =>
    exact fun hp => (h hp).imp_left (List.mem_cons_of_mem _)
  | _ => exact h

theorem Protected.stepServer (h : Protected endpoint slog clog f g c)
    (hl : Linked endpoint slog clog f g c) (hs : ServerStep f ev f')
    (hgood : timerRuns (.server ev) = true → Finished endpoint clog c)
    (hstep : c.step endpoint (.server ev) = some c') :
    Protected endpoint (slog.note ev) clog f' g c' := by
  obtain ⟨s, ha, -, hc'⟩ := Connection.step_server hstep
  have hkeep : Finished endpoint clog c → Finished endpoint clog c' := fun hf => by
    rw [hc']
    exact hf
  have hlost : (slog.note ev).lost = true → Finished endpoint clog c := fun hlost' => by
    by_cases hbefore : slog.lost = true
    · exact h.lost hbefore
    · obtain ⟨request, served, ack, err, timer, rfl, rfl, hcause⟩ :=
        lost_of_note hs hl.knowsServer (by simpa using hbefore) hlost'
      have hjoin : c.serverTimer.join c.now timer = true := (Side.answer_join ha).1
      cases timer with
      | cancelled =>
        cases err with
        | none => exact absurd rfl (hcause.resolve_left (by simp))
        | some err => exact h.failed
      | ranFirst =>
        cases hst : c.serverTimer with
        | ran => exact h.timer hst
        | off | armed deadline => rw [hst] at hjoin; cases hjoin
      | ranLast => exact hgood rfl
  exact {
    timer := fun ht => by
      refine hkeep (h.timer ?_)
      rw [hc'] at ht
      by_contra hne
      exact Side.answer_not_ran ha hne ht
    failed := ServerPhase.Abandoned.step hs ha (fun ht => hkeep (h.timer ht))
      fun hc => hkeep (Or.inr (hl.hungUp hc))
    lost := fun hlost' => hkeep (hlost hlost')
    held := fun hp => (hl.stepHeld hs h.lost h.held hp).imp_right hkeep
    busy := fun hb => h.busy (by rw [hc'] at hb; exact hb) }

theorem Protected.stepClient (h : Protected endpoint slog clog f g c)
    (hl : Linked endpoint slog clog f g c) (hs : ClientStep endpoint g ev g')
    (hgood : ∀ milliseconds, ev ≠ ⟨.awaitWithTimeout milliseconds, .timedOut⟩)
    (hstep : c.step endpoint (.client ev) = some c') :
    Protected endpoint slog (clog.note ev) f g' c' := by
  obtain ⟨s, ha, hrdma, hr, hc'⟩ := Connection.step_client hstep
  have hkeep : Finished endpoint clog c → Finished endpoint (clog.note ev) c' := by
    rintro (hacks | hfin)
    · left
      rcases hs.acks hl.knowsClient with he | he
      · rw [he]; exact hacks
      · exact absurd he hacks
    · rw [Connection.clientCall, Connection.not_finished hr] at hfin
      cases hfin
  have htimer : c'.serverTimer = c.serverTimer := by rw [hc']
  refine ⟨fun ht => hkeep (h.timer (htimer ▸ ht)), h.failed.mono hkeep,
    fun hlost => hkeep (h.lost hlost), fun hp => (h.held hp).imp_right hkeep, fun hb => ?_⟩
  cases hs with
  | submitted type descriptor => exact ⟨type, rfl⟩
  | awaited type result =>
    cases result with
    | timedOut => exact absurd rfl (hgood 5000)
    | ready err =>
      simp only [Rdma.answer] at hrdma
      split at hrdma
      · rename_i hended
        rw [← Option.some.inj hrdma, hended] at hb
        cases hb
      · cases hrdma
  | _ =>
    have hsame := Option.some.inj hrdma
    rw [← hsame] at hb
    obtain ⟨type, hg⟩ := h.busy hb
    cases hg

theorem Protected.stepQuiet {l : ConnectionLabel} (h : Protected endpoint slog clog f g c)
    (hgood : timerRuns l = true → Finished endpoint clog c)
    (hs : l.ofServer = none) (hc : l.ofClient = none) (hstep : c.step endpoint l = some c') :
    Protected endpoint slog clog f g c' := by
  obtain ⟨-, -, hsame, hbusy⟩ := Connection.step_quiet hstep hs hc
  have hclient : c'.client = c.client := (Connection.step_same hstep).2 hc
  have hkeep : Finished endpoint clog c → Finished endpoint clog c' := by
    unfold Finished Connection.clientCall
    rw [hclient]
    exact id
  refine ⟨fun ht => hkeep ?_, h.failed.mono hkeep, fun hlost => hkeep (h.lost hlost),
    fun hp => (h.held hp).imp_right hkeep, fun hb => h.busy (hbusy hb)⟩
  by_cases hl : l = .serverTimeout
  · subst hl
    exact hgood rfl
  · exact h.timer (hsame hl ▸ ht)

/-- **The buffer stays protected** along every run of timely steps. -/
theorem protected_run (hshort : Short endpoint)
    (h : (connection endpoint).RunWith
      (fun ls c l => l.Possible ∧ Timely endpoint ls c l) .start ls c) :
    ∃ f g, Linked endpoint (serverSays ls) (clientSays ls) f g c ∧
      Protected endpoint (serverSays ls) (clientSays ls) f g c := by
  refine Linked.run hshort (fun _ _ _ hp => hp.1)
    (J := fun ls f g c => Protected endpoint (serverSays ls) (clientSays ls) f g c)
    ⟨fun ht => (nomatch ht), trivial, fun hl => (nomatch hl), fun ⟨_, hm, _⟩ => (nomatch hm),
      fun hb => nomatch hb⟩ ?_ ?_ ?_ h
  · intro ls f f' g c c' ev hl hJ hgood hs hstep
    rw [serverSays_server, clientSays_silent rfl]
    exact hJ.stepServer hl hs hgood.2.1 hstep
  · intro ls f g g' c c' ev hl hJ hgood hs hstep
    rw [serverSays_silent rfl, clientSays_client]
    exact hJ.stepClient hl hs (fun ms he => hgood.2.2 ms (congrArg _ he)) hstep
  · intro ls f g c c' l hl hJ hgood hsil hcl hstep
    rw [serverSays_silent hsil, clientSays_silent hcl]
    exact hJ.stepQuiet hgood.2.1 hsil hcl hstep

/-! ## 3. Exclusive use -/

/-- A client whose operation is in flight has not finished. -/
theorem Protected.not_finished (h : Protected endpoint slog clog f g c)
    (hl : Linked endpoint slog clog f g c) (hb : c.rdma.busy = true) :
    ¬ Finished endpoint clog c := by
  obtain ⟨type, rfl⟩ := h.busy hb
  obtain ⟨descriptor, hlog⟩ := hl.knowsClient
  rintro (hacks | hfin)
  · exact hacks (congrArg ClientLog.acks hlog)
  · rw [Connection.clientCall, hl.client] at hfin
    cases hfin

/-- **While a client uses the buffer its session holds the path.** -/
theorem Using.held (h : Protected endpoint slog clog f g c) (hl : Linked endpoint slog clog f g c)
    (hu : Using endpoint clog c) : endpoint.path ∈ slog.held := by
  refine (h.held (hl.permitted_of_responce hu.1)).resolve_right ?_
  rcases hu.2 with hb | ⟨-, hn⟩
  · exact h.not_finished hl hb
  · exact hn

/-- The service is not called while the operation of the session's own client is in flight. -/
theorem Protected.not_handling (h : Protected endpoint slog clog f g c)
    (hl : Linked endpoint slog clog f g c) (hb : c.rdma.busy = true) {served : RdmaEndpoint} :
    c.serverCall ≠ some (.handle served) := by
  intro hcall
  obtain ⟨type, rfl⟩ := h.busy hb
  obtain ⟨descriptor, hlog⟩ := hl.knowsClient
  rw [Connection.serverCall, hl.server] at hcall
  rcases handles hcall with ⟨request, descriptor', rfl⟩ | ⟨request, rfl⟩
  · obtain ⟨-, -, -, -, hcur⟩ := hl.knowsServer
    obtain ⟨made, hm, -⟩ := hl.permitted_of_responce (by rw [hlog]; rfl)
    rw [hcur] at hm
    cases hm
  · obtain ⟨-, ack, -, -, -, -, descriptor', hcur⟩ := hl.knowsServer
    have hone := hl.acked ack (by rw [hcur])
    rw [hlog] at hone
    cases hone

/-- A session that calls a service holds the path of its endpoint. -/
theorem Linked.handling (hl : Linked endpoint slog clog f g c) {served : RdmaEndpoint}
    (hcall : c.serverCall = some (.handle served)) : served.path ∈ slog.held := by
  obtain ⟨hheld, -, -, hfit⟩ := hl.calling hcall
  rw [hheld, hfit.1]
  exact List.mem_singleton_self _

end Protected

section Network

variable {ι : Type} [DecidableEq ι] {endpoints : ι → RdmaEndpoint} {n : Network ι}
  {ls : List (NetworkLabel ι)} {storage : RdmaEndpointStorage}

/-- A step of the network that is timely on its connection. -/
def NetworkLabel.Timely (endpoints : ι → RdmaEndpoint) (ls : List (NetworkLabel ι))
    (n : Network ι) : NetworkLabel ι → Prop
  | tick _ => True
  | conn i l => DocaCpp.Timely (endpoints i) (historyOf i ls) (n.conn i) l

/-- The client of a connection of the network uses the buffer of its path. -/
def Network.Uses (endpoints : ι → RdmaEndpoint) (ls : List (NetworkLabel ι)) (n : Network ι)
    (i : ι) : Prop :=
  Using (endpoints i) (clientSays (historyOf i ls)) (n.conn i)

/-- **Exclusive use**, for any number of clients: along every run of timely steps no two clients
use the buffers of one path, and the service of an endpoint is never called while a client's RDMA
operation on a buffer of its path is in flight. -/
theorem exclusive_use (hreg : storage.Registered) (hshort : ∀ i, Short (endpoints i))
    (hrun : (network endpoints).RunWith (fun ls n l => l.Timely endpoints ls n)
      (Network.start ι storage) ls n) :
    (∀ i j, (endpoints i).path = (endpoints j).path → n.Uses endpoints ls i →
      n.Uses endpoints ls j → i = j) ∧
    ∀ i j served, (n.conn i).rdma.busy = true → (n.conn j).serverCall = some (.handle served) →
      served.path ≠ (endpoints i).path := by
  have hlinked : ∀ i, ∃ f g,
      Linked (endpoints i) (serverSays (historyOf i ls)) (clientSays (historyOf i ls)) f g
        (n.conn i) ∧
      Protected (endpoints i) (serverSays (historyOf i ls)) (clientSays (historyOf i ls)) f g
        (n.conn i) := fun i => by
    refine protected_run (hshort i) (network_connection i ?_ ?_ hrun)
    · exact fun ls c ms => ⟨fun h => (nomatch h), fun _ h => nomatch h⟩
    · exact fun ls n l h => h
  have hexclusive := (pool_guarded hreg (network_pool hrun)).exclusive
  simp only [logOf_serverHistory] at hexclusive
  constructor
  · intro i j hpath hi hj
    obtain ⟨f, g, hl, hp⟩ := hlinked i
    obtain ⟨f', g', hl', hp'⟩ := hlinked j
    exact hexclusive i j _ (hi.held hp hl) (hpath ▸ hj.held hp' hl')
  · intro i j served hb hcall hpath
    obtain ⟨f, g, hl, hp⟩ := hlinked i
    obtain ⟨f', g', hl', hp'⟩ := hlinked j
    have hu : n.Uses endpoints ls i := ⟨?_, Or.inl hb⟩
    · have hij := hexclusive i j _ (hu.held hp hl) (hpath ▸ hl'.handling hcall)
      subst hij
      exact hp.not_handling hl hb hcall
    · obtain ⟨type, rfl⟩ := hp.busy hb
      obtain ⟨descriptor, hlog⟩ := hl.knowsClient
      rw [hlog]
      rfl

end Network

/-- One client is served to the end, then another is permitted. -/
def successiveLabels : List (NetworkLabel Bool) :=
  servedLabels.map (.via true) ++
    (asking sampleWriteEndpoint ++ granting sampleWriteEndpoint [7] ++ permitted [7]).map
      (.via false)

/-- One client takes longer than the server waits, and another is permitted meanwhile. -/
def overlappingLabels : List (NetworkLabel Bool) :=
  (asking sampleWriteEndpoint ++ granting sampleWriteEndpoint [7] ++ permitted [7] ++
    operating sampleWriteEndpoint [7] ++ losing sampleWriteEndpoint 5000).map (.via true) ++
    (asking sampleWriteEndpoint ++ granting sampleWriteEndpoint [7] ++ permitted [7]).map
      (.via false)

/-- A client gives up its wait for an operation that goes on, and says so to the server. -/
def overdueLabels : List (NetworkLabel Bool) :=
  (List.flatten [asking sampleWriteEndpoint, granting sampleWriteEndpoint [7], permitted [7],
    operating sampleWriteEndpoint [7],
    [.tick 5000, .client ⟨.awaitWithTimeout 5000, .timedOut⟩],
    acknowledging ⟨.operationFailed⟩, acknowledged ⟨.operationFailed⟩,
    accepting ⟨.operationFailed⟩]).map (.via true)

/-- A label no timer has a part in. -/
def calm : NetworkLabel Bool → Bool
  | .tick _ => true
  | .conn _ l =>
    !timerRuns l &&
      match l with
      | .client ⟨.awaitWithTimeout _, .timedOut⟩ => false
      | _ => true

theorem timely_of_calm {endpoints : Bool → RdmaEndpoint} {ls : List (NetworkLabel Bool)}
    {n : Network Bool} {l : NetworkLabel Bool} (h : calm l = true) : l.Timely endpoints ls n := by
  cases l with
  | tick milliseconds => trivial
  | conn i l =>
    obtain ⟨htimer, hawait⟩ := Bool.and_eq_true_iff.mp h
    constructor
    · intro ht
      rw [ht] at htimer
      cases htimer
    · rintro milliseconds rfl
      cases hawait

omit [Platform] in
theorem sampleWriteStorage_registered : sampleWriteStorage.Registered :=
  .register (some sampleWriteEndpoint) .create

omit [Platform] in
theorem exclusive_use_sample :
    letI := Platform.littleEndian
    ∃ ls n, (network fun _ : Bool => sampleWriteEndpoint).Run
        (Network.start Bool sampleWriteStorage) ls n ∧
      n.Uses (fun _ => sampleWriteEndpoint) ls false ∧
      ¬ n.Uses (fun _ => sampleWriteEndpoint) ls true := by
  let _ := Platform.littleEndian
  have hexec : ((network fun _ : Bool => sampleWriteEndpoint).exec
      (Network.start Bool sampleWriteStorage) successiveLabels).any
      (fun n => decide (Using sampleWriteEndpoint
        (clientSays (historyOf false successiveLabels)) (n.conn false))) = true := by
    decide +kernel
  obtain ⟨n, hn, huses⟩ := (Option.any_eq_true _ _).mp hexec
  have hcalm : successiveLabels.all calm = true := by decide +kernel
  have hrun : (network fun _ : Bool => sampleWriteEndpoint).RunWith
      (fun ls n l => l.Timely (fun _ => sampleWriteEndpoint) ls n)
      (Network.start Bool sampleWriteStorage) successiveLabels n :=
    (Machine.exec_runWith hn hcalm).mono fun _ _ _ h => timely_of_calm h
  have hfalse : Using sampleWriteEndpoint (clientSays (historyOf false successiveLabels))
      (n.conn false) := of_decide_eq_true huses
  refine ⟨successiveLabels, n, hrun.run, hfalse, fun htrue => ?_⟩
  have hsame := (exclusive_use sampleWriteStorage_registered
    (fun _ => sampleWriteEndpoint_short) hrun).1 true false rfl htrue hfalse
  cases hsame

omit [Platform] in
/-- Two clients that use the buffer of one endpoint at once; and, with the server's timer out of the
way, a call of the service on a buffer that is being written. -/
theorem exclusive_use_broken :
    letI := Platform.littleEndian
    (∃ ls n, (network fun _ : Bool => sampleWriteEndpoint).Run
        (Network.start Bool sampleWriteStorage) ls n ∧
      n.Uses (fun _ => sampleWriteEndpoint) ls true ∧
      n.Uses (fun _ => sampleWriteEndpoint) ls false) ∧
    ∃ ls n, (network fun _ : Bool => sampleWriteEndpoint).Run
        (Network.start Bool sampleWriteStorage) ls n ∧ (∀ i, Untimed (historyOf i ls)) ∧
      (n.conn true).rdma.busy = true ∧
      (n.conn true).serverCall = some (.handle sampleWriteEndpoint) := by
  let _ := Platform.littleEndian
  constructor
  · have hexec : ((network fun _ : Bool => sampleWriteEndpoint).exec
        (Network.start Bool sampleWriteStorage) overlappingLabels).any
        (fun n => decide (∀ i, Using sampleWriteEndpoint
          (clientSays (historyOf i overlappingLabels)) (n.conn i))) = true := by
      decide +kernel
    obtain ⟨n, hn, huses⟩ := (Option.any_eq_true _ _).mp hexec
    have hboth := of_decide_eq_true huses
    exact ⟨overlappingLabels, n, Machine.exec_run hn, hboth true, hboth false⟩
  · have hexec : ((network fun _ : Bool => sampleWriteEndpoint).exec
        (Network.start Bool sampleWriteStorage) overdueLabels).any
        (fun n => (n.conn true).rdma.busy &&
          decide ((n.conn true).serverCall = some (.handle sampleWriteEndpoint))) = true := by
      decide +kernel
    obtain ⟨n, hn, hboth⟩ := (Option.any_eq_true _ _).mp hexec
    obtain ⟨hbusy, hcall⟩ := Bool.and_eq_true_iff.mp hboth
    exact ⟨overdueLabels, n, Machine.exec_run hn, by decide +kernel, hbusy,
      of_decide_eq_true hcall⟩

end DocaCpp
