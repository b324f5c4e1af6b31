/-
# A lock does not depend on the client

A session that holds a lock talks to its client, and the client may have crashed.  What ends the
wait for it is the server's timer, so the lock can be given back without any help:
`lock_recovers` says that from every state a network can be in, for any number of clients, time and
the session itself are enough, and five seconds of time, to have the lock given back and the path
free again.  (That the session makes only so many calls on that way is `held_calls_le`.)

The server must find its calls in a state in which they can be answered: what a pending read has
collected is a part of its buffer, what a pending write has put out is a part of its buffer, and the
timer of a wait is set (`ServerPhase.Attended`).  From there the way back is put together from its
end (`Releases`).
-/
import DocaCpp.Net.Submission

namespace DocaCpp

variable [Platform]

/-! ## 1. Calls under way -/

omit [Platform] in
/-- A timer beside a wait for an acknowledge: it has run, or will within five seconds. -/
def Timer.Set (now : ℕ) (timer : Timer) : Prop :=
  timer = .ran ∨ ∃ deadline, deadline ≤ now + 5000 ∧ timer = .armed deadline

omit [Platform] in
/-- How far the call of a point has come. -/
def ServerPhase.Attended (now : ℕ) (s : Side) : ServerPhase → Prop
  | requestLength => s.inp.taken ≤ 4
  | requestPayload size => s.inp.taken ≤ size
  | respond _ (.length _) => s.inp.taken = 0 ∧ s.out.pushed ≤ 4
  | respond _ (.payload bs) => s.inp.taken = 0 ∧ s.out.pushed ≤ bs.length
  | ackLength _ _ => s.inp.taken ≤ 4 ∧ s.timer.Set now
  | ackPayload _ _ size => s.inp.taken ≤ size ∧ s.timer.Set now
  | ackDecode _ _ _ | ackJoin _ _ _ _ => s.inp.taken = 0 ∧ s.timer.Set now
  | _ => s.inp.taken = 0

section Attended

variable {endpoint : RdmaEndpoint} {f f' : ServerPhase} {ev : SessionEvent} {s s' : Side}
  {c c' : Connection} {now size : ℕ} {bs : Bytes} {ls : List ConnectionLabel}

omit [Platform] in
theorem Timer.Set.mono {timer : Timer} (h : timer.Set now) (milliseconds : ℕ) :
    timer.Set (now + milliseconds) := by
  refine h.imp_right ?_
  rintro ⟨deadline, hle, rfl⟩
  exact ⟨deadline, by omega, rfl⟩

theorem Side.read_taken (h : s.answer now ⟨.asyncRead size, .ok bs⟩ = some s') :
    s'.inp.taken = 0 ∧ s'.timer = s.timer :=
  ⟨(Channel.finish_taken (Side.answer_read h)).2,
    Side.answer_timer h (by simp) (by simp)⟩

theorem Side.cut_taken {ec : ErrorCode} (h : s.answer now ⟨.asyncRead size, .error ec⟩ = some s') :
    s'.inp.taken = 0 ∧ s'.timer = s.timer := by
  refine ⟨?_, Side.answer_timer h (by simp) (by simp)⟩
  rcases Side.answer_readFailed h with ⟨-, hf⟩ | ⟨-, hf⟩
  · exact Channel.cut_taken hf
  · exact Channel.fail_taken hf

/-- What a side writes it does not read. -/
theorem Side.answer_out_taken (h : s.answer now ev = some s') : s'.out.taken = s.out.taken := by
  by_cases hw : ∃ bs, ev.op = .asyncWrite bs
  · obtain ⟨op, r⟩ := ev
    obtain ⟨bs, rfl⟩ := hw
    cases r with
    | ok u => rw [(Channel.wrote_inv (Side.answer_write h)).2]
    | error ec => rw [Side.answer_writeFailed h]
  · rw [Side.answer_out h fun bs hb => hw ⟨bs, hb⟩]

omit [Platform] in
/-- A point at which nothing is under way. -/
theorem attended_joined (request : Request) (served : RdmaEndpoint) (ackErr : error)
    (h : s.inp.taken = 0) : (joined request served ackErr).Attended now s := by
  rcases joined_cases request served ackErr with heq | heq
  · rw [heq]
    exact h
  · rw [heq]
    exact h

omit [Platform] in
theorem attended_granted (request : Request) (served : RdmaEndpoint) (descriptor : Bytes)
    (h : s.inp.taken = 0) : (granted request served descriptor).Attended now s := by
  rcases granted_cases request served descriptor with heq | heq
  · rw [heq]
    exact h
  · rw [heq]
    exact h

theorem Reply.attended_sent (reply : Reply) (h : s.inp.taken = 0) :
    reply.sent.Attended now s := by
  cases reply with
  | permitted request served descriptor =>
    rcases Reply.permitted_sent_cases request served descriptor with heq | ⟨err, heq⟩
    · rw [heq]
      exact h
    · rw [heq]
      exact h
  | _ => exact h

/-- **Every call begins with nothing moved**, and a wait begins with its timer. -/
theorem ServerPhase.Attended.step (h : f.Attended now s) (hout : f.Responded s.out.written s.out.pushed)
    (hs : ServerStep f ev f') (ha : s.answer now ev = some s') : f'.Attended now s' := by
  cases hs with
  | isOpen =>
    rw [ServerPhase.Attended, Side.answer_inp ha (by simp)]
    exact (Nat.le_of_eq h).trans (Nat.zero_le 4)
  | requestLength bs =>
    rw [ServerPhase.Attended, (Side.read_taken ha).1]
    exact Nat.zero_le _
  | requestPayload size bs => exact (Side.read_taken ha).1
  | requestLengthFailed ec | requestPayloadFailed size ec => exact (Side.cut_taken ha).1
  | serialize reply bs =>
    refine ⟨(congrArg _ (Side.answer_inp ha (by simp))).trans h, ?_⟩
    rw [Side.answer_out ha (by simp), show s.out.pushed = 0 from hout]
    exact Nat.zero_le 4
  | sendLength reply bs =>
    refine ⟨(congrArg _ (Side.answer_inp ha (by simp))).trans h.1, ?_⟩
    rw [(Channel.wrote_inv (Side.answer_write ha)).2]
    exact Nat.zero_le _
  | sendPayload reply bs =>
    exact reply.attended_sent ((congrArg _ (Side.answer_inp ha (by simp))).trans h.1)
  | sendLengthFailed reply bs ec | sendPayloadFailed reply bs ec =>
    exact (congrArg _ (Side.answer_inp ha (by simp))).trans h.1
  | ackTimer request served =>
    cases ha
    exact ⟨(Nat.le_of_eq h).trans (Nat.zero_le 4), Or.inr ⟨_, Nat.le_refl _, rfl⟩⟩
  | ackLength request served bs =>
    obtain ⟨htaken, htimer⟩ := Side.read_taken ha
    exact ⟨by rw [htaken]; exact Nat.zero_le _, htimer ▸ h.2⟩
  | ackPayload request served size bs =>
    obtain ⟨htaken, htimer⟩ := Side.read_taken ha
    exact ⟨htaken, htimer ▸ h.2⟩
  | ackLengthFailed request served ec | ackPayloadFailed request served size ec =>
    obtain ⟨htaken, htimer⟩ := Side.cut_taken ha
    exact ⟨htaken, htimer ▸ h.2⟩
  | ackDecode request served bs ack =>
    exact ⟨(congrArg _ (Side.answer_inp ha (by simp))).trans h.1,
      Side.answer_timer ha (by simp) (by simp) ▸ h.2⟩
  | ackFault request served bs fault =>
    exact (congrArg _ (Side.answer_inp ha (by simp))).trans h.1
  | ackJoin request served ack err timer =>
    exact attended_joined request served _ ((congrArg _ (Side.answer_inp ha (by simp))).trans h.1)
  | granted request served descriptor =>
    exact attended_granted request served descriptor
      ((congrArg _ (Side.answer_inp ha (by simp))).trans h)
  | _ => exact (congrArg _ (Side.answer_inp ha (by simp))).trans h

omit [Platform] in
/-- What moves no call of the server and keeps its timer set. -/
theorem ServerPhase.Attended.same {now' : ℕ} (h : f.Attended now s)
    (htaken : s'.inp.taken = s.inp.taken) (hpushed : s'.out.pushed = s.out.pushed)
    (htimer : s.timer.Set now → s'.timer.Set now') : f.Attended now' s' := by
  cases f with
  | requestLength | requestPayload size =>
    rw [ServerPhase.Attended, htaken]
    exact h
  | respond reply sending =>
    cases sending with
    | serialize => exact htaken.trans h
    | length bs | payload bs => exact ⟨htaken.trans h.1, (Nat.le_of_eq hpushed).trans h.2⟩
  | ackLength request served | ackPayload request served size =>
    exact ⟨(Nat.le_of_eq htaken).trans h.1, htimer h.2⟩
  | ackDecode request served bs | ackJoin request served ack err =>
    exact ⟨htaken.trans h.1, htimer h.2⟩
  | _ => exact htaken.trans h

/-- A byte of the pending read is collected. -/
theorem ServerPhase.Attended.fetch {up : Channel UInt8} (h : f.Attended now s)
    (hcall : f.session.pending serverPass = some (.asyncRead size))
    (hf : s.inp.fetch size = some up) : f.Attended now { s with inp := up } := by
  have htaken : up.taken ≤ size := by
    unfold Channel.fetch at hf
    split at hf
    next hlt =>
      cases hf
      exact hlt.2.1
    next => cases hf
  obtain ⟨f', hs⟩ := server_refines.of_pending hcall (.error ErrorCode.success)
  cases hs with
  | requestLengthFailed | requestPayloadFailed => exact htaken
  | ackLengthFailed request served | ackPayloadFailed request served => exact ⟨htaken, h.2⟩

/-- A byte of the pending write is put out. -/
theorem ServerPhase.Attended.push {down : Channel UInt8} (h : f.Attended now s)
    (hcall : f.session.pending serverPass = some (.asyncWrite bs))
    (hf : s.out.push bs = some down) : f.Attended now { s with out := down } := by
  obtain ⟨-, -, hpushed, -⟩ := Channel.push_inv hf
  obtain ⟨f', hs⟩ := server_refines.of_pending hcall (.error ErrorCode.success)
  cases hs with
  | sendLengthFailed reply bs' =>
    rw [length_uint32Bytes] at hpushed
    exact ⟨h.1, hpushed⟩
  | sendPayloadFailed reply => exact ⟨h.1, hpushed⟩

/-- A step of what lies between the sessions, seen from the server. -/
theorem ServerPhase.Attended.quiet {l : ConnectionLabel} (h : f.Attended c.now c.serverSide)
    (hf : c.server = f.session) (hs : l.ofServer = none) (hstep : c.step endpoint l = some c') :
    f.Attended c'.now c'.serverSide := by
  cases l with
  | server ev => cases hs
  | fetchUp =>
    simp only [Connection.step] at hstep
    split at hstep
    next size hcall =>
      obtain ⟨up, hup, rfl⟩ := Option.map_eq_some_iff.mp hstep
      rw [Connection.serverCall, hf] at hcall
      exact h.fetch hcall hup
    next => cases hstep
  | pushDown =>
    simp only [Connection.step] at hstep
    split at hstep
    next bs hcall =>
      obtain ⟨down, hdown, rfl⟩ := Option.map_eq_some_iff.mp hstep
      rw [Connection.serverCall, hf] at hcall
      exact h.push hcall hdown
    next => cases hstep
  | tick milliseconds =>
    cases hstep
    exact h.same rfl rfl fun ht => ht.mono milliseconds
  | serverTimeout =>
    cases Connection.step_moves hstep with
    | serverTimeout timer hfire =>
      refine h.same rfl rfl fun _ => Or.inl ?_
      unfold Timer.fire at hfire
      split at hfire
      · exact (Option.some.inj (Option.ite_none_right_eq_some.mp hfire).2).symm
      · cases hfire
  | client ev =>
    obtain ⟨s, ha, -, -, hc⟩ := Connection.step_client hstep
    rw [hc]
    exact h.same (Side.answer_out_taken ha) (Side.answer_inp_frame ha).2.1 id
  | pushUp =>
    cases Connection.step_moves hstep with
    | pushUp bs up hcall hup => exact h.same (Channel.push_taken hup) rfl id
  | fetchDown =>
    cases Connection.step_moves hstep with
    | fetchDown size down hdown => exact h.same rfl (Channel.fetch_inv hdown).2.1 id
  | clientTimeout | complete | clientCloses | serverCloses =>
    cases Connection.step_moves hstep
    exact h.same rfl rfl id

/-- **A server's calls are attended**, along every run. -/
theorem attended_run (hshort : Short endpoint) (h : ConnectionRun endpoint ls c) :
    ∃ f g, Linked endpoint (serverSays ls) (clientSays ls) f g c ∧
      f.Attended c.now c.serverSide := by
  refine Linked.run hshort (fun _ _ _ hp => hp) (J := fun _ f _ c => f.Attended c.now c.serverSide)
    rfl ?_ ?_ ?_ h
  · intro ls f f' g c c' ev hl hJ _ hs hstep
    obtain ⟨s, ha, -, hc⟩ := Connection.step_server hstep
    have hnow : c'.now = c.now := by rw [hc]
    have hside : c'.serverSide = s := by rw [hc]; rfl
    rw [hnow, hside]
    exact hJ.step hl.responded hs ha
  · intro ls f g g' c c' ev hl hJ _ hs hstep
    exact hJ.quiet hl.server rfl hstep
  · intro ls f g c c' l hl hJ _ hsil hcl hstep
    exact hJ.quiet hl.server hsil hstep

end Attended

/-! ## 2. The way to the unlock -/

/-- A label of a connection that its client has no part in and that asks nothing of the storage. -/
def ConnectionLabel.alone : ConnectionLabel → Bool
  | tick _ | pushDown | serverTimeout => true
  | server ⟨.handle _, _⟩ | server ⟨.serializeResponse _, _⟩ | server ⟨.asyncWrite _, _⟩
  | server ⟨.startTimer _, _⟩ | server ⟨.asyncRead _, _⟩ | server ⟨.deserializeAcknowledge _, _⟩
  | server ⟨.joinTimer, _⟩ => true
  | _ => false

/-- The time a label takes. -/
def ConnectionLabel.elapsed : ConnectionLabel → ℕ
  | tick milliseconds => milliseconds
  | _ => 0

/-- The server session can get to the unlock of a path by itself, in this much time. -/
def Connection.Releases (endpoint : RdmaEndpoint) (request : Request) (milliseconds : ℕ)
    (c : Connection) : Prop :=
  ∃ ms c', (connection endpoint).exec c ms = some c' ∧ (∀ l ∈ ms, l.alone = true) ∧
    (ms.map ConnectionLabel.elapsed).sum ≤ milliseconds ∧
    c'.server = (ServerPhase.unlock request).session

section Releases

variable {endpoint served : RdmaEndpoint} {request : Request} {c d : Connection}
  {f f' : ServerPhase} {ev : SessionEvent} {s : Side} {l : ConnectionLabel} {n size : ℕ}

theorem Connection.releases_unlock (h : c.server = (ServerPhase.unlock request).session) :
    c.Releases endpoint request n :=
  ⟨[], c, rfl, fun _ hm => (nomatch hm), Nat.zero_le n, h⟩

/-- A step on the way. -/
theorem Connection.releases_step (hstep : c.step endpoint l = some d) (hl : l.alone = true)
    (h : d.Releases endpoint request n) : c.Releases endpoint request (l.elapsed + n) := by
  obtain ⟨ms, c', hexec, halone, htime, hserver⟩ := h
  refine ⟨l :: ms, c', ?_, List.forall_mem_cons.mpr ⟨hl, halone⟩, ?_, hserver⟩
  · exact Option.bind_eq_some_iff.mpr ⟨d, hstep, hexec⟩
  · rw [List.map_cons, List.sum_cons]
    exact Nat.add_le_add_left htime _

/-- A step of the server session, by its points. -/
theorem Connection.step_of_server (hf : c.server = f.session) (hs : ServerStep f ev f')
    (ha : c.serverSide.answer c.now ev = some s) : c.step endpoint (.server ev) = some
      { c with server := f'.session, up := s.inp, down := s.out, serverTimer := s.timer } := by
  have hr := hs.resume
  rw [← hf] at hr
  simp only [Connection.step, ha, Option.bind_some, hr, Option.map_some]

/-- An answer on the way. -/
theorem Connection.releases_answer (hf : c.server = f.session) (hs : ServerStep f ev f')
    (hl : (ConnectionLabel.server ev).alone = true) (ha : c.serverSide.answer c.now ev = some s)
    (h : Connection.Releases endpoint request n
      { c with server := f'.session, up := s.inp, down := s.out, serverTimer := s.timer }) :
    c.Releases endpoint request n :=
  (Nat.zero_add n) ▸ Connection.releases_step (Connection.step_of_server hf hs ha) hl h

theorem Connection.Releases.mono {m : ℕ} (h : c.Releases endpoint request n) (hle : n ≤ m) :
    c.Releases endpoint request m := by
  obtain ⟨ms, c', hexec, halone, htime, hserver⟩ := h
  exact ⟨ms, c', hexec, halone, htime.trans hle, hserver⟩

/-- The service of a write endpoint is called. -/
theorem Connection.releases_process
    (hf : c.server = (ServerPhase.process request served).session) :
    c.Releases endpoint request n :=
  releases_answer hf (.processed request served none) rfl rfl (releases_unlock rfl)

theorem Connection.releases_joined {ackErr : error}
    (hf : c.server = (joined request served ackErr).session) : c.Releases endpoint request n := by
  rcases joined_cases request served ackErr with h | h
  · rw [h] at hf
    exact releases_unlock hf
  · rw [h] at hf
    exact releases_process hf

/-- The wait is over. -/
theorem Connection.releases_ackJoin {ack : Acknowledge} {err : error}
    (hf : c.server = (ServerPhase.ackJoin request served ack err).session)
    (htimer : c.serverTimer.Set c.now) : c.Releases endpoint request n := by
  rcases htimer with hran | ⟨deadline, -, harmed⟩
  · have ha : c.serverSide.answer c.now ⟨.joinTimer, .ranFirst⟩ = some ⟨c.up, c.down, .off⟩ := by
      simp [Side.answer, serverSide, hran, Timer.join]
    exact releases_answer hf (.ackJoin request served ack err .ranFirst) rfl ha
      (releases_joined rfl)
  · have ha : c.serverSide.answer c.now ⟨.joinTimer, .cancelled⟩ = some ⟨c.up, c.down, .off⟩ := by
      simp [Side.answer, serverSide, harmed, Timer.join]
    exact releases_answer hf (.ackJoin request served ack err .cancelled) rfl ha
      (releases_joined rfl)

/-- A wait for an acknowledge that is cut short by its timer. -/
theorem Connection.releases_cut {reason : ErrorCode → error}
    (hf : c.server = f.session) (htaken : c.up.taken < size) (htimer : c.serverTimer.Set c.now)
    (hs : ∀ ec, ServerStep f ⟨.asyncRead size, .error ec⟩ (.ackJoin request served {} (reason ec))) :
    c.Releases endpoint request 5000 := by
  have hcut : ∀ {d : Connection}, d.server = f.session → d.up = c.up → d.serverTimer = .ran →
      d.Releases endpoint request 0 := by
    intro d hd hup hran
    obtain ⟨inp, hinp⟩ : ∃ inp, d.up.cut size = some inp := ⟨_, if_pos (hup ▸ htaken)⟩
    have ha : d.serverSide.answer d.now ⟨.asyncRead size, .error ErrorCode.success⟩
        = some ⟨inp, d.down, .ran⟩ := by
      simp [Side.answer, serverSide, hran, hinp]
    exact releases_answer hd (hs ErrorCode.success) rfl ha (releases_ackJoin rfl (Or.inl rfl))
  rcases htimer with hran | ⟨deadline, hle, harmed⟩
  · exact (hcut hf rfl hran).mono (Nat.zero_le _)
  · have hcall : c.serverCall = some (.asyncRead size) := by
      rw [serverCall, hf]
      exact (hs ErrorCode.success).pending
    let d : Connection := { c with now := c.now + (deadline - c.now) }
    have htick : c.step endpoint (.tick (deadline - c.now)) = some d := rfl
    have hfire : d.step endpoint .serverTimeout = some { d with serverTimer := .ran } := by
      have hdue : deadline ≤ c.now + (deadline - c.now) := by omega
      have hmoving : moving d.serverCall = true := by
        rw [show d.serverCall = some (.asyncRead size) from hcall]
        rfl
      have hrun : d.serverTimer.fire d.now = some .ran := by
        rw [show d.serverTimer = .armed deadline from harmed]
        exact if_pos hdue
      simp only [step, hmoving, if_true, hrun, Option.map_some]
    have := releases_step htick rfl (releases_step hfire rfl (hcut hf rfl rfl))
    refine this.mono ?_
    simp only [ConnectionLabel.elapsed]
    omega

/-- An acknowledge is there. -/
theorem Connection.releases_ackDecode {ack : Acknowledge}
    (hf : c.server = (ServerPhase.ackDecode request served (serializeAcknowledge ack)).session)
    (htimer : c.serverTimer.Set c.now) : c.Releases endpoint request n :=
  releases_answer hf (.ackDecode request served _ ack) rfl (if_pos (decide_eq_true rfl))
    (releases_ackJoin rfl htimer)

section Linked

variable {slog : ServerLog} {clog : ClientLog} {g : ClientPhase}

/-- A pending read that has collected its whole buffer. -/
theorem Connection.collected (htaken : c.up.taken = size) :
    ∃ bs inp, c.serverSide.answer c.now ⟨.asyncRead size, .ok bs⟩
      = some ⟨inp, c.down, c.serverTimer⟩ ∧ inp.taken = 0 := by
  obtain ⟨bs, inp, hfinish⟩ : ∃ bs inp, c.up.finish size = some (bs, inp) := ⟨_, _, if_pos htaken⟩
  refine ⟨bs, inp, ?_, (Channel.finish_taken hfinish).2⟩
  simp [Side.answer, serverSide, hfinish]

/-- The server waits for the payload of an acknowledge. -/
theorem Connection.releases_ackPayload (hshort : Short endpoint)
    (hl : Linked endpoint slog clog (.ackPayload request served size) g c)
    (htaken : c.up.taken ≤ size) (htimer : c.serverTimer.Set c.now) :
    c.Releases endpoint request 5000 := by
  rcases Nat.lt_or_eq_of_le htaken with hlt | heq
  · exact releases_cut hl.server hlt htimer fun ec => .ackPayloadFailed request served size ec
  · obtain ⟨bs, inp, ha, -⟩ := collected heq
    have hs := ServerStep.ackPayload request served size bs
    have hstep : c.step endpoint (.server ⟨.asyncRead size, .ok bs⟩) = some
        { c with server := (ServerPhase.ackDecode request served bs).session, up := inp } := by
      have hr := hs.resume
      rw [← hl.server] at hr
      simp only [step, ha, Option.bind_some, hr, Option.map_some]
    -- the session stays linked, so what it has read is the acknowledge of its client
    obtain ⟨f', hs', hl'⟩ := hl.stepServer hshort ⟨.create, .create, rfl⟩ hstep
    obtain rfl := hs.det hs'
    obtain ⟨-, -, ack, -, rfl⟩ := hl'.consumed
    have := releases_step (n := 0) hstep rfl (releases_ackDecode rfl htimer)
    exact this.mono (Nat.zero_le _)

/-- The server waits for the length of an acknowledge. -/
theorem Connection.releases_ackLength (hshort : Short endpoint)
    (hl : Linked endpoint slog clog (.ackLength request served) g c)
    (htaken : c.up.taken ≤ 4) (htimer : c.serverTimer.Set c.now) :
    c.Releases endpoint request 5000 := by
  rcases Nat.lt_or_eq_of_le htaken with hlt | heq
  · exact releases_cut hl.server hlt htimer fun ec => .ackLengthFailed request served ec
  · obtain ⟨bs, inp, ha, hzero⟩ := collected heq
    have hs := ServerStep.ackLength request served bs
    have hstep : c.step endpoint (.server ⟨.asyncRead 4, .ok bs⟩) = some
        { c with server := (ServerPhase.ackPayload request served (uint32Of bs)).session
                 up := inp } := by
      have hr := hs.resume
      rw [← hl.server] at hr
      simp only [step, ha, Option.bind_some, hr, Option.map_some]
    obtain ⟨f', hs', hl'⟩ := hl.stepServer hshort ⟨.create, .create, rfl⟩ hstep
    obtain rfl := hs.det hs'
    have := releases_ackPayload hshort hl' ((Nat.le_of_eq hzero).trans (Nat.zero_le _)) htimer
    exact (Nat.zero_add 5000) ▸ releases_step hstep rfl this

end Linked

/-- The timer of the wait is set. -/
theorem Connection.releases_ackTimer (hf : c.server = (ServerPhase.ackTimer request served).session)
    (htaken : c.up.taken = 0) : c.Releases endpoint request 5000 := by
  have ha : c.serverSide.answer c.now ⟨.startTimer 5000, ()⟩
      = some ⟨c.up, c.down, .armed (c.now + 5000)⟩ := rfl
  refine releases_answer hf (.ackTimer request served) rfl ha ?_
  exact releases_cut rfl (htaken.trans_lt (by decide)) (Or.inr ⟨_, Nat.le_refl _, rfl⟩)
    fun ec => .ackLengthFailed request served ec

/-- **The rest of a pending write goes out.** -/
theorem Connection.releases_write (bs : Bytes) (hcall : c.serverCall = some (.asyncWrite bs))
    (hpushed : c.down.pushed ≤ bs.length)
    (hrest : ∀ down : Channel UInt8, down.pushed = bs.length →
      Connection.Releases endpoint request n { c with down := down }) :
    c.Releases endpoint request n := by
  obtain ⟨k, hk⟩ := Nat.exists_eq_add_of_le hpushed
  induction k generalizing c with
  | zero => exact hrest c.down hk.symm
  | succ k ih =>
    obtain ⟨down, hdown⟩ : ∃ down, c.down.push bs = some down := by
      have hlt : c.down.pushed < bs.length := by omega
      exact ⟨_, by rw [Channel.push, List.getElem?_eq_getElem hlt]⟩
    obtain ⟨-, hone, -⟩ := Channel.push_inv hdown
    have hstep : c.step endpoint .pushDown = some { c with down := down } := by
      simp only [step, hcall, hdown, Option.map_some]
    have hnext : Connection.Releases endpoint request n { c with down := down } :=
      ih hcall (by change down.pushed ≤ _; omega) (fun down' => hrest down')
        (by change _ = down.pushed + _; omega)
    exact (Nat.zero_add n) ▸ releases_step hstep rfl hnext

/-- A reply that is sent with the lock held. -/
theorem Connection.releases_sent {reply : Reply} (hf : c.server = reply.sent.session)
    (hheld : reply.held ≠ []) (hkept : reply.strands = false) (htaken : c.up.taken = 0) :
    c.Releases endpoint reply.request 5000 := by
  cases reply with
  | permitted request served descriptor =>
    have hknown : served.type.Known := by simpa [Reply.strands] using hkept
    have hsent : (Reply.permitted request served descriptor).sent = .ackTimer request served := by
      rcases hknown with h | h <;> simp [Reply.sent, serverPerformRdmaOperation, h]
    rw [hsent] at hf
    exact releases_ackTimer hf htaken
  | serviceFailed request served descriptor err => exact releases_unlock hf
  | _ => exact absurd rfl hheld

theorem Connection.releases_payload {reply : Reply} {bs : Bytes}
    (hf : c.server = (ServerPhase.respond reply (.payload bs)).session)
    (hheld : reply.held ≠ []) (hkept : reply.strands = false) (htaken : c.up.taken = 0)
    (hpushed : c.down.pushed ≤ bs.length) : c.Releases endpoint reply.request 5000 := by
  refine releases_write bs ?_ hpushed fun down hdown => ?_
  · rw [serverCall, hf]
    rfl
  · have ha : Side.answer c.now ⟨c.up, down, c.serverTimer⟩ ⟨.asyncWrite bs, .ok ()⟩
        = some ⟨c.up, { down with pushed := 0 }, c.serverTimer⟩ := by
      simp [Side.answer, Channel.wrote, hdown]
    exact releases_answer hf (.sendPayload reply bs) rfl ha (releases_sent rfl hheld hkept htaken)

theorem Connection.releases_length {reply : Reply} {bs : Bytes}
    (hf : c.server = (ServerPhase.respond reply (.length bs)).session)
    (hheld : reply.held ≠ []) (hkept : reply.strands = false) (htaken : c.up.taken = 0)
    (hpushed : c.down.pushed ≤ 4) : c.Releases endpoint reply.request 5000 := by
  refine releases_write (uint32Bytes bs.length) ?_ ?_ fun down hdown => ?_
  · rw [serverCall, hf]
    rfl
  · rwa [length_uint32Bytes]
  · have ha : Side.answer c.now ⟨c.up, down, c.serverTimer⟩
        ⟨.asyncWrite (uint32Bytes bs.length), .ok ()⟩
        = some ⟨c.up, { down with pushed := 0 }, c.serverTimer⟩ := by
      simp [Side.answer, Channel.wrote, hdown]
    exact releases_answer hf (.sendLength reply bs) rfl ha
      (releases_payload rfl hheld hkept htaken (Nat.zero_le _))

theorem Connection.releases_serialize {reply : Reply}
    (hf : c.server = (ServerPhase.respond reply .serialize).session)
    (hheld : reply.held ≠ []) (hkept : reply.strands = false) (htaken : c.up.taken = 0)
    (hpushed : c.down.pushed = 0) : c.Releases endpoint reply.request 5000 :=
  releases_answer hf (.serialize reply (serializeResponse reply.responce)) rfl
    (if_pos (decide_eq_true rfl))
    (releases_length rfl hheld hkept htaken ((Nat.le_of_eq hpushed).trans (Nat.zero_le 4)))

/-- The service of a read endpoint is called. -/
theorem Connection.releases_prepare {descriptor : Bytes}
    (hf : c.server = (ServerPhase.prepare request served descriptor).session)
    (hr : served.type = .read) (htaken : c.up.taken = 0) (hpushed : c.down.pushed = 0) :
    c.Releases endpoint request 5000 := by
  let reply : Reply := .permitted request served descriptor
  have hkept : reply.strands = false := by
    simp [reply, Reply.strands, RdmaEndpointType.Known, hr]
  have hrest : Connection.Releases endpoint reply.request 5000
      { c with server := (ServerPhase.respond reply .serialize).session } :=
    releases_serialize rfl (List.cons_ne_nil _ _) hkept htaken hpushed
  exact releases_answer hf (.prepared request served descriptor) rfl rfl hrest

/-- **A session that holds a lock can get to its unlock by itself**, unless it has stranded the lock
or run into undefined behaviour. -/
theorem releases_run {ls : List ConnectionLabel} (hshort : Short endpoint)
    (h : ConnectionRun endpoint ls c) (hheld : (serverSays ls).held ≠ [])
    (hkept : (serverSays ls).stranded = false) (hdefined : c.serverCall ≠ some .undefined) :
    c.Releases endpoint (wireRequest endpoint) 5000 := by
  obtain ⟨f, g, hl, hat⟩ := attended_run hshort h
  have hk := hl.knowsServer
  have hout := hl.responded
  cases f with
  | prepare request served descriptor =>
    obtain ⟨⟨-, -, rfl⟩, -⟩ := hl.consumed
    exact Connection.releases_prepare hl.server hk.2.2.2.1 hat hout
  | respond reply sending =>
    obtain ⟨⟨-, -, hrequest⟩, -⟩ := hl.consumed
    rw [← hrequest]
    have hreply : reply.held ≠ [] := hk.1 ▸ hheld
    have hstrands : reply.strands = false := hk.2.1 ▸ hkept
    cases sending with
    | serialize => exact Connection.releases_serialize hl.server hreply hstrands hat hout
    | length bs => exact Connection.releases_length hl.server hreply hstrands hat.1 hat.2
    | payload bs => exact Connection.releases_payload hl.server hreply hstrands hat.1 hat.2
  | ackTimer request served =>
    obtain ⟨⟨-, -, rfl⟩, -⟩ := hl.consumed
    exact Connection.releases_ackTimer hl.server hat
  | ackLength request served =>
    obtain ⟨⟨-, -, rfl⟩, -⟩ := hl.consumed
    exact Connection.releases_ackLength hshort hl hat.1 hat.2
  | ackPayload request served size =>
    obtain ⟨⟨-, -, rfl⟩, -⟩ := hl.consumed
    exact Connection.releases_ackPayload hshort hl hat.1 hat.2
  | ackDecode request served bs =>
    obtain ⟨⟨-, -, rfl⟩, -, ack, -, rfl⟩ := hl.consumed
    exact Connection.releases_ackDecode hl.server hat.2
  | ackJoin request served ack err =>
    obtain ⟨⟨-, -, rfl⟩, -⟩ := hl.consumed
    exact Connection.releases_ackJoin hl.server hat.2
  | process request served =>
    obtain ⟨⟨-, -, rfl⟩, -⟩ := hl.consumed
    exact Connection.releases_process hl.server
  | unlock request =>
    obtain ⟨-, rfl⟩ := hl.consumed
    exact Connection.releases_unlock hl.server
  | unwound | ended err => exact absurd (hk.mpr hkept) hheld
  | undefined =>
    refine absurd ?_ hdefined
    rw [Connection.serverCall, hl.server]
    rfl
  | _ => exact absurd hk.1 hheld

end Releases

/-! ## 3. In the network -/

section Network

variable {ι : Type} [DecidableEq ι] {endpoints : ι → RdmaEndpoint} {n n' : Network ι} {i : ι}
  {ls : List (NetworkLabel ι)} {storage : RdmaEndpointStorage} {l : ConnectionLabel}
  {c c' : Connection} {endpoint : RdmaEndpoint}

/-- A label of a connection in which its client has no part. -/
def ConnectionLabel.unaided : ConnectionLabel → Bool
  | tick _ | pushDown | serverTimeout | server _ => true
  | _ => false

/-- This much later. -/
def Connection.later (c : Connection) (milliseconds : ℕ) : Connection :=
  { c with now := c.now + milliseconds }

omit [Platform] in
@[simp] theorem NetworkLabel.on_via (i : ι) (l : ConnectionLabel) :
    (NetworkLabel.via i l).on i = some l := by
  cases l <;> simp [NetworkLabel.via, NetworkLabel.on]

omit [Platform] in
theorem historyOf_via (i : ι) (ms : List ConnectionLabel) :
    historyOf i (ms.map (NetworkLabel.via i)) = ms := by
  induction ms with
  | nil => rfl
  | cons l ms ih =>
    rw [List.map_cons, historyOf, List.filterMap_cons, NetworkLabel.on_via]
    exact congrArg (l :: ·) ih

omit [Platform] in
theorem ConnectionLabel.unaided_of_alone (h : l.alone = true) : l.unaided = true := by
  cases l <;> first | rfl | cases h

/-- The storage has no part in such a label. -/
theorem answer_alone (hl : l.alone = true) (ht : ∀ milliseconds, l ≠ .tick milliseconds)
    (hstep : c.step endpoint l = some c') : Network.answer storage l = some storage := by
  cases l with
  | tick milliseconds => exact absurd rfl (ht milliseconds)
  | server ev =>
    obtain ⟨s, ha, -⟩ := Connection.step_server hstep
    have hcomputed := Side.answer_computed ha
    obtain ⟨op, r⟩ := ev
    cases op with
    | handle served | serializeResponse responce | asyncWrite bs | startTimer ms | asyncRead size
    | deserializeAcknowledge bs | joinTimer =>
      simp only [Network.answer, RdmaEndpointStorage.answer, hcomputed, if_true]
    | _ => cases hl
  | pushDown | serverTimeout => rfl
  | _ => cases hl

/-- **What a server session does alone** it does among others, who only get older. -/
theorem Network.exec_alone {ms : List ConnectionLabel} (halone : ∀ l ∈ ms, l.alone = true)
    (h : (connection (endpoints i)).exec (n.conn i) ms = some c') :
    ∃ n', (network endpoints).exec n (ms.map (NetworkLabel.via i)) = some n' ∧
      n'.storage = n.storage ∧ n'.conn i = c' ∧
      ∀ j, j ≠ i → n'.conn j = (n.conn j).later (ms.map ConnectionLabel.elapsed).sum := by
  induction ms generalizing n with
  | nil =>
    cases h
    exact ⟨n, rfl, rfl, rfl, fun _ _ => rfl⟩
  | cons l ms ih =>
    obtain ⟨d, hd, h⟩ := Option.bind_eq_some_iff.mp h
    obtain ⟨hl, hms⟩ := List.forall_mem_cons.mp halone
    have hstep : ∃ m, n.step endpoints (.via i l) = some m ∧ m.storage = n.storage ∧
        m.conn i = d ∧ ∀ j, j ≠ i → m.conn j = (n.conn j).later l.elapsed := by
      by_cases ht : ∃ milliseconds, l = .tick milliseconds
      · obtain ⟨milliseconds, rfl⟩ := ht
        exact ⟨_, rfl, rfl, Option.some.inj hd, fun _ _ => rfl⟩
      · have ht' : ∀ milliseconds, l ≠ .tick milliseconds := fun ms he => ht ⟨ms, he⟩
        have hvia : NetworkLabel.via i l = .conn i l := by
          cases l with
          | tick milliseconds => exact absurd rfl (ht' milliseconds)
          | _ => rfl
        have hzero : l.elapsed = 0 := by
          cases l with
          | tick milliseconds => exact absurd rfl (ht' milliseconds)
          | _ => rfl
        rw [hvia, hzero]
        exact Network.step_of_conn (answer_alone hl ht' hd) hd
    obtain ⟨m, hm, hstorage, hconn, hothers⟩ := hstep
    subst hconn
    obtain ⟨n', hexec, hstorage', hconn', hothers'⟩ := ih hms h
    refine ⟨n', Option.bind_eq_some_iff.mpr ⟨m, hm, hexec⟩, hstorage'.trans hstorage, hconn',
      fun j hj => ?_⟩
    rw [hothers' j hj, hothers j hj, List.map_cons, List.sum_cons]
    simp [Connection.later, Nat.add_assoc]

/-- A path that a session holds has endpoints. -/
theorem pool_held_path {ls : List (ι × SessionEvent)} {p : Pool ι}
    (h : (pool ι).Run (Pool.start ι storage) ls p) :
    ∀ i path, path ∈ (logOf i ls).held → p.storage.HasPath path := by
  refine Machine.RunWith.invariant (I := fun ls (p : Pool ι) =>
    ∀ i path, path ∈ (logOf i ls).held → p.storage.HasPath path) (fun _ _ hm => nomatch hm) ?_ h
  rintro ls p ⟨i, ev⟩ q hrun hI - hstep j path hm
  obtain ⟨ha, hr, -⟩ := Pool.step_inv hstep
  have hkept : p.storage.HasPath path → q.storage.HasPath path := by
    rintro ⟨x, hx, rfl⟩
    exact ((RdmaEndpointStorage.answer_holds ha _).mpr ⟨x, hx, rfl⟩).hasPath
  by_cases hij : i = j
  · subst hij
    obtain ⟨f, hf, hknows⟩ := server_knows (pool_session hrun i)
    rw [hf] at hr
    obtain ⟨f', -, hs⟩ := server_refines.step f ev _ hr
    rw [logOf_snoc_same, logOf] at hm
    rcases hs.held hknows with ⟨path', err, rfl, -, hheld⟩ | ⟨path', err, rfl, -, hheld⟩ | ⟨hheld, -⟩
    · rw [hheld, List.mem_singleton] at hm
      subst hm
      obtain ⟨hres, -⟩ := RdmaEndpointStorage.answer_tryLock ha
      obtain ⟨x, hx, hpath, -⟩ := (RdmaEndpointStorage.tryLockEndpointsByPath_granted_iff _ _).mp
        (congrArg Prod.fst hres).symm
      exact hkept ⟨x, hx, hpath⟩
    · rw [hheld] at hm
      cases hm
    · rw [hheld] at hm
      exact hkept (hI i path hm)
  · rw [logOf_snoc_other hij] at hm
    exact hkept (hI j path hm)

omit [Platform] in
/-- The unlock of a path that has endpoints frees it. -/
theorem RdmaEndpointStorage.unlocked_free {path : RdmaEndpointPath} (h : storage.HasPath path) :
    ((storage.unlockEndpointsByPath path).2.tryLockEndpointsByPath path).1 = (true, none) := by
  rw [unlockEndpointsByPath_snd]
  obtain ⟨x, hx, rfl⟩ := h
  obtain ⟨y, hy, hpath⟩ := (setLocked_holds.mpr ⟨x, hx, rfl⟩ :
    (storage.setLocked x.2.endpoint.path false).Holds x.2.endpoint).hasPath
  have hgranted := (tryLockEndpointsByPath_granted_iff _ _).mpr
    ⟨y, hy, hpath, setLocked_flagged_same storage x.2.endpoint.path false y hy hpath⟩
  exact Prod.ext hgranted (tryLockEndpointsByPath_granted_error hgranted)

omit [Platform] in
/-- What a server session does alone leaves the lock with it. -/
theorem serverSays_alone {ls ms : List ConnectionLabel} (halone : ∀ l ∈ ms, l.alone = true) :
    (serverSays (ls ++ ms)).held = (serverSays ls).held := by
  induction ms using List.reverseRecOn with
  | nil => rw [List.append_nil]
  | append_singleton ms l ih =>
    obtain ⟨hms, hl⟩ := List.forall_mem_append.mp halone
    have hl := hl l (List.mem_singleton_self l)
    rw [← List.append_assoc, ← ih hms]
    cases l with
    | server ev =>
      rw [serverSays_server]
      obtain ⟨op, r⟩ := ev
      cases op with
      | deserializeAcknowledge bs => cases r <;> rfl
      | handle served | serializeResponse responce | asyncWrite bs | startTimer ms | asyncRead size
      | joinTimer => rfl
      | _ => cases hl
    | _ => exact congrArg ServerLog.held (serverSays_silent rfl)

/-- A session about to give its lock back gives it back. -/
theorem unlock_held {path : RdmaEndpointPath} {ls : List ConnectionLabel} (err : error)
    (hshort : Short endpoint) (h : ConnectionRun endpoint ls c)
    (hcall : c.serverCall = some (.unlockEndpointsByPath path)) :
    (serverSays ls).held = [path] ∧
      (serverSays (ls ++ [.server ⟨.unlockEndpointsByPath path, err⟩])).held = [] := by
  obtain ⟨f, g, hl⟩ := linked_run hshort h
  rw [Connection.serverCall, hl.server] at hcall
  obtain ⟨f', hs⟩ := server_refines.of_pending hcall none
  have hheld : (serverSays ls).held = [path] := by
    cases hs
    exact hl.knowsServer.1
  refine ⟨hheld, ?_⟩
  rw [serverSays_server, ServerLog.note, hheld]
  exact List.erase_cons_head _ _

/-- The unlock, as a step of the network. -/
theorem Network.step_unlock (hserver : (n.conn i).server
      = (ServerPhase.unlock (wireRequest (endpoints i))).session) :
    ∃ err n', n.step endpoints (.conn i (.server ⟨.unlockEndpointsByPath (endpoints i).path, err⟩))
        = some n' ∧
      n'.storage = (n.storage.unlockEndpointsByPath (endpoints i).path).2 ∧
      n'.conn i = { n.conn i with server := .head } ∧ ∀ j, j ≠ i → n'.conn j = n.conn j := by
  let err := (n.storage.unlockEndpointsByPath (endpoints i).path).1
  have hanswer : Network.answer n.storage (.server ⟨.unlockEndpointsByPath (endpoints i).path, err⟩)
      = some (n.storage.unlockEndpointsByPath (endpoints i).path).2 := if_pos rfl
  have hc : (n.conn i).step (endpoints i) (.server ⟨.unlockEndpointsByPath (endpoints i).path, err⟩)
      = some { n.conn i with server := .head } :=
    Connection.step_of_server hserver (.unlock (wireRequest (endpoints i)) err) rfl
  exact ⟨err, Network.step_of_conn hanswer hc⟩

/-- **A session gives its lock back** without its client, and the others only get older. -/
theorem Network.exec_release (hrun : (network endpoints).Run (Network.start ι storage) ls n)
    (hshort : Short (endpoints i)) (hheld : (serverSays (historyOf i ls)).held ≠ [])
    (hkept : (serverSays (historyOf i ls)).stranded = false)
    (hdefined : (n.conn i).serverCall ≠ some .undefined) :
    ∃ (ms : List ConnectionLabel) (n' : Network ι),
      (network endpoints).exec n (ms.map (NetworkLabel.via i)) = some n' ∧
      (∀ l ∈ ms, l.unaided = true) ∧ (ms.map ConnectionLabel.elapsed).sum ≤ 5000 ∧
      (serverSays (historyOf i ls)).held = [(endpoints i).path] ∧
      (serverSays (historyOf i (ls ++ ms.map (NetworkLabel.via i)))).held = [] ∧
      n'.storage = (n.storage.unlockEndpointsByPath (endpoints i).path).2 ∧
      ∀ j, j ≠ i → n'.conn j = (n.conn j).later (ms.map ConnectionLabel.elapsed).sum := by
  obtain ⟨ms, c', hexec, halone, htime, hserver⟩ :=
    releases_run hshort (network_connectionRun i hrun) hheld hkept hdefined
  obtain ⟨m, hm, hstorage, rfl, hothers⟩ := Network.exec_alone halone hexec
  obtain ⟨err, n', hunlock, hstorage', -, hkeeps⟩ := Network.step_unlock hserver
  have hconnm := network_connectionRun i (hrun.append (Machine.exec_run hm))
  rw [historyOf_append, historyOf_via] at hconnm
  have hcall : (m.conn i).serverCall = some (.unlockEndpointsByPath (endpoints i).path) := by
    rw [Connection.serverCall, hserver]
    rfl
  obtain ⟨hheldm, hfree⟩ := unlock_held err hshort hconnm hcall
  rw [serverSays_alone halone] at hheldm
  refine ⟨ms ++ [.server ⟨.unlockEndpointsByPath (endpoints i).path, err⟩], n', ?_, ?_, ?_, hheldm,
    ?_, ?_, ?_⟩
  · rw [List.map_append]
    exact Machine.exec_trans hm (Option.bind_eq_some_iff.mpr ⟨_, hunlock, rfl⟩)
  · refine List.forall_mem_append.mpr ⟨fun l hl => ConnectionLabel.unaided_of_alone (halone l hl), ?_⟩
    exact List.forall_mem_singleton.mpr rfl
  · rw [List.map_append, List.sum_append]
    exact htime
  · rw [historyOf_append, historyOf_via, ← List.append_assoc]
    exact hfree
  · rw [hstorage', hstorage]
  · intro j hj
    rw [hkeeps j hj, hothers j hj, List.map_append, List.sum_append]
    rfl

/-- **A lock does not depend on the client**: from every state of the network in which a session
holds the path of its client and has not stranded it, whatever the client does or does not do any
more, time and steps of the server alone lead to a state in which the lock is given back and the
path is free, in five seconds at most; the other connections are none the wiser. -/
theorem lock_recovers (hrun : (network endpoints).Run (Network.start ι storage) ls n)
    (hshort : Short (endpoints i))
    (hheld : (endpoints i).path ∈ (serverSays (historyOf i ls)).held)
    (hkept : (serverSays (historyOf i ls)).stranded = false)
    (hdefined : (n.conn i).serverCall ≠ some .undefined) :
    ∃ (ms : List ConnectionLabel) (n' : Network ι),
      (network endpoints).exec n (ms.map (NetworkLabel.via i)) = some n' ∧
      (∀ l ∈ ms, l.unaided = true) ∧ (ms.map ConnectionLabel.elapsed).sum ≤ 5000 ∧
      (serverSays (historyOf i (ls ++ ms.map (NetworkLabel.via i)))).held = [] ∧
      (n'.storage.tryLockEndpointsByPath (endpoints i).path).1 = (true, none) ∧
      ∀ j, j ≠ i → n'.conn j = (n.conn j).later (ms.map ConnectionLabel.elapsed).sum := by
  obtain ⟨ms, n', hexec, hunaided, htime, -, hfree, hstorage, hothers⟩ :=
    Network.exec_release hrun hshort (List.ne_nil_of_mem hheld) hkept hdefined
  have hpath : n.storage.HasPath (endpoints i).path := by
    refine pool_held_path (network_pool hrun) i _ ?_
    rw [logOf_serverHistory]
    exact hheld
  refine ⟨ms, n', hexec, hunaided, htime, hfree, ?_, hothers⟩
  rw [hstorage]
  exact RdmaEndpointStorage.unlocked_free hpath

end Network

/-- A client that crashes once its request has been served. -/
def crashedLabels : List ConnectionLabel :=
  asking sampleWriteEndpoint ++ granting sampleWriteEndpoint [7]

omit [Platform] in
theorem lock_recovers_sample :
    letI := Platform.littleEndian
    ∃ (n : Network Unit) (ms : List ConnectionLabel) (n' : Network Unit),
      (network fun _ => sampleWriteEndpoint).exec (Network.start Unit sampleWriteStorage)
        (crashedLabels.map (.via ())) = some n ∧
      (network fun _ => sampleWriteEndpoint).exec n (ms.map (.via ())) = some n' ∧
      (∀ l ∈ ms, l.unaided = true) ∧
      (n'.storage.tryLockEndpointsByPath []).1 = (true, none) := by
  let _ := Platform.littleEndian
  have hexec : ((network fun _ : Unit => sampleWriteEndpoint).exec
      (Network.start Unit sampleWriteStorage) (crashedLabels.map (.via ()))).any
      (fun n => decide ((n.conn ()).serverCall ≠ some .undefined)) = true := by
    decide +kernel
  obtain ⟨n, hn, hdefined⟩ := (Option.any_eq_true _ _).mp hexec
  obtain ⟨ms, n', hms, hunaided, -, -, hfree, -⟩ := lock_recovers (i := ())
    (Machine.exec_run hn) sampleWriteEndpoint_short (by decide +kernel) (by decide +kernel)
    (of_decide_eq_true hdefined)
  exact ⟨n, ms, n', hn, hms, hunaided, hfree⟩

end DocaCpp
