/-
# A client and its server session, with what lies between them

A `Connection` is one client session (`HandleClientSession` for an endpoint), the server session
that serves it, the two directions of their TCP connection, a timer on each side and the client's
RDMA operation.  Its labels are everything that can happen next: time passes, a byte of a pending
write becomes visible or one is collected by a pending read, a timer handler runs, the RDMA
operation ends, one side hangs up, or one of the two coroutines gets an answer to the call it waits
for.

The answers that come from the surroundings are checked in `Side.answer` (the socket and the timer)
and `Rdma.answer`; the answers of the storage are left open here and belong to the network of all
connections.

A timer handler runs while the operation beside it is suspended in a read or a write.  It lets that
call be cut short, but a completion that was queued already is still delivered; what the operation
does after that makes no difference to the caller, who sees the timeout, so it may go on here.
-/
import DocaCpp.Lib.Channel
import DocaCpp.Session.ServerHistory
import DocaCpp.Session.ClientHistory

namespace DocaCpp

/-! ## 1. Timers and the RDMA operation -/

/-- The timer of a side. -/
inductive Timer
  | off
  | armed (deadline : ℕ)
  /-- the handler has run, and the operation beside it is cancelled -/
  | ran
  deriving DecidableEq, Repr

/-- The handler runs. -/
def Timer.fire (now : ℕ) : Timer → Option Timer
  | armed deadline => if deadline ≤ now then some ran else none
  | _ => none

/-- How `operation() || timeout()` can end. -/
def Timer.join (now : ℕ) : Timer → TimerEnd → Bool
  | armed _, .cancelled => true
  | armed deadline, .ranLast => deadline ≤ now
  | ran, .ranFirst => true
  | _, _ => false

/-- The RDMA operation of a client, from its submission to its completion. -/
inductive Rdma
  | idle
  | inFlight (since : ℕ)
  | ended (err : error)
  deriving DecidableEq, Repr

/-- The operation is in flight. -/
def Rdma.busy : Rdma → Bool
  | inFlight _ => true
  | _ => false

/-- The executor's answers. -/
def Rdma.answer (now : ℕ) (rdma : Rdma) (ev : SessionEvent) : Option Rdma :=
  match ev with
  | ⟨.submitOperation _, none⟩ => if rdma = idle then some (inFlight now) else none
  | ⟨.awaitWithTimeout _, .ready err⟩ => if rdma = ended err then some rdma else none
  | ⟨.awaitWithTimeout milliseconds, .timedOut⟩ =>
    match rdma with
    | inFlight since => if since + milliseconds ≤ now then some rdma else none
    | _ => none
  | _ => some rdma

/-! ## 2. One side -/

/-- What a coroutine has at hand: the stream it reads, the stream it writes and its timer. -/
structure Side where
  inp : Channel UInt8
  out : Channel UInt8
  timer : Timer

variable [Platform]

/-- The answers of the socket and of the timer, and what they leave. -/
def Side.answer (now : ℕ) (s : Side) (ev : SessionEvent) : Option Side :=
  match ev with
  | ⟨.asyncRead size, .ok bs⟩ =>
    match s.inp.finish size with
    | some (bs', inp) => if bs = bs' then some { s with inp := inp } else none
    | none => none
  | ⟨.asyncRead size, .error _⟩ =>
    (if s.timer = .ran then s.inp.cut size else s.inp.fail size).map fun inp =>
      { s with inp := inp }
  | ⟨.asyncWrite bs, .ok _⟩ => (s.out.wrote bs).map fun out => { s with out := out }
  | ⟨.asyncWrite bs, .error _⟩ => (s.out.unwrote bs).map fun out => { s with out := out }
  | ⟨.startTimer milliseconds, _⟩ => some { s with timer := .armed (now + milliseconds) }
  | ⟨.joinTimer, timer⟩ => if s.timer.join now timer then some { s with timer := .off } else none
  | ev => if ev.computed then some s else none

/-! ## 3. The connection -/

/-- A client session and the server session that serves it. -/
structure Connection where
  now : ℕ := 0
  server : Session := .head
  client : Session := .head
  /-- from the client to the server -/
  up : Channel UInt8 := {}
  /-- from the server to the client -/
  down : Channel UInt8 := {}
  serverTimer : Timer := .off
  clientTimer : Timer := .off
  rdma : Rdma := .idle

/-- A new connection. -/
def Connection.start : Connection := {}

/-- What can happen next on a connection. -/
inductive ConnectionLabel
  | tick (milliseconds : ℕ)
  | fetchUp
  | fetchDown
  | pushUp
  | pushDown
  | serverTimeout
  | clientTimeout
  | complete (err : error)
  | clientCloses
  | serverCloses
  | server (ev : SessionEvent)
  | client (ev : SessionEvent)

namespace Connection

/-- A call that moves bytes. -/
def moving : Option SessionCall → Bool
  | some (.asyncRead _) | some (.asyncWrite _) => true
  | _ => false

/-- The call the server session waits for. -/
def serverCall (c : Connection) : Option SessionCall := c.server.pending serverPass

/-- The call the client session waits for. -/
def clientCall (c : Connection) (endpoint : RdmaEndpoint) : Option SessionCall :=
  c.client.pending (clientPass true endpoint)

/-- A session that makes no further call. -/
def finished : Option SessionCall → Bool
  | none | some .unwind | some .undefined => true
  | _ => false

def serverSide (c : Connection) : Side := ⟨c.up, c.down, c.serverTimer⟩

def clientSide (c : Connection) : Side := ⟨c.down, c.up, c.clientTimer⟩

/-- One step of a connection, for a client of the given endpoint. -/
def step (endpoint : RdmaEndpoint) (c : Connection) : ConnectionLabel → Option Connection
  | .tick milliseconds => some { c with now := c.now + milliseconds }
  | .fetchUp =>
    match c.serverCall with
    | some (.asyncRead size) => (c.up.fetch size).map fun up => { c with up := up }
    | _ => none
  | .fetchDown =>
    match c.clientCall endpoint with
    | some (.asyncRead size) => (c.down.fetch size).map fun down => { c with down := down }
    | _ => none
  | .pushUp =>
    match c.clientCall endpoint with
    | some (.asyncWrite bs) => (c.up.push bs).map fun up => { c with up := up }
    | _ => none
  | .pushDown =>
    match c.serverCall with
    | some (.asyncWrite bs) => (c.down.push bs).map fun down => { c with down := down }
    | _ => none
  | .serverTimeout =>
    if moving c.serverCall then
      (c.serverTimer.fire c.now).map fun timer => { c with serverTimer := timer }
    else none
  | .clientTimeout =>
    if moving (c.clientCall endpoint) then
      (c.clientTimer.fire c.now).map fun timer => { c with clientTimer := timer }
    else none
  | .complete err =>
    match c.rdma with
    | .inFlight _ => some { c with rdma := .ended err }
    | _ => none
  | .clientCloses =>
    if finished (c.clientCall endpoint) then some { c with up := c.up.close } else none
  | .serverCloses => if finished c.serverCall then some { c with down := c.down.close } else none
  | .server ev =>
    (c.serverSide.answer c.now ev).bind fun s =>
      (c.server.resume serverPass ev).map fun server =>
        { c with server := server, up := s.inp, down := s.out, serverTimer := s.timer }
  | .client ev =>
    (c.clientSide.answer c.now ev).bind fun s =>
      (c.rdma.answer c.now ev).bind fun rdma =>
        (c.client.resume (clientPass true endpoint) ev).map fun client =>
          { c with
            client := client, down := s.inp, up := s.out, clientTimer := s.timer, rdma := rdma }

end Connection

/-- A connection, as a machine. -/
def connection (endpoint : RdmaEndpoint) : Machine Connection ConnectionLabel :=
  ⟨Connection.step endpoint⟩

/-- The events of the server session. -/
def ConnectionLabel.ofServer : ConnectionLabel → Option SessionEvent
  | server ev => some ev
  | _ => none

/-- The events of the client session. -/
def ConnectionLabel.ofClient : ConnectionLabel → Option SessionEvent
  | client ev => some ev
  | _ => none

/-- What the server session of a connection has done. -/
def serverSays (ls : List ConnectionLabel) : ServerLog :=
  serverLog (ls.filterMap ConnectionLabel.ofServer)

/-- What the client session of a connection has done. -/
def clientSays (ls : List ConnectionLabel) : ClientLog :=
  clientLog (ls.filterMap ConnectionLabel.ofClient)

section Says

omit [Platform]

variable {ls : List ConnectionLabel} {l : ConnectionLabel} {ev : SessionEvent}

@[simp] theorem serverSays_server :
    serverSays (ls ++ [.server ev]) = (serverSays ls).note ev := by
  rw [serverSays, List.filterMap_append]
  exact serverLog_snoc _ _

@[simp] theorem clientSays_client :
    clientSays (ls ++ [.client ev]) = (clientSays ls).note ev := by
  rw [clientSays, List.filterMap_append]
  exact clientLog_snoc _ _

theorem serverSays_silent (h : l.ofServer = none) : serverSays (ls ++ [l]) = serverSays ls := by
  simp [serverSays, h]

theorem clientSays_silent (h : l.ofClient = none) : clientSays (ls ++ [l]) = clientSays ls := by
  simp [clientSays, h]

end Says

/-! ## 4. What the answers leave -/

namespace Side

variable {now : ℕ} {s s' : Side} {ev : SessionEvent}

theorem answer_read {size : ℕ} {bs : Bytes}
    (h : s.answer now ⟨.asyncRead size, .ok bs⟩ = some s') :
    s.inp.finish size = some (bs, s'.inp) := by
  simp only [answer] at h
  split at h
  · rename_i bs' inp hf
    split at h
    · rename_i hb
      cases h
      rw [hf, hb]
    · cases h
  · cases h

theorem answer_readFailed {size : ℕ} {ec : ErrorCode}
    (h : s.answer now ⟨.asyncRead size, .error ec⟩ = some s') :
    s.timer = .ran ∧ s.inp.cut size = some s'.inp ∨
      s.timer ≠ .ran ∧ s.inp.fail size = some s'.inp := by
  obtain ⟨inp, hf, rfl⟩ := Option.map_eq_some_iff.mp h
  by_cases ht : s.timer = .ran
  · rw [if_pos ht] at hf
    exact Or.inl ⟨ht, hf⟩
  · rw [if_neg ht] at hf
    exact Or.inr ⟨ht, hf⟩

theorem answer_write {bs : Bytes} (h : s.answer now ⟨.asyncWrite bs, .ok ()⟩ = some s') :
    s.out.wrote bs = some s'.out := by
  obtain ⟨out, hf, rfl⟩ := Option.map_eq_some_iff.mp h
  exact hf

theorem answer_writeFailed {bs : Bytes} {ec : ErrorCode}
    (h : s.answer now ⟨.asyncWrite bs, .error ec⟩ = some s') :
    s'.out = { s.out with pushed := 0 } := by
  obtain ⟨out, hf, rfl⟩ := Option.map_eq_some_iff.mp h
  exact Channel.unwrote_inv hf

theorem answer_join {timer : TimerEnd} (h : s.answer now ⟨.joinTimer, timer⟩ = some s') :
    s.timer.join now timer = true ∧ s'.timer = .off := by
  simp only [answer] at h
  split at h
  · cases h
    exact ⟨by assumption, rfl⟩
  · cases h

/-- Only a read moves the input. -/
theorem answer_inp (h : s.answer now ev = some s') (hr : ∀ size, ev.op ≠ .asyncRead size) :
    s'.inp = s.inp := by
  obtain ⟨op, r⟩ := ev
  cases op with
  | asyncRead size => exact absurd rfl (hr size)
  | asyncWrite bs => cases r <;> obtain ⟨_, _, rfl⟩ := Option.map_eq_some_iff.mp h <;> rfl
  | startTimer milliseconds => cases h; rfl
  | joinTimer => simp only [answer] at h; split at h <;> cases h; rfl
  | _ => simp only [answer] at h; split at h <;> cases h; rfl

/-- Only a write moves the output. -/
theorem answer_out (h : s.answer now ev = some s') (hw : ∀ bs, ev.op ≠ .asyncWrite bs) :
    s'.out = s.out := by
  obtain ⟨op, r⟩ := ev
  cases op with
  | asyncWrite bs => exact absurd rfl (hw bs)
  | asyncRead size =>
    cases r with
    | error ec => obtain ⟨_, _, rfl⟩ := Option.map_eq_some_iff.mp h; rfl
    | ok bs =>
      simp only [answer] at h
      split at h
      · split at h <;> cases h
        rfl
      · cases h
  | startTimer milliseconds => cases h; rfl
  | joinTimer => simp only [answer] at h; split at h <;> cases h; rfl
  | _ => simp only [answer] at h; split at h <;> cases h; rfl

/-- What a side can do to the stream it reads is to use it up. -/
theorem answer_inp_frame (h : s.answer now ev = some s') :
    s'.inp.written = s.inp.written ∧ s'.inp.pushed = s.inp.pushed ∧
      s'.inp.closed = s.inp.closed := by
  by_cases hr : ∃ size, ev.op = .asyncRead size
  · obtain ⟨op, r⟩ := ev
    obtain ⟨size, rfl⟩ := hr
    cases r with
    | ok bs =>
      obtain ⟨-, -, -, -, hw, hp, -, hc⟩ := Channel.finish_inv (answer_read h)
      exact ⟨hw, hp, hc⟩
    | error ec =>
      rcases answer_readFailed h with ⟨-, hf⟩ | ⟨-, hf⟩
      · obtain ⟨-, -, hw, hp, -, hc⟩ := Channel.cut_inv hf
        exact ⟨hw, hp, hc⟩
      · obtain ⟨-, -, hw, hp, -, hc⟩ := Channel.fail_inv hf
        exact ⟨hw, hp, hc⟩
  · rw [answer_inp h fun size hs => hr ⟨size, hs⟩]
    exact ⟨rfl, rfl, rfl⟩

/-- A dead stream gives nothing more. -/
theorem answer_dead (h : s.answer now ev = some s') (hd : s.inp.dead = true) :
    s'.inp.dead = true ∧ s'.inp.consumed = s.inp.consumed := by
  by_cases hr : ∃ size, ev.op = .asyncRead size
  · obtain ⟨op, r⟩ := ev
    obtain ⟨size, rfl⟩ := hr
    have h0 := s.inp.idle hd
    cases r with
    | ok bs =>
      obtain ⟨-, -, hpos, hc, -, -, hd', -⟩ := Channel.finish_inv (answer_read h)
      have hsize : size = 0 := by
        by_contra hne
        rw [hpos (Nat.pos_of_ne_zero hne)] at hd
        cases hd
      exact ⟨hd'.trans hd, by rw [hc, hsize, Nat.add_zero]⟩
    | error ec =>
      rcases answer_readFailed h with ⟨-, hf⟩ | ⟨-, hf⟩
      · obtain ⟨-, hc, -, -, hd', -⟩ := Channel.cut_inv hf
        exact ⟨hd'.trans hd, by rw [hc, h0, Nat.add_zero]⟩
      · obtain ⟨-, hc, -, -, hd', -⟩ := Channel.fail_inv hf
        exact ⟨hd', by rw [hc, h0, Nat.add_zero]⟩
  · rw [answer_inp h fun size hs => hr ⟨size, hs⟩]
    exact ⟨hd, rfl⟩

/-- What a call can do to the stream a side writes is to end the pending write. -/
theorem answer_out_frame (h : s.answer now ev = some s') :
    s'.out.written = s.out.written ∧ s'.out.consumed = s.out.consumed ∧
      s'.out.dead = s.out.dead ∧ s'.out.closed = s.out.closed := by
  by_cases hw : ∃ bs, ev.op = .asyncWrite bs
  · obtain ⟨op, r⟩ := ev
    obtain ⟨bs, rfl⟩ := hw
    cases r with
    | ok u => rw [(Channel.wrote_inv (answer_write h)).2]; exact ⟨rfl, rfl, rfl, rfl⟩
    | error ec => rw [answer_writeFailed h]; exact ⟨rfl, rfl, rfl, rfl⟩
  · rw [answer_out h fun bs hb => hw ⟨bs, hb⟩]
    exact ⟨rfl, rfl, rfl, rfl⟩

/-- Only the two timer calls touch the timer. -/
theorem answer_timer (h : s.answer now ev = some s') (hs : ∀ n, ev.op ≠ .startTimer n)
    (hj : ev.op ≠ .joinTimer) : s'.timer = s.timer := by
  obtain ⟨op, r⟩ := ev
  cases op with
  | startTimer n => exact absurd rfl (hs n)
  | joinTimer => exact absurd rfl hj
  | asyncRead size =>
    cases r with
    | error ec => obtain ⟨_, _, rfl⟩ := Option.map_eq_some_iff.mp h; rfl
    | ok bs =>
      simp only [answer] at h
      split at h
      · split at h <;> cases h
        rfl
      · cases h
  | asyncWrite bs => cases r <;> obtain ⟨_, _, rfl⟩ := Option.map_eq_some_iff.mp h <;> rfl
  | _ => simp only [answer] at h; split at h <;> cases h; rfl

/-- No call makes the timer run. -/
theorem answer_not_ran (h : s.answer now ev = some s') (ht : s.timer ≠ .ran) :
    s'.timer ≠ .ran := by
  obtain ⟨op, r⟩ := ev
  by_cases hs : ∃ n, op = .startTimer n
  · obtain ⟨n, rfl⟩ := hs
    cases h
    exact fun hr => nomatch hr
  · by_cases hj : op = .joinTimer
    · subst hj
      rw [(answer_join h).2]
      exact fun hr => nomatch hr
    · rw [answer_timer h (fun n hn => hs ⟨n, hn⟩) hj]
      exact ht

/-- The serializer is a function on either side. -/
theorem answer_computed (h : s.answer now ev = some s') : ev.computed = true := by
  obtain ⟨op, r⟩ := ev
  cases op with
  | asyncRead size => rfl
  | asyncWrite bs => rfl
  | startTimer n => rfl
  | joinTimer => rfl
  | _ =>
    simp only [answer] at h
    split at h
    · assumption
    · cases h

end Side

namespace Connection

variable {endpoint : RdmaEndpoint} {c c' : Connection} {ev : SessionEvent}

/-- What the steps can do, label by label. -/
inductive Moves (endpoint : RdmaEndpoint) (c : Connection) : ConnectionLabel → Connection → Prop
  | tick (milliseconds : ℕ) :
      Moves endpoint c (.tick milliseconds) { c with now := c.now + milliseconds }
  | fetchUp (size : ℕ) (up : Channel UInt8) (hf : c.up.fetch size = some up) :
      Moves endpoint c .fetchUp { c with up := up }
  | fetchDown (size : ℕ) (down : Channel UInt8) (hf : c.down.fetch size = some down) :
      Moves endpoint c .fetchDown { c with down := down }
  | pushUp (bs : Bytes) (up : Channel UInt8)
      (hcall : c.clientCall endpoint = some (.asyncWrite bs)) (hf : c.up.push bs = some up) :
      Moves endpoint c .pushUp { c with up := up }
  | pushDown (bs : Bytes) (down : Channel UInt8)
      (hcall : c.serverCall = some (.asyncWrite bs)) (hf : c.down.push bs = some down) :
      Moves endpoint c .pushDown { c with down := down }
  | serverTimeout (timer : Timer) (hf : c.serverTimer.fire c.now = some timer) :
      Moves endpoint c .serverTimeout { c with serverTimer := timer }
  | clientTimeout (timer : Timer) (hf : c.clientTimer.fire c.now = some timer) :
      Moves endpoint c .clientTimeout { c with clientTimer := timer }
  | complete (err : error) (hr : c.rdma.busy = true) :
      Moves endpoint c (.complete err) { c with rdma := .ended err }
  | clientCloses (hfin : finished (c.clientCall endpoint) = true) :
      Moves endpoint c .clientCloses { c with up := c.up.close }
  | serverCloses (hfin : finished c.serverCall = true) :
      Moves endpoint c .serverCloses { c with down := c.down.close }
  | server (ev : SessionEvent) (s : Side) (server : Session)
      (hs : c.serverSide.answer c.now ev = some s)
      (hr : c.server.resume serverPass ev = some server) :
      Moves endpoint c (.server ev)
        { c with server := server, up := s.inp, down := s.out, serverTimer := s.timer }
  | client (ev : SessionEvent) (s : Side) (rdma : Rdma) (client : Session)
      (hs : c.clientSide.answer c.now ev = some s) (hrdma : c.rdma.answer c.now ev = some rdma)
      (hr : c.client.resume (clientPass true endpoint) ev = some client) :
      Moves endpoint c (.client ev)
        { c with
          client := client, down := s.inp, up := s.out, clientTimer := s.timer, rdma := rdma }

/-- A step is one of these moves. -/
theorem step_moves {l : ConnectionLabel} (h : c.step endpoint l = some c') :
    Moves endpoint c l c' := by
  cases l with
  | server ev =>
    obtain ⟨s, hs, h⟩ := Option.bind_eq_some_iff.mp h
    obtain ⟨server, hr, rfl⟩ := Option.map_eq_some_iff.mp h
    exact .server ev s server hs hr
  | client ev =>
    obtain ⟨s, hs, h⟩ := Option.bind_eq_some_iff.mp h
    obtain ⟨rdma, hrdma, h⟩ := Option.bind_eq_some_iff.mp h
    obtain ⟨client, hr, rfl⟩ := Option.map_eq_some_iff.mp h
    exact .client ev s rdma client hs hrdma hr
  | tick milliseconds =>
    cases h
    exact .tick milliseconds
  | fetchUp =>
    simp only [step] at h
    split at h
    next size hcall =>
      obtain ⟨up, hf, rfl⟩ := Option.map_eq_some_iff.mp h
      exact .fetchUp size up hf
    next => cases h
  | fetchDown =>
    simp only [step] at h
    split at h
    next size hcall =>
      obtain ⟨down, hf, rfl⟩ := Option.map_eq_some_iff.mp h
      exact .fetchDown size down hf
    next => cases h
  | pushUp =>
    simp only [step] at h
    split at h
    next bs hcall =>
      obtain ⟨up, hf, rfl⟩ := Option.map_eq_some_iff.mp h
      exact .pushUp bs up hcall hf
    next => cases h
  | pushDown =>
    simp only [step] at h
    split at h
    next bs hcall =>
      obtain ⟨down, hf, rfl⟩ := Option.map_eq_some_iff.mp h
      exact .pushDown bs down hcall hf
    next => cases h
  | serverTimeout =>
    obtain ⟨-, h⟩ := Option.ite_none_right_eq_some.mp h
    obtain ⟨timer, hf, rfl⟩ := Option.map_eq_some_iff.mp h
    exact .serverTimeout timer hf
  | clientTimeout =>
    obtain ⟨-, h⟩ := Option.ite_none_right_eq_some.mp h
    obtain ⟨timer, hf, rfl⟩ := Option.map_eq_some_iff.mp h
    exact .clientTimeout timer hf
  | complete err =>
    simp only [step] at h
    split at h
    next since hr =>
      cases h
      exact .complete err (by rw [hr]; rfl)
    next => cases h
  | clientCloses =>
    obtain ⟨hfin, h⟩ := Option.ite_none_right_eq_some.mp h
    cases h
    exact .clientCloses hfin
  | serverCloses =>
    obtain ⟨hfin, h⟩ := Option.ite_none_right_eq_some.mp h
    cases h
    exact .serverCloses hfin

theorem step_server (h : c.step endpoint (.server ev) = some c') :
    ∃ s, c.serverSide.answer c.now ev = some s ∧
      c.server.resume serverPass ev = some c'.server ∧
      c' = { c with
        server := c'.server, up := s.inp, down := s.out, serverTimer := s.timer } := by
  cases step_moves h with
  | server ev s server hs hr => exact ⟨s, hs, hr, rfl⟩

theorem step_client (h : c.step endpoint (.client ev) = some c') :
    ∃ s, c.clientSide.answer c.now ev = some s ∧ c.rdma.answer c.now ev = some c'.rdma ∧
      c.client.resume (clientPass true endpoint) ev = some c'.client ∧
      c' = { c with
        client := c'.client, down := s.inp, up := s.out, clientTimer := s.timer
        rdma := c'.rdma } := by
  cases step_moves h with
  | client ev s rdma client hs hrdma hr => exact ⟨s, hs, hrdma, hr, rfl⟩

/-- Only an answer moves a session. -/
theorem step_same {l : ConnectionLabel} (h : c.step endpoint l = some c') :
    (l.ofServer = none → c'.server = c.server) ∧ (l.ofClient = none → c'.client = c.client) := by
  cases step_moves h with
  | server ev s server hs hr => exact ⟨fun hl => (nomatch hl), fun _ => rfl⟩
  | client ev s rdma client hs hrdma hr => exact ⟨fun _ => rfl, fun hl => nomatch hl⟩
  | _ => exact ⟨fun _ => rfl, fun _ => rfl⟩

/-- A step that neither session takes uses up nothing of what the server reads, leaves the server's
timer alone unless it is the timer that runs, and starts no RDMA operation. -/
theorem step_quiet {l : ConnectionLabel} (h : c.step endpoint l = some c') (hs : l.ofServer = none)
    (hc : l.ofClient = none) :
    c'.up.consumed = c.up.consumed ∧ c'.up.dead = c.up.dead ∧
      (l ≠ .serverTimeout → c'.serverTimer = c.serverTimer) ∧
      (c'.rdma.busy = true → c.rdma.busy = true) := by
  cases step_moves h with
  | server ev s server hs' hr => cases hs
  | client ev s rdma client hs' hrdma hr => cases hc
  | fetchUp size up hf =>
    obtain ⟨-, -, hn, hd, -⟩ := Channel.fetch_inv hf
    exact ⟨hn, hd, fun _ => rfl, id⟩
  | pushUp bs up hcall hf =>
    obtain ⟨-, -, -, -, hn, hd, -⟩ := Channel.push_inv hf
    exact ⟨hn, hd, fun _ => rfl, id⟩
  | serverTimeout timer hf => exact ⟨rfl, rfl, fun hne => absurd rfl hne, id⟩
  | complete err hr => exact ⟨rfl, rfl, fun _ => rfl, fun _ => hr⟩
  | _ => exact ⟨rfl, rfl, fun _ => rfl, id⟩

omit [Platform] in
/-- A session that is over is not answered. -/
theorem not_finished {body : Coro (Exit error)} {s s' : Session} (h : s.resume body ev = some s') :
    finished (s.pending body) = false := by
  rw [Loop.pending_of_resume h]
  obtain ⟨op, r⟩ := ev
  cases op with
  | unwind => exact r.elim
  | undefined => exact r.elim
  | _ => rfl

end Connection

/-- **The client session of a connection is a client session.** -/
theorem connection_client {endpoint : RdmaEndpoint} {ls : List ConnectionLabel} {c : Connection}
    {Good : List ConnectionLabel → Connection → ConnectionLabel → Prop}
    (h : (connection endpoint).RunWith Good .start ls c) :
    (handleClientSession true endpoint).Run .head (ls.filterMap ConnectionLabel.ofClient)
      c.client := by
  refine Machine.RunWith.project Connection.client ConnectionLabel.ofClient ?_ h
  intro ls c l c' _ _ (hstep : c.step endpoint l = some c')
  cases hl : l.ofClient with
  | none => exact (Connection.step_same hstep).2 hl
  | some ev =>
    obtain rfl : l = .client ev := by cases l <;> cases hl; rfl
    obtain ⟨s, -, -, hr, -⟩ := Connection.step_client hstep
    exact ⟨trivial, hr⟩

end DocaCpp
