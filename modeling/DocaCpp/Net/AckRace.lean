/-
# What `ReceiveAcknowledge` consumes, and what it returns

`ReceiveAcknowledge` races `readAck` against a timer.  Both assign the caller's `err`, and the
timeout handler does so whenever it runs, without asking whether the operation has ended; the
handler of `Connect` next to it asks.  A read that is cut short has used up what it had collected.

The race is `Race.machine` over the stream the acknowledge comes in.  `Standing` says where the
operation stands and what it has consumed there.  The result is truthful exactly if the handler
never runs after the first byte of the frame has been read, or the frame never arrives in full
(`ackRace_truthful_iff`).
-/
import DocaCpp.Lib.Race
import DocaCpp.Lib.History
import DocaCpp.Lib.Channel
import DocaCpp.Net.Link

namespace DocaCpp

open Coro

variable [Platform]

/-! ## 1. The race -/

/-- What happens to the stream an acknowledge comes in. -/
inductive AckEvent
  /-- one more byte arrives -/
  | arrives
  /-- the connection ends, and nothing more arrives -/
  | closes
  /-- the pending read collects one more byte -/
  | fetched

/-- A race of `ReceiveAcknowledge`. -/
abbrev AckRace := Race SessionCall.Answer (Channel UInt8) Acknowledge Err

namespace ReceiveAcknowledge

/-- What the calls of `readAck` come to, where the client sends `sent`. -/
def surroundings (sent : Bytes) : Surroundings SessionCall.Answer (Channel UInt8) AckEvent where
  now
    | .deserializeAcknowledge buffer => some (deserializeAcknowledge buffer)
    | _ => none
  happen pending event c :=
    match event with
    | .arrives => if c.closed then none else c.push sent
    | .closes => some c.close
    | .fetched =>
      match pending with
      | some (.asyncRead size) => c.fetch size
      | _ => none
  answer
    | .asyncRead size, .ok bs, c =>
      match c.finish size with
      | some (buffer, c') => if bs = buffer then some c' else none
      | none => none
    -- a read fails when nothing more can come
    | .asyncRead size, .error _, c =>
      if c.consumed + c.taken = c.written.length then c.fail size else none
    | _, _, _ => none
  cut
    | .asyncRead size, c =>
      match c.finish size with
      | some (buffer, c') => some (.ok buffer, c')
      | none => (c.cut size).map fun c' => (.error ⟨"Operation canceled"⟩, c')
    | _, _ => none

/-- The handler of the timer. -/
def timeoutHandler (_ : Acknowledge) (_ : error) : error := some .timeoutExpired

/-- `ReceiveAcknowledge`, where the client sends `sent`. -/
def machine (sent : Bytes) : Machine AckRace (RaceLabel SessionCall.Answer AckEvent) :=
  Race.machine (surroundings sent) timeoutHandler

/-- `readAck` has run to its first read. -/
def start : AckRace := Race.start (surroundings []).now readAck {} .fresh

/-- `readAck` after the read of the payload. -/
def afterPayload : Except ErrorCode Bytes → Coro (Acknowledge × error)
  | .error _ =>
    return ({}, some (.new ("Failed to read acknowledge payload from socket: "
      ++ ErrorCode.success.message)))
  | .ok ackBuffer => do
    let ack ← decoded (← MessageSerializer.deserializeAcknowledge ackBuffer)
    return (ack, none)

/-- `readAck` after the read of the length. -/
def afterLength : Except ErrorCode Bytes → Coro (Acknowledge × error)
  | .error err0 =>
    return ({}, some (.new ("Failed to read acknowledge length from socket: " ++ err0.message)))
  | .ok ackLength => .op (.asyncRead (uint32Of ackLength)) afterPayload

theorem start_eq : start =
    { operation := .waiting (.asyncRead 4) afterLength, value := {}, surroundings := .fresh } := rfl

/-! ## 2. What the surroundings do -/

/-- The stream is a beginning of what the client sends. -/
def Follows (sent : Bytes) (c : Channel UInt8) : Prop := c.written = sent.take c.pushed

section Surroundings

variable {sent bs : Bytes} {e : SessionCall} {event : AckEvent} {c c' : Channel UInt8}
  {pending : Option SessionCall} {size : ℕ}

omit [Platform] in
theorem Follows.prefix (h : Follows sent c) : c.written <+: sent := by
  rw [h]
  exact List.take_prefix _ _

omit [Platform] in
theorem Follows.of_eq (h : Follows sent c) (hw : c'.written = c.written)
    (hp : c'.pushed = c.pushed) : Follows sent c' := by
  rw [Follows, hw, hp]
  exact h

omit [Platform] in
/-- **An event** uses up nothing, and collects only for a read that is pending. -/
theorem happen_inv (h : (surroundings sent).happen pending event c = some c') :
    c'.consumed = c.consumed ∧ (pending = none → c'.taken = c.taken) ∧
      (Follows sent c → Follows sent c') ∧
      (c.closed = true → c'.closed = true ∧ c'.written = c.written) := by
  cases event with
  | arrives =>
    simp only [surroundings] at h
    split at h
    · cases h
    next hopen =>
      obtain ⟨hw, -, -, -, hc, -⟩ := Channel.push_inv h
      exact ⟨hc, fun _ => Channel.push_taken h, hw [], fun hclosed => absurd hclosed hopen⟩
  | closes =>
    cases h
    exact ⟨rfl, fun _ => rfl, id, fun _ => ⟨rfl, rfl⟩⟩
  | fetched =>
    simp only [surroundings] at h
    split at h
    next size =>
      obtain ⟨hw, hp, hc, -, hclosed⟩ := Channel.fetch_inv h
      exact ⟨hc, (fun hn => nomatch hn), fun hf => hf.of_eq hw hp,
        fun hcl => ⟨hclosed.trans hcl, hw⟩⟩
    next => cases h

/-- How a read that is answered, or cut, leaves the stream. -/
structure ReadEnds (sent : Bytes) (size : ℕ) (c : Channel UInt8) (r : Except ErrorCode Bytes)
    (c' : Channel UInt8) : Prop where
  consumed : c'.consumed = c.consumed + c.taken
  taken : c'.taken = 0
  follows : Follows sent c → Follows sent c'
  ok : ∀ bs, r = .ok bs → c.taken = size ∧ c.finish size = some (bs, c')
  error : ∀ ec, r = .error ec → c.taken < size

omit [Platform] in
theorem ReadEnds.of_finish (h : c.finish size = some (bs, c')) :
    ReadEnds sent size c (.ok bs) c' := by
  obtain ⟨ht, ht'⟩ := Channel.finish_taken h
  obtain ⟨-, -, -, hc, hw, hp, -⟩ := Channel.finish_inv h
  refine ⟨by rw [hc, ht], ht', fun hf => hf.of_eq hw hp, fun bs' hb => ?_, fun _ he => nomatch he⟩
  cases hb
  exact ⟨ht, h⟩

omit [Platform] in
/-- **An answer** ends the read, and if it is an error then nothing more comes. -/
theorem answer_inv {r : Except ErrorCode Bytes}
    (h : (surroundings sent).answer (.asyncRead size) r c = some c') :
    ReadEnds sent size c r c' ∧
      ((∃ ec, r = .error ec) → c'.closed = true ∧ c'.written.length = c.consumed + c.taken) := by
  cases r with
  | ok bs =>
    simp only [surroundings] at h
    split at h
    next buffer c'' hfinish =>
      split at h
      next hbs =>
        cases h
        subst hbs
        exact ⟨.of_finish hfinish, fun ⟨_, he⟩ => nomatch he⟩
      next => cases h
    next => cases h
  | error ec =>
    simp only [surroundings] at h
    split at h
    next hall =>
      obtain ⟨⟨hclosed, hlt⟩, hc, hw, hp, -, hcl⟩ := Channel.fail_inv h
      exact ⟨⟨hc, Channel.fail_taken h, fun hf => hf.of_eq hw hp, (fun _ hb => nomatch hb),
        fun _ _ => hlt⟩, fun _ => ⟨hcl.trans hclosed, by rw [hw, hall]⟩⟩
    next => cases h

omit [Platform] in
/-- **A cut** ends the read. -/
theorem cut_inv {r : Except ErrorCode Bytes × Channel UInt8}
    (h : (surroundings sent).cut (.asyncRead size) c = some r) :
    ReadEnds sent size c r.1 r.2 := by
  simp only [surroundings] at h
  split at h
  next buffer c'' hfinish =>
    cases h
    exact .of_finish hfinish
  next =>
    obtain ⟨c'', hcut, rfl⟩ := Option.map_eq_some_iff.mp h
    obtain ⟨hlt, hc, hw, hp, -, -⟩ := Channel.cut_inv hcut
    exact ⟨hc, Channel.cut_taken hcut, fun hf => hf.of_eq hw hp, (fun _ hb => nomatch hb),
      fun _ _ => hlt⟩

end Surroundings

/-! ## 3. Where the operation stands -/

section Standing

variable {payload rest sent : Bytes} {ack value : Acknowledge} {err : error} {cancelled : Bool}
  {c c' : Channel UInt8} {x y : AckRace}

/-- What `readAck` leaves in the caller's variables, against what it has consumed.  It has the whole
frame, or it has failed: if it was not cancelled then because the frame does not come in full. -/
def Outcome (payload : Bytes) (ack : Acknowledge) (cancelled : Bool) (c : Channel UInt8)
    (value : Acknowledge) (err : error) : Prop :=
  c.taken = 0 ∧
    ((c.consumed = (frame payload).length ∧ value = ack ∧ err = none) ∨
      (c.consumed < (frame payload).length ∧ err.isSome = true ∧
        (cancelled = false → c.closed = true ∧ c.written.length < (frame payload).length)))

theorem Outcome.cancel (h : Outcome payload ack cancelled c value err) :
    Outcome payload ack true c value err := by
  obtain ⟨ht, hread | ⟨hc, herr, -⟩⟩ := h
  · exact ⟨ht, .inl hread⟩
  · exact ⟨ht, .inr ⟨hc, herr, nofun⟩⟩

/-- Where the operation stands, and what it has consumed. -/
inductive Standing (payload : Bytes) (ack : Acknowledge) (x : AckRace) : Prop
  | length (ho : x.operation = .waiting (.asyncRead 4) afterLength)
      (hc : x.surroundings.consumed = 0) (hquiet : x.cancelled = false → x.err = none)
  | lengthRead (ho : x.operation = .queued (afterLength (.ok (uint32Bytes payload.length))))
      (hc : x.surroundings.consumed = 4) (ht : x.surroundings.taken = 0)
      (hquiet : x.cancelled = false → x.err = none)
  | payload (ho : x.operation = .waiting (.asyncRead payload.length) afterPayload)
      (hc : x.surroundings.consumed = 4) (hquiet : x.cancelled = false → x.err = none)
  | ending {p : Coro (Acknowledge × error)} {value : Acknowledge} {err : error}
      (ho : x.operation = .queued p) (hp : p.settle (surroundings []).now = .ret (value, err))
      (hr : Outcome payload ack x.cancelled x.surroundings value err)
      (hquiet : x.cancelled = false → x.err = none)
  | ended {err : error} (ho : x.operation = .ended)
      (hr : Outcome payload ack x.cancelled x.surroundings x.value err)
      (herr : x.cancelled = false → x.err = err)

/-- When the race is over, what the operation has left is what there is unless the handler has
run. -/
theorem Standing.over (h : Standing payload ack x) (hover : x.Over) :
    ∃ err, Outcome payload ack x.cancelled x.surroundings x.value err ∧
      (x.cancelled = false → x.err = err) := by
  cases h with
  | length ho | lengthRead ho | payload ho | ending ho => cases ho.symm.trans hover.operation
  | ended _ hr herr => exact ⟨_, hr, herr⟩

/-- A race in which only the stream has changed. -/
theorem Standing.happen (h : Standing payload ack x) {event : AckEvent}
    (hs : (surroundings sent).happen x.pending event x.surroundings = some c') :
    Standing payload ack { x with surroundings := c' } := by
  obtain ⟨hc, ht, -, hclosed⟩ := happen_inv hs
  have houtcome : ∀ {value err}, x.pending = none →
      Outcome payload ack x.cancelled x.surroundings value err →
      Outcome payload ack x.cancelled c' value err := by
    rintro value err hp ⟨htaken, hread⟩
    refine ⟨(ht hp).trans htaken, ?_⟩
    rw [hc]
    refine hread.imp id fun ⟨hlt, herr, hshort⟩ => ⟨hlt, herr, fun hcancelled => ?_⟩
    obtain ⟨hcl, hw⟩ := hshort hcancelled
    rw [(hclosed hcl).2]
    exact ⟨(hclosed hcl).1, hw⟩
  cases h with
  | length ho hc0 hquiet => exact .length ho (hc.trans hc0) hquiet
  | lengthRead ho hc4 ht0 hquiet =>
    exact .lengthRead ho (hc.trans hc4) ((ht (by rw [Race.pending, ho])).trans ht0) hquiet
  | payload ho hc4 hquiet => exact .payload ho (hc.trans hc4) hquiet
  | ending ho hp hr hquiet =>
    exact .ending ho hp (houtcome (by rw [Race.pending, ho]) hr) hquiet
  | ended ho hr herr => exact .ended ho (houtcome (by rw [Race.pending, ho]) hr) herr

/-- A read that failed before the frame was whole, for a frame that does not come any more unless the
read was cut. -/
theorem Outcome.of_failed {size : ℕ} {ec : ErrorCode} (hr : ReadEnds sent size c (.error ec) c')
    (hsize : c.consumed + size ≤ (frame payload).length) (herr : err.isSome = true)
    (hlost : cancelled = false → c'.closed = true ∧ c'.written.length = c.consumed + c.taken) :
    Outcome payload ack cancelled c' value err := by
  have hlt := hr.error ec rfl
  refine ⟨hr.taken, .inr ⟨?_, herr, fun hc => ?_⟩⟩
  · rw [hr.consumed]
    omega
  · obtain ⟨hclosed, hw⟩ := hlost hc
    exact ⟨hclosed, by omega⟩

/-- **The read of the length ends.** -/
theorem Standing.of_length {r : Except ErrorCode Bytes} (hc : c.consumed = 0)
    (hr : ReadEnds (frame payload ++ rest) 4 c r c') (hf : Follows (frame payload ++ rest) c)
    (hlost : y.cancelled = false → (∃ ec, r = .error ec) →
      c'.closed = true ∧ c'.written.length = c.consumed + c.taken)
    (ho : y.operation = .queued (afterLength r)) (hy : y.surroundings = c')
    (hquiet : y.cancelled = false → y.err = none) : Standing payload ack y := by
  cases r with
  | ok bs =>
    obtain ⟨ht, hfinish⟩ := hr.ok bs rfl
    obtain ⟨hbs, -, -⟩ := Channel.finish_slice hfinish hf.prefix
    have hword : bs = uint32Bytes payload.length := by
      rw [hbs, hc, List.drop_zero, frame, List.append_assoc]
      exact List.take_left' (length_uint32Bytes _)
    refine .lengthRead ?_ ?_ ?_ hquiet
    · rw [ho, hword]
    · rw [hy, hr.consumed, hc, ht]
    · rw [hy, hr.taken]
  | error ec =>
    refine .ending ho rfl ?_ hquiet
    rw [hy]
    refine .of_failed hr ?_ rfl fun hcancelled => hlost hcancelled ⟨ec, rfl⟩
    rw [length_frame]
    omega

/-- **The read of the payload ends.** -/
theorem Standing.of_payload (hdec : deserializeAcknowledge payload = .ok ack)
    {r : Except ErrorCode Bytes} (hc : c.consumed = 4)
    (hr : ReadEnds (frame payload ++ rest) payload.length c r c')
    (hf : Follows (frame payload ++ rest) c)
    (hlost : y.cancelled = false → (∃ ec, r = .error ec) →
      c'.closed = true ∧ c'.written.length = c.consumed + c.taken)
    (ho : y.operation = .queued (afterPayload r)) (hy : y.surroundings = c')
    (hquiet : y.cancelled = false → y.err = none) : Standing payload ack y := by
  cases r with
  | ok bs =>
    obtain ⟨ht, hfinish⟩ := hr.ok bs rfl
    obtain ⟨hbs, -, -⟩ := Channel.finish_slice hfinish hf.prefix
    have hpayload : bs = payload := by
      rw [hbs, hc, frame, List.append_assoc, List.drop_left' (length_uint32Bytes _)]
      exact List.take_left' rfl
    subst hpayload
    have hsettle : (afterPayload (.ok bs)).settle (surroundings []).now = .ret (ack, none) := by
      change ((decoded (deserializeAcknowledge bs)).bind _).settle _ = _
      rw [hdec]
      rfl
    refine .ending ho hsettle ?_ hquiet
    rw [hy]
    refine ⟨hr.taken, .inl ⟨?_, rfl, rfl⟩⟩
    rw [hr.consumed, hc, ht, length_frame, Nat.add_comm]
  | error ec =>
    refine .ending ho rfl ?_ hquiet
    rw [hy]
    refine .of_failed hr ?_ rfl fun hcancelled => hlost hcancelled ⟨ec, rfl⟩
    rw [length_frame]
    omega

/-- The operation runs on from the end of the read of the length. -/
theorem settle_length (hlen : payload.length < 2 ^ 32) :
    (afterLength (.ok (uint32Bytes payload.length))).settle (surroundings sent).now =
      .op (.asyncRead payload.length) afterPayload := by
  change Prog.op (SessionCall.asyncRead (uint32Of (uint32Bytes payload.length))) _ = _
  rw [uint32Of_uint32Bytes, Nat.mod_eq_of_lt hlen]

omit [Platform] in
/-- An acknowledge is not empty. -/
theorem payload_pos (hdec : deserializeAcknowledge payload = .ok ack) : 0 < payload.length := by
  cases payload with
  | nil => cases hdec
  | cons b bs => exact Nat.succ_pos _

/-- **A step** leaves the operation at a place it can stand at. -/
theorem Standing.step (hdec : deserializeAcknowledge payload = .ok ack)
    (hlen : payload.length < 2 ^ 32) {l : RaceLabel SessionCall.Answer AckEvent}
    (hf : Follows (frame payload ++ rest) x.surroundings)
    (herr : x.cancelled = true → x.err.isSome = true) (h : Standing payload ack x)
    (hs : Race.Steps (surroundings (frame payload ++ rest)) timeoutHandler x l y) :
    Standing payload ack y := by
  cases hs with
  | happens hs => exact h.happen hs
  | answered ho hs =>
    cases h with
    | length ho' hc hquiet =>
      cases ho.symm.trans ho'
      obtain ⟨hr, hlost⟩ := answer_inv hs
      exact .of_length hc hr hf (fun _ => hlost) rfl rfl hquiet
    | payload ho' hc hquiet =>
      cases ho.symm.trans ho'
      obtain ⟨hr, hlost⟩ := answer_inv hs
      exact .of_payload hdec hc hr hf (fun _ => hlost) rfl rfl hquiet
    | lengthRead ho' | ending ho' | ended ho' => cases ho.symm.trans ho'
  | ends ho hs =>
    cases h with
    | lengthRead ho' =>
      cases ho.symm.trans ho'
      rw [settle_length hlen] at hs
      cases hs
    | ending ho' hp hr hquiet =>
      cases ho.symm.trans ho'
      cases hs.symm.trans hp
      refine .ended rfl hr fun hcancelled => ?_
      change Option.orElse _ _ = _
      rw [hquiet hcancelled, Option.orElse_eq_or, Option.or_none]
    | length ho' | payload ho' | ended ho' => cases ho.symm.trans ho'
  | throws ho hs hcancelled =>
    cases h with
    | lengthRead ho' hc ht hquiet =>
      have hpos := payload_pos hdec
      refine .ended rfl ⟨ht, .inr ⟨?_, herr hcancelled, ?_⟩⟩ fun _ => rfl
      · change x.surroundings.consumed < _
        rw [hc, length_frame]
        omega
      · rw [hcancelled]
        nofun
    | ending ho' hp =>
      cases ho.symm.trans ho'
      cases hs.symm.trans hp
    | length ho' | payload ho' | ended ho' => cases ho.symm.trans ho'
  | waits ho hs hcancelled =>
    cases h with
    | lengthRead ho' hc ht hquiet =>
      cases ho.symm.trans ho'
      rw [settle_length hlen] at hs
      cases hs
      exact .payload rfl hc hquiet
    | ending ho' hp =>
      cases ho.symm.trans ho'
      cases hs.symm.trans hp
    | length ho' | payload ho' | ended ho' => cases ho.symm.trans ho'
  | expired =>
    cases h with
    | length ho hc hquiet => exact .length ho hc hquiet
    | lengthRead ho hc ht hquiet => exact .lengthRead ho hc ht hquiet
    | payload ho hc hquiet => exact .payload ho hc hquiet
    | ending ho hp hr hquiet => exact .ending ho hp hr hquiet
    | ended ho hr herr => exact .ended ho hr herr
  | cut _ ho hs =>
    cases h with
    | length ho' hc hquiet =>
      cases ho.symm.trans ho'
      exact .of_length hc (cut_inv hs) hf nofun rfl rfl nofun
    | payload ho' hc hquiet =>
      cases ho.symm.trans ho'
      exact .of_payload hdec hc (cut_inv hs) hf nofun rfl rfl nofun
    | lengthRead ho' | ending ho' | ended ho' => cases ho.symm.trans ho'
  | handled _ hp =>
    cases h with
    | length ho' | payload ho' =>
      rw [Race.pending_waiting ho'] at hp
      cases hp
    | lengthRead ho hc ht hquiet => exact .lengthRead ho hc ht nofun
    | ending ho hp hr hquiet => exact .ending ho hp hr.cancel nofun
    | ended ho hr herr => exact .ended ho hr.cancel nofun

end Standing

/-! ## 4. Whole runs -/

section Runs

variable {payload rest : Bytes} {ack : Acknowledge} {x y : AckRace}
  {ls : List (RaceLabel SessionCall.Answer AckEvent)} {l : RaceLabel SessionCall.Answer AckEvent}

/-- The handler of the timer runs only before the first byte of the frame has been read. -/
def Untouched (_ : List (RaceLabel SessionCall.Answer AckEvent)) (x : AckRace) :
    RaceLabel SessionCall.Answer AckEvent → Prop
  | .handled => x.surroundings.consumed + x.surroundings.taken = 0
  | _ => True

/-- It does so at every step. -/
def Timely (sent : Bytes) (ls : List (RaceLabel SessionCall.Answer AckEvent)) : Prop :=
  (machine sent).EveryStep start Untouched ls

/-- The frame has come in full. -/
def Arrived (payload : Bytes) (x : AckRace) : Prop :=
  (frame payload).length ≤ x.surroundings.written.length

/-- No error exactly if the whole frame has been consumed, and then its acknowledge; with an error,
no byte of a frame that comes in full. -/
structure Truthful (payload : Bytes) (ack : Acknowledge) (x : AckRace) : Prop where
  whole : x.err = none ↔ x.surroundings.consumed = (frame payload).length
  value : x.err = none → x.value = ack
  untouched : x.err ≠ none → Arrived payload x → x.surroundings.consumed = 0

/-- What holds along every run. -/
structure Invariant (payload rest : Bytes) (ack : Acknowledge)
    (ls : List (RaceLabel SessionCall.Answer AckEvent)) (x : AckRace) : Prop where
  ordered : x.Ordered
  follows : Follows (frame payload ++ rest) x.surroundings
  failed : x.cancelled = true → x.err.isSome = true
  standing : Standing payload ack x
  timely : Timely (frame payload ++ rest) ls ↔
    (x.cancelled = true → x.surroundings.consumed = 0)

omit [Platform] in
/-- A cancelled operation does not wait. -/
theorem not_waiting {e : SessionCall} {k : e.Answer → Coro (Acknowledge × error)} (hx : x.Ordered)
    (hc : x.cancelled = true) (ho : x.operation = .waiting e k) : False := by
  have hp := hx.running hc
  rw [Race.pending_waiting ho] at hp
  cases hp

/-- An operation that does not wait has nothing collected. -/
theorem Standing.taken (h : Standing payload ack x) (hp : x.pending = none) :
    x.surroundings.taken = 0 := by
  cases h with
  | length ho | payload ho =>
    rw [Race.pending_waiting ho] at hp
    cases hp
  | lengthRead _ _ ht => exact ht
  | ending _ _ hr | ended _ hr => exact hr.1

/-- A read that is pending is one of the frame. -/
theorem Standing.reads {e : SessionCall} {k : e.Answer → Coro (Acknowledge × error)}
    (h : Standing payload ack x) (ho : x.operation = .waiting e k) :
    ∃ size, e = .asyncRead size := by
  cases h with
  | length ho' | payload ho' =>
    cases ho.symm.trans ho'
    exact ⟨_, rfl⟩
  | lengthRead ho' | ending ho' | ended ho' => cases ho.symm.trans ho'

theorem Follows.step (h : Standing payload ack x)
    (hf : Follows (frame payload ++ rest) x.surroundings)
    (hs : Race.Steps (surroundings (frame payload ++ rest)) timeoutHandler x l y) :
    Follows (frame payload ++ rest) y.surroundings := by
  cases hs with
  | happens hs => exact (happen_inv hs).2.2.1 hf
  | answered ho hs =>
    obtain ⟨size, rfl⟩ := h.reads ho
    exact (answer_inv hs).1.follows hf
  | cut _ ho hs =>
    obtain ⟨size, rfl⟩ := h.reads ho
    exact (cut_inv hs).follows hf
  | ends | throws | waits | expired | handled => exact hf

/-- A cancelled operation has left the frame alone after the step exactly if it had before, and the
step is no handler that comes too late. -/
theorem untouched_step (hx : x.Ordered) (h : Standing payload ack x)
    (hs : Race.Steps (surroundings (frame payload ++ rest)) timeoutHandler x l y) :
    (y.cancelled = true → y.surroundings.consumed = 0) ↔
      (x.cancelled = true → x.surroundings.consumed = 0) ∧ Untouched ls x l := by
  have hhandled : x.timer = .queued →
      ((true = true → x.surroundings.consumed + x.surroundings.taken = 0) ↔
        (x.cancelled = true → x.surroundings.consumed = 0) ∧
          x.surroundings.consumed + x.surroundings.taken = 0) := by
    intro ht
    have hrunning : ¬ x.cancelled = true := by
      rw [← hx.ran, ht]
      exact fun h => nomatch h
    exact ⟨fun h0 => ⟨fun h1 => absurd h1 hrunning, h0 rfl⟩, fun h0 _ => h0.2⟩
  cases hs with
  | cut ht ho hs =>
    obtain ⟨size, rfl⟩ := h.reads ho
    dsimp only
    rw [(cut_inv hs).consumed]
    exact hhandled ht
  | handled ht hp =>
    have hlate := hhandled ht
    have ht0 := h.taken hp
    dsimp only [Untouched]
    rw [ht0] at hlate ⊢
    exact hlate
  | happens hs =>
    dsimp only
    rw [(happen_inv hs).1]
    exact (and_iff_left trivial).symm
  | answered ho =>
    have hrunning : ¬ x.cancelled = true := fun hc => not_waiting hx hc ho
    exact iff_of_true (fun hc => absurd hc hrunning) ⟨fun hc => absurd hc hrunning, trivial⟩
  | ends | throws | waits | expired => exact (and_iff_left trivial).symm

theorem failed_step (hfailed : x.cancelled = true → x.err.isSome = true)
    (hs : Race.Steps (surroundings (frame payload ++ rest)) timeoutHandler x l y) :
    y.cancelled = true → y.err.isSome = true := by
  cases hs with
  | ends =>
    intro hc
    have := hfailed hc
    change (Option.orElse _ _).isSome = true
    rw [Option.orElse_eq_or, Option.isSome_or, this, Bool.or_true]
  | happens | answered | throws | waits | expired => exact hfailed
  | cut | handled => exact fun _ => rfl

/-- **One step** keeps the invariant. -/
theorem Invariant.step (hdec : deserializeAcknowledge payload = .ok ack)
    (hlen : payload.length < 2 ^ 32) (hrun : (machine (frame payload ++ rest)).Run start ls x)
    (hx : Invariant payload rest ack ls x)
    (hstep : (machine (frame payload ++ rest)).step x l = some y) :
    Invariant payload rest ack (ls ++ [l]) y := by
  have hs := Race.steps_of_step hstep
  obtain ⟨hordered, hfollows, hfailed, hstanding, htimely⟩ := hx
  refine ⟨hordered.step hs, hfollows.step hstanding hs, failed_step hfailed hs,
    hstanding.step hdec hlen hfollows hfailed hs, ?_⟩
  rw [untouched_step hordered hstanding hs, ← htimely]
  exact Machine.everyStep_concat (Machine.run_exec hrun) hstep

theorem invariant_of_run (hdec : deserializeAcknowledge payload = .ok ack)
    (hlen : payload.length < 2 ^ 32) (h : (machine (frame payload ++ rest)).Run start ls x) :
    Invariant payload rest ack ls x := by
  have hstart : Invariant payload rest ack [] start := by
    rw [start_eq]
    refine ⟨.waiting, rfl, ?_, .length rfl rfl fun _ => rfl, ?_⟩
    · intro hc
      cases hc
    · refine iff_of_true Machine.everyStep_nil ?_
      intro hc
      cases hc
  exact h.invariant hstart fun ls x l y hrun hx _ hstep => hx.step hdec hlen hrun hstep

/-- **The race is what `joining` says of it**, but for the text of an error: the operation has left
some error, and the timer was cancelled or its handler ran before or behind the end of the
operation. -/
theorem joined_of_run (hdec : deserializeAcknowledge payload = .ok ack)
    (hlen : payload.length < 2 ^ 32) (h : (machine (frame payload ++ rest)).Run start ls x)
    (hover : x.Over) :
    ∃ err timer, Outcome payload ack x.cancelled x.surroundings x.value err ∧
      (timer = TimerEnd.cancelled ↔ x.timer = .cancelled) ∧
      (x.err = none ↔ errorAfter timer err = none) := by
  obtain ⟨hordered, -, hfailed, hstanding, -⟩ := invariant_of_run hdec hlen h
  obtain ⟨err, hr, herr⟩ := hstanding.over hover
  rcases hover.2 with ht | ht
  · have hc : x.cancelled = false := by
      rw [Bool.eq_false_iff, ne_eq, ← hordered.ran, ht]
      intro hran
      cases hran
    exact ⟨err, .cancelled, hr, by simp [ht], by rw [herr hc, errorAfter]⟩
  · have herr' := Option.isSome_iff_ne_none.mp (hfailed (hordered.ran.mp ht))
    have hlast : errorAfter .ranLast err ≠ none := Option.some_ne_none _
    exact ⟨err, .ranLast, hr, by simp [ht], iff_of_false herr' hlast⟩

/-- **When the result of `ReceiveAcknowledge` is truthful**, over every order of the arrival of the
frame, the reads and the timer: exactly if the handler runs only before the first byte of the frame
has been read, or the frame never comes in full. -/
theorem ackRace_truthful_iff (hdec : deserializeAcknowledge payload = .ok ack)
    (hlen : payload.length < 2 ^ 32) (h : (machine (frame payload ++ rest)).Run start ls x)
    (hover : x.Over) :
    Truthful payload ack x ↔ Timely (frame payload ++ rest) ls ∨ ¬ Arrived payload x := by
  obtain ⟨hordered, hfollows, hfailed, hstanding, htimely⟩ := invariant_of_run hdec hlen h
  rw [htimely]
  have hpos : 0 < (frame payload).length := by
    rw [length_frame]
    exact Nat.succ_pos _
  obtain ⟨err, ⟨-, hread⟩, herr⟩ := hstanding.over hover
  by_cases hc : x.cancelled = true
  · -- the handler has run, so there is an error
    have herr' : x.err ≠ none := Option.isSome_iff_ne_none.mp (hfailed hc)
    constructor
    · intro ht
      by_cases harrived : Arrived payload x
      · exact .inl fun _ => ht.untouched herr' harrived
      · exact .inr harrived
    · intro hcases
      have h0 : Arrived payload x → x.surroundings.consumed = 0 := fun harrived =>
        hcases.elim (fun h0 => h0 hc) fun hlate => absurd harrived hlate
      refine ⟨iff_of_false herr' fun hwhole => ?_, fun hnone => absurd hnone herr', fun _ => h0⟩
      have harrived : Arrived payload x := by
        have := x.surroundings.bounded
        rw [Arrived]
        omega
      rw [h0 harrived] at hwhole
      omega
  · -- the operation has ended by itself
    refine iff_of_true ?_ (.inl fun hcancelled => absurd hcancelled hc)
    have hcancelled : x.cancelled = false := by simpa using hc
    have hx := herr hcancelled
    rcases hread with ⟨hwhole, hvalue, hnone⟩ | ⟨hlt, hsome, hshort⟩
    · rw [hnone] at hx
      exact ⟨iff_of_true hx hwhole, fun _ => hvalue, fun herr => absurd hx herr⟩
    · have herr' : x.err ≠ none := by
        rw [hx]
        exact Option.isSome_iff_ne_none.mp hsome
      have hlate : ¬ Arrived payload x := Nat.not_le.mpr (hshort hcancelled).2
      exact ⟨iff_of_false herr' hlt.ne, fun hnone => absurd hnone herr',
        fun _ harrived => absurd harrived hlate⟩

end Runs

/-- The bytes of the frame arrive. -/
def arriving (n : ℕ) : List (RaceLabel SessionCall.Answer AckEvent) :=
  List.replicate n (.happens .arrives)

/-- A read collects its bytes and is answered. -/
def reading (bs : Bytes) : List (RaceLabel SessionCall.Answer AckEvent) :=
  List.replicate bs.length (.happens .fetched) ++ [.answered ⟨.asyncRead bs.length, .ok bs⟩]

/-- The acknowledge `[4]` arrives and is read, and the timer is cancelled. -/
def promptLabels : List (RaceLabel SessionCall.Answer AckEvent) :=
  arriving 5 ++ reading [1, 0, 0, 0] ++ [.resumed] ++ reading [4] ++ [.resumed]

/-- The acknowledge arrives and is read; before the coroutine runs on, the timer expires. -/
def overtakenLabels : List (RaceLabel SessionCall.Answer AckEvent) :=
  arriving 5 ++ reading [1, 0, 0, 0] ++ [.resumed] ++ reading [4] ++ [.expired, .resumed, .handled]

omit [Platform] in
theorem ackRace_truthful_sample :
    letI := Platform.littleEndian
    ∃ x, (machine (frame [4] ++ [])).Run start promptLabels x ∧ x.Over ∧
      (Truthful [4] ⟨.operationCompleted⟩ x ↔
        Timely (frame [4] ++ []) promptLabels ∨ ¬ Arrived [4] x) := by
  let _ := Platform.littleEndian
  have hrun : (machine (frame [4] ++ [])).Run start promptLabels _ := Machine.exec_run rfl
  exact ⟨_, hrun, ⟨trivial, .inl rfl⟩, ackRace_truthful_iff rfl (by decide) hrun ⟨trivial, .inl rfl⟩⟩

omit [Platform] in
/-- An acknowledge that was consumed whole and is reported as a timeout. -/
theorem acknowledge_swallowed :
    letI := Platform.littleEndian
    ∃ x, (machine (frame [4] ++ [])).Run start overtakenLabels x ∧ x.Over ∧ Arrived [4] x ∧
      ¬ Truthful [4] ⟨.operationCompleted⟩ x := by
  let _ := Platform.littleEndian
  have hrun : (machine (frame [4] ++ [])).Run start overtakenLabels _ := Machine.exec_run rfl
  refine ⟨_, hrun, ⟨trivial, .inr rfl⟩, (by decide : 5 ≤ 5), fun ht => ?_⟩
  have hnone : some Err.timeoutExpired = none := ht.whole.mpr rfl
  cases hnone

end ReceiveAcknowledge

end DocaCpp
