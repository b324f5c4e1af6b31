/-
# One response for every request

`HandleServerSession` answers a request at one of six places, and between two of them it may give
the request up: it continues, or it returns.  `exchanges` lists what a session has decoded with the
responses it has made for it, and `requests_answered_iff` says when every request has exactly one by
the time the next is awaited or the session is over: unless the wait for the connection fails, which
returns without a response where every other failure sends one, or the export or the service of a
read endpoint does not come back.
-/
import DocaCpp.Session.Locks
import DocaCpp.Lib.History

namespace DocaCpp

/-! ## 1. The exchanges of a session -/

/-- One more event: a request decoded, or a response made for the last one. -/
def noteExchange (xs : List (Request × List Responce)) (ev : SessionEvent) :
    List (Request × List Responce) :=
  match ev with
  | ⟨.deserializeRequest _, .ok request⟩ => (request, []) :: xs
  | ⟨.serializeResponse responce, _⟩ =>
    match xs with
    | [] => []
    | x :: xs => (x.1, responce :: x.2) :: xs
  | _ => xs

/-- The requests a session has decoded and the responses it has attempted to send for each, the last
ones first. -/
def exchanges (evs : List SessionEvent) : List (Request × List Responce) :=
  evs.foldl noteExchange []

@[simp] theorem exchanges_snoc (evs : List SessionEvent) (ev : SessionEvent) :
    exchanges (evs ++ [ev]) = noteExchange (exchanges evs) ev := by
  simp [exchanges]

/-- Every request has exactly one response. -/
def Answered (evs : List SessionEvent) : Prop := ∀ x ∈ exchanges evs, x.2.length = 1

/-- The last request has none yet, every other has one. -/
def Unanswered (evs : List SessionEvent) : Prop :=
  ∃ request xs, exchanges evs = (request, []) :: xs ∧ ∀ x ∈ xs, x.2.length = 1

/-- **The steps that give a request up without a response**: the wait for the connection fails, or
the export or the service of a read endpoint does not come back. -/
def GivesUp (ev : SessionEvent) : Prop :=
  match ev with
  | ⟨.waitForEstablishedConnection _, some _⟩ => True
  | ⟨.exportMemoryDescriptor _, .threw⟩ | ⟨.exportMemoryDescriptor _, .nullPointer⟩ => True
  | ⟨.handle endpoint, .threw⟩ | ⟨.handle endpoint, .nullPointer⟩ => endpoint.type = .read
  | _ => False

/-- The permission is given for what was found, exported and locked, and for a read endpoint behind
a call of its service that returned no error. -/
def Justified (pre : List SessionEvent) (ev : SessionEvent) : Prop :=
  ∀ responce bs, ev = ⟨.serializeResponse responce, bs⟩ →
    responce.responceCode = .operationPermitted →
    ∃ endpoint descriptor, (serverLog pre).current.endpoint = some endpoint ∧
      (serverLog pre).current.exported = some (.ok descriptor) ∧
      (serverLog pre).current.lock = some (true, none) ∧
      (endpoint.type = .read → (serverLog pre).current.handled = [(endpoint, .returned none)])

/-! ## 2. What the exchanges say at a point -/

/-- No step so far has given a request up. -/
def Kept (evs : List SessionEvent) : Prop := ∀ ev ∈ evs, ¬ GivesUp ev

/-- **What the exchanges say at a point.** -/
def ServerPhase.Exchanges (evs : List SessionEvent) : ServerPhase → Prop
  | connection _ | lookup _ | exportDescriptor _ _ | lock _ _ _ | prepare _ _ _
  | respond _ .serialize => Unanswered evs ∧ Kept evs
  | unwound | undefined | ended _ => Answered evs ↔ Kept evs
  | _ => Answered evs ∧ Kept evs

section Exchanges

variable {evs : List SessionEvent} {ev : SessionEvent}

theorem Unanswered.not_answered (h : Unanswered evs) : ¬ Answered evs := by
  obtain ⟨request, xs, hxs, -⟩ := h
  intro hall
  have hone := hall (request, []) (by rw [hxs]; exact List.mem_cons_self)
  cases hone

theorem kept_nil : Kept [] := fun _ hmem => nomatch hmem

theorem kept_snoc (hkept : Kept evs) (h : ¬ GivesUp ev) : Kept (evs ++ [ev]) :=
  List.forall_mem_append.mpr ⟨hkept, List.forall_mem_singleton.mpr h⟩

theorem not_kept_snoc (h : GivesUp ev) : ¬ Kept (evs ++ [ev]) :=
  fun hkept => hkept ev (List.mem_concat_self ..) h

/-- An event that is neither a request nor a response. -/
theorem answered_snoc (h : noteExchange (exchanges evs) ev = exchanges evs) :
    Answered (evs ++ [ev]) ↔ Answered evs := by
  rw [Answered, exchanges_snoc, h, Answered]

theorem serving_snoc (h : noteExchange (exchanges evs) ev = exchanges evs) :
    Unanswered (evs ++ [ev]) ↔ Unanswered evs := by
  rw [Unanswered, exchanges_snoc, h, Unanswered]

/-- A response is made for a request that has none. -/
theorem Unanswered.responds (h : Unanswered evs) (responce : Responce) (bs : Bytes) :
    Answered (evs ++ [⟨.serializeResponse responce, bs⟩]) := by
  obtain ⟨request, xs, hxs, hall⟩ := h
  rw [Answered, exchanges_snoc, hxs]
  exact List.forall_mem_cons.mpr ⟨rfl, hall⟩

/-- A request is decoded when all before it have their responses. -/
theorem Answered.decodes (h : Answered evs) (bs : Bytes) (request : Request) :
    Unanswered (evs ++ [⟨.deserializeRequest bs, .ok request⟩]) := by
  refine ⟨request, exchanges evs, ?_, h⟩
  rw [exchanges_snoc]
  rfl

/-- A session that has given a request up ends without having answered it. -/
theorem Unanswered.givenUp (h : Unanswered evs) (hev : GivesUp ev)
    (hsame : noteExchange (exchanges evs) ev = exchanges evs) :
    Answered (evs ++ [ev]) ↔ Kept (evs ++ [ev]) := by
  rw [answered_snoc hsame]
  exact iff_of_false h.not_answered (not_kept_snoc hev)

variable [Platform]

/-- **What the exchanges say at a point they say at the next.** -/
theorem ServerPhase.Exchanges.step {f f' : ServerPhase} (h : f.Exchanges evs)
    (hk : f.Knows (serverLog evs)) (hs : ServerStep f ev f') : f'.Exchanges (evs ++ [ev]) := by
  have hanswered : noteExchange (exchanges evs) ev = exchanges evs →
      ¬ GivesUp ev → Answered evs ∧ Kept evs →
      Answered (evs ++ [ev]) ∧ Kept (evs ++ [ev]) :=
    fun hsame hev h => ⟨(answered_snoc hsame).mpr h.1, kept_snoc h.2 hev⟩
  have hserving : noteExchange (exchanges evs) ev = exchanges evs →
      ¬ GivesUp ev → Unanswered evs ∧ Kept evs →
      Unanswered (evs ++ [ev]) ∧ Kept (evs ++ [ev]) :=
    fun hsame hev h => ⟨(serving_snoc hsame).mpr h.1, kept_snoc h.2 hev⟩
  cases hs with
  | isOpen | requestLength bs | requestLengthFailed ec | requestPayload size bs
  | requestPayloadFailed size ec | sendLength reply bs | ackTimer request endpoint
  | ackLength request endpoint bs | ackLengthFailed request endpoint ec
  | ackPayload request endpoint size bs | ackPayloadFailed request endpoint size ec
  | ackDecode request endpoint bs ack | processed request endpoint err
  | unlock request err => exact hanswered rfl id h
  | closed | requestFault bs fault | sendLengthFailed reply bs ec | sendPayloadFailed reply bs ec
  | ackFault request endpoint bs fault =>
    obtain ⟨ha, hkept⟩ := hanswered rfl id h
    exact iff_of_true ha hkept
  | requestDecode bs request => exact ⟨h.1.decodes bs request, kept_snoc h.2 id⟩
  | connection request | lookup request endpoint | lookupFailed request err
  | exportDescriptor request endpoint descriptor | exportFailed request endpoint err
  | lockFailed request endpoint descriptor flag err | locked request endpoint descriptor
  | prepared request endpoint descriptor | prepareFailed request endpoint descriptor err =>
    exact hserving rfl id h
  | granted request endpoint descriptor =>
    have hgranted := hserving rfl id h
    rcases granted_cases request endpoint descriptor with heq | heq <;> rw [heq] <;> exact hgranted
  | connectionFailed request err => exact h.1.givenUp trivial rfl
  | exportThrew request endpoint | exportNull request endpoint => exact h.1.givenUp trivial rfl
  | prepareThrew request endpoint descriptor | prepareNull request endpoint descriptor =>
    -- the service of a read endpoint is called in front of the response
    exact h.1.givenUp hk.2.2.2.1 rfl
  | serialize reply bs => exact ⟨h.1.responds reply.responce bs, kept_snoc h.2 id⟩
  | sendPayload reply bs =>
    have hsent := hanswered rfl id h
    cases reply with
    | exportFailed request endpoint descErr | lockFailed request endpoint descriptor lockErr =>
      exact iff_of_true hsent.1 hsent.2
    | permitted request endpoint descriptor =>
      rcases Reply.permitted_sent_cases request endpoint descriptor with heq | ⟨err, heq⟩
      · rw [heq]
        exact hsent
      · rw [heq]
        exact iff_of_true hsent.1 hsent.2
    | _ => exact hsent
  | ackJoin request endpoint ack err timer =>
    have hjoined := hanswered rfl id h
    rcases joined_cases request endpoint (Coro.errorAfter timer err) with heq | heq <;>
      rw [heq] <;> exact hjoined
  | processThrew request endpoint | processNull request endpoint =>
    -- that of a write endpoint behind it
    have hwrite : endpoint.type ≠ .read := fun hread => nomatch hread.symm.trans hk.1
    obtain ⟨ha, hkept⟩ := hanswered rfl hwrite h
    exact iff_of_true ha hkept

/-! ## 3. Every request -/

/-- The session serves no request: it is about to test `IsOpen` for the next one, or it is over. -/
def Between (c : Session) : Prop := AtRest c ∨ c.pending serverPass = some .undefined

instance (c : Session) : Decidable (Between c) := inferInstanceAs (Decidable (_ ∨ _))

theorem between_session {f : ServerPhase} (h : Between f.session) :
    f = .head ∨ f = .unwound ∨ f = .undefined ∨ ∃ err, f = .ended err := by
  rcases h with h | h
  · rcases atRest_session h with hf | hf | hf
    · exact .inl hf
    · exact .inr (.inl hf)
    · exact .inr (.inr (.inr hf))
  · cases f with
    | undefined => exact .inr (.inr (.inl rfl))
    | respond reply sending => cases sending <;> cases h
    | _ => cases h

end Exchanges

section Requests

variable [Platform] {evs : List SessionEvent} {ev : SessionEvent} {c : Session}

/-- Where a session has got to, its exchanges say what they must. -/
theorem server_exchanges (h : ServerRun evs c) :
    ∃ f : ServerPhase, c = f.session ∧ f.Exchanges evs := by
  have hstart : ServerPhase.head.Exchanges [] := ⟨fun x hx => (nomatch hx), kept_nil⟩
  obtain ⟨f, hc, -, hf⟩ := server_refines.run .head
    (I := fun evs f => f.Knows (serverLog evs) ∧ f.Exchanges evs) ⟨knows_start, hstart⟩
    (fun evs f ev f' hI hgood hs => by
      rw [serverLog_snoc]
      exact ⟨hI.1.step hs hgood, hI.2.step hI.1 hs⟩) h
  exact ⟨f, hc, hf⟩

omit [Platform] in
/-- Only a permission has this code. -/
theorem Reply.permitted_of_code {reply : Reply}
    (h : reply.responce.responceCode = .operationPermitted) :
    ∃ request endpoint descriptor, reply = .permitted request endpoint descriptor := by
  cases reply with
  | permitted request endpoint descriptor => exact ⟨request, endpoint, descriptor, rfl⟩
  | _ => cases h

/-- **Every permission is justified.** -/
theorem server_justified (h : ServerRun (evs ++ [ev]) c) : Justified evs ev := by
  rintro responce bs rfl hcode
  obtain ⟨f, f', hf, hs, -⟩ := server_last h
  obtain ⟨reply, sending, rfl, rfl⟩ := hs.sends hf (.inl rfl)
  obtain ⟨-, -, -, hcurrent⟩ := hf
  obtain ⟨request, endpoint, descriptor, rfl⟩ := Reply.permitted_of_code hcode
  rw [hcurrent]
  refine ⟨endpoint, descriptor, rfl, rfl, rfl, fun hread => ?_⟩
  exact if_pos hread

/-- **Every request gets exactly one response**, by the time the next is awaited or the session is
over, exactly if no step of the run gives a request up; and every permission is justified. -/
theorem requests_answered_iff (h : ServerRun evs c) :
    ((Between c → Answered evs) ↔ Kept evs) ∧ AtEvery Justified evs := by
  constructor
  · obtain ⟨f, rfl, hf⟩ := server_exchanges h
    by_cases hbetween : Between f.session
    · rw [forall_prop_of_true hbetween]
      rcases between_session hbetween with rfl | rfl | rfl | ⟨err, rfl⟩
      · exact iff_of_true hf.1 hf.2
      · exact hf
      · exact hf
      · exact hf
    · refine iff_of_true (fun hb => absurd hb hbetween) ?_
      cases f with
      | head => exact absurd (.inl (.inl rfl)) hbetween
      | unwound => exact absurd (.inl (.inr (.inr rfl))) hbetween
      | undefined => exact absurd (.inr rfl) hbetween
      | ended err => exact absurd (.inl (.inr (.inl rfl))) hbetween
      | respond reply sending => cases sending <;> exact hf.2
      | _ => exact hf.2
  · rintro pre ev ⟨post, rfl⟩
    obtain ⟨d, hrun, -⟩ := h.split
    exact server_justified hrun

omit [Platform] in
theorem requests_answered_sample :
    letI := Platform.littleEndian
    ∃ c, ServerRun servedEvents c ∧
      ((Between c → Answered servedEvents) ↔ Kept servedEvents) := by
  let _ := Platform.littleEndian
  obtain ⟨c, hrun, -⟩ := serverRun_atRest servedEvents sampleStorage
    (by decide +kernel) (by decide +kernel)
  exact ⟨c, hrun, (requests_answered_iff hrun).1⟩

/-- A client without an RDMA connection asks, and the wait for the connection runs out. -/
def unansweredEvents : List SessionEvent :=
  let payload := serializeRequest sampleRequest
  [⟨.isOpen, true⟩,
    ⟨.asyncRead 4, .ok (uint32Bytes payload.length)⟩,
    ⟨.asyncRead payload.length, .ok payload⟩,
    ⟨.deserializeRequest payload, .ok sampleRequest⟩,
    ⟨.waitForEstablishedConnection 3000, some .timeoutExpired⟩]

omit [Platform] in
/-- The session returns and its client is never told. -/
theorem request_unanswered :
    letI := Platform.littleEndian
    ∃ c, ServerRun unansweredEvents c ∧ Between c ∧ ¬ Answered unansweredEvents := by
  let _ := Platform.littleEndian
  obtain ⟨c, hrun, hrest⟩ := serverRun_atRest unansweredEvents sampleStorage
    (by decide +kernel) (by decide +kernel)
  refine ⟨c, hrun, .inl hrest, fun hall => ?_⟩
  have hone := hall (sampleRequest, []) (by decide +kernel)
  cases hone

end Requests

end DocaCpp
