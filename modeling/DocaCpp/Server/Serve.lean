/-
# `RdmaServer::Serve`

One thread runs `Serve`: it prepares the server, spawns the accept loop and goes around its event
loop, in which the accept loop, the sessions and the completion handlers of the sessions run while
`ioContext.poll()` does.  The sessions and the storage they share are a `Pool`; `Serving` adds the
thread, the accept loop and the variables the threads share.  `Shutdown` and the destructor write
three of these from other threads, and any number of calls of theirs is any order of those writes.

§1 is the machine, §2 its steps as a relation, for case analysis, and §3 what it does with its
sessions: they are the sessions of a pool, and one runs its completion handler once.
-/
import DocaCpp.Pool

namespace DocaCpp

/-! ## 1. The machine -/

/-- The calls of `Serve` before it spawns anything that can fail by an error. -/
inductive SetupStep
  | map
  | create
  | start
  | listen
  deriving DecidableEq

/-- What `Serve` wraps an error of the call with. -/
def SetupStep.text : SetupStep → String
  | map => "Failed to map endpoints memory"
  | create => "Failed to create RDMA executor"
  | start => "Failed to start RDMA executor"
  | listen => "Failed to listen to port"

/-- Where the thread that runs `Serve` stands. -/
inductive ServePhase
  | guard
  | endpoints
  | setup (s : SetupStep)
  /-- the event loop and the acceptor are made, and the accept loop is spawned -/
  | spawn
  /-- at the head of the loop, about to load `continueServing` -/
  | head
  /-- about to look at `serverInternalError` -/
  | check
  | progress
  /-- inside of `ioContext.poll()` -/
  | poll
  | close
  /-- at the head of the second loop, about to load `shutdownForced` -/
  | forced
  /-- about to ask `ioContext.stopped()` -/
  | drained
  /-- inside of the second `ioContext.poll()` -/
  | drain
  | returned (err : error)
  deriving DecidableEq

/-- Where `Serve` stands once a call has succeeded. -/
def SetupStep.next : SetupStep → ServePhase
  | map => .setup .create
  | create => .setup .start
  | start => .setup .listen
  | listen => .spawn

/-- Where the accept loop stands. -/
inductive AcceptLoop
  /-- about to load `continueServing` -/
  | head
  | accepting
  | left
  /-- an exception has left it, with `continueServing` as it was then -/
  | threw (continueServing : Bool)
  deriving DecidableEq

variable [Platform] {ι : Type}

/-- A server that is serving, by the sessions it accepts. -/
structure Serving (ι : Type) where
  phase : ServePhase := .guard
  isServing : Bool := false
  continueServing : Bool := true
  shutdownForced : Bool := false
  serverInternalError : error := none
  /-- `ioContext.stopped()` -/
  stopped : Bool := false
  acceptLoop : AcceptLoop := .head
  pool : Pool ι
  accepted : ι → Bool := fun _ => false
  /-- the completion handler of the session has run -/
  completed : ι → Bool := fun _ => false

/-- What can happen next. -/
inductive ServeLabel (ι : Type)
  | guard
  | endpoints
  | setup (err : error)
  | spawn
  | head
  | check
  | progress
  /-- `ioContext.poll()` returns -/
  | polled
  | close
  | forced
  | drained
  /-- an exception gets to the `catch` of `Serve` -/
  | throws (what : String)
  /-- the accept loop loads `continueServing` -/
  | accepting
  /-- it accepts a client and spawns its session -/
  | accept (i : ι)
  | acceptThrows
  | session (i : ι) (ev : SessionEvent)
  /-- the completion handler of a session runs -/
  | complete (i : ι)
  /-- another thread clears `continueServing` -/
  | stopServing
  /-- another thread stores to `shutdownForced` -/
  | force (flag : Bool)

/-- The error `co_spawn` hands to the completion handler of a session that is over: what it has
returned, or the default if an exception has left it. -/
def completionError (c : Session) : Option error :=
  match c with
  | .ended err => some err
  | c => if c.pending serverPass = some .unwind then some none else none

namespace Serving

/-- `Serve` returns, and the deferred function resets `isServing`. -/
def returns (x : Serving ι) (err : error) : Serving ι :=
  { x with phase := .returned err, isServing := false }

/-- The event loop runs handlers. -/
def polling (x : Serving ι) : Bool := (x.phase = .poll || x.phase = .drain) && !x.stopped

/-- Where an exception gets to the `catch` from: the acceptor (which is closed in two places), the
spawning and the polls. -/
def guarded (x : Serving ι) : Bool :=
  x.phase = .spawn || x.phase = .poll || x.phase = .close || x.phase = .drain ||
    (x.phase = .check && x.serverInternalError.isSome)

variable [DecidableEq ι]

/-- One step. -/
def step (x : Serving ι) : ServeLabel ι → Option (Serving ι)
  | .guard =>
    if x.phase = .guard then
      -- under `serveMutex`; the deferred function is not yet there
      if x.isServing then
        some { x with phase := .returned (some (.new "Server is already serving")) }
      else some { x with phase := .endpoints, isServing := true }
    else none
  | .endpoints =>
    if x.phase = .endpoints then
      -- a storage that is null has no endpoints either
      if x.pool.storage.isEmpty then
        some (x.returns (some (.new "No endpoints to process; register endpoints before serving")))
      else some { x with phase := .setup .map }
    else none
  | .setup err =>
    match x.phase with
    | .setup s =>
      match err with
      | some err => some (x.returns (wrap err s.text))
      | none => some { x with phase := s.next }
    | _ => none
  | .spawn => if x.phase = .spawn then some { x with phase := .head } else none
  | .head =>
    if x.phase = .head then
      some { x with phase := if x.continueServing then .check else .close }
    else none
  | .check =>
    if x.phase = .check then
      match x.serverInternalError with
      | some err => some ({ x with stopped := true }.returns (wrap err "Server internal error"))
      | none => some { x with phase := .progress }
    else none
  | .progress => if x.phase = .progress then some { x with phase := .poll } else none
  | .polled =>
    match x.phase with
    | .poll => some { x with phase := .head }
    | .drain => some { x with phase := .forced }
    | _ => none
  | .close => if x.phase = .close then some { x with phase := .forced, stopped := true } else none
  | .forced =>
    if x.phase = .forced then
      if x.shutdownForced then some (x.returns none) else some { x with phase := .drained }
    else none
  | .drained =>
    if x.phase = .drained then
      if x.stopped then some (x.returns none) else some { x with phase := .drain }
    else none
  | .throws what =>
    if x.guarded then
      some (x.returns (some (.new ("Caught exception from communication handler: " ++ what))))
    else none
  | .accepting =>
    if x.polling ∧ x.acceptLoop = .head then
      some { x with acceptLoop := if x.continueServing then .accepting else .left }
    else none
  | .accept i =>
    if x.polling ∧ x.acceptLoop = .accepting ∧ x.accepted i = false then
      some { x with acceptLoop := .head, accepted := Function.update x.accepted i true }
    else none
  | .acceptThrows =>
    if x.polling ∧ x.acceptLoop = .accepting then
      some { x with acceptLoop := .threw x.continueServing }
    else none
  | .session i ev =>
    if x.polling ∧ x.accepted i = true then
      (x.pool.step (i, ev)).map fun pool => { x with pool := pool }
    else none
  | .complete i =>
    if x.polling ∧ x.accepted i = true ∧ x.completed i = false then
      (completionError (x.pool.session i)).map fun err =>
        { x with serverInternalError := err, completed := Function.update x.completed i true }
    else none
  | .stopServing => some { x with continueServing := false }
  | .force flag => some { x with shutdownForced := flag }

/-- A call of `Serve` on a server with this storage; whether another call is inside is for
`isServing` to say. -/
def start (storage : RdmaEndpointStorage) (isServing : Bool) : Serving ι :=
  { pool := Pool.start ι storage, isServing := isServing }

end Serving

/-- A server that is serving, as a machine. -/
def serve (ι : Type) [DecidableEq ι] : Machine (Serving ι) (ServeLabel ι) := ⟨Serving.step⟩

/-! ## 2. What the steps can do -/

namespace Serving

variable [DecidableEq ι] {x y : Serving ι}

/-- What the steps can do, label by label. -/
inductive Moves (x : Serving ι) : ServeLabel ι → Serving ι → Prop
  | refused (hp : x.phase = .guard) (hs : x.isServing = true) :
      Moves x .guard { x with phase := .returned (some (.new "Server is already serving")) }
  | entered (hp : x.phase = .guard) (hs : x.isServing = false) :
      Moves x .guard { x with phase := .endpoints, isServing := true }
  | noEndpoints (hp : x.phase = .endpoints) (hs : x.pool.storage.isEmpty = true) :
      Moves x .endpoints
        (x.returns (some (.new "No endpoints to process; register endpoints before serving")))
  | endpoints (hp : x.phase = .endpoints) (hs : x.pool.storage.isEmpty = false) :
      Moves x .endpoints { x with phase := .setup .map }
  | setupFailed (s : SetupStep) (err : Err) (hp : x.phase = .setup s) :
      Moves x (.setup (some err)) (x.returns (wrap err s.text))
  | setup (s : SetupStep) (hp : x.phase = .setup s) :
      Moves x (.setup none) { x with phase := s.next }
  | spawn (hp : x.phase = .spawn) : Moves x .spawn { x with phase := .head }
  | head (hp : x.phase = .head) :
      Moves x .head { x with phase := if x.continueServing then .check else .close }
  | checkFailed (err : Err) (hp : x.phase = .check) (he : x.serverInternalError = some err) :
      Moves x .check ({ x with stopped := true }.returns (wrap err "Server internal error"))
  | check (hp : x.phase = .check) (he : x.serverInternalError = none) :
      Moves x .check { x with phase := .progress }
  | progress (hp : x.phase = .progress) : Moves x .progress { x with phase := .poll }
  | polled (hp : x.phase = .poll) : Moves x .polled { x with phase := .head }
  | drainPolled (hp : x.phase = .drain) : Moves x .polled { x with phase := .forced }
  | close (hp : x.phase = .close) : Moves x .close { x with phase := .forced, stopped := true }
  | interrupted (hp : x.phase = .forced) (hf : x.shutdownForced = true) :
      Moves x .forced (x.returns none)
  | forced (hp : x.phase = .forced) (hf : x.shutdownForced = false) :
      Moves x .forced { x with phase := .drained }
  | finished (hp : x.phase = .drained) (hs : x.stopped = true) : Moves x .drained (x.returns none)
  | drained (hp : x.phase = .drained) (hs : x.stopped = false) :
      Moves x .drained { x with phase := .drain }
  | throws (what : String) (hg : x.guarded = true) :
      Moves x (.throws what)
        (x.returns (some (.new ("Caught exception from communication handler: " ++ what))))
  | accepting (hp : x.polling = true) (ha : x.acceptLoop = .head) :
      Moves x .accepting
        { x with acceptLoop := if x.continueServing then .accepting else .left }
  | accept (i : ι) (hp : x.polling = true) (ha : x.acceptLoop = .accepting)
      (hi : x.accepted i = false) :
      Moves x (.accept i)
        { x with acceptLoop := .head, accepted := Function.update x.accepted i true }
  | acceptThrows (hp : x.polling = true) (ha : x.acceptLoop = .accepting) :
      Moves x .acceptThrows { x with acceptLoop := .threw x.continueServing }
  | session (i : ι) (ev : SessionEvent) (pool : Pool ι) (hp : x.polling = true)
      (hi : x.accepted i = true) (hs : x.pool.step (i, ev) = some pool) :
      Moves x (.session i ev) { x with pool := pool }
  | complete (i : ι) (err : error) (hp : x.polling = true) (hi : x.accepted i = true)
      (hc : x.completed i = false) (he : completionError (x.pool.session i) = some err) :
      Moves x (.complete i)
        { x with serverInternalError := err, completed := Function.update x.completed i true }
  | stopServing : Moves x .stopServing { x with continueServing := false }
  | force (flag : Bool) : Moves x (.force flag) { x with shutdownForced := flag }

/-- A step is one of these moves. -/
theorem step_moves {l : ServeLabel ι} (h : x.step l = some y) : Moves x l y := by
  cases l with
  | guard =>
    obtain ⟨hp, h⟩ := Option.ite_none_right_eq_some.mp h
    split at h
    next hs =>
      cases h
      exact .refused hp hs
    next hs =>
      cases h
      exact .entered hp (Bool.eq_false_iff.mpr hs)
  | endpoints =>
    obtain ⟨hp, h⟩ := Option.ite_none_right_eq_some.mp h
    split at h
    next hs =>
      cases h
      exact .noEndpoints hp hs
    next hs =>
      cases h
      exact .endpoints hp (Bool.eq_false_iff.mpr hs)
  | setup err =>
    simp only [step] at h
    split at h
    next s hp =>
      cases err with
      | some err =>
        cases h
        exact .setupFailed s err hp
      | none =>
        cases h
        exact .setup s hp
    next => cases h
  | spawn =>
    obtain ⟨hp, h⟩ := Option.ite_none_right_eq_some.mp h
    cases h
    exact .spawn hp
  | head =>
    obtain ⟨hp, h⟩ := Option.ite_none_right_eq_some.mp h
    cases h
    exact .head hp
  | check =>
    obtain ⟨hp, h⟩ := Option.ite_none_right_eq_some.mp h
    split at h
    next err he =>
      cases h
      exact .checkFailed err hp he
    next he =>
      cases h
      exact .check hp he
  | progress =>
    obtain ⟨hp, h⟩ := Option.ite_none_right_eq_some.mp h
    cases h
    exact .progress hp
  | polled =>
    simp only [step] at h
    split at h
    next hp =>
      cases h
      exact .polled hp
    next hp =>
      cases h
      exact .drainPolled hp
    next => cases h
  | close =>
    obtain ⟨hp, h⟩ := Option.ite_none_right_eq_some.mp h
    cases h
    exact .close hp
  | forced =>
    obtain ⟨hp, h⟩ := Option.ite_none_right_eq_some.mp h
    split at h
    next hf =>
      cases h
      exact .interrupted hp hf
    next hf =>
      cases h
      exact .forced hp (Bool.eq_false_iff.mpr hf)
  | drained =>
    obtain ⟨hp, h⟩ := Option.ite_none_right_eq_some.mp h
    split at h
    next hs =>
      cases h
      exact .finished hp hs
    next hs =>
      cases h
      exact .drained hp (Bool.eq_false_iff.mpr hs)
  | throws what =>
    obtain ⟨hg, h⟩ := Option.ite_none_right_eq_some.mp h
    cases h
    exact .throws what hg
  | accepting =>
    obtain ⟨⟨hp, ha⟩, h⟩ := Option.ite_none_right_eq_some.mp h
    cases h
    exact .accepting hp ha
  | accept i =>
    obtain ⟨⟨hp, ha, hi⟩, h⟩ := Option.ite_none_right_eq_some.mp h
    cases h
    exact .accept i hp ha hi
  | acceptThrows =>
    obtain ⟨⟨hp, ha⟩, h⟩ := Option.ite_none_right_eq_some.mp h
    cases h
    exact .acceptThrows hp ha
  | session i ev =>
    obtain ⟨⟨hp, hi⟩, h⟩ := Option.ite_none_right_eq_some.mp h
    obtain ⟨pool, hs, rfl⟩ := Option.map_eq_some_iff.mp h
    exact .session i ev pool hp hi hs
  | complete i =>
    obtain ⟨⟨hp, hi, hc⟩, h⟩ := Option.ite_none_right_eq_some.mp h
    obtain ⟨err, he, rfl⟩ := Option.map_eq_some_iff.mp h
    exact .complete i err hp hi hc he
  | stopServing =>
    cases h
    exact .stopServing
  | force flag =>
    cases h
    exact .force flag

end Serving

/-! ## 3. The sessions -/

/-- What of a step concerns the sessions. -/
def ServeLabel.atSession : ServeLabel ι → Option (ι × SessionEvent)
  | .session i ev => some (i, ev)
  | _ => none

/-- What the sessions have done. -/
def sessionHistory (ls : List (ServeLabel ι)) : List (ι × SessionEvent) :=
  ls.filterMap ServeLabel.atSession

section Sessions

variable [DecidableEq ι] {x y : Serving ι} {ls : List (ServeLabel ι)} {l : ServeLabel ι} {i : ι}
  {storage : RdmaEndpointStorage} {isServing : Bool}
  {Good : List (ServeLabel ι) → Serving ι → ServeLabel ι → Prop}

/-- Only the sessions change the pool. -/
theorem Serving.Moves.pool (h : Serving.Moves x l y) :
    match l.atSession with
    | none => y.pool = x.pool
    | some e => x.pool.step e = some y.pool := by
  cases h with
  | session i ev pool hp hi hs => exact hs
  | _ => rfl

/-- **The sessions of a server are a pool**, and what is known of the steps of the server there is
known of the steps of the pool. -/
theorem serve_pool (h : (serve ι).RunWith Good (Serving.start storage isServing) ls x) :
    (pool ι).Run (Pool.start ι storage) (sessionHistory ls) x.pool := by
  refine Machine.RunWith.project Serving.pool ServeLabel.atSession ?_ h
  intro ls x l y _ _ hstep
  have hpool := (Serving.step_moves hstep).pool
  cases hl : l.atSession with
  | none =>
    rw [hl] at hpool
    exact hpool
  | some e =>
    rw [hl] at hpool
    exact ⟨trivial, hpool⟩

/-- What one session of the server has done is a run of a server session. -/
theorem serve_session (h : (serve ι).RunWith Good (Serving.start storage isServing) ls x) (i : ι) :
    ServerRun (eventsOf i (sessionHistory ls)) (x.pool.session i) := pool_session (serve_pool h) i

omit [Platform] [DecidableEq ι] in
theorem sessionHistory_snoc (ls : List (ServeLabel ι)) (l : ServeLabel ι) :
    sessionHistory (ls ++ [l]) = sessionHistory ls ++ l.atSession.toList := by
  unfold sessionHistory
  rw [List.filterMap_append]
  cases h : l.atSession with
  | none => simp [h]
  | some e => simp [h]

omit [Platform] in
/-- What a session does leaves the history of every other session alone, and the steps of `Serve`
that of every session. -/
theorem eventsOf_snoc {i : ι} (h : ∀ ev, l ≠ .session i ev) :
    eventsOf i (sessionHistory (ls ++ [l])) = eventsOf i (sessionHistory ls) := by
  rw [sessionHistory_snoc]
  cases l with
  | session j ev =>
    have hne : j ≠ i := by
      rintro rfl
      exact h ev rfl
    simp [ServeLabel.atSession, eventsOf, hne]
  | _ => simp [ServeLabel.atSession]

/-- A session that is over has returned, or has been left by an exception. -/
theorem completionError_cases {c : Session} {err : error} (h : completionError c = some err) :
    c = .ended err ∨ c.pending serverPass = some .unwind ∧ err = none := by
  cases c with
  | ended err' =>
    cases h
    exact .inl rfl
  | head | inside p =>
    simp only [completionError] at h
    obtain ⟨hunwind, h⟩ := Option.ite_none_right_eq_some.mp h
    cases h
    exact .inr ⟨hunwind, rfl⟩

/-- A session that is over makes no further call. -/
theorem completionError_resume {c c' : Session} {ev : SessionEvent} {err : error}
    (h : completionError c = some err) : c.resume serverPass ev ≠ some c' := by
  intro hr
  have hpending := Loop.pending_of_resume hr
  rcases completionError_cases h with rfl | ⟨hunwind, -⟩
  · cases hpending
  · rw [hpending] at hunwind
    obtain ⟨op, r⟩ := ev
    cases hunwind
    exact r.elim

end Sessions

end DocaCpp
