/-
# What a shutdown drains

`Shutdown` clears `continueServing`, and `Serve` leaves its event loop at the next load.  What
follows is meant to process the remaining events until the shutdown is forced, but
`ioContext.stop()` comes first: the second loop asks `ioContext.stopped()` before it polls, the
answer is yes, and nothing is processed any more.

`serve_drains_iff` says in which runs a shutdown is graceful all the same: in those in which every
session was over already, or `shutdownForced` had been set, when the acceptor is closed.
-/
import DocaCpp.Lib.History
import DocaCpp.Server.Failures

namespace DocaCpp

variable [Platform] {ι : Type}

/-! ## 1. A graceful shutdown -/

/-- A call of `Serve` on a server with this storage and these flags. -/
def Serving.call (storage : RdmaEndpointStorage) (isServing continueServing shutdownForced : Bool) :
    Serving ι :=
  { pool := Pool.start ι storage, isServing := isServing, continueServing := continueServing,
    shutdownForced := shutdownForced }

/-- Every session that was accepted has returned, or has been left by an exception. -/
def Serving.AllReturned (x : Serving ι) : Prop :=
  ∀ i, x.accepted i = true → (completionError (x.pool.session i)).isSome = true

/-- `shutdownForced` was set when `Serve` was called, or has been set since. -/
def Forced (shutdownForced : Bool) (ls : List (ServeLabel ι)) : Prop :=
  shutdownForced = true ∨ ServeLabel.force true ∈ ls

/-- The shutdown is graceful so far: until every session is over or the shutdown is forced, `Serve`
has neither returned null nor stopped the context its handlers run in. -/
structure Serving.Drains (shutdownForced : Bool) (ls : List (ServeLabel ι)) (x : Serving ι) :
    Prop where
  null : x.phase = .returned none → x.AllReturned ∨ Forced shutdownForced ls
  running : x.stopped = true → (∀ err, x.phase ≠ .returned err) →
    x.AllReturned ∨ Forced shutdownForced ls

section Drain

variable [DecidableEq ι] {x y : Serving ι} {ls : List (ServeLabel ι)} {l : ServeLabel ι}
  {storage : RdmaEndpointStorage} {isServing continueServing shutdownForced : Bool}

omit [Platform] [DecidableEq ι] in
theorem Forced.snoc (h : Forced shutdownForced ls) : Forced shutdownForced (ls ++ [l]) :=
  h.imp_right (List.mem_append_left [l])

/-! ## 2. A context that has been stopped -/

/-- What the flags of the thread say at each point of `Serve`. -/
structure Serving.Follows (shutdownForced : Bool) (ls : List (ServeLabel ι)) (x : Serving ι) :
    Prop where
  forced : x.shutdownForced = true → Forced shutdownForced ls
  closed : x.phase = .forced ∨ x.phase = .drained ∨ x.phase = .returned none → x.stopped = true
  /-- the second loop never polls -/
  drain : x.phase ≠ .drain
  stopped : x.stopped = true → x.phase = .forced ∨ x.phase = .drained ∨
    ∃ err, x.phase = .returned err

omit [Platform] [DecidableEq ι] in
/-- Handlers run in the first loop only. -/
theorem Serving.Follows.polling (hf : x.Follows shutdownForced ls) (h : x.polling = true) :
    x.phase = .poll ∧ x.stopped = false := by
  have hstopped : x.stopped = false := by
    simp only [Serving.polling, Bool.and_eq_true, Bool.not_eq_true'] at h
    exact h.2
  rcases Serving.polling_phase h with hp | hp
  · exact ⟨hp, hstopped⟩
  · exact absurd hp hf.drain

/-- **Every step keeps the account of the flags.** -/
theorem Serving.Follows.step (hf : x.Follows shutdownForced ls) (h : Serving.Moves x l y) :
    y.Follows shutdownForced (ls ++ [l]) where
  forced := by
    intro hy
    cases h with
    | force flag =>
      have hflag : flag = true := hy
      exact .inr (by simp [hflag])
    | _ => exact (hf.forced hy).snoc
  closed := by
    intro hy
    cases h with
    | close hp => rfl
    | forced hp hs | interrupted hp hs => exact hf.closed (.inl hp)
    | finished hp hs => exact hs
    | checkFailed err hp he => rfl
    | drainPolled hp => exact absurd hp hf.drain
    | accepting hp | accept _ hp | acceptThrows hp | session _ _ _ hp | complete _ _ hp =>
      obtain ⟨hpoll, -⟩ := hf.polling hp
      dsimp only at hy
      rw [hpoll] at hy
      rcases hy with hy | hy | hy <;> cases hy
    | stopServing | force flag => exact hf.closed hy
    | head hp =>
      dsimp only at hy
      split at hy <;> rcases hy with hy | hy | hy <;> cases hy
    | setup s hp => cases s <;> rcases hy with hy | hy | hy <;> cases hy
    | _ => rcases hy with hy | hy | hy <;> cases hy
  drain := by
    intro hy
    cases h with
    | drained hp hs =>
      have hstopped := hf.closed (.inr (.inl hp))
      rw [hs] at hstopped
      cases hstopped
    | head hp =>
      dsimp only at hy
      split at hy <;> cases hy
    | setup s hp => cases s <;> cases hy
    | accepting | accept | acceptThrows | session | complete | stopServing | force =>
      exact hf.drain hy
    | _ => cases hy
  stopped := by
    intro hy
    cases h with
    | close hp => exact .inl rfl
    | checkFailed err hp he => exact .inr (.inr ⟨_, rfl⟩)
    | forced hp hs => exact .inr (.inl rfl)
    | refused | noEndpoints | setupFailed | interrupted | finished | throws =>
      exact .inr (.inr ⟨_, rfl⟩)
    | drained hp hs =>
      dsimp only at hy
      rw [hs] at hy
      cases hy
    | accepting | accept | acceptThrows | session | complete | stopServing | force =>
      exact hf.stopped hy
    | setup s hp => rcases hf.stopped hy with hx | hx | ⟨err, hx⟩ <;> rw [hp] at hx <;> cases hx
    | _ hp =>
      rcases hf.stopped hy with hx | hx | ⟨err, hx⟩ <;> rw [hp] at hx <;> cases hx

/-- The account holds in every run of a call. -/
theorem serve_follows
    (h : (serve ι).Run (Serving.call storage isServing continueServing shutdownForced) ls x) :
    x.Follows shutdownForced ls := by
  refine Machine.RunWith.invariant (I := fun ls x => x.Follows shutdownForced ls) ?_ ?_ h
  · exact {
      forced := .inl
      closed := by rintro (h | h | h) <;> cases h
      drain := nofun
      stopped := nofun }
  · intro ls x l y _ hI _ hstep
    exact hI.step (Serving.step_moves hstep)

/-- **Nothing runs in a context that has been stopped**: no client is accepted, and no session goes
on. -/
theorem Serving.Follows.frozen (hf : x.Follows shutdownForced ls) (hs : x.stopped = true)
    (h : Serving.Moves x l y) : y.pool = x.pool ∧ y.accepted = x.accepted := by
  cases h with
  | accept i hp | session i ev pool hp =>
    have hstopped := (hf.polling hp).2
    rw [hs] at hstopped
    cases hstopped
  | _ => exact ⟨rfl, rfl⟩

/-! ## 3. The result -/

/-- A step is allowed: if it closes the acceptor, every session is over or the shutdown is
forced. -/
def ClosesDrained (shutdownForced : Bool) (ls : List (ServeLabel ι)) (x : Serving ι)
    (l : ServeLabel ι) : Prop := l = .close → x.AllReturned ∨ Forced shutdownForced ls

omit [DecidableEq ι] in
/-- Closing the acceptor is where it is decided whether a shutdown is graceful. -/
theorem Serving.drains_close (x : Serving ι) :
    Serving.Drains shutdownForced (ls ++ [.close]) { x with phase := .forced, stopped := true } ↔
      x.AllReturned ∨ Forced shutdownForced ls := by
  have hforced : Forced shutdownForced (ls ++ [ServeLabel.close (ι := ι)]) ↔
      Forced shutdownForced ls := by simp [Forced]
  rw [← hforced]
  constructor
  · intro h
    exact h.running rfl nofun
  · intro h
    exact ⟨nofun, fun _ _ => h⟩

/-- What else stops the context: an error of a session, with which `Serve` returns. -/
theorem Serving.Moves.stopped (h : Serving.Moves x l y) (hy : y.stopped = true) (hl : l ≠ .close) :
    x.stopped = true ∨ ∃ err, y.phase = .returned (some err) := by
  cases h with
  | close => exact absurd rfl hl
  | checkFailed err hp he => exact .inr ⟨_, rfl⟩
  | _ => exact .inl hy

/-- Every other step keeps it as it is. -/
theorem Serving.Drains.step (hd : x.Drains shutdownForced ls) (hf : x.Follows shutdownForced ls)
    (h : Serving.Moves x l y) (hl : l ≠ .close) : y.Drains shutdownForced (ls ++ [l]) := by
  have hy : y.stopped = true → (∀ err, y.phase ≠ .returned (some err)) →
      y.AllReturned ∨ Forced shutdownForced (ls ++ [l]) := by
    intro hs hp
    have hstopped : x.stopped = true := by
      rcases h.stopped hs hl with hx | ⟨err, herr⟩
      · exact hx
      · exact absurd herr (hp err)
    have hx : x.AllReturned ∨ Forced shutdownForced ls := by
      by_cases hnull : x.phase = .returned none
      · exact hd.null hnull
      · refine hd.running hstopped fun err herr => ?_
        cases err with
        | none => exact hnull herr
        | some err => exact hp err (h.returned herr)
    obtain ⟨hpool, haccepted⟩ := hf.frozen hstopped h
    refine hx.imp (fun hall i hi => ?_) Forced.snoc
    rw [haccepted] at hi
    rw [hpool]
    exact hall i hi
  constructor
  · intro hnull
    refine hy ((hf.step h).closed (.inr (.inr hnull))) fun err herr => ?_
    rw [hnull] at herr
    cases herr
  · intro hs hp
    exact hy hs fun err => hp (some err)

/-- **When a shutdown is graceful.**  In every run of `Serve`, with any number of sessions at any
points of their protocol, `Serve` has at every time drained its sessions so far, exactly if every
session was over or `shutdownForced` had been set when it closed the acceptor. -/
theorem serve_drains_iff (storage : RdmaEndpointStorage)
    (isServing continueServing shutdownForced : Bool) (ls : List (ServeLabel ι)) :
    (serve ι).AlwaysIn (Serving.call storage isServing continueServing shutdownForced)
        (fun ls x => x.Drains shutdownForced ls) ls ↔
      (serve ι).EveryStep (Serving.call storage isServing continueServing shutdownForced)
        (ClosesDrained shutdownForced) ls := by
  refine Machine.alwaysIn_iff ⟨nofun, nofun⟩ fun ls x l y hrun hd hstep => ?_
  have hmoves := Serving.step_moves hstep
  by_cases hl : l = .close
  · subst hl
    cases hmoves with
    | close hp =>
      rw [x.drains_close]
      exact ⟨fun h _ => h, fun h => h rfl⟩
  · exact iff_of_true (hd.step (serve_follows hrun) hmoves hl) fun hclose => absurd hclose hl

/-- The exchange of a read request up to the wait for the acknowledge. -/
def awaitingEvents : List SessionEvent := servedEvents.take 13

/-- The client of such an exchange is awaited to acknowledge, and `Shutdown` is called. -/
def abandonedLabels : List (ServeLabel (Fin 1)) :=
  acceptingLabels ++ awaitingEvents.map (.session (Fin.last 0))
    ++ [.polled, .stopServing, .head, .close, .forced, .drained]

omit [Platform] in
/-- `Serve` returns null, and the session goes on holding its path for ever. -/
theorem shutdown_abandons :
    letI := Platform.littleEndian
    ¬ (serve (Fin 1)).AlwaysIn (Serving.call sampleStorage false true false)
        (fun ls x => x.Drains false ls) abandonedLabels ∧
      (logOf (Fin.last 0) (sessionHistory abandonedLabels)).held = [sampleEndpoint.path] := by
  let _ := Platform.littleEndian
  have hexec : ((serve (Fin 1)).exec (Serving.call sampleStorage false true false)
      abandonedLabels).any (fun x => decide (x.phase = .returned none ∧
        x.accepted (Fin.last 0) = true ∧
        completionError (x.pool.session (Fin.last 0)) = none)) = true := by decide +kernel
  obtain ⟨x, hx, hend⟩ := (Option.any_eq_true _ _).mp hexec
  obtain ⟨hp, haccepted, hpending⟩ := of_decide_eq_true hend
  refine ⟨fun halways => ?_, by decide +kernel⟩
  rcases (halways.now x hx).null hp with hall | hforced | hforced
  · have hover := hall (Fin.last 0) haccepted
    rw [hpending] at hover
    cases hover
  · cases hforced
  · simp [abandonedLabels, acceptingLabels] at hforced

end Drain

end DocaCpp
