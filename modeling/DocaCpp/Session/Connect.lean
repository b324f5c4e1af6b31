/-
# What `Connect` returns

`RdmaSessionClient::Connect` races `doConnect` against a timer.  The timeout handler asks whether
`connected` is set before it records a timeout, so the two branches agree on what has happened; but
the coroutine has a `co_return` only where there is an error to return.  When there is none it runs
off its end after it has set `isConnected`, and what its caller gets is undefined.

`connectRace_defined_iff` says that it returns a value, and then a truthful one, exactly if
something has failed: the resolution, the connection, or the connection in time.
-/
import DocaCpp.Base
import DocaCpp.Lib.Race
import DocaCpp.Lib.History

namespace DocaCpp

/-! ## 1. The race -/

/-- The calls of `doConnect`.  An endpoint of a peer is known by its text. -/
inductive ConnectCall
  | asyncResolve (host service : String)
  | asyncConnect (peers : List String)
  deriving DecidableEq

/-- The answers to a call. -/
@[reducible] def ConnectCall.Answer : ConnectCall → Type
  | asyncResolve _ _ => Except ErrorCode (List String)
  | asyncConnect _ => Except ErrorCode Unit

/-- `communication::Port`. -/
def port : ℕ := 41007

/-- A race of `Connect`, by the variable `connected`. -/
abbrev ConnectRace := Race ConnectCall.Answer Unit Bool Err

/-- What drives it. -/
abbrev ConnectLabel := RaceLabel ConnectCall.Answer Empty

namespace RdmaSessionClient

variable (serverAddress : String) (serverPort : ℕ)

/-- `doConnect` after the connection. -/
def afterConnect : Except ErrorCode Unit → Prog ConnectCall.Answer (Bool × error)
  | .error err1 =>
    .ret (false, some (.new ("Failed to connect to remote peer via socket: " ++ err1.message)))
  | .ok _ => .ret (true, none)

/-- `doConnect` after the resolution. -/
def afterResolve :
    Except ErrorCode (List String) → Prog ConnectCall.Answer (Bool × error)
  | .error err0 =>
    .ret (false, some (.new ("Failed to resolve remote connection: " ++ err0.message)))
  | .ok peers => .op (.asyncConnect peers) afterConnect

/-- The operation `doConnect` of `Connect`. -/
def doConnect : Prog ConnectCall.Answer (Bool × error) :=
  .op (.asyncResolve serverAddress (toString serverPort)) afterResolve

/-- The handler of the timer. -/
def timeout (connected : Bool) (connectionError : error) : error :=
  if !connected then some .timeoutExpired else connectionError

/-- The calls are answered in any way; one that is cut is answered by an error. -/
def surroundings : Surroundings ConnectCall.Answer Unit Empty where
  now _ := none
  happen _ event _ := nomatch event
  answer _ _ s := some s
  cut
    | .asyncResolve _ _, s => some (.error ⟨"Operation canceled"⟩, s)
    | .asyncConnect _, s => some (.error ⟨"Operation canceled"⟩, s)

/-- `co_await (doConnect() || timeout())`. -/
def machine : Machine ConnectRace ConnectLabel := Race.machine surroundings timeout

/-- `doConnect` has run to the resolution. -/
def start : ConnectRace :=
  Race.start surroundings.now (doConnect serverAddress serverPort) false ()

/-- How the coroutine ends. -/
inductive ConnectEnd
  | returned (value : error)
  /-- an exception leaves it -/
  | threw
  /-- it runs off its end -/
  | flowsOff
  deriving DecidableEq

/-- The end of `Connect` when the race is over, and `isConnected`; `optionSet`: `set_option` does
not throw. -/
def finish (x : ConnectRace) (optionSet : Bool) : ConnectEnd × Bool :=
  match x.err with
  | some connectionError =>
    (.returned (some (.wrap connectionError "Failed to connect to remote peer")), false)
  | none => if optionSet then (.flowsOff, true) else (.threw, false)

/-! ## 2. What it is to return a truthful value -/

/-- The socket was connected before the timer recorded a timeout. -/
def ConnectedFirst (ls : List ConnectLabel) : Prop :=
  ∃ pre peers post, ls = pre ++ .answered ⟨.asyncConnect peers, .ok ()⟩ :: post ∧
    RaceLabel.handled ∉ pre

/-- A value is returned, and it is null exactly if `isConnected` has been set and the socket was
connected in time. -/
def Defined (ls : List ConnectLabel) (result : ConnectEnd × Bool) : Prop :=
  ∃ value, result.1 = .returned value ∧
    (value = none ↔ result.2 = true ∧ ConnectedFirst ls)

/-- The call has failed. -/
def failed : (e : ConnectCall) → e.Answer → Bool
  | .asyncResolve _ _, r => !r.isOk
  | .asyncConnect _, r => !r.isOk

/-- A step at which nothing fails: no call does, and the handler of the timer does not run before
the connection. -/
def Smooth (_ : List ConnectLabel) (x : ConnectRace) : ConnectLabel → Prop
  | .answered ev => failed ev.op ev.answer = false
  | .handled => x.value = true
  | _ => True

/-- Something has failed. -/
def Fails (ls : List ConnectLabel) : Prop :=
  ¬ machine.EveryStep (start serverAddress serverPort) Smooth ls

/-! ## 3. Where the operation stands -/

section Standing

variable {serverAddress serverPort} {broken broken' : Prop} {x y : ConnectRace}
  {ls : List ConnectLabel} {l : ConnectLabel}

/-- Where the operation stands.  Until it fails by itself there is an error exactly if something has
failed, and it ends without an error only when it has set `connected`. -/
inductive Standing (broken : Prop) (x : ConnectRace) : Prop
  | resolving {host service : String}
      (ho : x.operation = .waiting (.asyncResolve host service) afterResolve)
      (hv : x.value = false) (hb : broken ↔ x.err ≠ none)
  | resolved {peers : List String} (ho : x.operation = .queued (afterResolve (.ok peers)))
      (hv : x.value = false) (hb : broken ↔ x.err ≠ none)
  | connecting {peers : List String}
      (ho : x.operation = .waiting (.asyncConnect peers) afterConnect)
      (hv : x.value = false) (hb : broken ↔ x.err ≠ none)
  | connected (ho : x.operation = .queued (afterConnect (.ok ())))
      (hv : x.value = false) (hb : broken ↔ x.err ≠ none)
  | failing {err : Err} (ho : x.operation = .queued (.ret (false, some err)))
      (hv : x.value = false) (hb : broken)
  | ended (ho : x.operation = .ended) (hv : x.value = false → x.err ≠ none)
      (hb : broken ↔ x.err ≠ none)

/-- A failed resolution. -/
theorem Standing.of_resolve {r : Except ErrorCode (List String)}
    (ho : y.operation = .queued (afterResolve r)) (hv : y.value = false)
    (hfail : r.isOk = false → broken) (hb : r.isOk = true → (broken ↔ y.err ≠ none)) :
    Standing broken y := by
  cases r with
  | ok peers => exact .resolved ho hv (hb rfl)
  | error ec => exact .failing ho hv (hfail rfl)

/-- A failed connection. -/
theorem Standing.of_connect {r : Except ErrorCode Unit}
    (ho : y.operation = .queued (afterConnect r)) (hv : y.value = false)
    (hfail : r.isOk = false → broken) (hb : r.isOk = true → (broken ↔ y.err ≠ none)) :
    Standing broken y := by
  cases r with
  | ok _ => exact .connected ho hv (hb rfl)
  | error ec => exact .failing ho hv (hfail rfl)

/-- **The handler runs** beside an operation that does not wait: it records a timeout, unless
`connected` is set. -/
theorem Standing.handled (h : Standing broken x) (hp : x.pending = none) :
    Standing (broken ∨ ¬ Smooth ls x .handled)
      { x with timer := .ran, cancelled := true, err := timeout x.value x.err } := by
  have hlate : x.value = false → ¬ Smooth ls x .handled ∧ timeout x.value x.err ≠ none := by
    intro hv
    simp [Smooth, timeout, hv]
  cases h with
  | resolving ho | connecting ho =>
    rw [Race.pending_waiting ho] at hp
    cases hp
  | resolved ho hv hb =>
    exact .resolved ho hv (iff_of_true (.inr (hlate hv).1) (hlate hv).2)
  | connected ho hv hb =>
    exact .connected ho hv (iff_of_true (.inr (hlate hv).1) (hlate hv).2)
  | failing ho hv hb => exact .failing ho hv (.inl hb)
  | ended ho hv hb =>
    by_cases hx : x.value = true
    · have herr : timeout x.value x.err = x.err := by
        rw [hx]
        rfl
      refine .ended ho (fun hv' => absurd (hv'.symm.trans hx) nofun) ?_
      dsimp only
      rw [herr]
      exact (or_iff_left (not_not_intro hx)).trans hb
    · obtain ⟨hl, herr⟩ := hlate (by simpa using hx)
      exact .ended ho (fun _ => herr) (iff_of_true (.inr hl) herr)

/-- **A step** leaves the operation at a place it can stand at. -/
theorem Standing.step (hcancelled : x.cancelled = true → x.value = false → x.err ≠ none)
    (h : Standing broken x) (hs : Race.Steps surroundings timeout x l y) :
    Standing (broken ∨ ¬ Smooth ls x l) y := by
  have hsame : ∀ {P : Prop}, (broken ↔ P) → Smooth ls x l → (broken ∨ ¬ Smooth ls x l ↔ P) :=
    fun hb hl => (or_iff_left (not_not_intro hl)).trans hb
  cases hs with
  | @happens event => exact nomatch event
  | @answered e k r s ho hs =>
    cases h with
    | resolving ho' hv hb =>
      cases ho.symm.trans ho'
      refine .of_resolve rfl hv (fun hr => .inr ?_) fun hr => hsame hb ?_
      · simp [Smooth, failed, hr]
      · simp [Smooth, failed, hr]
    | connecting ho' hv hb =>
      cases ho.symm.trans ho'
      refine .of_connect rfl hv (fun hr => .inr ?_) fun hr => hsame hb ?_
      · simp [Smooth, failed, hr]
      · simp [Smooth, failed, hr]
    | resolved ho' | connected ho' | failing ho' | ended ho' => cases ho.symm.trans ho'
  | ends ho hs =>
    cases h with
    | connected ho' hv hb =>
      cases ho.symm.trans ho'
      cases hs
      exact .ended rfl nofun (hsame hb trivial)
    | failing ho' hv hb =>
      cases ho.symm.trans ho'
      cases hs
      exact .ended rfl (fun _ => nofun) (iff_of_true (.inl hb) nofun)
    | resolved ho' =>
      cases ho.symm.trans ho'
      cases hs
    | resolving ho' | connecting ho' | ended ho' => cases ho.symm.trans ho'
  | throws ho hs hc =>
    cases h with
    | resolved ho' hv hb => exact .ended rfl (hcancelled hc) (hsame hb trivial)
    | connected ho' | failing ho' =>
      cases ho.symm.trans ho'
      cases hs
    | resolving ho' | connecting ho' | ended ho' => cases ho.symm.trans ho'
  | waits ho hs =>
    cases h with
    | resolved ho' hv hb =>
      cases ho.symm.trans ho'
      cases hs
      exact .connecting rfl hv (hsame hb trivial)
    | connected ho' | failing ho' =>
      cases ho.symm.trans ho'
      cases hs
    | resolving ho' | connecting ho' | ended ho' => cases ho.symm.trans ho'
  | expired =>
    cases h with
    | resolving ho hv hb => exact .resolving ho hv (hsame hb trivial)
    | resolved ho hv hb => exact .resolved ho hv (hsame hb trivial)
    | connecting ho hv hb => exact .connecting ho hv (hsame hb trivial)
    | connected ho hv hb => exact .connected ho hv (hsame hb trivial)
    | failing ho hv hb => exact .failing ho hv (.inl hb)
    | ended ho hv hb => exact .ended ho hv (hsame hb trivial)
  | cut _ ho hs =>
    cases h with
    | resolving ho' hv hb | connecting ho' hv hb =>
      cases ho.symm.trans ho'
      cases hs
      refine .failing rfl hv (.inr ?_)
      simp [Smooth, hv]
    | resolved ho' | connected ho' | failing ho' | ended ho' => cases ho.symm.trans ho'
  | handled _ hp => exact h.handled hp

/-- When the handler has run there is an error, unless `connected` was set. -/
theorem cancelled_step (hx : x.cancelled = true → x.value = false → x.err ≠ none)
    (h : Standing broken x) (hs : Race.Steps surroundings timeout x l y) :
    y.cancelled = true → y.value = false → y.err ≠ none := by
  cases hs with
  | ends ho hs =>
    intro _ hv
    cases h with
    | connected ho' =>
      cases ho.symm.trans ho'
      cases hs
      cases hv
    | failing ho' =>
      cases ho.symm.trans ho'
      cases hs
      exact fun h => nomatch h
    | resolved ho' =>
      cases ho.symm.trans ho'
      cases hs
    | resolving ho' | connecting ho' | ended ho' => cases ho.symm.trans ho'
  | happens | answered | throws | waits | expired => exact hx
  | cut | handled =>
    intro _ hv
    change timeout x.value x.err ≠ none
    rw [show x.value = false from hv]
    exact fun h => nomatch h

end Standing

/-! ## 4. Whole runs -/

section Runs

variable {serverAddress serverPort} {x : ConnectRace} {ls : List ConnectLabel}

theorem standing_of_run (h : machine.Run (start serverAddress serverPort) ls x) :
    (x.cancelled = true → x.value = false → x.err ≠ none) ∧
      Standing (Fails serverAddress serverPort ls) x := by
  refine h.invariant (I := fun ls x => (x.cancelled = true → x.value = false → x.err ≠ none) ∧
    Standing (Fails serverAddress serverPort ls) x) ⟨?_, ?_⟩ ?_
  · intro hc
    cases hc
  · refine .resolving rfl rfl (iff_of_false (fun h => h Machine.everyStep_nil) fun h => h rfl)
  · rintro ls x l y hrun ⟨hcancelled, hstanding⟩ - hstep
    have hs := Race.steps_of_step hstep
    refine ⟨cancelled_step hcancelled hstanding hs, ?_⟩
    have hconcat : Fails serverAddress serverPort (ls ++ [l]) ↔
        Fails serverAddress serverPort ls ∨ ¬ Smooth ls x l := by
      rw [Fails, Machine.everyStep_concat (Machine.run_exec hrun) hstep, not_and_or]
      rfl
    rw [hconcat]
    exact hstanding.step hcancelled hs

/-- **When `Connect` has a defined result**, over every order of the resolution, the connection and
the timer: exactly if something has failed. -/
theorem connectRace_defined_iff (h : machine.Run (start serverAddress serverPort) ls x)
    (hover : x.Over) (optionSet : Bool) :
    Defined ls (finish x optionSet) ↔ Fails serverAddress serverPort ls := by
  obtain ⟨-, hstanding⟩ := standing_of_run h
  cases hstanding with
  | resolving ho | resolved ho | connecting ho | connected ho | failing ho =>
    cases ho.symm.trans hover.operation
  | ended ho hv hb =>
    rw [hb, finish]
    split
    next connectionError herr =>
      refine iff_of_true ⟨_, rfl, ?_⟩ (by simp [herr])
      exact iff_of_false (fun h => nomatch h) fun h => nomatch h.1
    next herr =>
      refine iff_of_false ?_ (fun h => h herr)
      rintro ⟨value, hvalue, -⟩
      split at hvalue
      · cases hvalue
      · cases hvalue

end Runs

/-- The address is resolved, the peer answers, and the timer is cancelled. -/
def connectedLabels : List ConnectLabel :=
  [.answered ⟨.asyncResolve "10.0.0.1" "41007", .ok ["10.0.0.1:41007"]⟩, .resumed,
    .answered ⟨.asyncConnect ["10.0.0.1:41007"], .ok ()⟩, .resumed]

/-- The timer runs while the address is resolved. -/
def lateLabels : List ConnectLabel := [.expired, .handled, .resumed]

theorem connectRace_defined_sample :
    ∃ x, machine.Run (start "10.0.0.1" port) lateLabels x ∧
      (Defined lateLabels (finish x true) ↔ Fails "10.0.0.1" port lateLabels) := by
  have hrun : machine.Run (start "10.0.0.1" port) lateLabels _ := Machine.exec_run rfl
  exact ⟨_, hrun, connectRace_defined_iff hrun ⟨trivial, .inr rfl⟩ true⟩

/-- A connection that succeeds, and `Connect` returns nothing. -/
theorem connected_undefined :
    ∃ x, machine.Run (start "10.0.0.1" port) connectedLabels x ∧ x.Over ∧
      finish x true = (.flowsOff, true) ∧ ¬ Defined connectedLabels (finish x true) := by
  have hrun : machine.Run (start "10.0.0.1" port) connectedLabels _ := Machine.exec_run rfl
  refine ⟨_, hrun, ⟨trivial, .inl rfl⟩, rfl, ?_⟩
  rintro ⟨value, hvalue, -⟩
  cases hvalue

end RdmaSessionClient

end DocaCpp
