/-
# An operation and a timer beside it

`operation() || timer()` runs two coroutines as branches of one wait.  The branch that ends first
cancels the other, and the wait is over when both have ended.  A branch whose completion is already
queued runs on when it is cancelled; one that is waiting is answered at once, and one that is
cancelled and comes to another wait ends there.

`Surroundings` is what the operation's calls depend on.  A `Race` is driven by what happens around
it, by the answers, by the expiry of the timer and by the scheduler, which runs a queued branch on
whenever it likes.  `Race.steps_of_step` says all that a step can do, and `Race.Ordered` is what the
two branches have done to each other in any run.
-/
import DocaCpp.Lib.Coroutine

namespace DocaCpp

/-! ## 1. Branches -/

section Branches

variable {E : Type} (R : E → Type) (β : Type)

/-- The branch of the operation, between two of its steps. -/
inductive Branch
  /-- it waits for the answer to a call -/
  | waiting (e : E) (k : R e → Prog R β)
  /-- its completion is queued -/
  | queued (p : Prog R β)
  | ended

/-- The branch of the timer. -/
inductive TimerBranch
  | waiting
  /-- the expiry is queued -/
  | queued
  /-- it was cancelled while it waited -/
  | cancelled
  /-- its handler has run -/
  | ran
  deriving DecidableEq

/-- What the calls of the operation come to, in surroundings `σ` that change by events `κ`. -/
structure Surroundings (σ κ : Type) where
  /-- the answer of a call that does not wait -/
  now : (e : E) → Option (R e)
  /-- what happens, in front of the call that is pending -/
  happen : Option E → κ → σ → Option σ
  /-- the surroundings after a pending call has been given this answer -/
  answer : (e : E) → R e → σ → Option σ
  /-- what a pending call is answered when it is cancelled -/
  cut : (e : E) → σ → Option (R e × σ)

end Branches

/-- A program up to its next wait. -/
def Prog.settle {E : Type} {R : E → Type} {β : Type} (now : (e : E) → Option (R e)) :
    Prog R β → Prog R β
  | .ret b => .ret b
  | .op e k =>
    match now e with
    | some r => (k r).settle now
    | none => .op e k

/-! ## 2. The race -/

/-- The two branches, the caller's variables `value` and `err`, and the surroundings.  The operation
ends with what it has left in the variables. -/
structure Race {E : Type} (R : E → Type) (σ α ε : Type) where
  operation : Branch R (α × Option ε)
  timer : TimerBranch := .waiting
  /-- the operation has been cancelled -/
  cancelled : Bool := false
  value : α
  err : Option ε := none
  surroundings : σ

/-- What drives a race. -/
inductive RaceLabel {E : Type} (R : E → Type) (κ : Type)
  | happens (event : κ)
  /-- the pending call is answered, which queues the operation -/
  | answered (ev : Event R)
  /-- the queued operation runs on -/
  | resumed
  /-- the timer expires, which queues its handler -/
  | expired
  /-- the queued handler runs -/
  | handled

namespace Race

variable {E : Type} {R : E → Type} {σ κ α ε : Type}

/-- The operation runs on to its next wait or to its end. -/
def resume (now : (e : E) → Option (R e)) (x : Race R σ α ε) (p : Prog R (α × Option ε)) :
    Race R σ α ε :=
  match p.settle now with
  | .ret (value, err) =>
    { x with
      operation := .ended
      value := value
      err := err.orElse fun _ => x.err
      timer := if x.timer = .waiting then .cancelled else x.timer }
  | .op e k =>
    -- a wait of a coroutine that is cancelled throws
    if x.cancelled then { x with operation := .ended } else { x with operation := .waiting e k }

/-- The race at its start: the operation has run to its first wait. -/
def start (now : (e : E) → Option (R e)) (p : Prog R (α × Option ε)) (value : α)
    (surroundings : σ) : Race R σ α ε :=
  { operation := .queued p, value := value, surroundings := surroundings : Race R σ α ε }.resume
    now p

/-- The handler of the timer runs, by what it makes of the variables, and the operation is
cancelled. -/
def handle (cut : (e : E) → σ → Option (R e × σ)) (handler : α → Option ε → Option ε)
    (x : Race R σ α ε) : Option (Race R σ α ε) :=
  let handled := { x with timer := .ran, cancelled := true, err := handler x.value x.err }
  match x.operation with
  | .waiting e k =>
    (cut e x.surroundings).map fun r =>
      { handled with operation := .queued (k r.1), surroundings := r.2 }
  | _ => some handled

/-- The call the operation waits for. -/
def pending (x : Race R σ α ε) : Option E :=
  match x.operation with
  | .waiting e _ => some e
  | _ => none

variable [DecidableEq E]

/-- One step. -/
def step (w : Surroundings R σ κ) (handler : α → Option ε → Option ε) (x : Race R σ α ε) :
    RaceLabel R κ → Option (Race R σ α ε)
  | .happens event =>
    (w.happen x.pending event x.surroundings).map fun s => { x with surroundings := s }
  | .answered ev =>
    match x.operation with
    | .waiting e k =>
      if h : ev.op = e then
        (w.answer e (h ▸ ev.answer) x.surroundings).map fun s =>
          { x with operation := .queued (k (h ▸ ev.answer)), surroundings := s }
      else none
    | _ => none
  | .resumed =>
    match x.operation with
    | .queued p => some (x.resume w.now p)
    | _ => none
  | .expired => if x.timer = .waiting then some { x with timer := .queued } else none
  | .handled => if x.timer = .queued then x.handle w.cut handler else none

/-- The race as a machine. -/
def machine (w : Surroundings R σ κ) (handler : α → Option ε → Option ε) :
    Machine (Race R σ α ε) (RaceLabel R κ) :=
  ⟨step w handler⟩

omit [DecidableEq E] in
/-- Both branches have ended. -/
def Over (x : Race R σ α ε) : Prop :=
  (match x.operation with
    | .ended => True
    | _ => False) ∧ (x.timer = .cancelled ∨ x.timer = .ran)

omit [DecidableEq E] in
theorem Over.operation {x : Race R σ α ε} (h : x.Over) : x.operation = .ended := by
  cases ho : x.operation with
  | ended => rfl
  | waiting e k | queued p =>
    rw [Over, ho] at h
    exact h.1.elim

end Race

/-! ## 3. What a step does -/

namespace Race

variable {E : Type} {R : E → Type} {σ κ α ε : Type}

section Steps

variable (w : Surroundings R σ κ) (handler : α → Option ε → Option ε)

/-- The steps of a race, one constructor for each way a branch can go. -/
inductive Steps (x : Race R σ α ε) : RaceLabel R κ → Race R σ α ε → Prop
  | happens {event : κ} {s : σ} (h : w.happen x.pending event x.surroundings = some s) :
      Steps x (.happens event) { x with surroundings := s }
  | answered {e : E} {k : R e → Prog R (α × Option ε)} {r : R e} {s : σ}
      (ho : x.operation = .waiting e k) (h : w.answer e r x.surroundings = some s) :
      Steps x (.answered ⟨e, r⟩) { x with operation := .queued (k r), surroundings := s }
  | ends {p : Prog R (α × Option ε)} {value : α} {err : Option ε}
      (ho : x.operation = .queued p) (h : p.settle w.now = .ret (value, err)) :
      Steps x .resumed
        { x with
          operation := .ended
          value := value
          err := err.orElse fun _ => x.err
          timer := if x.timer = .waiting then .cancelled else x.timer }
  | throws {p : Prog R (α × Option ε)} {e : E} {k : R e → Prog R (α × Option ε)}
      (ho : x.operation = .queued p) (h : p.settle w.now = .op e k) (hc : x.cancelled = true) :
      Steps x .resumed { x with operation := .ended }
  | waits {p : Prog R (α × Option ε)} {e : E} {k : R e → Prog R (α × Option ε)}
      (ho : x.operation = .queued p) (h : p.settle w.now = .op e k) (hc : x.cancelled = false) :
      Steps x .resumed { x with operation := .waiting e k }
  | expired (ht : x.timer = .waiting) : Steps x .expired { x with timer := .queued }
  | cut {e : E} {k : R e → Prog R (α × Option ε)} {r : R e × σ} (ht : x.timer = .queued)
      (ho : x.operation = .waiting e k) (h : w.cut e x.surroundings = some r) :
      Steps x .handled
        { x with
          timer := .ran
          cancelled := true
          err := handler x.value x.err
          operation := .queued (k r.1)
          surroundings := r.2 }
  | handled (ht : x.timer = .queued) (ho : x.pending = none) :
      Steps x .handled
        { x with timer := .ran, cancelled := true, err := handler x.value x.err }

variable {w handler} {x y : Race R σ α ε} {l : RaceLabel R κ}

/-- **What a step can do.** -/
theorem steps_of_step [DecidableEq E] (h : step w handler x l = some y) :
    Steps w handler x l y := by
  cases l with
  | happens event =>
    obtain ⟨s, hs, rfl⟩ := Option.map_eq_some_iff.mp h
    exact .happens hs
  | answered ev =>
    rw [step] at h
    split at h
    next e k ho =>
      split at h
      next he =>
        obtain ⟨op, r⟩ := ev
        obtain rfl : op = e := he
        obtain ⟨s, hs, rfl⟩ := Option.map_eq_some_iff.mp h
        exact .answered ho hs
      next => cases h
    next => cases h
  | resumed =>
    rw [step] at h
    split at h
    next p ho =>
      cases h
      rw [resume]
      split
      next value err hp => exact .ends ho hp
      next e k hp =>
        split
        next hc => exact .throws ho hp hc
        next hc => exact .waits ho hp (by simpa using hc)
    next => cases h
  | expired =>
    rw [step] at h
    split at h
    next ht =>
      cases h
      exact .expired ht
    next => cases h
  | handled =>
    rw [step] at h
    split at h
    next ht =>
      rw [handle] at h
      split at h
      next e k ho =>
        obtain ⟨r, hr, rfl⟩ := Option.map_eq_some_iff.mp h
        exact .cut ht ho hr
      next ho =>
        cases h
        refine .handled ht ?_
        rw [pending]
        split
        next e k hw => exact absurd hw (ho e k)
        next => rfl
    next => cases h

end Steps

/-! ## 4. The two branches -/

/-- What the branches have done to each other: the operation is cancelled exactly if the handler has
run, and does not wait any more then; the timer is cancelled only by the end of the operation. -/
structure Ordered (x : Race R σ α ε) : Prop where
  ran : x.timer = .ran ↔ x.cancelled = true
  running : x.cancelled = true → x.pending = none
  ended : x.timer = .cancelled → x.operation = .ended

section Ordered

variable {w : Surroundings R σ κ} {handler : α → Option ε → Option ε} {x y : Race R σ α ε}
  {l : RaceLabel R κ} {ls : List (RaceLabel R κ)}

theorem pending_waiting {e : E} {k : R e → Prog R (α × Option ε)} (h : x.operation = .waiting e k) :
    x.pending = some e := by rw [pending, h]

theorem Ordered.step (hx : x.Ordered) (hs : Steps w handler x l y) : y.Ordered := by
  obtain ⟨hran, hrunning, hended⟩ := hx
  cases hs with
  | happens h => exact ⟨hran, hrunning, hended⟩
  | answered ho h =>
    refine ⟨hran, fun _ => rfl, fun ht => ?_⟩
    rw [hended ht] at ho
    cases ho
  | ends ho h =>
    refine ⟨?_, fun _ => rfl, fun _ => rfl⟩
    dsimp only
    split
    next ht =>
      rw [← hran, ht]
      simp
    next => exact hran
  | throws ho h hc => exact ⟨hran, fun _ => rfl, fun _ => rfl⟩
  | waits ho h hc =>
    refine ⟨hran, fun hc' => ?_, fun ht => ?_⟩
    · rw [hc] at hc'
      cases hc'
    · rw [hended ht] at ho
      cases ho
  | expired ht =>
    refine ⟨?_, hrunning, fun h => nomatch h⟩
    rw [← hran, ht]
    simp
  | cut ht ho h => exact ⟨by simp, fun _ => rfl, fun h => nomatch h⟩
  | handled ht ho => exact ⟨by simp, fun _ => ho, fun h => nomatch h⟩

/-- A race at the first wait of its operation. -/
theorem Ordered.waiting {value : α} {s : σ} {e : E} {k : R e → Prog R (α × Option ε)} :
    Ordered { operation := .waiting e k, value := value, surroundings := s : Race R σ α ε } :=
  ⟨by simp, (fun h => nomatch h), fun h => nomatch h⟩

end Ordered

end Race

end DocaCpp
