/-
# `Serve` and `Shutdown` on one server

Any number of threads call `Serve` and `Shutdown`, as often as they like.  They share `serveMutex`,
`isServing` and the two flags of the shutdown.  `Serve` sets `isServing` under the mutex, but the
deferred function resets it, and notifies, without it; `Shutdown` evaluates its predicate under the
mutex, before it waits, whenever it is woken and once more when its deadline has passed.

A step is one access to what is shared: the mutex, an atomic, the condition variable.  What `Serve`
does between its guard and its deferred reset is one place here, which it may leave at any time;
`serve_inside` says that the machine of one call does the same with `isServing`.
-/
import DocaCpp.Lib.History
import DocaCpp.Lib.Interference
import DocaCpp.Server.Serve

namespace DocaCpp

/-! ## 1. The threads -/

/-- What the threads share. -/
structure ServerFlags (ι : Type) where
  /-- the thread that holds `serveMutex` -/
  serveMutex : Option ι := none
  isServing : Bool := false
  continueServing : Bool := true
  shutdownForced : Bool := false

/-- Where a thread stands.  `expired` says that the deadline of its wait has passed. -/
inductive ServerSite
  | outside
  /-- in `Serve`, about to take the mutex -/
  | guard
  | load
  | refuse
  | store
  | unguard
  /-- between the guard and the deferred reset -/
  | inside
  | reset (err : error)
  | notify (err : error)
  /-- in `Shutdown`, about to clear `continueServing` -/
  | clear
  | unforce
  | lock
  | check (expired : Bool)
  | block (expired : Bool)
  /-- asleep on the condition variable -/
  | waiting (expired : Bool)
  /-- woken, about to take the mutex again -/
  | woken (expired : Bool)
  /-- about to look whether the deadline has passed -/
  | status (expired : Bool)
  | recheck
  | force
  /-- about to release the mutex and return -/
  | leave (err : error)
  | returned (err : error)
  deriving DecidableEq

/-- What a thread can do next. -/
inductive ServerAct
  | serve
  | shutdown
  /-- what stands next in the source -/
  | next
  /-- `Serve` comes to its end with this result -/
  | finish (err : error)
  /-- the deadline of the wait passes -/
  | expire
  /-- the wait ends: by the deadline, or for no reason -/
  | wake
  deriving DecidableEq

namespace ServerSite

/-- `notify_all` wakes those that are asleep at that time, and no others. -/
def notified : ServerSite → ServerSite
  | waiting expired => woken expired
  | p => p

/-- The thread holds `serveMutex`. -/
def holds : ServerSite → Bool
  | load | refuse | store | unguard | check _ | block _ | status _ | recheck | force | leave _ =>
    true
  | _ => false

/-- A `Serve` is inside: it has set `isServing` and has not reset it. -/
def serving : ServerSite → Bool
  | unguard | inside | reset _ => true
  | _ => false

/-- The thread has found `isServing` clear and holds the mutex since. -/
def unserved : ServerSite → Bool
  | store | leave none => true
  | _ => false

/-- The thread is in a call of `Serve` that is refused, or may be. -/
def guarding : ServerSite → Bool
  | guard | load | refuse => true
  | _ => false

/-- The deadline of the wait of the thread has passed. -/
def expired : ServerSite → Bool
  | check expired | block expired | waiting expired | woken expired | status expired => expired
  | recheck => true
  | _ => false

/-- The thread is about to return the error of a timeout. -/
def timedOut : ServerSite → Bool
  | force | leave (some _) => true
  | _ => false

end ServerSite

variable {ι : Type}

/-- One turn of a thread. -/
def serverTurn (i : ι) (s : ServerFlags ι) : ServerSite → ServerAct →
    Option (ServerFlags ι × ServerSite × (ServerSite → ServerSite))
  | .outside, .serve => some (s, .guard, id)
  | .returned _, .serve => some (s, .guard, id)
  | .guard, .next =>
    if s.serveMutex = none then some ({ s with serveMutex := i }, .load, id) else none
  | .load, .next => some (s, if s.isServing then .refuse else .store, id)
  | .refuse, .next =>
    some ({ s with serveMutex := none }, .returned (some (.new "Server is already serving")), id)
  | .store, .next => some ({ s with isServing := true }, .unguard, id)
  | .unguard, .next => some ({ s with serveMutex := none }, .inside, id)
  | .inside, .finish err => some (s, .reset err, id)
  -- the deferred function, without the mutex
  | .reset err, .next => some ({ s with isServing := false }, .notify err, id)
  | .notify err, .next => some (s, .returned err, ServerSite.notified)
  | .outside, .shutdown => some (s, .clear, id)
  | .returned _, .shutdown => some (s, .clear, id)
  | .clear, .next => some ({ s with continueServing := false }, .unforce, id)
  | .unforce, .next => some ({ s with shutdownForced := false }, .lock, id)
  | .lock, .next =>
    if s.serveMutex = none then some ({ s with serveMutex := i }, .check false, id) else none
  | .check expired, .next => some (s, if s.isServing then .block expired else .leave none, id)
  -- releases the mutex and falls asleep, in one
  | .block expired, .next => some ({ s with serveMutex := none }, .waiting expired, id)
  | .waiting expired, .wake => some (s, .woken expired, id)
  | .woken expired, .next =>
    if s.serveMutex = none then some ({ s with serveMutex := i }, .status expired, id) else none
  | .status expired, .next => some (s, if expired then .recheck else .check false, id)
  | .recheck, .next => some (s, if s.isServing then .force else .leave none, id)
  | .force, .next =>
    some ({ s with shutdownForced := true },
      .leave (some (.new "Shutdown timeout: server forced to stop")), id)
  | .leave err, .next => some ({ s with serveMutex := none }, .returned err, id)
  | .check _, .expire => some (s, .check true, id)
  | .block _, .expire => some (s, .block true, id)
  | .waiting _, .expire => some (s, .waiting true, id)
  | .woken _, .expire => some (s, .woken true, id)
  | .status _, .expire => some (s, .status true, id)
  | _, _ => none

/-- The threads that call `Serve` and `Shutdown`. -/
def serverThreads (ι : Type) [DecidableEq ι] :
    Threads ι (ServerFlags ι) ServerSite ServerAct := ⟨serverTurn⟩

/-- A server that has been built. -/
def ServerFlags.start (ι : Type) : Threads.State ι (ServerFlags ι) ServerSite :=
  ⟨{}, fun _ => .outside⟩

/-! ## 2. What a turn does -/

section Turn

variable {i j : ι} {s s' : ServerFlags ι} {p p' q : ServerSite} {a : ServerAct}
  {f : ServerSite → ServerSite}

/-- What a turn does to the mutex and to `isServing`, and what the thread knows after it. -/
structure Turned (i : ι) (s : ServerFlags ι) (p : ServerSite) (a : ServerAct) (s' : ServerFlags ι)
    (p' : ServerSite) (f : ServerSite → ServerSite) : Prop where
  others : f = id ∨ f = ServerSite.notified
  mutex : s'.serveMutex = s.serveMutex ∧ p'.holds = p.holds ∨
    s.serveMutex = none ∧ s'.serveMutex = some i ∧ p.holds = false ∧ p'.holds = true ∨
    s'.serveMutex = none ∧ p.holds = true ∧ p'.holds = false
  flag : s'.isServing = s.isServing ∧ p'.serving = p.serving ∨
    p = .store ∧ s'.isServing = true ∧ p'.serving = true ∨
    p.serving = true ∧ s'.isServing = false ∧ p'.serving = false
  unserved : p'.unserved = true → s.isServing = false ∧ s'.isServing = false
  guarding : p.guarding = true → s'.isServing = s.isServing ∧ f = id
  expired : p'.expired = true → a = .expire ∨ p.expired = true ∧ a ≠ .shutdown
  timedOut : p'.timedOut = true →
    p = .recheck ∧ a = .next ∧ s.isServing = true ∨ p.timedOut = true ∧ a ≠ .shutdown

/-- **What the turns do**, one goal for each line of `serverTurn`. -/
theorem serverTurn_turned (h : serverTurn i s p a = some (s', p', f)) :
    Turned i s p a s' p' f := by
  unfold serverTurn at h
  split at h
  all_goals
    first
    | cases h
    | (obtain ⟨hfree, h⟩ := Option.ite_none_right_eq_some.mp h; cases h)
  all_goals
    constructor <;>
      grind [ServerSite.holds, ServerSite.serving, ServerSite.unserved, ServerSite.guarding,
        ServerSite.expired, ServerSite.timedOut]

/-! A thread that is woken is where it was, as far as the rest of this file goes. -/

@[simp] theorem ServerSite.notified_holds (p : ServerSite) : p.notified.holds = p.holds := by
  cases p <;> rfl

@[simp] theorem ServerSite.notified_serving (p : ServerSite) : p.notified.serving = p.serving := by
  cases p <;> rfl

@[simp] theorem ServerSite.notified_unserved (p : ServerSite) :
    p.notified.unserved = p.unserved := by
  cases p <;> rfl

@[simp] theorem ServerSite.notified_expired (p : ServerSite) : p.notified.expired = p.expired := by
  cases p <;> rfl

@[simp] theorem ServerSite.notified_timedOut (p : ServerSite) :
    p.notified.timedOut = p.timedOut := by
  cases p <;> rfl

theorem ServerSite.holds_of_unserved (h : p.unserved = true) : p.holds = true := by
  unfold unserved at h
  split at h
  · rfl
  · rfl
  · cases h

theorem Turned.other (h : Turned i s p a s' p' f) (q : ServerSite) :
    (f q).holds = q.holds ∧ (f q).serving = q.serving ∧ (f q).unserved = q.unserved := by
  rcases h.others with rfl | rfl
  · exact ⟨rfl, rfl, rfl⟩
  · exact ⟨q.notified_holds, q.notified_serving, q.notified_unserved⟩

theorem Turned.other_waits (h : Turned i s p a s' p' f) (q : ServerSite) :
    (f q).expired = q.expired ∧ (f q).timedOut = q.timedOut := by
  rcases h.others with rfl | rfl
  · exact ⟨rfl, rfl⟩
  · exact ⟨q.notified_expired, q.notified_timedOut⟩

/-! ## 3. What each thread may rely on -/

/-- What the place of a thread says about the shared variables. -/
structure ServerSite.Fits (i : ι) (s : ServerFlags ι) (p : ServerSite) : Prop where
  mutex : p.holds = true ↔ s.serveMutex = some i
  serving : p.serving = true → s.isServing = true
  unserved : p.unserved = true → s.isServing = false

/-- Two threads are not both inside of `Serve`. -/
def ServerSite.Apart (p q : ServerSite) : Prop := ¬ (p.serving = true ∧ q.serving = true)

theorem Turned.own (h : Turned i s p a s' p' f) (hp : p.Fits i s) : p'.Fits i s' where
  mutex := by
    rcases h.mutex with ⟨hs, hholds⟩ | ⟨-, hs, -, hholds⟩ | ⟨hs, -, hholds⟩
    · rw [hholds, hs]
      exact hp.mutex
    · exact iff_of_true hholds hs
    · simp [hholds, hs]
  serving := by
    intro hserving
    rcases h.flag with ⟨hs, hsame⟩ | ⟨-, hs, -⟩ | ⟨-, -, hnot⟩
    · rw [hs]
      exact hp.serving (hsame ▸ hserving)
    · exact hs
    · rw [hserving] at hnot
      cases hnot
  unserved := fun hu => (h.unserved hu).2

/-- The mutex is what keeps the threads from each other: `isServing` is set by the thread that holds
it, and a thread that relies on `isServing` being clear holds it. -/
theorem Turned.interferes (h : Turned i s p a s' p' f) (hij : i ≠ j) (hp : p.Fits i s)
    (hq : q.Fits j s) (hapart : p.Apart q) : (f q).Fits j s' ∧ p'.Apart (f q) := by
  obtain ⟨hholds, hserving, hunserved⟩ := h.other q
  have hstore : p = .store → q.unserved = false ∧ q.serving = false := by
    rintro rfl
    have hi := hp.mutex.mp rfl
    constructor
    · refine Bool.eq_false_iff.mpr fun hu => hij (Option.some.inj (hi.symm.trans ?_))
      exact hq.mutex.mp (ServerSite.holds_of_unserved hu)
    · refine Bool.eq_false_iff.mpr fun hs => ?_
      have hclear := hp.unserved rfl
      rw [hq.serving hs] at hclear
      cases hclear
  refine ⟨⟨?_, ?_, ?_⟩, ?_⟩
  · rw [hholds, hq.mutex]
    rcases h.mutex with ⟨hs, -⟩ | ⟨hfree, hs, -⟩ | ⟨hs, hheld, -⟩
    · rw [hs]
    · simp [hfree, hs, hij]
    · simp [hs, hp.mutex.mp hheld, hij]
  · rw [hserving]
    intro hs
    rcases h.flag with ⟨hsame, -⟩ | ⟨-, hset, -⟩ | ⟨hinside, -⟩
    · rw [hsame]
      exact hq.serving hs
    · exact hset
    · exact absurd ⟨hinside, hs⟩ hapart
  · rw [hunserved]
    intro hu
    rcases h.flag with ⟨hsame, -⟩ | ⟨hp', -⟩ | ⟨-, hclear, -⟩
    · rw [hsame]
      exact hq.unserved hu
    · rw [(hstore hp').1] at hu
      cases hu
    · exact hclear
  · rw [ServerSite.Apart, hserving]
    rintro ⟨hp', hs⟩
    rcases h.flag with ⟨-, hsame⟩ | ⟨hst, -⟩ | ⟨-, -, hnot⟩
    · exact hapart ⟨hsame ▸ hp', hs⟩
    · rw [(hstore hst).2] at hs
      cases hs
    · rw [hp'] at hnot
      cases hnot

end Turn

section Runs

variable [DecidableEq ι] {x y : Threads.State ι (ServerFlags ι) ServerSite} {i : ι}
  {ls : List (ι × ServerAct)}

/-- **No thread interferes with another.** -/
theorem serverThreads_free :
    (serverThreads ι).Free ServerSite.Fits ServerSite.Apart where
  symm := fun _ _ h hqp => h hqp.symm
  own := fun _ _ _ _ _ _ _ hown hturn => (serverTurn_turned hturn).own hown
  others := fun _ _ _ _ _ _ _ _ _ hij hp hq hapart hturn =>
    (serverTurn_turned hturn).interferes hij hp hq hapart
  moved := by
    intro i s p a s' p' f q r hturn h
    have hother := (serverTurn_turned hturn).other
    rw [ServerSite.Apart, (hother q).2.1, (hother r).2.1]
    exact h

/-- In every run, every place says what it says, and one `Serve` is inside at most. -/
theorem coordination_fits (h : (serverThreads ι).machine.Run (ServerFlags.start ι) ls x) :
    (∀ i, (x.place i).Fits i x.shared) ∧ Pairwise fun i j => (x.place i).Apart (x.place j) := by
  refine serverThreads_free.run (fun i => ?_) (fun i j _ => ?_) h
  · exact ⟨iff_of_false Bool.false_ne_true nofun, nofun, nofun⟩
  · rintro ⟨hi, -⟩
    exact Bool.false_ne_true hi

/-- **`isServing` is set exactly while a `Serve` is inside.** -/
theorem isServing_iff (h : (serverThreads ι).machine.Run (ServerFlags.start ι) ls x) :
    x.shared.isServing = true ↔ ∃ i, (x.place i).serving = true := by
  refine ⟨?_, fun ⟨i, hi⟩ => ((coordination_fits h).1 i).serving hi⟩
  refine Machine.RunWith.invariant (I := fun _ x => x.shared.isServing = true →
    ∃ i, (x.place i).serving = true) (fun hx => absurd hx Bool.false_ne_true) ?_ h
  rintro ls x ⟨i, a⟩ y - ih - hstep hy
  obtain ⟨f, hturn, hplace⟩ := Threads.step_inv hstep
  have hturned := serverTurn_turned hturn
  rcases hturned.flag with ⟨hs, hsame⟩ | ⟨-, -, hi⟩ | ⟨-, hclear, -⟩
  · obtain ⟨k, hk⟩ := ih (hs ▸ hy)
    refine ⟨k, ?_⟩
    by_cases hki : k = i
    · subst hki
      exact hsame.trans hk
    · rw [hplace k hki, (hturned.other _).2.1]
      exact hk
  · exact ⟨i, hi⟩
  · rw [hclear] at hy
    cases hy

/-! ## 4. The result -/

/-- A wait began with a call of `Shutdown` that has not been followed by another one of the same
thread, and since then the event has happened. -/
def SinceCall (event : List (ι × ServerAct) → ι × ServerAct → Prop) (i : ι)
    (ls : List (ι × ServerAct)) : Prop := Since event (fun l => l = (i, .shutdown)) ls

/-- The deadline of the wait passes. -/
def Expires (i : ι) (_ : List (ι × ServerAct)) (l : ι × ServerAct) : Prop := l = (i, .expire)

/-- The deadline of the wait passes while a `Serve` is inside. -/
def ExpiresInside (i : ι) (ls : List (ι × ServerAct)) (l : ι × ServerAct) : Prop :=
  l = (i, .expire) ∧ ∃ x, (serverThreads ι).machine.exec (ServerFlags.start ι) ls = some x ∧
    ∃ j, (x.place j).serving = true

/-- Behind its deadline, `Shutdown` evaluates its predicate for the last time while a `Serve` is
inside. -/
def RechecksInside (i : ι) (ls : List (ι × ServerAct)) (l : ι × ServerAct) : Prop :=
  l = (i, .next) ∧ SinceCall (Expires i) i ls ∧
    ∃ x, (serverThreads ι).machine.exec (ServerFlags.start ι) ls = some x ∧
      x.place i = .recheck ∧ ∃ j, (x.place j).serving = true

/-- `Serve` and `Shutdown` get along, where `timeout` says when a wait may time out. -/
structure Coordinated (timeout : ι → List (ι × ServerAct) → ι × ServerAct → Prop)
    (ls : List (ι × ServerAct)) (x : Threads.State ι (ServerFlags ι) ServerSite) : Prop where
  one : ∀ i j, (x.place i).serving = true → (x.place j).serving = true → i = j
  refused : ∀ i y, (x.place i).guarding = true →
    (serverThreads ι).machine.step x (i, .next) = some y →
      y.shared.isServing = x.shared.isServing ∧ ∀ j, j ≠ i → y.place j = x.place j
  null : ∀ i, x.place i = .leave none → ∀ j, (x.place j).serving = false
  timeout : ∀ i err, x.place i = .leave (some err) → SinceCall (timeout i) i ls

omit [DecidableEq ι] in
theorem SinceCall.snoc {event : List (ι × ServerAct) → ι × ServerAct → Prop}
    {l : ι × ServerAct} (h : SinceCall event i ls) (hl : l ≠ (i, .shutdown)) :
    SinceCall event i (ls ++ [l]) := since_concat.mpr (.inr ⟨hl, h⟩)

/-- What the history says about the waits. -/
theorem waits_history (h : (serverThreads ι).machine.Run (ServerFlags.start ι) ls x) (i : ι) :
    ((x.place i).expired = true → SinceCall (Expires i) i ls) ∧
      ((x.place i).timedOut = true → SinceCall (RechecksInside i) i ls) := by
  refine Machine.RunWith.invariant (I := fun ls x =>
    ((x.place i).expired = true → SinceCall (Expires i) i ls) ∧
      ((x.place i).timedOut = true → SinceCall (RechecksInside i) i ls))
    ⟨fun hx => absurd hx Bool.false_ne_true, fun hx => absurd hx Bool.false_ne_true⟩ ?_ h
  rintro ls x ⟨k, a⟩ y hrun ⟨hexpired, htimedOut⟩ - hstep
  obtain ⟨f, hturn, hplace⟩ := Threads.step_inv hstep
  have hturned := serverTurn_turned hturn
  by_cases hik : i = k
  · subst hik
    have hl : a ≠ .shutdown → (i, a) ≠ (i, ServerAct.shutdown) := by
      intro ha heq
      exact ha (congrArg Prod.snd heq)
    constructor
    · intro hy
      rcases hturned.expired hy with rfl | ⟨hx, ha⟩
      · exact since_concat.mpr (.inl rfl)
      · exact (hexpired hx).snoc (hl ha)
    · intro hy
      rcases hturned.timedOut hy with ⟨hp, rfl, hserving⟩ | ⟨hx, ha⟩
      · have hinside := (isServing_iff hrun).mp hserving
        have hpast := hexpired (by rw [hp]; rfl)
        exact since_concat.mpr (.inl ⟨rfl, hpast, x, Machine.run_exec hrun, hp, hinside⟩)
      · exact (htimedOut hx).snoc (hl ha)
  · have hl : (k, a) ≠ (i, ServerAct.shutdown) := fun heq => hik (congrArg Prod.fst heq).symm
    rw [hplace i hik, (hturned.other_waits _).1, (hturned.other_waits _).2]
    exact ⟨fun hx => (hexpired hx).snoc hl, fun hx => (htimedOut hx).snoc hl⟩

/-- **`Serve` and `Shutdown` get along**: in every state of every run of any number of threads, one
`Serve` is inside at most, one that is refused disturbs nobody, and `Shutdown` returns null with no
`Serve` inside and an error only if one was inside when it looked again behind its deadline. -/
theorem serve_shutdown_coordinated (ls : List (ι × ServerAct)) :
    (serverThreads ι).machine.AlwaysIn (ServerFlags.start ι) (Coordinated RechecksInside) ls := by
  intro pre _ x hx
  have hrun := Machine.exec_run hx
  obtain ⟨hfits, hapart⟩ := coordination_fits hrun
  constructor
  · intro i j hi hj
    by_contra hij
    exact hapart hij ⟨hi, hj⟩
  · intro i y hguarding hstep
    obtain ⟨f, hturn, hplace⟩ := Threads.step_inv hstep
    obtain ⟨hserving, rfl⟩ := (serverTurn_turned hturn).guarding hguarding
    exact ⟨hserving, hplace⟩
  · intro i hi j
    have hclear := (hfits i).unserved (by rw [hi]; rfl)
    refine Bool.eq_false_iff.mpr fun hj => ?_
    rw [(hfits j).serving hj] at hclear
    cases hclear
  · intro i err hi
    exact (waits_history hrun i).2 (by rw [hi]; rfl)

/-- A `Serve` that comes to its end while `Shutdown` waits for it; the deadline passes, and before
`Shutdown` has the mutex again another call of `Serve` is inside. -/
def lateServeActs : List (Bool × ServerAct) :=
  [(true, .serve), (true, .next), (true, .next), (true, .next), (true, .next),
    (false, .shutdown), (false, .next), (false, .next), (false, .next), (false, .next),
    (false, .next), (true, .finish none), (true, .next), (false, .expire), (false, .wake),
    (true, .next), (true, .serve), (true, .next), (true, .next), (true, .next), (true, .next),
    (false, .next), (false, .next), (false, .next), (false, .next)]

/-- It returns the error although nobody was inside when its deadline passed. -/
theorem timeout_after_serve :
    ¬ (serverThreads Bool).machine.AlwaysIn (ServerFlags.start Bool) (Coordinated ExpiresInside)
      lateServeActs := by
  intro h
  have hend : ((serverThreads Bool).machine.exec (ServerFlags.start Bool) lateServeActs).any
      (fun x => decide (x.place false
        = .leave (some (.new "Shutdown timeout: server forced to stop")))) = true := by decide
  obtain ⟨x, hx, herr⟩ := (Option.any_eq_true _ _).mp hend
  obtain ⟨pre, l, post, heq, ⟨rfl, y, hy, j, hj⟩, -⟩ :=
    (h.now x hx).timeout false _ (of_decide_eq_true herr)
  have hlength : pre.length = 13 := by
    have hlt : pre.length < lateServeActs.length := by
      rw [heq, List.length_append, List.length_cons]
      omega
    have hget : lateServeActs[pre.length]? = some (false, .expire) := by rw [heq]; simp
    have honce : ∀ n < lateServeActs.length,
        lateServeActs[n]? = some (false, .expire) → n = 13 := by decide
    exact honce _ hlt hget
  have hpre : pre = lateServeActs.take 13 := by rw [heq, ← hlength, List.take_left]
  have hnobody : ((serverThreads Bool).machine.exec (ServerFlags.start Bool)
      (lateServeActs.take 13)).all (fun x => decide (∀ j, (x.place j).serving = false))
        = true := by decide
  rw [hpre] at hy
  rw [hy] at hnobody
  have hnot : ∀ j, (y.place j).serving = false := of_decide_eq_true hnobody
  rw [hnot j] at hj
  cases hj

end Runs

/-! ## 5. One call of `Serve` -/

/-- A call of `Serve` is past its guard and has not returned. -/
def ServePhase.inside : ServePhase → Bool
  | .guard | .returned _ => false
  | _ => true

/-- **One call does with `isServing` what a thread does here**: it goes in and sets it, which it
does only if it was clear, it comes out and clears it, or it leaves it alone. -/
theorem serve_inside [Platform] [DecidableEq ι] {x y : Serving ι} {l : ServeLabel ι}
    (h : Serving.Moves x l y) :
    (x.phase.inside = false ∧ y.phase.inside = true ∧ x.isServing = false ∧ y.isServing = true) ∨
      (x.phase.inside = true ∧ y.phase.inside = false ∧ y.isServing = false) ∨
      (y.phase.inside = x.phase.inside ∧ y.isServing = x.isServing) := by
  cases h with
  | entered hp hs => exact .inl ⟨by rw [hp]; rfl, rfl, hs, rfl⟩
  | noEndpoints hp | setupFailed _ _ hp | checkFailed _ hp | interrupted hp | finished hp =>
    exact .inr (.inl ⟨by rw [hp]; rfl, rfl, rfl⟩)
  | throws what hg =>
    have hin : x.phase.inside = true := by
      simp only [Serving.guarded, Bool.or_eq_true, Bool.and_eq_true, decide_eq_true_eq] at hg
      rcases hg with (((hp | hp) | hp) | hp) | ⟨hp, -⟩ <;> rw [hp] <;> rfl
    exact .inr (.inl ⟨hin, rfl, rfl⟩)
  | setup s hp => exact .inr (.inr ⟨by rw [hp]; cases s <;> rfl, rfl⟩)
  | head hp => exact .inr (.inr ⟨by rw [hp]; dsimp only; split <;> rfl, rfl⟩)
  | refused hp | endpoints hp | spawn hp | check hp | progress hp | polled hp | drainPolled hp
  | close hp | forced hp | drained hp => exact .inr (.inr ⟨by rw [hp]; rfl, rfl⟩)
  | _ => exact .inr (.inr ⟨rfl, rfl⟩)

end DocaCpp
