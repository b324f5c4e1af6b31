/-
# Many server sessions over one storage

`RdmaServer::Serve` spawns one `HandleServerSession` per accepted connection, all on one thread and
over one endpoint storage.  Between two of their calls the coroutines touch nothing they share, so
an interleaving at the `co_await`s is an interleaving of calls: a `Pool` is the storage with one
coroutine for every session, and its labels say which session made which call.  A session that has
not been accepted yet stands at its head and makes no call.

What one session knows (`ServerPhase.Knows`) it knows in the pool as well (`pool_session`).  What is
left for this file is what the sessions share: the flags.  `Pool.Guarded` ties every flag to the
session that holds its path, and `pool_guarded` says that it holds in every run.
-/
import DocaCpp.Session.Locks

namespace DocaCpp

/-! ## 1. The pool -/

variable [Platform] {ι : Type} [DecidableEq ι]

/-- The sessions of a server and the storage they share. -/
structure Pool (ι : Type) where
  storage : RdmaEndpointStorage
  session : ι → Session

/-- A session makes a call, and the storage answers if it is asked. -/
def Pool.step (p : Pool ι) (l : ι × SessionEvent) : Option (Pool ι) :=
  (p.storage.answer l.2).bind fun storage =>
    ((p.session l.1).resume serverPass l.2).map fun c =>
      { storage := storage, session := Function.update p.session l.1 c }

/-- The sessions of a server, as a machine. -/
def pool (ι : Type) [DecidableEq ι] : Machine (Pool ι) (ι × SessionEvent) := ⟨Pool.step⟩

/-- A server that starts to serve. -/
def Pool.start (ι : Type) (storage : RdmaEndpointStorage) : Pool ι := ⟨storage, fun _ => .head⟩

/-- The events of one session. -/
def eventsOf (i : ι) (ls : List (ι × SessionEvent)) : List SessionEvent :=
  ls.filterMap fun l => if l.1 = i then some l.2 else none

/-- The log of one session. -/
def logOf (i : ι) (ls : List (ι × SessionEvent)) : ServerLog := serverLog (eventsOf i ls)

omit [Platform] in
theorem logOf_snoc_same (i : ι) (ls : List (ι × SessionEvent)) (ev : SessionEvent) :
    logOf i (ls ++ [(i, ev)]) = (logOf i ls).note ev := by
  simp [logOf, eventsOf]

omit [Platform] in
theorem logOf_snoc_other {i j : ι} (h : j ≠ i) (ls : List (ι × SessionEvent))
    (ev : SessionEvent) : logOf i (ls ++ [(j, ev)]) = logOf i ls := by
  simp [logOf, eventsOf, h]

theorem Pool.step_inv {p q : Pool ι} {i : ι} {ev : SessionEvent} (h : p.step (i, ev) = some q) :
    p.storage.answer ev = some q.storage ∧
      (p.session i).resume serverPass ev = some (q.session i) ∧
      ∀ j, j ≠ i → q.session j = p.session j := by
  obtain ⟨storage, hs, h⟩ := Option.bind_eq_some_iff.mp h
  obtain ⟨c, hc, rfl⟩ := Option.map_eq_some_iff.mp h
  refine ⟨hs, hc.trans (congrArg some (Function.update_self i c p.session).symm), fun j hj => ?_⟩
  exact Function.update_of_ne hj _ _

/-- **A session of the pool is a server session.** -/
theorem pool_session {storage : RdmaEndpointStorage} {ls : List (ι × SessionEvent)} {p : Pool ι}
    (h : (pool ι).Run (Pool.start ι storage) ls p) (i : ι) :
    ServerRun (eventsOf i ls) (p.session i) := by
  refine Machine.RunWith.project (fun p : Pool ι => p.session i)
    (fun l => if l.1 = i then some l.2 else none) ?_ h
  rintro ls p ⟨j, ev⟩ q - - hstep
  obtain ⟨hs, hr, ho⟩ := Pool.step_inv hstep
  by_cases hj : j = i
  · subst hj
    simp only [if_true]
    exact ⟨⟨_, _, hs⟩, hr⟩
  · simp only [hj, if_false]
    exact ho i (Ne.symm hj)

/-! ## 2. The lock of one session -/

/-- **What a step does to the lock a session holds**: it takes one when it holds none, it gives
back the one it holds, or it does neither. -/
theorem ServerStep.held {f f' : ServerPhase} {ev : SessionEvent} {log : ServerLog}
    (hs : ServerStep f ev f') (hf : f.Knows log) :
    (∃ path err, ev = ⟨.tryLockEndpointsByPath path, (true, err)⟩ ∧ log.held = [] ∧
        (log.note ev).held = [path]) ∨
      (∃ path err, ev = ⟨.unlockEndpointsByPath path, err⟩ ∧ log.held = [path] ∧
        (log.note ev).held = []) ∨
      (log.note ev).held = log.held ∧
        (∀ path err, ev ≠ ⟨.tryLockEndpointsByPath path, (true, err)⟩) ∧
        ∀ path, ev.op ≠ .unlockEndpointsByPath path := by
  cases hs with
  | granted request endpoint descriptor =>
    refine Or.inl ⟨request.endpointPath, none, rfl, hf.1, ?_⟩
    exact congrArg (request.endpointPath :: ·) hf.1
  | unlock request err =>
    refine Or.inr (Or.inl ⟨request.endpointPath, err, rfl, hf.1, ?_⟩)
    exact (congrArg (List.erase · request.endpointPath) hf.1).trans (List.erase_cons_head _ _)
  | lockFailed request endpoint descriptor flag err =>
    cases flag with
    | false => exact Or.inr (Or.inr ⟨rfl, by simp, by simp⟩)
    | true =>
      refine Or.inl ⟨request.endpointPath, some err, rfl, hf.1, ?_⟩
      exact congrArg (request.endpointPath :: ·) hf.1
  | _ => exact Or.inr (Or.inr ⟨rfl, by simp, by simp⟩)

/-- A session holds one lock at most. -/
theorem held_length {evs : List SessionEvent} {c : Session} (h : ServerRun evs c) :
    (serverLog evs).held.length ≤ 1 := by
  refine Machine.RunWith.invariant (I := fun evs _ => (serverLog evs).held.length ≤ 1)
    (Nat.zero_le 1) ?_ h
  intro evs c ev c' hrun ih hgood hstep
  obtain ⟨f, f', hf, hs, -⟩ := server_last (.tail hrun hgood hstep)
  rw [serverLog_snoc]
  rcases hs.held hf with ⟨_, _, _, _, hheld⟩ | ⟨_, _, _, _, hheld⟩ | ⟨hheld, -⟩
  · rw [hheld]; exact Nat.le_refl 1
  · rw [hheld]; exact Nat.zero_le 1
  · rw [hheld]; exact ih

/-- An event respects the lock: permission is given and the service called by a session that holds
the path, the service for the first time in this exchange, and only what is held is given back. -/
structure Orderly (log : ServerLog) (ev : SessionEvent) : Prop where
  permitted : ∀ responce, Sends log ev responce →
    responce.responceCode = .operationPermitted → log.HoldsRequested
  handle : ∀ endpoint, ev.op = .handle endpoint →
    log.current.handled = [] ∧ log.HoldsRequested ∧ endpoint.path ∈ log.held
  unlock : ∀ path, ev.op = .unlockEndpointsByPath path → path ∈ log.held

/-- Only a session that was granted the lock calls the service, and once. -/
theorem ServerStep.handle {f f' : ServerPhase} {ev : SessionEvent} {log : ServerLog}
    {endpoint : RdmaEndpoint} (hs : ServerStep f ev f') (hf : f.Knows log)
    (h : ev.op = .handle endpoint) :
    ∃ request, request.Fits endpoint ∧ log.held = [request.endpointPath] ∧
      log.current.request = some request ∧ log.current.handled = [] := by
  obtain ⟨held, stranded, lost, decoded, current⟩ := log
  cases hs with
  | prepared request endpoint descriptor | prepareFailed request endpoint descriptor err
  | prepareThrew request endpoint descriptor | prepareNull request endpoint descriptor =>
    cases h
    obtain ⟨rfl, -, hfit, -, rfl⟩ := hf
    exact ⟨request, hfit, rfl, rfl, rfl⟩
  | processed request endpoint err | processThrew request endpoint
  | processNull request endpoint =>
    cases h
    obtain ⟨hw, ack, rfl, -, hfit, -, descriptor, rfl⟩ := hf
    refine ⟨request, hfit, rfl, rfl, ?_⟩
    simp [waiting, Reply.exchange, hw, RdmaEndpointType.read_ne_write.symm]
  | _ => cases h

/-- **Every event of a server session respects the lock.** -/
theorem server_orderly {evs : List SessionEvent} {ev : SessionEvent} {c : Session}
    (h : ServerRun (evs ++ [ev]) c) : Orderly (serverLog evs) ev := by
  obtain ⟨f, f', hf, hs, -⟩ := server_last h
  constructor
  · intro responce hsend hcode
    obtain ⟨reply, sending, rfl, rfl⟩ := hs.sends hf hsend
    obtain ⟨hheld, -, -, hcurrent⟩ := hf
    cases reply with
    | permitted request endpoint descriptor =>
      refine ⟨request, by rw [hcurrent]; rfl, ?_⟩
      rw [hheld]
      exact List.mem_singleton_self _
    | _ => cases hcode
  · intro endpoint hop
    obtain ⟨request, hfit, hheld, hrequest, hhandled⟩ := hs.handle hf hop
    have hmem : request.endpointPath ∈ (serverLog evs).held := by
      rw [hheld]; exact List.mem_singleton_self _
    exact ⟨hhandled, ⟨request, hrequest, hmem⟩, by rw [hfit.1]; exact hmem⟩
  · intro path hop
    rcases hs.held hf with ⟨_, _, rfl, -⟩ | ⟨_, _, rfl, hheld, -⟩ | ⟨-, -, hunlock⟩
    · cases hop
    · cases hop
      rw [hheld]
      exact List.mem_singleton_self _
    · exact absurd hop (hunlock path)

/-! ## 3. The flags -/

/-- Every flag is set exactly when some session holds the path, and one session holds it. -/
structure Guarded (ls : List (ι × SessionEvent)) (storage : RdmaEndpointStorage) : Prop where
  flags : ∀ x ∈ storage.endpointsMap,
    x.2.endpointLocked = true ↔ ∃ i, x.2.endpoint.path ∈ (logOf i ls).held
  exclusive : ∀ i j path, path ∈ (logOf i ls).held → path ∈ (logOf j ls).held → i = j

section Guarded

variable {ls : List (ι × SessionEvent)} {storage : RdmaEndpointStorage} {i : ι} {ev : SessionEvent}
  {path : RdmaEndpointPath}

omit [Platform] in
/-- A session that neither takes nor gives back a lock. -/
theorem Guarded.same (h : Guarded ls storage)
    (hheld : ((logOf i ls).note ev).held = (logOf i ls).held) :
    Guarded (ls ++ [(i, ev)]) storage := by
  have hall : ∀ k, (logOf k (ls ++ [(i, ev)])).held = (logOf k ls).held := by
    intro k
    by_cases hk : i = k
    · subst hk
      rw [logOf_snoc_same, hheld]
    · rw [logOf_snoc_other hk]
  constructor
  · intro x hx
    simp only [hall]
    exact h.flags x hx
  · intro j k path hj hk
    rw [hall] at hj hk
    exact h.exclusive j k path hj hk

omit [Platform] in
/-- A session that takes a lock: some flag of the path was free, so nobody held it. -/
theorem Guarded.take (h : Guarded ls storage)
    (hfree : ∃ x ∈ storage.endpointsMap, x.2.endpoint.path = path ∧ x.2.endpointLocked = false)
    (hnone : (logOf i ls).held = []) (hheld : ((logOf i ls).note ev).held = [path]) :
    Guarded (ls ++ [(i, ev)]) (storage.setLocked path true) := by
  have hnobody : ∀ k, path ∉ (logOf k ls).held := by
    intro k hk
    obtain ⟨x, hx, rfl, hx0⟩ := hfree
    have := (h.flags x hx).mpr ⟨k, hk⟩
    rw [hx0] at this
    cases this
  have hsame : (logOf i (ls ++ [(i, ev)])).held = [path] := by rw [logOf_snoc_same, hheld]
  have hother : ∀ k, i ≠ k → (logOf k (ls ++ [(i, ev)])).held = (logOf k ls).held :=
    fun k hk => by rw [logOf_snoc_other hk]
  constructor
  · intro y hy
    obtain ⟨x, hx, rfl⟩ := List.mem_map.mp hy
    rw [RdmaEndpointStorage.flagEntry_endpoint]
    by_cases hp : x.2.endpoint.path = path
    · simp only [RdmaEndpointStorage.flagEntry, hp, if_true, true_iff]
      exact ⟨i, by rw [hsame]; exact List.mem_singleton_self _⟩
    · simp only [RdmaEndpointStorage.flagEntry, hp, if_false]
      rw [h.flags x hx]
      refine exists_congr fun k => ?_
      by_cases hk : i = k
      · subst hk
        simp [hsame, hnone, hp]
      · rw [hother k hk]
  · intro j k q hj hk
    by_cases hj' : i = j <;> by_cases hk' : i = k
    · exact hj'.symm.trans hk'
    · subst hj'
      rw [hsame, List.mem_singleton] at hj
      subst hj
      rw [hother k hk'] at hk
      exact absurd hk (hnobody k)
    · subst hk'
      rw [hsame, List.mem_singleton] at hk
      subst hk
      rw [hother j hj'] at hj
      exact absurd hj (hnobody j)
    · rw [hother j hj'] at hj
      rw [hother k hk'] at hk
      exact h.exclusive j k q hj hk

omit [Platform] in
/-- A session that gives its lock back: nobody else held it. -/
theorem Guarded.give (h : Guarded ls storage) (hone : (logOf i ls).held = [path])
    (hheld : ((logOf i ls).note ev).held = []) :
    Guarded (ls ++ [(i, ev)]) (storage.setLocked path false) := by
  have hmine : path ∈ (logOf i ls).held := by rw [hone]; exact List.mem_singleton_self _
  have hsame : (logOf i (ls ++ [(i, ev)])).held = [] := by rw [logOf_snoc_same, hheld]
  have hother : ∀ k, i ≠ k → (logOf k (ls ++ [(i, ev)])).held = (logOf k ls).held :=
    fun k hk => by rw [logOf_snoc_other hk]
  constructor
  · intro y hy
    obtain ⟨x, hx, rfl⟩ := List.mem_map.mp hy
    rw [RdmaEndpointStorage.flagEntry_endpoint]
    by_cases hp : x.2.endpoint.path = path
    · simp only [RdmaEndpointStorage.flagEntry, hp, if_true, Bool.false_eq_true, false_iff,
        not_exists]
      intro k hk
      by_cases hki : i = k
      · subst hki
        rw [hsame] at hk
        cases hk
      · rw [hother k hki] at hk
        exact hki (h.exclusive i k path hmine hk)
    · simp only [RdmaEndpointStorage.flagEntry, hp, if_false]
      rw [h.flags x hx]
      refine exists_congr fun k => ?_
      by_cases hk : i = k
      · subst hk
        simp [hsame, hone, hp]
      · rw [hother k hk]
  · intro j k q hj hk
    have hne : ∀ {m : ι}, q ∈ (logOf m (ls ++ [(i, ev)])).held → i ≠ m := by
      rintro m hm rfl
      rw [hsame] at hm
      cases hm
    rw [hother j (hne hj)] at hj
    rw [hother k (hne hk)] at hk
    exact h.exclusive j k q hj hk

end Guarded

/-- **The flags of a pool are guarded**, whatever the sessions do. -/
theorem pool_guarded {storage : RdmaEndpointStorage} {ls : List (ι × SessionEvent)} {p : Pool ι}
    (hreg : storage.Registered) (h : (pool ι).Run (Pool.start ι storage) ls p) :
    Guarded ls p.storage := by
  refine Machine.RunWith.invariant (I := fun ls (p : Pool ι) => Guarded ls p.storage) ?_ ?_ h
  · refine ⟨fun x hx => ?_, fun i j path hi => nomatch hi⟩
    rw [hreg.unlocked x hx]
    exact ⟨fun hf => (nomatch hf), fun ⟨_, hm⟩ => nomatch hm⟩
  · rintro ls p ⟨i, ev⟩ q hrun hguard - hstep
    obtain ⟨hs, hr, -⟩ := Pool.step_inv hstep
    obtain ⟨f, hf, hknows⟩ := server_knows (pool_session hrun i)
    rw [hf] at hr
    obtain ⟨f', -, hss⟩ := server_refines.step f ev _ hr
    rcases hss.held hknows with ⟨path, err, rfl, hnone, hheld⟩ | ⟨path, err, rfl, hone, hheld⟩ |
      ⟨hheld, hgrant, hunlock⟩
    · obtain ⟨hres, hst⟩ := RdmaEndpointStorage.answer_tryLock hs
      rw [hst]
      refine hguard.take ?_ hnone hheld
      exact (RdmaEndpointStorage.tryLockEndpointsByPath_granted_iff _ _).mp
        (congrArg Prod.fst hres).symm
    · rw [RdmaEndpointStorage.answer_unlock hs]
      exact hguard.give hone hheld
    · have hst : q.storage = p.storage := by
        obtain ⟨op, r⟩ := ev
        cases op with
        | tryLockEndpointsByPath path =>
          obtain ⟨flag, err⟩ := r
          obtain ⟨hres, hst⟩ := RdmaEndpointStorage.answer_tryLock hs
          cases flag with
          | true => exact absurd rfl (hgrant path err)
          | false =>
            rw [hst]
            exact RdmaEndpointStorage.setLocked_of_refused (congrArg Prod.fst hres).symm
        | unlockEndpointsByPath path => exact absurd rfl (hunlock path)
        | _ => exact RdmaEndpointStorage.answer_other hs (by simp) (by simp)
      rw [hst]
      exact hguard.same hheld

/-! ## 4. What the sessions find -/

section Found

variable {storage : RdmaEndpointStorage}

omit [Platform] in
theorem endpoint_note {log : ServerLog} {ev : SessionEvent} {served : RdmaEndpoint}
    (h : (log.note ev).current.endpoint = some served) :
    log.current.endpoint = some served ∨ ∃ id, ev = ⟨.getEndpoint id, .ok served⟩ := by
  obtain ⟨op, r⟩ := ev
  cases op with
  | getEndpoint id =>
    cases r with
    | ok endpoint =>
      obtain rfl : endpoint = served := Option.some.inj h
      exact Or.inr ⟨id, rfl⟩
    | error err => exact Or.inl h
  | deserializeRequest bs =>
    cases r with
    | ok request => cases h
    | error fault => exact Or.inl h
  | exportMemoryDescriptor served | deserializeAcknowledge bs => cases r <;> exact Or.inl h
  | _ => exact Or.inl h

/-- **What is served is registered**: no session registers anything, and each serves an endpoint it
has found in the storage. -/
theorem pool_found {ls : List (ι × SessionEvent)} {p : Pool ι}
    (h : (pool ι).Run (Pool.start ι storage) ls p) :
    (∀ endpoint, p.storage.Holds endpoint ↔ storage.Holds endpoint) ∧
      ∀ i served, (logOf i ls).current.endpoint = some served → storage.Holds served := by
  refine Machine.RunWith.invariant
    (I := fun ls (p : Pool ι) => (∀ endpoint, p.storage.Holds endpoint ↔ storage.Holds endpoint) ∧
      ∀ i served, (logOf i ls).current.endpoint = some served → storage.Holds served)
    ⟨fun _ => Iff.rfl, fun _ _ h => nomatch h⟩ ?_ h
  rintro ls p ⟨i, ev⟩ q - ⟨hholds, hfound⟩ - hstep
  obtain ⟨ha, -, -⟩ := Pool.step_inv hstep
  refine ⟨fun endpoint => (RdmaEndpointStorage.answer_holds ha endpoint).trans (hholds endpoint),
    fun j served hserved => ?_⟩
  by_cases hij : i = j
  · subst hij
    rw [logOf_snoc_same] at hserved
    rcases endpoint_note hserved with hbefore | ⟨id, rfl⟩
    · exact hfound i served hbefore
    · have hgot := (RdmaEndpointStorage.answer_getEndpoint ha).1
      exact (hholds served).mp (RdmaEndpointStorage.getEndpoint_holds hgot.symm)
  · rw [logOf_snoc_other hij] at hserved
    exact hfound j served hserved

end Found

/-! ## 5. Mutual exclusion -/

/-- **Server-side mutual exclusion**, in every state of any number of sessions: a session holds one
lock at most and no two sessions the same one, a flag is set exactly while some session holds its
path, and every event so far respected the lock. -/
theorem pool_mutual_exclusion {storage : RdmaEndpointStorage} {ls : List (ι × SessionEvent)}
    {p : Pool ι} (hreg : storage.Registered) (h : (pool ι).Run (Pool.start ι storage) ls p) :
    (∀ i, (logOf i ls).held.length ≤ 1) ∧
      (∀ i j path, path ∈ (logOf i ls).held → path ∈ (logOf j ls).held → i = j) ∧
      (∀ x ∈ p.storage.endpointsMap,
        x.2.endpointLocked = true ↔ ∃ i, x.2.endpoint.path ∈ (logOf i ls).held) ∧
      ∀ ms i ev ns, ls = ms ++ (i, ev) :: ns → Orderly (logOf i ms) ev := by
  have hguard := pool_guarded hreg h
  refine ⟨fun i => held_length (pool_session h i), hguard.exclusive, hguard.flags, ?_⟩
  rintro ms i ev ns rfl
  rw [List.append_cons] at h
  obtain ⟨q, hrun, -⟩ := h.split
  have hsession := pool_session hrun i
  rw [eventsOf, List.filterMap_append, List.filterMap_cons, List.filterMap_nil] at hsession
  simp only [if_true] at hsession
  exact server_orderly hsession

omit [Platform] in
/-- Two sessions that ask for the same path: the first is granted it, the second is not. -/
theorem pool_mutual_exclusion_sample :
    letI := Platform.littleEndian
    let ls := (grantEvents sampleRequest sampleEndpoint [7]).map (Prod.mk false) ++
      refusedEvents.map (Prod.mk true)
    ∃ p, (pool Bool).Run (Pool.start Bool sampleStorage) ls p ∧
      ∀ i j path, path ∈ (logOf i ls).held → path ∈ (logOf j ls).held → i = j := by
  let _ := Platform.littleEndian
  intro ls
  have hsome : ((pool Bool).exec (Pool.start Bool sampleStorage) ls).isSome = true := by
    decide +kernel
  obtain ⟨p, hp⟩ := Option.isSome_iff_exists.mp hsome
  have hrun := Machine.exec_run hp
  exact ⟨p, hrun, (pool_mutual_exclusion (.register _ .create) hrun).2.1⟩

end DocaCpp
