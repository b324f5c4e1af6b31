/-
# The executors behind the RDMA operations

In Net.Connection the RDMA operation of a client is idle, in flight or over, and what stands behind
it is not looked at.  Here it goes through an executor.  `Hosts` is the network with the executors
its clients use: each is shared by any number of connections and of other callers, its worker takes
one request after the other, and it is stopped or destroyed at any point of the run.

All that a connection sees of the threads is what has become of its own request
(`RdmaExecutor.rdma`, §1).  So a run of the hosts is a run of the network (`executors_refine`, §5), and
what is proved of the network, its timely runs among them, is true of the clients as they are.
-/
import DocaCpp.Executor.Lifetime
import DocaCpp.Net.Network

namespace DocaCpp

/-! ## 1. What a connection sees of its executor -/

namespace RdmaExecutor

variable {α : Type}

/-- What has become of a request that was made at `since`. -/
def rdma (x : RdmaExecutor α) (a : α) (since : ℕ) : Rdma :=
  match x.caller a with
  | .outside | .returned (some _) => .idle
  | .notifying | .returned none =>
    match x.responcePromise a with
    | [] => .inFlight since
    | responce :: _ => .ended responce.2

/-- The request was put into the queue. -/
def Accepted (x : RdmaExecutor α) (a : α) : Prop :=
  x.caller a = .notifying ∨ x.caller a = .returned none

section View

variable {x : RdmaExecutor α} {a : α} {since : ℕ}

theorem rdma_outside (h : x.caller a = .outside) : x.rdma a since = .idle := by
  unfold rdma
  rw [h]

theorem rdma_refused {err : Err} (h : x.caller a = .returned (some err)) :
    x.rdma a since = .idle := by
  unfold rdma
  rw [h]

theorem Accepted.inFlight (h : x.Accepted a) (hp : x.responcePromise a = []) :
    x.rdma a since = .inFlight since := by
  unfold rdma
  rcases h with h | h <;> rw [h, hp]

theorem Accepted.ended {responce : RdmaOperationResponce} {rest : List RdmaOperationResponce}
    (h : x.Accepted a) (hp : x.responcePromise a = responce :: rest) :
    x.rdma a since = .ended responce.2 := by
  unfold rdma
  rcases h with h | h <;> rw [h, hp]

end View

variable [DecidableEq α] {x y : RdmaExecutor α} {a : α} {since : ℕ} {err : error}
  {responce : RdmaOperationResponce} {l : ExecutorLabel α} {ls : List (ExecutorLabel α)}

/-- A call that returned an error was refused. -/
theorem refused_of_returned (h : (executor α).Run (start α) ls x) :
    ∀ a err, x.caller a = .returned (some err) → a ∈ refused ls := by
  refine Machine.RunWith.invariant
    (I := fun ls x => ∀ a err, x.caller a = .returned (some err) → a ∈ refused ls) ?_ ?_ h
  · intro a err hc
    cases hc
  · intro ls x l y _ hI _ hstep a err hc
    rw [refused_append, List.mem_append]
    cases step_moves (x := x) hstep with
    | submit b hout =>
      revert hc
      unfold submitOperation
      split
      next =>
        intro hc
        by_cases hb : a = b
        · subst hb
          exact .inr (List.mem_singleton_self _)
        · exact .inl (hI a err ((Function.update_of_ne hb ..).symm.trans hc))
      next =>
        intro hc
        by_cases hb : a = b
        · subst hb
          cases (Function.update_self ..).symm.trans hc
        · exact .inl (hI a err ((Function.update_of_ne hb ..).symm.trans hc))
    | notify b hcaller =>
      by_cases hb : a = b
      · subst hb
        cases (Function.update_self ..).symm.trans hc
      · exact .inl (hI a err ((Function.update_of_ne hb ..).symm.trans hc))
    | loop hw =>
      refine .inl (hI a err (hc ▸ ?_))
      unfold workerLoop
      repeat' split
      all_goals rfl
    | _ => exact .inl (hI a err hc)

/-- **A submission**: an accepted request is in flight, a refused one has never been. -/
theorem rdma_submit (since now : ℕ) (hacc : Accounted x ls)
    (hs : x.step (.submit a err) = some y) :
    x.rdma a since = .idle ∧
      y.rdma a now = if err = none then .inFlight now else .idle := by
  have hout : x.caller a = .outside := by
    cases step_moves hs with
    | submit _ hout => exact hout
  refine ⟨rdma_outside hout, ?_⟩
  obtain ⟨hnot, hnotRefused⟩ := (hacc.callers a).mp hout
  obtain ⟨⟨-, herr⟩, hy⟩ := Option.ite_none_right_eq_some.mp hs
  obtain rfl := Option.some.inj hy
  rw [herr]
  unfold submitOperation
  split
  next => exact rdma_refused (Function.update_self ..)
  next =>
    refine Accepted.inFlight (.inl (Function.update_self ..)) ?_
    change x.responcePromise a = []
    rw [hacc.promises a hnotRefused, List.map_eq_nil_iff, List.filter_eq_nil_iff]
    intro e he hkey
    refine hnot ?_
    rw [hacc.queued, hacc.answers, List.map_append]
    obtain rfl := of_decide_eq_true hkey
    simp only [List.mem_append]
    exact .inl (.inl (.inl (List.mem_map_of_mem he)))

/-- **An answer**: the request was in flight, and is over. -/
theorem rdma_answer (since : ℕ) (h : (executor α).Run (start α) ls x)
    (hs : x.step (.answer a responce) = some y) :
    x.rdma a since = .inFlight since ∧ y.rdma a since = .ended responce.2 := by
  have hacc := (executor_accounted h).1
  obtain ⟨hw, hy⟩ := Option.ite_none_right_eq_some.mp hs
  obtain rfl := Option.some.inj hy
  have hpending : (a, responce) ∈ x.worker.pending := by
    rw [hw]
    exact List.mem_singleton_self _
  have ha : a ∈ accepted ls := by
    rw [hacc.queued, hacc.answers, List.map_append]
    simp only [List.mem_append]
    exact .inl (.inl (.inr (List.mem_map_of_mem hpending)))
  have haccepted : x.Accepted a := by
    cases hc : x.caller a with
    | outside => exact absurd ha ((hacc.callers a).mp hc).1
    | notifying => exact .inl hc
    | returned err =>
      cases err with
      | none => exact .inr hc
      | some err => exact absurd (refused_of_returned h a err hc) (hacc.not_refused ha)
  have hempty : x.responcePromise a = [] := by
    rcases hacc.whereabouts ha with ⟨r, -, hr⟩ | ⟨hempty, -⟩
    · -- it would be accepted a second time
      have hset : x.responcePromise a ≠ [] := by
        rw [hr]
        exact List.cons_ne_nil _ _
      rw [hacc.promises a (hacc.not_refused ha)] at hset
      obtain ⟨e, he⟩ := List.exists_mem_of_ne_nil _ (mt List.map_eq_nil_iff.mpr hset)
      obtain ⟨hmem, hkey⟩ := List.mem_filter.mp he
      have hnodup : (accepted ls).Nodup := (List.nodup_append.mp hacc.distinct).1
      rw [hacc.queued, hacc.answers, List.map_append] at hnodup
      exact absurd (of_decide_eq_true hkey)
        ((List.nodup_append.mp hnodup.of_append_left.of_append_left).2.2 e.1
          (List.mem_map_of_mem hmem) a (List.mem_map_of_mem hpending))
    · exact hempty
  have hset : Function.update x.responcePromise a (x.responcePromise a ++ [responce]) a
      = [responce] := by
    rw [Function.update_self, hempty]
    rfl
  exact ⟨haccepted.inFlight hempty, Accepted.ended haccepted hset⟩

/-- Nothing else changes what has become of a request. -/
theorem rdma_other (hs : x.step l = some y) (hsubmit : ∀ err, l ≠ .submit a err)
    (hanswer : ∀ responce, l ≠ .answer a responce) : y.rdma a since = x.rdma a since := by
  have hsame : y.caller a = x.caller a → y.responcePromise a = x.responcePromise a →
      y.rdma a since = x.rdma a since := by
    intro hc hp
    unfold rdma
    rw [hc, hp]
  cases step_moves hs with
  | submit b hout =>
    have hb : a ≠ b := fun hb => hsubmit _ (by rw [hb])
    refine hsame ?_ ?_
    · unfold submitOperation
      split <;> exact Function.update_of_ne hb ..
    · unfold submitOperation
      split
      next => exact Function.update_of_ne hb ..
      next => rfl
  | notify b hcaller =>
    by_cases hb : a = b
    · -- the call returns, and the request is where it was
      subst hb
      unfold rdma
      simp only [Function.update_self, hcaller]
      rfl
    · exact hsame (Function.update_of_ne hb ..) rfl
  | loop hw =>
    unfold workerLoop
    repeat' split
    all_goals rfl
  | answer b responce hw =>
    have hb : a ≠ b := fun hb => hanswer responce (by rw [hb])
    exact hsame rfl (Function.update_of_ne hb ..)
  | _ => exact hsame rfl rfl

/-- A request that was accepted stays so. -/
theorem Accepted.step (h : x.Accepted a) (hs : x.step l = some y) : y.Accepted a := by
  have hsame : y.caller a = x.caller a → y.Accepted a := by
    intro hc
    unfold Accepted
    rw [hc]
    exact h
  cases step_moves hs with
  | submit b hout =>
    have hb : a ≠ b := by
      rintro rfl
      rcases h with h | h <;> cases hout.symm.trans h
    refine hsame ?_
    unfold submitOperation
    split <;> exact Function.update_of_ne hb ..
  | notify b hcaller =>
    by_cases hb : a = b
    · subst hb
      exact .inr (Function.update_self ..)
    · exact hsame (Function.update_of_ne hb ..)
  | loop hw =>
    refine hsame ?_
    unfold workerLoop
    repeat' split
    all_goals rfl
  | _ => exact hsame rfl

theorem accepted_submit (hs : x.step (.submit a none) = some y) : y.Accepted a := by
  obtain ⟨⟨-, herr⟩, hy⟩ := Option.ite_none_right_eq_some.mp hs
  obtain rfl := Option.some.inj hy
  revert herr
  unfold submitOperation
  split
  next => exact fun herr => nomatch herr
  next => exact fun _ => .inl (Function.update_self ..)

end RdmaExecutor

/-- What a session notes as submitted it was told so. -/
theorem ClientLog.note_submitted {log : ClientLog} {ev : SessionEvent}
    (h : (log.note ev).submitted = true) :
    log.submitted = true ∨ ∃ operation, ev = ⟨.submitOperation operation, none⟩ := by
  obtain ⟨op, r⟩ := ev
  cases op with
  | submitOperation operation =>
    cases r with
    | none => exact .inr ⟨operation, rfl⟩
    | some err => exact .inl h
  | deserializeResponse buffer => cases r <;> exact .inl h
  | _ => exact .inl h

/-! ## 2. The hosts -/

/-- A network, and the executors its clients use.  The operations are with the executors: the
connections' own are not used. -/
structure Hosts (ι κ ω : Type) where
  net : Network ι
  executor : κ → RdmaExecutor (ι ⊕ ω)
  /-- when a client has called `SubmitOperation` -/
  submittedAt : ι → ℕ := fun _ => 0

/-- What can happen next: something on the network, or in an executor. -/
inductive HostsLabel (ι κ ω : Type)
  | net (l : NetworkLabel ι)
  | executor (k : κ) (l : ExecutorLabel (ι ⊕ ω))

/-- A step of an executor that no client takes. -/
def ExecutorLabel.unclaimed {ι ω : Type} : ExecutorLabel (ι ⊕ ω) → Bool
  | .submit (.inl _) _ => false
  | _ => true

variable [Platform]

/-- The client session of a connection is answered, but for what concerns its operation. -/
def Connection.answerClient (endpoint : RdmaEndpoint) (c : Connection) (ev : SessionEvent) :
    Option Connection :=
  (c.clientSide.answer c.now ev).bind fun s =>
    (c.client.resume (clientPass true endpoint) ev).map fun client =>
      { c with client := client, down := s.inp, up := s.out, clientTimer := s.timer }

variable {ι κ ω : Type} [DecidableEq ι] [DecidableEq κ] [DecidableEq ω]

namespace Hosts

variable (endpoints : ι → RdmaEndpoint) (host : ι → κ)

/-- A client that waits for its operation gives up after its time. -/
def expired (now since : ℕ) : SessionEvent → Bool
  | ⟨.awaitWithTimeout milliseconds, .timedOut⟩ => since + milliseconds ≤ now
  | _ => true

/-- The session is not inside of `SubmitOperation`, and is answered as its executor answers. -/
def Answers (x : Hosts ι κ ω) (i : ι) (ev : SessionEvent) : Prop :=
  (x.executor (host i)).caller (.inl i) ≠ .notifying ∧
    awaits ((x.executor (host i)).responcePromise (.inl i)) ev = true ∧
    expired (x.net.conn i).now (x.submittedAt i) ev = true

instance (x : Hosts ι κ ω) (i : ι) (ev : SessionEvent) : Decidable (x.Answers host i ev) :=
  inferInstanceAs (Decidable (_ ∧ _ ∧ _))

/-- One step. -/
def step (x : Hosts ι κ ω) : HostsLabel ι κ ω → Option (Hosts ι κ ω)
  | .net (.conn _ (.complete _)) => none
  | .net (.conn i (.client ev)) =>
    if x.Answers host i ev then
      ((x.net.conn i).answerClient (endpoints i) ev).bind fun c =>
        let net := { x.net with conn := Function.update x.net.conn i c }
        match submission (.inl i) ev with
        | none => some { x with net := net }
        | some l =>
          ((x.executor (host i)).step l).map fun executor =>
            { net := net
              executor := Function.update x.executor (host i) executor
              submittedAt := Function.update x.submittedAt i c.now }
    else none
  | .net l => (x.net.step endpoints l).map fun net => { x with net := net }
  | .executor k l =>
    if l.unclaimed then
      ((x.executor k).step l).map fun executor =>
        { x with executor := Function.update x.executor k executor }
    else none

/-- The executors have been started, and the server starts to serve. -/
def start (ι κ ω : Type) (storage : RdmaEndpointStorage) : Hosts ι κ ω where
  net := Network.start ι storage
  executor := fun _ => RdmaExecutor.start (ι ⊕ ω)

/-- The network, as the hosts make it. -/
def network (x : Hosts ι κ ω) : Network ι where
  storage := x.net.storage
  conn := fun i =>
    { x.net.conn i with rdma := (x.executor (host i)).rdma (.inl i) (x.submittedAt i) }

end Hosts

/-- The hosts, as a machine. -/
def hosts (ω : Type) [DecidableEq ω] (endpoints : ι → RdmaEndpoint) (host : ι → κ) :
    Machine (Hosts ι κ ω) (HostsLabel ι κ ω) :=
  ⟨Hosts.step endpoints host⟩

/-- What a step is for the network: an operation is over when its promise is set. -/
def HostsLabel.network (host : ι → κ) : HostsLabel ι κ ω → Option (NetworkLabel ι)
  | .net l => some l
  | .executor k (.answer (.inl i) responce) =>
    if host i = k then some (.conn i (.complete responce.2)) else none
  | .executor _ _ => none

/-! ## 3. What the steps can do -/

section Connection

variable {endpoint : RdmaEndpoint} {c c' : Connection} {ev : SessionEvent} {rdma rdma' : Rdma}
  {l : ConnectionLabel}

/-- What neither the client session nor the operation takes is the same whatever has become of the
operation. -/
theorem Connection.step_rdma (hclient : l.ofClient = none)
    (hcomplete : ∀ err, l ≠ .complete err) (c : Connection) (rdma : Rdma) :
    { c with rdma := rdma }.step endpoint l
      = (c.step endpoint l).map fun c => { c with rdma := rdma } := by
  cases l with
  | client ev => cases hclient
  | complete err => exact absurd rfl (hcomplete err)
  | tick milliseconds => rfl
  | server ev => simp [step, serverSide, Option.map_bind, Function.comp_def]
  | serverTimeout | clientTimeout =>
    refine Eq.trans ?_
      (apply_ite (Option.map fun c : Connection => { c with rdma := rdma }) _ _ _).symm
    simp only [Option.map_map]
    rfl
  | clientCloses | serverCloses =>
    refine Eq.trans ?_
      (apply_ite (Option.map fun c : Connection => { c with rdma := rdma }) _ _ _).symm
    rfl
  | fetchUp | fetchDown | pushUp | pushDown =>
    simp only [step, serverCall, clientCall]
    split <;> simp [Function.comp_def]

/-- The client session is answered, with what has become of the operation put back. -/
theorem Connection.step_of_answerClient (h : c.answerClient endpoint ev = some c')
    (hr : rdma.answer c.now ev = some rdma') :
    { c with rdma := rdma }.step endpoint (.client ev) = some { c' with rdma := rdma' } := by
  obtain ⟨s, hs, h⟩ := Option.bind_eq_some_iff.mp h
  obtain ⟨client, hc, rfl⟩ := Option.map_eq_some_iff.mp h
  exact Option.bind_eq_some_iff.mpr ⟨s, hs, Option.bind_eq_some_iff.mpr ⟨rdma', hr,
    Option.map_eq_some_iff.mpr ⟨client, hc, rfl⟩⟩⟩

theorem Connection.answerClient_client (h : c.answerClient endpoint ev = some c') :
    c.client.resume (clientPass true endpoint) ev = some c'.client ∧ c'.now = c.now := by
  obtain ⟨s, -, h⟩ := Option.bind_eq_some_iff.mp h
  obtain ⟨client, hc, rfl⟩ := Option.map_eq_some_iff.mp h
  exact ⟨hc, rfl⟩

end Connection

namespace Hosts

variable {endpoints : ι → RdmaEndpoint} {host : ι → κ} {x y : Hosts ι κ ω}

/-- The connection is another. -/
def setConn (x : Hosts ι κ ω) (i : ι) (c : Connection) : Hosts ι κ ω :=
  { x with net := { x.net with conn := Function.update x.net.conn i c } }

/-- What the steps can do, label by label. -/
inductive Moves (endpoints : ι → RdmaEndpoint) (host : ι → κ) (x : Hosts ι κ ω) :
    HostsLabel ι κ ω → Hosts ι κ ω → Prop
  | net (l : NetworkLabel ι) (net : Network ι) (hclient : ∀ i ev, l ≠ .conn i (.client ev))
      (hcomplete : ∀ i err, l ≠ .conn i (.complete err))
      (hs : x.net.step endpoints l = some net) :
      Moves endpoints host x (.net l) { x with net := net }
  | call (i : ι) (ev : SessionEvent) (c : Connection) (ha : x.Answers host i ev)
      (hc : (x.net.conn i).answerClient (endpoints i) ev = some c)
      (hsub : submission (Sum.inl (β := ω) i) ev = none) :
      Moves endpoints host x (.net (.conn i (.client ev))) (x.setConn i c)
  | submit (i : ι) (operation : RdmaOperationRequest) (err : error) (c : Connection)
      (executor : RdmaExecutor (ι ⊕ ω))
      (hc : (x.net.conn i).answerClient (endpoints i) ⟨.submitOperation operation, err⟩ = some c)
      (he : (x.executor (host i)).step (.submit (.inl i) err) = some executor) :
      Moves endpoints host x (.net (.conn i (.client ⟨.submitOperation operation, err⟩)))
        { x.setConn i c with
          executor := Function.update x.executor (host i) executor
          submittedAt := Function.update x.submittedAt i c.now }
  | executor (k : κ) (l : ExecutorLabel (ι ⊕ ω)) (executor : RdmaExecutor (ι ⊕ ω))
      (hl : l.unclaimed = true) (he : (x.executor k).step l = some executor) :
      Moves endpoints host x (.executor k l)
        { x with executor := Function.update x.executor k executor }

/-- A step is one of these moves. -/
theorem step_moves {l : HostsLabel ι κ ω} (h : x.step endpoints host l = some y) :
    Moves endpoints host x l y := by
  have hnet : ∀ l : NetworkLabel ι, (∀ i ev, l ≠ .conn i (.client ev)) →
      (∀ i err, l ≠ .conn i (.complete err)) →
      ((x.net.step endpoints l).map fun net => { x with net := net }) = some y →
      Moves endpoints host x (.net l) y := by
    intro l hclient hcomplete h
    obtain ⟨net, hs, rfl⟩ := Option.map_eq_some_iff.mp h
    exact .net l net hclient hcomplete hs
  cases l with
  | executor k l =>
    obtain ⟨hl, h⟩ := Option.ite_none_right_eq_some.mp h
    obtain ⟨executor, he, rfl⟩ := Option.map_eq_some_iff.mp h
    exact .executor k l executor hl he
  | net l =>
    cases l with
    | tick milliseconds => exact hnet _ (by rintro _ _ ⟨⟩) (by rintro _ _ ⟨⟩) h
    | conn i l =>
      cases l with
      | complete err => cases h
      | client ev =>
        obtain ⟨ha, h⟩ := Option.ite_none_right_eq_some.mp h
        obtain ⟨c, hc, h⟩ := Option.bind_eq_some_iff.mp h
        cases hsub : submission (Sum.inl (β := ω) i) ev with
        | none =>
          simp only [hsub] at h
          obtain rfl := Option.some.inj h
          exact .call i ev c ha hc hsub
        | some l =>
          simp only [hsub] at h
          obtain ⟨executor, he, rfl⟩ := Option.map_eq_some_iff.mp h
          obtain ⟨operation, err, rfl, rfl⟩ := submission_inv hsub
          exact .submit i operation err c executor hc he
      | _ => exact hnet _ (by rintro _ _ ⟨⟩) (by rintro _ _ ⟨⟩) h

end Hosts

/-! ## 4. The parts of the hosts -/

/-- What a step is for an executor. -/
def HostsLabel.ofExecutor (host : ι → κ) (k : κ) :
    HostsLabel ι κ ω → Option (ExecutorLabel (ι ⊕ ω))
  | .net (.conn i (.client ev)) => if host i = k then submission (.inl i) ev else none
  | .net _ => none
  | .executor j l => if j = k then some l else none

/-- What a step is for a client session. -/
def HostsLabel.ofClient (i : ι) : HostsLabel ι κ ω → Option SessionEvent
  | .net (.conn j (.client ev)) => if j = i then some ev else none
  | _ => none

namespace Hosts

variable {endpoints : ι → RdmaEndpoint} {host : ι → κ} {x y : Hosts ι κ ω}
  {storage : RdmaEndpointStorage} {ls : List (HostsLabel ι κ ω)} {i : ι}
  {Good : List (HostsLabel ι κ ω) → Hosts ι κ ω → HostsLabel ι κ ω → Prop}

omit [Platform] [DecidableEq κ] [DecidableEq ω] in
theorem setConn_self {c : Connection} : (x.setConn i c).net.conn i = c := Function.update_self ..

omit [Platform] [DecidableEq κ] [DecidableEq ω] in
theorem setConn_other {c : Connection} {j : ι} (h : j ≠ i) :
    (x.setConn i c).net.conn j = x.net.conn j := Function.update_of_ne h ..

/-- An executor of the hosts is an executor. -/
theorem executor_run (k : κ)
    (h : (hosts ω endpoints host).RunWith Good (Hosts.start ι κ ω storage) ls x) :
    (DocaCpp.executor (ι ⊕ ω)).Run (RdmaExecutor.start (ι ⊕ ω))
      (ls.filterMap (HostsLabel.ofExecutor host k)) (x.executor k) := by
  refine Machine.RunWith.project (fun x : Hosts ι κ ω => x.executor k)
    (HostsLabel.ofExecutor host k) ?_ h
  intro ls x l y _ _ hstep
  cases step_moves (x := x) hstep with
  | net l net hclient hcomplete hs =>
    have hnone : (HostsLabel.net l : HostsLabel ι κ ω).ofExecutor host k = none := by
      cases l with
      | tick milliseconds => rfl
      | conn i l =>
        cases l with
        | client ev => exact absurd rfl (hclient i ev)
        | _ => rfl
    rw [hnone]
  | call i ev c ha hc hsub =>
    have hnone : (HostsLabel.net (.conn i (.client ev)) : HostsLabel ι κ ω).ofExecutor host k
        = none := by
      simp only [HostsLabel.ofExecutor, hsub, ite_self]
    rw [hnone]
    rfl
  | submit i operation err c executor hc he =>
    by_cases hk : host i = k
    · subst hk
      simp only [HostsLabel.ofExecutor, submission, if_true]
      exact ⟨trivial,
        he.trans (congrArg some (Function.update_self (host i) executor x.executor).symm)⟩
    · simp only [HostsLabel.ofExecutor, if_neg hk]
      exact Function.update_of_ne (Ne.symm hk) ..
  | executor j l executor hl he =>
    by_cases hj : j = k
    · subst hj
      simp only [HostsLabel.ofExecutor, if_true]
      exact ⟨trivial,
        he.trans (congrArg some (Function.update_self j executor x.executor).symm)⟩
    · simp only [HostsLabel.ofExecutor, if_neg hj]
      exact Function.update_of_ne (Ne.symm hj) ..

/-- A step that the client of a connection does not take leaves its session alone. -/
theorem client_kept {n n' : Network ι} {l : NetworkLabel ι} (h : n.step endpoints l = some n')
    (hclient : ∀ ev, l ≠ .conn i (.client ev)) : (n'.conn i).client = (n.conn i).client := by
  cases l with
  | tick milliseconds =>
    cases h
    rfl
  | conn j l =>
    obtain ⟨-, hc, ho⟩ := Network.step_conn h
    by_cases hj : j = i
    · subst hj
      refine (Connection.step_same hc).2 ?_
      cases l with
      | client ev => exact absurd rfl (hclient ev)
      | _ => rfl
    · rw [ho i (Ne.symm hj)]

/-- A client session of the hosts is a client session. -/
theorem client_run (i : ι)
    (h : (hosts ω endpoints host).RunWith Good (Hosts.start ι κ ω storage) ls x) :
    (handleClientSession true (endpoints i)).Run .head (ls.filterMap (HostsLabel.ofClient i))
      (x.net.conn i).client := by
  have hanswered : ∀ (x : Hosts ι κ ω) {ev : SessionEvent} {c : Connection},
      (x.net.conn i).answerClient (endpoints i) ev = some c →
      (handleClientSession true (endpoints i)).step (x.net.conn i).client ev
        = some ((x.setConn i c).net.conn i).client := by
    intro x ev c hc
    rw [setConn_self]
    exact (Connection.answerClient_client hc).1
  have hother : ∀ (x : Hosts ι κ ω) {j : ι} {c : Connection}, j ≠ i →
      ((x.setConn j c).net.conn i).client = (x.net.conn i).client := by
    intro x j c hj
    rw [setConn_other (Ne.symm hj)]
  refine Machine.RunWith.project (fun x : Hosts ι κ ω => (x.net.conn i).client)
    (HostsLabel.ofClient i) ?_ h
  intro ls x l y _ _ hstep
  cases step_moves (x := x) hstep with
  | net l net hclient hcomplete hs =>
    have hnone : (HostsLabel.net l : HostsLabel ι κ ω).ofClient i = none := by
      cases l with
      | tick milliseconds => rfl
      | conn j l =>
        cases l with
        | client ev => exact absurd rfl (hclient j ev)
        | _ => rfl
    rw [hnone]
    exact client_kept hs (hclient i)
  | call j ev c ha hc hsub =>
    by_cases hj : j = i
    · subst hj
      simp only [HostsLabel.ofClient, if_true]
      exact ⟨trivial, hanswered x hc⟩
    · simp only [HostsLabel.ofClient, if_neg hj]
      exact hother x hj
  | submit j operation err c executor hc he =>
    by_cases hj : j = i
    · subst hj
      simp only [HostsLabel.ofClient, if_true]
      exact ⟨trivial, hanswered x hc⟩
    · simp only [HostsLabel.ofClient, if_neg hj]
      exact hother x hj
  | executor k l executor hl he => rfl

theorem Moves.accepted {l : HostsLabel ι κ ω} {k : κ} {a : ι ⊕ ω}
    (hm : Moves endpoints host x l y) (h : (x.executor k).Accepted a) :
    (y.executor k).Accepted a := by
  have hupdate : ∀ {j : κ} {e : ExecutorLabel (ι ⊕ ω)} {executor : RdmaExecutor (ι ⊕ ω)},
      (x.executor j).step e = some executor →
      (Function.update x.executor j executor k).Accepted a := by
    intro j e executor he
    by_cases hk : k = j
    · subst hk
      rw [Function.update_self]
      exact h.step he
    · rw [Function.update_of_ne hk]
      exact h
  cases hm with
  | net l net hclient hcomplete hs => exact h
  | call i ev c ha hc hsub => exact h
  | submit i operation err c executor hc he => exact hupdate he
  | executor j l executor hl he => exact hupdate he

/-- **A client that was told that its operation was submitted** has it in its executor. -/
theorem accepted_run (i : ι)
    (h : (hosts ω endpoints host).RunWith Good (Hosts.start ι κ ω storage) ls x)
    (hsub : (clientLog (ls.filterMap (HostsLabel.ofClient i))).submitted = true) :
    (x.executor (host i)).Accepted (.inl i) := by
  revert hsub
  refine Machine.RunWith.invariant (I := fun ls x =>
    (clientLog (ls.filterMap (HostsLabel.ofClient i))).submitted = true →
      (x.executor (host i)).Accepted (.inl i)) (fun hsub => nomatch hsub) ?_ h
  intro ls x l y _ hI _ hstep hsub
  have hm := step_moves (x := x) hstep
  cases hl : l.ofClient i with
  | none =>
    rw [List.filterMap_append, List.filterMap_cons, hl, List.filterMap_nil, List.append_nil] at hsub
    exact hm.accepted (hI hsub)
  | some ev =>
    rw [List.filterMap_append, List.filterMap_cons, hl, List.filterMap_nil, clientLog_snoc] at hsub
    rcases ClientLog.note_submitted hsub with hbefore | ⟨operation, rfl⟩
    · exact hm.accepted (hI hbefore)
    · cases hm with
      | submit j operation err c executor hc he =>
        by_cases hj : j = i
        · subst hj
          simp only [HostsLabel.ofClient, if_true] at hl
          cases hl
          refine Eq.mpr (congrArg (RdmaExecutor.Accepted · (Sum.inl j))
            (Function.update_self (host j) executor x.executor)) ?_
          exact RdmaExecutor.accepted_submit he
        · simp only [HostsLabel.ofClient, if_neg hj, reduceCtorEq] at hl
      | call j ev c ha hc hsub' =>
        by_cases hj : j = i
        · subst hj
          simp only [HostsLabel.ofClient, if_true] at hl
          cases hl
          cases hsub'
        · simp only [HostsLabel.ofClient, if_neg hj, reduceCtorEq] at hl
      | net l net hclient hcomplete hs =>
        cases l with
        | tick milliseconds => cases hl
        | conn j l =>
          cases l with
          | client ev => exact absurd rfl (hclient j ev)
          | _ => cases hl
      | executor k l executor hfree he => cases hl

/-! ## 5. The network -/

omit [Platform] [DecidableEq ι] [DecidableEq κ] [DecidableEq ω] in
theorem network_rdma (x : Hosts ι κ ω) (i : ι) : (x.network host).conn i
    = { x.net.conn i with rdma := (x.executor (host i)).rdma (.inl i) (x.submittedAt i) } := rfl

omit [Platform] in
/-- What an executor does for others does not show. -/
theorem rdma_kept {k : κ} {l : ExecutorLabel (ι ⊕ ω)} {executor : RdmaExecutor (ι ⊕ ω)} {j : ι}
    {since : ℕ} (he : (x.executor k).step l = some executor)
    (hl : host j = k → ∀ err responce, l ≠ .submit (.inl j) err ∧ l ≠ .answer (.inl j) responce) :
    (Function.update x.executor k executor (host j)).rdma (.inl j) since
      = (x.executor (host j)).rdma (.inl j) since := by
  by_cases hk : host j = k
  · subst hk
    rw [Function.update_self]
    exact RdmaExecutor.rdma_other he (fun err => (hl rfl err default).1)
      (fun responce => (hl rfl none responce).2)
  · rw [Function.update_of_ne hk]

omit [Platform] [DecidableEq ι] [DecidableEq κ] [DecidableEq ω] in
/-- The executor answers as the operation stands. -/
theorem rdma_answered {ev : SessionEvent} (ha : x.Answers host i ev)
    (haccepted : ∀ milliseconds, ev.op = .awaitWithTimeout milliseconds →
      (x.executor (host i)).Accepted (.inl i))
    (hsub : submission (Sum.inl (β := ω) i) ev = none) :
    ((x.network host).conn i).rdma.answer (x.net.conn i).now ev
      = some ((x.network host).conn i).rdma := by
  obtain ⟨-, hawaits, hexpired⟩ := ha
  obtain ⟨op, r⟩ := ev
  cases op with
  | submitOperation operation => cases hsub
  | awaitWithTimeout milliseconds =>
    have hacc := haccepted milliseconds rfl
    cases r with
    | ready err =>
      obtain ⟨responce, hhead, herr⟩ := Option.map_eq_some_iff.mp (of_decide_eq_true hawaits)
      obtain ⟨rest, hp⟩ := List.head?_eq_some_iff.mp hhead
      have hended : ((x.network host).conn i).rdma = .ended err := by
        rw [network_rdma, hacc.ended hp, herr]
      rw [hended]
      exact if_pos rfl
    | timedOut =>
      have hflight : ((x.network host).conn i).rdma = .inFlight (x.submittedAt i) := by
        rw [network_rdma, hacc.inFlight (of_decide_eq_true hawaits)]
      rw [hflight]
      exact if_pos (of_decide_eq_true hexpired)
  | _ => rfl

omit [DecidableEq ι] in
/-- A session waits for the operation it has submitted. -/
theorem awaiting_submitted {endpoint : RdmaEndpoint} {evs : List SessionEvent} {c c' : Session}
    {ev : SessionEvent} {milliseconds : ℕ}
    (h : (handleClientSession true endpoint).Run .head evs c)
    (hr : c.resume (clientPass true endpoint) ev = some c')
    (hop : ev.op = .awaitWithTimeout milliseconds) : (clientLog evs).submitted = true := by
  obtain ⟨g, rfl, hknows⟩ := client_knows h
  obtain ⟨g', -, hs⟩ := (client_refines endpoint).step g ev c' hr
  cases hs with
  | awaited type result =>
    obtain ⟨descriptor, hlog⟩ := hknows
    rw [hlog]
  | _ => cases hop

omit [DecidableEq κ] [DecidableEq ω] in
/-- A step of one connection is one of the network, where the others are as they were. -/
theorem network_conn {l : ConnectionLabel} {storage' : RdmaEndpointStorage}
    (ha : Network.answer x.net.storage l = some storage') (hs : storage' = y.net.storage)
    (hi : ((x.network host).conn i).step (endpoints i) l = some ((y.network host).conn i))
    (ho : ∀ j, j ≠ i → (y.network host).conn j = (x.network host).conn j) :
    (x.network host).step endpoints (.conn i l) = some (y.network host) := by
  obtain ⟨n, hn, hstorage, hconn, hothers⟩ :=
    Network.step_of_conn (n := x.network host) ha hi
  have hnetwork : n = y.network host := by
    obtain ⟨storage, conn⟩ := n
    obtain rfl : storage = y.net.storage := hstorage.trans hs
    refine congrArg (Network.mk y.net.storage) (funext fun j => ?_)
    by_cases hj : j = i
    · subst hj
      exact hconn
    · exact (hothers j hj).trans (ho j hj).symm
  rw [hn, hnetwork]

omit [DecidableEq κ] [DecidableEq ω] in
/-- A call of the client that its executor has no part in, or has answered. -/
theorem network_call {ev : SessionEvent} {c : Connection} (ha : x.Answers host i ev)
    (haccepted : ∀ milliseconds, ev.op = .awaitWithTimeout milliseconds →
      (x.executor (host i)).Accepted (.inl i))
    (hc : (x.net.conn i).answerClient (endpoints i) ev = some c)
    (hsub : submission (Sum.inl (β := ω) i) ev = none) :
    (x.network host).step endpoints (.conn i (.client ev))
      = some ((x.setConn i c).network host) := by
  have hi : ((x.setConn i c).network host).conn i
      = { c with rdma := ((x.network host).conn i).rdma } := by
    rw [network_rdma, setConn_self]
    rfl
  refine network_conn rfl rfl ?_ fun j hj => ?_
  · rw [hi]
    exact Connection.step_of_answerClient hc (rdma_answered ha haccepted hsub)
  · rw [network_rdma, setConn_other hj]
    rfl

/-- The client submits its operation. -/
theorem network_submit {operation : RdmaOperationRequest} {err : error} {c : Connection}
    {executor : RdmaExecutor (ι ⊕ ω)} {els : List (ExecutorLabel (ι ⊕ ω))}
    (hacc : RdmaExecutor.Accounted (x.executor (host i)) els)
    (hc : (x.net.conn i).answerClient (endpoints i) ⟨.submitOperation operation, err⟩ = some c)
    (he : (x.executor (host i)).step (.submit (.inl i) err) = some executor) :
    (x.network host).step endpoints (.conn i (.client ⟨.submitOperation operation, err⟩))
      = some ({ x.setConn i c with
          executor := Function.update x.executor (host i) executor
          submittedAt := Function.update x.submittedAt i c.now }.network host) := by
  have hnow := (Connection.answerClient_client hc).2
  obtain ⟨hidle, hthen⟩ := RdmaExecutor.rdma_submit (x.submittedAt i) (x.net.conn i).now hacc he
  refine network_conn rfl rfl ?_ fun j hj => ?_
  · rw [network_rdma]
    change _ = some { (x.setConn i c).net.conn i with
      rdma := (Function.update x.executor (host i) executor (host i)).rdma (.inl i)
        (Function.update x.submittedAt i c.now i) }
    rw [setConn_self, Function.update_self, Function.update_self, hnow, hthen]
    refine Connection.step_of_answerClient hc ?_
    rw [hidle]
    cases err <;> rfl
  · rw [network_rdma]
    change { (x.setConn i c).net.conn j with
      rdma := (Function.update x.executor (host i) executor (host j)).rdma (.inl j)
        (Function.update x.submittedAt i c.now j) } = (x.network host).conn j
    rw [setConn_other hj, Function.update_of_ne hj, rdma_kept he]
    · rfl
    · intro _ err' responce
      refine ⟨fun heq => hj ?_, by rintro ⟨⟩⟩
      cases heq
      rfl

/-- A promise of a client is set: its operation is over. -/
theorem network_answered {responce : RdmaOperationResponce} {executor : RdmaExecutor (ι ⊕ ω)}
    {els : List (ExecutorLabel (ι ⊕ ω))}
    (hrun : (DocaCpp.executor (ι ⊕ ω)).Run (RdmaExecutor.start (ι ⊕ ω)) els (x.executor (host i)))
    (he : (x.executor (host i)).step (.answer (.inl i) responce) = some executor) :
    (x.network host).step endpoints (.conn i (.complete responce.2))
      = some ({ x with
          executor := Function.update x.executor (host i) executor }.network host) := by
  obtain ⟨hflight, hended⟩ := RdmaExecutor.rdma_answer (x.submittedAt i) hrun he
  refine network_conn rfl rfl ?_ fun j hj => ?_
  · rw [network_rdma]
    change _ = some { x.net.conn i with
      rdma := (Function.update x.executor (host i) executor (host i)).rdma (.inl i)
        (x.submittedAt i) }
    rw [Function.update_self, hended, Connection.step, hflight]
  · rw [network_rdma]
    change { x.net.conn j with
      rdma := (Function.update x.executor (host i) executor (host j)).rdma (.inl j)
        (x.submittedAt j) } = (x.network host).conn j
    rw [rdma_kept he]
    · rfl
    intro _ err' responce'
    refine ⟨by rintro ⟨⟩, fun heq => hj ?_⟩
    cases heq
    rfl

omit [Platform] in
/-- A step of an executor that sets no client's promise does not show. -/
theorem network_kept {k : κ} {l : ExecutorLabel (ι ⊕ ω)} {executor : RdmaExecutor (ι ⊕ ω)}
    (hl : l.unclaimed = true)
    (hnone : (HostsLabel.executor k l : HostsLabel ι κ ω).network host = none)
    (he : (x.executor k).step l = some executor) :
    { x with executor := Function.update x.executor k executor }.network host
      = x.network host := by
  refine congrArg (Network.mk x.net.storage) (funext fun j => ?_)
  change { x.net.conn j with
    rdma := (Function.update x.executor k executor (host j)).rdma (.inl j) (x.submittedAt j) } = _
  rw [rdma_kept he]
  intro hk err responce
  refine ⟨?_, ?_⟩
  · rintro rfl
    cases hl
  · rintro rfl
    simp only [HostsLabel.network, if_pos hk, reduceCtorEq] at hnone

end Hosts

section Refines

variable {endpoints : ι → RdmaEndpoint} {host : ι → κ} {x : Hosts ι κ ω}
  {storage : RdmaEndpointStorage} {ls : List (HostsLabel ι κ ω)}

open Hosts in
/-- **The executors do what the network takes them to do**: a run of the hosts is a run of the
network, with whatever was known of its steps. -/
theorem executors_refine {Good : List (NetworkLabel ι) → Network ι → NetworkLabel ι → Prop}
    (h : (hosts ω endpoints host).RunWith
      (fun ls x l => ∀ k, l.network host = some k →
        Good (ls.filterMap (HostsLabel.network host)) (x.network host) k)
      (Hosts.start ι κ ω storage) ls x) :
    (DocaCpp.network endpoints).RunWith Good (Network.start ι storage)
      (ls.filterMap (HostsLabel.network host)) (x.network host) := by
  refine Machine.RunWith.project (Hosts.network host) (HostsLabel.network host) ?_ h
  intro ls x l y hrun hgood hstep
  cases step_moves (x := x) hstep with
  | net l net hclient hcomplete hs =>
    refine ⟨hgood l rfl, ?_⟩
    cases l with
    | tick milliseconds =>
      cases hs
      rfl
    | conn i l =>
      obtain ⟨ha, hc, ho⟩ := Network.step_conn hs
      refine network_conn (x := x) ha rfl ?_ fun j hj => ?_
      · rw [network_rdma, Connection.step_rdma, hc]
        · rfl
        · cases l with
          | client ev => exact absurd rfl (hclient i ev)
          | _ => rfl
        · exact fun err heq => hcomplete i err (by rw [heq])
      · rw [network_rdma, network_rdma]
        exact congrArg (fun c : Connection =>
          { c with rdma := (x.executor (host j)).rdma (.inl j) (x.submittedAt j) }) (ho j hj)
  | call i ev c ha hc hsub =>
    refine ⟨hgood _ rfl, network_call ha (fun milliseconds hop => ?_) hc hsub⟩
    exact accepted_run i hrun
      (awaiting_submitted (client_run i hrun) (Connection.answerClient_client hc).1 hop)
  | submit i operation err c executor hc he =>
    have hacc := (RdmaExecutor.executor_accounted (executor_run (host i) hrun)).1
    exact ⟨hgood _ rfl, network_submit hacc hc he⟩
  | executor k l executor hl he =>
    cases hk : (HostsLabel.executor k l : HostsLabel ι κ ω).network host with
    | none => exact network_kept hl hk he
    | some m =>
      refine ⟨hgood m hk, ?_⟩
      cases l with
      | answer a responce =>
        cases a with
        | inl i =>
          obtain ⟨rfl, hm⟩ := Option.ite_none_right_eq_some.mp hk
          obtain rfl := Option.some.inj hm
          exact network_answered (executor_run (host i) hrun) he
        | inr a => cases hk
      | _ => cases hk

end Refines

/-- A client submits its operation to an executor that has another request in hand. -/
def queuedLabels : List (HostsLabel Unit Unit Unit) :=
  List.flatten [
    [.executor () (.submit (.inr ()) none), .executor () (.notify (.inr ())), .executor () .loop],
    (asking sampleWriteEndpoint ++ granting sampleWriteEndpoint [7] ++ permitted [7] ++
      operating sampleWriteEndpoint [7]).map fun l => .net (.conn () l),
    [.executor () (.notify (.inl ())),
      .executor () (.execute (.inr ()) (none, some RdmaExecutor.shutDown)),
      .executor () (.answer (.inr ()) (none, some RdmaExecutor.shutDown)), .executor () .loop,
      .executor () (.execute (.inl ()) (some 0, none)),
      .executor () (.answer (.inl ()) (some 0, none)),
      .net (.conn () (.client ⟨.awaitWithTimeout 5000, .ready none⟩))]]

omit [Platform] in
theorem executors_refine_sample :
    letI := Platform.littleEndian
    ∃ x, (hosts Unit (fun _ : Unit => sampleWriteEndpoint) fun _ : Unit => ()).exec
        (Hosts.start Unit Unit Unit sampleWriteStorage) queuedLabels = some x ∧
      ((x.network fun _ => ()).conn ()).rdma = .ended none ∧
      (network fun _ : Unit => sampleWriteEndpoint).Run (Network.start Unit sampleWriteStorage)
        (queuedLabels.filterMap (HostsLabel.network fun _ => ())) (x.network fun _ => ()) := by
  let _ := Platform.littleEndian
  have hexec : ((hosts Unit (fun _ : Unit => sampleWriteEndpoint) fun _ : Unit => ()).exec
      (Hosts.start Unit Unit Unit sampleWriteStorage) queuedLabels).any
      (fun x => decide (((x.network fun _ => ()).conn ()).rdma = .ended none)) = true := by
    decide +kernel
  obtain ⟨x, hx, hended⟩ := (Option.any_eq_true _ _).mp hexec
  refine ⟨x, hx, of_decide_eq_true hended, executors_refine ?_⟩
  exact (Machine.exec_run hx).mono fun _ _ _ _ _ _ => trivial

end DocaCpp
