/-
# The operations of the clients are atomic

An RDMA operation moves its bytes one at a time, in any order, while services are called and other
operations are in flight.  To the services it looks as if it were carried out at once, when it
completes: `operations_atomic` says that every run of timely steps has behind it a run of the store
of Net.Store with the same events in the same order, and that every service that is about to be called
finds in its buffer what the store has there.

So what the services find depends on the order of the events alone, and not on when and in which
order bytes have landed (`contents_determined`).
-/
import DocaCpp.Net.Leases
import DocaCpp.Net.Store

namespace DocaCpp

variable [Platform] {ι : Type} [DecidableEq ι]

/-! ## 1. What the lease gives -/

omit [DecidableEq ι] in
/-- A client is not about to call its service while its operation is in flight. -/
theorem Protected.not_handling_client {endpoint served : RdmaEndpoint} {slog : ServerLog}
    {clog : ClientLog} {f : ServerPhase} {g : ClientPhase} {c : Connection}
    (h : Protected endpoint slog clog f g c) (hl : Linked endpoint slog clog f g c)
    (hb : c.rdma.busy = true) : c.clientCall endpoint ≠ some (.handle served) := by
  obtain ⟨type, rfl⟩ := h.busy hb
  rw [Connection.clientCall, hl.client]
  rintro ⟨⟩

omit [DecidableEq ι] in
/-- An operation begins when it is submitted and ends when it completes. -/
theorem Connection.same_rdma {endpoint : RdmaEndpoint} {c c' : Connection} {l : ConnectionLabel}
    (h : c.step endpoint l = some c')
    (hsubmit : ∀ operation, l ≠ .client ⟨.submitOperation operation, none⟩)
    (hcomplete : ∀ err, l ≠ .complete err) : c'.rdma = c.rdma := by
  cases Connection.step_moves h with
  | complete err hbusy => exact absurd rfl (hcomplete err)
  | client ev s rdma client hs hrdma hr =>
    obtain ⟨op, r⟩ := ev
    cases op with
    | submitOperation operation =>
      cases r with
      | none => exact absurd rfl (hsubmit operation)
      | some err => exact (Option.some.inj hrdma).symm
    | awaitWithTimeout milliseconds =>
      cases r with
      | ready err => exact (Option.some.inj (Option.ite_none_right_eq_some.mp hrdma).2).symm
      | timedOut =>
        simp only [Rdma.answer] at hrdma
        split at hrdma
        next since hsince =>
          exact ((Option.some.inj (Option.ite_none_right_eq_some.mp hrdma).2).symm.trans rfl)
        next => cases hrdma
    | _ => exact (Option.some.inj hrdma).symm
  | _ => rfl

theorem Network.same_rdma {endpoints : ι → RdmaEndpoint} {n n' : Network ι} {l : NetworkLabel ι}
    (h : n.step endpoints l = some n')
    (hsubmit : ∀ i operation, l ≠ .conn i (.client ⟨.submitOperation operation, none⟩))
    (hcomplete : ∀ i err, l ≠ .conn i (.complete err)) (j : ι) :
    (n'.conn j).rdma = (n.conn j).rdma := by
  cases l with
  | tick milliseconds =>
    rw [← Option.some.inj h]
  | conn i l =>
    obtain ⟨-, hc, ho⟩ := Network.step_conn h
    by_cases hj : j = i
    · subst hj
      exact Connection.same_rdma hc (fun operation he => hsubmit j operation (by rw [he]))
        fun err he => hcomplete j err (by rw [he])
    · rw [ho j hj]

section Runs

variable {designates : Bytes → ℕ} {endpoints : ι → RdmaEndpoint} {storage : RdmaEndpointStorage}
  {server : ℕ → Bytes} {client : ι → Bytes} {ls : List (FabricLabel ι)} {x x' : Fabric ι} {i j : ι}
  {l : FabricLabel ι} {operation p q : RdmaOperationRequest} {served : RdmaEndpoint} {buffer : ℕ}
  {m : Memory ι}

/-- **Two operations in flight do not use one buffer.** -/
theorem FabricRun.alone (hrun : FabricRun designates endpoints storage server client ls x)
    (hd : Deployed storage endpoints) (hi : (x.net.conn i).rdma.busy = true)
    (hj : (x.net.conn j).rdma.busy = true) (hp : x.memory.operation i = some p)
    (hq : x.memory.operation j = some q)
    (h : designates p.remoteBuffer = designates q.remoteBuffer) : i = j := by
  obtain ⟨served, hagreed, hholds, hbuffer⟩ := hrun.agreed hd hp
  obtain ⟨served', hagreed', hholds', hbuffer'⟩ := hrun.agreed hd hq
  have hsame := hd.separate served served' _ hholds hholds' hbuffer (h ▸ hbuffer')
  exact hrun.exclusive hd (hagreed.path.symm.trans (hsame.trans hagreed'.path))
    (hrun.busy hd hi) (hrun.busy hd hj)

/-- **No operation in flight uses the buffer of a service that is about to be called.** -/
theorem FabricRun.unused (hrun : FabricRun designates endpoints storage server client ls x)
    (hd : Deployed storage endpoints) (hcall : (x.net.conn i).serverCall = some (.handle served))
    (hbuffer : served.buffer = some buffer) (hj : (x.net.conn j).rdma.busy = true)
    (hq : x.memory.operation j = some q) : designates q.remoteBuffer ≠ buffer := by
  rintro rfl
  obtain ⟨f, g, hl, hp⟩ := hrun.protected hd i
  obtain ⟨served', hagreed, hholds, hbuffer'⟩ := hrun.agreed hd hq
  obtain ⟨hheld, -, -, hfit⟩ := hl.calling hcall
  have hleases : Leases endpoints ls i := by
    unfold Leases
    rw [hheld]
    exact List.mem_singleton_self _
  have hsame := hd.separate served served' _ (hrun.found (hl.serving hcall)) hholds hbuffer hbuffer'
  have hij := hrun.exclusive hd (hfit.1.symm.trans (hsame.trans hagreed.path)) hleases
    (hrun.busy hd hj)
  subst hij
  exact hp.not_handling hl hj hcall

/-- An operation in flight is on record. -/
theorem FabricRun.recorded (hrun : FabricRun designates endpoints storage server client ls x)
    (hi : (x.net.conn i).rdma.busy = true) :
    ∃ operation, x.memory.operation i = some operation := by
  refine Option.ne_none_iff_exists'.mp fun hnone => ?_
  rw [((hrun.accounts i).fresh hnone).2] at hi
  cases hi

/-! ## 2. The store behind a run -/

/-- **The fabric agrees with the store**: the operations in flight are those of the store, and the
buffers show it. -/
structure Fabric.Agrees (designates : Bytes → ℕ) (x : Fabric ι) (m : Memory ι) : Prop where
  operation : ∀ i,
    m.operation i = if (x.net.conn i).rdma.busy = true then x.memory.operation i else none
  buffers : x.memory.Shows designates m

omit [Platform] [DecidableEq ι] in
theorem Fabric.Agrees.inFlight (h : x.Agrees designates m) (ho : m.operation i = some operation) :
    (x.net.conn i).rdma.busy = true ∧ x.memory.operation i = some operation := by
  rw [h.operation i] at ho
  exact Option.ite_none_right_eq_some.mp ho

omit [Platform] [DecidableEq ι] in
theorem Fabric.Agrees.idle (h : x.Agrees designates m) (hi : (x.net.conn i).rdma.busy = false) :
    m.operation i = none := by
  rw [h.operation i, hi]
  rfl

theorem Fabric.Agrees.alone (h : x.Agrees designates m)
    (hrun : FabricRun designates endpoints storage server client ls x)
    (hd : Deployed storage endpoints) : m.Alone designates := by
  intro i j p q hp hq heq
  obtain ⟨hi, hp⟩ := h.inFlight hp
  obtain ⟨hj, hq⟩ := h.inFlight hq
  exact hrun.alone hd hi hj hp hq heq

/-- A step that neither begins nor ends an operation leaves alone which are in flight. -/
theorem Fabric.Agrees.operation_kept {m' : Memory ι} {l : NetworkLabel ι}
    (h : x.Agrees designates m) (hstep : x.net.step endpoints l = some x'.net)
    (hsubmit : ∀ i operation, l ≠ .conn i (.client ⟨.submitOperation operation, none⟩))
    (hcomplete : ∀ i err, l ≠ .conn i (.complete err))
    (hmemory : x'.memory.operation = x.memory.operation) (hm : m'.operation = m.operation) (j : ι) :
    m'.operation j
      = if (x'.net.conn j).rdma.busy = true then x'.memory.operation j else none := by
  rw [Network.same_rdma hstep hsubmit hcomplete j, hmemory, hm]
  exact h.operation j

/-- A byte lands: the store does nothing. -/
theorem Fabric.Agrees.land {offset : ℕ} (h : x.Agrees designates m) (ha : m.Alone designates)
    (hstep : x.step designates endpoints (.land i buffer offset) = some x') :
    x'.Agrees designates m := by
  obtain ⟨hbusy, hnet, hland⟩ := Fabric.step_land hstep
  have hown : m.operation i = x.memory.operation i := by
    rw [h.operation i, hbusy]
    rfl
  refine ⟨fun j => ?_, h.buffers.land ha hown hland⟩
  rw [hnet, (Memory.land_kept hland).2.2.1]
  exact h.operation j

/-- A service of the server is called. -/
theorem Fabric.Agrees.serve {result : UserCall error} {content : Bytes}
    (h : x.Agrees designates m)
    (hrun : FabricRun designates endpoints storage server client ls x)
    (hd : Deployed storage endpoints) (hbuffer : served.buffer = some buffer)
    (hstep : x.step designates endpoints
      (.net (.conn i (.server ⟨.handle served, result⟩)) content) = some x') :
    ∃ m', m.storeStep designates (.served i buffer content, []) = some m' ∧
      x'.Agrees designates m' := by
  obtain ⟨hnet, hafter⟩ := Fabric.step_net hstep
  simp only [Memory.after, hbuffer] at hafter
  obtain ⟨hlength, hafter⟩ := Option.ite_none_right_eq_some.mp hafter
  obtain ⟨-, hc, -⟩ := Network.step_conn hnet
  obtain ⟨s, -, hr, -⟩ := Connection.step_server hc
  have hfree : ∀ j q, m.operation j = some q → designates q.remoteBuffer ≠ buffer := by
    intro j q hq
    obtain ⟨hj, hq⟩ := h.inFlight hq
    exact hrun.unused hd (Loop.pending_of_resume hr) hbuffer hj hq
  have hsame := h.buffers.server buffer fun j q hq _ => hfree j q hq
  refine ⟨_, if_pos (hlength.trans (congrArg List.length hsame)), ?_, ?_⟩
  · refine h.operation_kept hnet (by rintro j q ⟨⟩) (by rintro j err ⟨⟩) ?_ rfl
    rw [← Option.some.inj hafter]
    rfl
  · rw [← Option.some.inj hafter]
    exact h.buffers.serve hfree

/-- A service of a client is called. -/
theorem Fabric.Agrees.handle {endpoint : RdmaEndpoint} {result : UserCall error} {content : Bytes}
    (h : x.Agrees designates m)
    (hrun : FabricRun designates endpoints storage server client ls x)
    (hd : Deployed storage endpoints)
    (hstep : x.step designates endpoints
      (.net (.conn i (.client ⟨.handle endpoint, result⟩)) content) = some x') :
    ∃ m', m.storeStep designates (.handled i content, []) = some m' ∧ x'.Agrees designates m' := by
  obtain ⟨hnet, hafter⟩ := Fabric.step_net hstep
  obtain ⟨hlength, hafter⟩ := Option.ite_none_right_eq_some.mp hafter
  obtain ⟨-, hc, -⟩ := Network.step_conn hnet
  obtain ⟨s, -, -, hr, -⟩ := Connection.step_client hc
  obtain ⟨f, g, hl, hp⟩ := hrun.protected hd i
  have hidle : (x.net.conn i).rdma.busy = false := by
    refine Bool.eq_false_iff.mpr fun hbusy => ?_
    exact hp.not_handling_client hl hbusy (Loop.pending_of_resume hr)
  have hnone := h.idle hidle
  have hsame := h.buffers.client i fun q hq => nomatch hnone.symm.trans hq
  refine ⟨_, if_pos (hlength.trans (congrArg List.length hsame)), ?_, ?_⟩
  · refine h.operation_kept hnet (by rintro j q ⟨⟩) (by rintro j err ⟨⟩) ?_ rfl
    rw [← Option.some.inj hafter]
    rfl
  · rw [← Option.some.inj hafter]
    exact h.buffers.handle hnone

/-- What is in flight after an operation was submitted. -/
theorem Fabric.step_submitted {content : Bytes} (hstep : x.step designates endpoints
      (.net (.conn i (.client ⟨.submitOperation operation, none⟩)) content) = some x') :
    (x.net.conn i).rdma.busy = false ∧ (x'.net.conn i).rdma.busy = true ∧
      ∀ j, j ≠ i → (x'.net.conn j).rdma = (x.net.conn j).rdma := by
  obtain ⟨hnet, -⟩ := Fabric.step_net hstep
  obtain ⟨-, hc, ho⟩ := Network.step_conn hnet
  obtain ⟨s, -, hrdma, -⟩ := Connection.step_client hc
  obtain ⟨hidle, hflight⟩ := Option.ite_none_right_eq_some.mp hrdma
  refine ⟨by rw [hidle]; rfl, by rw [← Option.some.inj hflight]; rfl, fun j hj => ?_⟩
  rw [ho j hj]

/-- An operation is submitted. -/
theorem Fabric.Agrees.submit {content : Bytes} (h : x.Agrees designates m)
    (hd : Deployed storage endpoints)
    (hrun' : FabricRun designates endpoints storage server client ls x')
    (hstep : x.step designates endpoints
      (.net (.conn i (.client ⟨.submitOperation operation, none⟩)) content) = some x') :
    ∃ m', m.storeStep designates (.submitted i operation, []) = some m' ∧
      x'.Agrees designates m' := by
  obtain ⟨hidle, hbusy, hothers⟩ := Fabric.step_submitted hstep
  have hmemory := Option.some.inj (Fabric.step_net hstep).2
  have hnone := h.idle hidle
  let m' := { m with operation := Function.update m.operation i (some operation) }
  have hoperation : ∀ j, m'.operation j
      = if (x'.net.conn j).rdma.busy = true then x'.memory.operation j else none := by
    intro j
    rw [← hmemory]
    change Function.update m.operation i (some operation) j
      = if (x'.net.conn j).rdma.busy = true then
          Function.update x.memory.operation i (some operation) j else none
    by_cases hj : j = i
    · subst hj
      rw [hbusy, Function.update_self, Function.update_self]
      rfl
    · rw [hothers j hj, Function.update_of_ne hj, Function.update_of_ne hj]
      exact h.operation j
  have ha : m'.Alone designates := by
    intro j k p q hp hq heq
    rw [hoperation j] at hp
    rw [hoperation k] at hq
    obtain ⟨hj, hp⟩ := Option.ite_none_right_eq_some.mp hp
    obtain ⟨hk, hq⟩ := Option.ite_none_right_eq_some.mp hq
    exact hrun'.alone hd hj hk hp hq heq
  refine ⟨m', if_pos hnone, hoperation, ?_⟩
  rw [← hmemory]
  exact h.buffers.submit hnone ha

/-- What is in flight after an operation has completed. -/
theorem Fabric.step_completed {err : error} {content : Bytes} (hstep : x.step designates endpoints
      (.net (.conn i (.complete err)) content) = some x') :
    (x.net.conn i).rdma.busy = true ∧ (x'.net.conn i).rdma.busy = false ∧
      (∀ j, j ≠ i → (x'.net.conn j).rdma = (x.net.conn j).rdma) ∧ x'.memory = x.memory ∧
      (err = none → x.memory.Arrived designates i) := by
  obtain ⟨hnet, hafter⟩ := Fabric.step_net hstep
  obtain ⟨-, hc, ho⟩ := Network.step_conn hnet
  have hrdma : ∀ c', (x.net.conn i).step (endpoints i) (.complete err) = some c' →
      (x.net.conn i).rdma.busy = true ∧ c'.rdma.busy = false := by
    intro c' hc
    cases Connection.step_moves hc with
    | complete err hbusy => exact ⟨hbusy, rfl⟩
  obtain ⟨hbusy, hover⟩ := hrdma _ hc
  refine ⟨hbusy, hover, fun j hj => by rw [ho j hj], ?_⟩
  cases err with
  | none =>
    obtain ⟨harrived, hafter⟩ := Option.ite_none_right_eq_some.mp hafter
    exact ⟨(Option.some.inj hafter).symm, fun _ => harrived⟩
  | some err => exact ⟨(Option.some.inj hafter).symm, fun he => nomatch he⟩

/-- **An operation completes**, and the store carries it out. -/
theorem Fabric.Agrees.complete {err : error} {content : Bytes} (h : x.Agrees designates m)
    (hrun : FabricRun designates endpoints storage server client ls x)
    (ha : m.Alone designates)
    (hstep : x.step designates endpoints (.net (.conn i (.complete err)) content) = some x') :
    ∃ left m', m.storeStep designates (.completed i err, left) = some m' ∧
      x'.Agrees designates m' := by
  obtain ⟨hbusy, hover, hothers, hmemory, harrived⟩ := Fabric.step_completed hstep
  obtain ⟨operation, hop⟩ := hrun.recorded hbusy
  have hown : m.operation i = some operation := by
    rw [h.operation i, hbusy]
    exact hop
  refine ⟨x.memory.target designates i operation,
    m.carryOut designates i operation (x.memory.target designates i operation), ?_,
    fun j => ?_, ?_⟩
  · rw [Memory.storeStep, hown]
    exact if_pos (h.buffers.leaves ha hown hop harrived)
  · change Function.update m.operation i none j = _
    by_cases hj : j = i
    · subst hj
      rw [Function.update_self, hover]
      rfl
    · rw [Function.update_of_ne hj, hothers j hj, hmemory]
      exact h.operation j
  · rw [hmemory]
    exact h.buffers.complete ha hown

/-- A step that is nothing to the store. -/
theorem Fabric.Agrees.quiet {l : NetworkLabel ι} {content : Bytes} (h : x.Agrees designates m)
    (hstep : x.step designates endpoints (.net l content) = some x')
    (hmemory : x'.memory = x.memory)
    (hsubmit : ∀ i operation, l ≠ .conn i (.client ⟨.submitOperation operation, none⟩))
    (hcomplete : ∀ i err, l ≠ .conn i (.complete err)) : x'.Agrees designates m :=
  ⟨h.operation_kept (Fabric.step_net hstep).1 hsubmit hcomplete (by rw [hmemory]) rfl,
    hmemory ▸ h.buffers⟩

/-- **A step of the fabric is one of the store, or nothing to it.** -/
theorem Fabric.Agrees.step (h : x.Agrees designates m)
    (hrun : FabricRun designates endpoints storage server client ls x)
    (hrun' : FabricRun designates endpoints storage server client (ls ++ [l]) x')
    (hd : Deployed storage endpoints) (hstep : x.step designates endpoints l = some x') :
    (l.event = none ∧ x'.Agrees designates m) ∨
      ∃ event left m', l.event = some event ∧ m.storeStep designates (event, left) = some m' ∧
        x'.Agrees designates m' := by
  have ha := h.alone hrun hd
  unfold FabricLabel.event
  split
  next i served result content =>
    cases hb : served.buffer with
    | none =>
      refine .inl ⟨rfl, h.quiet hstep ?_ (by rintro j q ⟨⟩) (by rintro j err ⟨⟩)⟩
      have hafter := (Fabric.step_net hstep).2
      simp only [Memory.after, hb] at hafter
      exact (Option.some.inj hafter).symm
    | some buffer =>
      obtain ⟨m', hm, hagrees⟩ := h.serve hrun hd hb hstep
      exact .inr ⟨_, _, m', rfl, hm, hagrees⟩
  next i endpoint result content =>
    obtain ⟨m', hm, hagrees⟩ := h.handle hrun hd hstep
    exact .inr ⟨_, _, m', rfl, hm, hagrees⟩
  next i operation content =>
    obtain ⟨m', hm, hagrees⟩ := h.submit hd hrun' hstep
    exact .inr ⟨_, _, m', rfl, hm, hagrees⟩
  next i err content =>
    obtain ⟨left, m', hm, hagrees⟩ := h.complete hrun ha hstep
    exact .inr ⟨_, left, m', rfl, hm, hagrees⟩
  next hserver hclient hsubmit hcomplete =>
    refine .inl ⟨rfl, ?_⟩
    cases l with
    | land i buffer offset => exact h.land ha hstep
    | net l content =>
      have hmemory : x'.memory = x.memory := by
        have hcases := Memory.after_cases (Fabric.step_net hstep).2
        generalize x'.memory = memory at hcases
        cases hcases with
        | unserved | other => rfl
        | served i endpoint result => exact absurd rfl (hserver i endpoint result content)
        | handled i endpoint result => exact absurd rfl (hclient i endpoint result content)
        | submitted i operation => exact absurd rfl (hsubmit i operation content)
      refine h.quiet hstep hmemory ?_ ?_
      · rintro i operation rfl
        exact hsubmit i operation content rfl
      · rintro i err rfl
        exact hcomplete i err content rfl

/-- A run of the fabric has a run of the store behind it. -/
theorem FabricRun.stored (hrun : FabricRun designates endpoints storage server client ls x)
    (hd : Deployed storage endpoints) :
    ∃ es m, (store designates).Run { server := server, client := client } es m ∧
      es.map Prod.fst = ls.filterMap FabricLabel.event ∧ x.Agrees designates m := by
  refine Machine.RunWith.invariant (I := fun ls x =>
    ∃ es m, (store designates).Run { server := server, client := client } es m ∧
      es.map Prod.fst = ls.filterMap FabricLabel.event ∧ x.Agrees designates m)
    ⟨[], _, .refl _, rfl, fun _ => rfl, fun _ _ => rfl, fun _ _ => rfl, fun _ _ ho => nomatch ho⟩
    ?_ hrun
  rintro ls x l x' hrun ⟨es, m, hes, hevents, hagrees⟩ hgood hstep
  rcases hagrees.step hrun (.tail hrun hgood hstep) hd hstep with
    ⟨hl, hagrees'⟩ | ⟨event, left, m', hl, hm, hagrees'⟩
  · refine ⟨es, m, hes, ?_, hagrees'⟩
    rw [List.filterMap_append, hevents, List.filterMap_cons, hl]
    exact (List.append_nil _).symm
  · refine ⟨es ++ [(event, left)], m', .tail hes trivial hm, ?_, hagrees'⟩
    rw [List.map_append, hevents, List.filterMap_append, List.filterMap_cons, hl]
    rfl

/-! ## 3. Atomicity -/

/-- A service of the server finds what the store has. -/
theorem Fabric.Agrees.serverFinds (h : x.Agrees designates m)
    (hrun : FabricRun designates endpoints storage server client ls x)
    (hd : Deployed storage endpoints) (hcall : (x.net.conn i).serverCall = some (.handle served))
    (hbuffer : served.buffer = some buffer) : x.memory.server buffer = m.server buffer := by
  refine h.buffers.server buffer fun j q hq _ => ?_
  obtain ⟨hj, hq⟩ := h.inFlight hq
  exact hrun.unused hd hcall hbuffer hj hq

/-- So does a service of a client. -/
theorem Fabric.Agrees.clientFinds {endpoint : RdmaEndpoint} (h : x.Agrees designates m)
    (hrun : FabricRun designates endpoints storage server client ls x)
    (hd : Deployed storage endpoints)
    (hcall : (x.net.conn i).clientCall (endpoints i) = some (.handle endpoint)) :
    x.memory.client i = m.client i := by
  obtain ⟨f, g, hl, hp⟩ := hrun.protected hd i
  have hidle : (x.net.conn i).rdma.busy = false :=
    Bool.eq_false_iff.mpr fun hbusy => hp.not_handling_client hl hbusy hcall
  exact h.buffers.client i fun q hq => nomatch (h.idle hidle).symm.trans hq

/-- **The operations of the clients are atomic**: every run of timely steps, over any number of
clients, has behind it a run of the store with the same calls of services, submissions and
completions in the same order, in which an operation is carried out at once when it completes.
Every service that is about to be called finds in its buffer what the store has there, and while no
operation is in flight all buffers are the store's. -/
theorem operations_atomic (hrun : FabricRun designates endpoints storage server client ls x)
    (hd : Deployed storage endpoints) :
    ∃ es m, (store designates).Run { server := server, client := client } es m ∧
      es.map Prod.fst = ls.filterMap FabricLabel.event ∧
      (∀ i served buffer, (x.net.conn i).serverCall = some (.handle served) →
        served.buffer = some buffer → x.memory.server buffer = m.server buffer) ∧
      (∀ i endpoint, (x.net.conn i).clientCall (endpoints i) = some (.handle endpoint) →
        x.memory.client i = m.client i) ∧
      ((∀ i, (x.net.conn i).rdma.busy = false) →
        x.memory.server = m.server ∧ x.memory.client = m.client) := by
  obtain ⟨es, m, hes, hevents, hagrees⟩ := hrun.stored hd
  refine ⟨es, m, hes, hevents, fun i served buffer hcall hbuffer =>
    hagrees.serverFinds hrun hd hcall hbuffer, fun i endpoint hcall =>
    hagrees.clientFinds hrun hd hcall, fun hidle => ⟨funext fun b => ?_, funext fun i => ?_⟩⟩
  · exact hagrees.buffers.server b fun j q hq => nomatch (hagrees.idle (hidle j)).symm.trans hq
  · exact hagrees.buffers.client i fun q hq => nomatch (hagrees.idle (hidle i)).symm.trans hq

/-- **What the services find is determined by the events**: two runs of timely steps in which the
same services are called, the same operations are submitted and the same ones complete, all well, in
the same order, leave the buffers the same for a service that is about to be called, whenever and in
whichever order the bytes have landed. -/
theorem contents_determined {ls' : List (FabricLabel ι)}
    (hrun : FabricRun designates endpoints storage server client ls x)
    (hrun' : FabricRun designates endpoints storage server client ls' x')
    (hd : Deployed storage endpoints)
    (hevents : ls.filterMap FabricLabel.event = ls'.filterMap FabricLabel.event)
    (hok : ∀ e ∈ ls.filterMap FabricLabel.event, e.Succeeds) :
    (∀ i j served served' buffer, (x.net.conn i).serverCall = some (.handle served) →
      (x'.net.conn j).serverCall = some (.handle served') → served.buffer = some buffer →
      served'.buffer = some buffer → x.memory.server buffer = x'.memory.server buffer) ∧
      ∀ i endpoint endpoint', (x.net.conn i).clientCall (endpoints i) = some (.handle endpoint) →
        (x'.net.conn i).clientCall (endpoints i) = some (.handle endpoint') →
        x.memory.client i = x'.memory.client i := by
  obtain ⟨es, m, hes, hmap, hagrees⟩ := hrun.stored hd
  obtain ⟨es', m', hes', hmap', hagrees'⟩ := hrun'.stored hd
  obtain rfl : m = m' :=
    store_determined hes hes' (hmap.trans (hevents.trans hmap'.symm)) (hmap ▸ hok)
  constructor
  · intro i j served served' buffer hcall hcall' hbuffer hbuffer'
    exact (hagrees.serverFinds hrun hd hcall hbuffer).trans
      (hagrees'.serverFinds hrun' hd hcall' hbuffer').symm
  · intro i endpoint endpoint' hcall hcall'
    exact (hagrees.clientFinds hrun hd hcall).trans (hagrees'.clientFinds hrun' hd hcall').symm

end Runs

/-- A client writes two bytes that land in this order, and the server's service is about to be
called. -/
def landingLabels (offsets : List ℕ) : List (FabricLabel Bool) :=
  List.flatten [
    leaving true [1, 2] (asking sampleWriteEndpoint ++ granting sampleWriteEndpoint [7] ++
      permitted [7] ++ operating sampleWriteEndpoint [7]),
    offsets.map fun offset => .land true 0 offset,
    leaving true [1, 2] ([.complete none, .client ⟨.awaitWithTimeout 5000, .ready none⟩] ++
      acknowledging ⟨.operationCompleted⟩ ++ acknowledged ⟨.operationCompleted⟩ ++
      accepting ⟨.operationCompleted⟩)]

omit [Platform] in
/-- A second client writes over what the first has written, and the service is about to see it. -/
theorem operations_atomic_sample :
    letI := Platform.littleEndian
    let ls := deliveredLabels true [1, 2] ++ deliveringLabels false [3, 4]
    ∃ es m, (store fun _ => 0).Run { server := fun _ => [0, 0], client := fun _ => [0, 0] } es m ∧
      es.map Prod.fst = ls.filterMap FabricLabel.event ∧ m.server 0 = [3, 4] := by
  let _ := Platform.littleEndian
  intro ls
  have hexec : ((fabric (fun _ => 0) fun _ : Bool => sampleWriteEndpoint).exec
      (Fabric.start sampleWriteStorage (fun _ => [0, 0]) fun _ => [0, 0]) ls).any (fun x =>
        decide ((x.net.conn false).serverCall = some (.handle sampleWriteEndpoint) ∧
          x.memory.server 0 = [3, 4])) = true := by
    decide +kernel
  obtain ⟨x, hx, h⟩ := (Option.any_eq_true _ _).mp hexec
  obtain ⟨hcall, hcontent⟩ := of_decide_eq_true h
  obtain ⟨es, m, hes, hevents, hserver, -, -⟩ :=
    operations_atomic (fabricRun_of_exec hx (by decide +kernel)) sampleDeployed
  exact ⟨es, m, hes, hevents, (hserver false _ 0 hcall rfl).symm.trans hcontent⟩

omit [Platform] in
/-- The bytes of a write land in one order, or in the other and one of them twice. -/
theorem contents_determined_sample :
    letI := Platform.littleEndian
    ∃ x x', (fabric (fun _ => 0) fun _ : Bool => sampleWriteEndpoint).exec
        (Fabric.start sampleWriteStorage (fun _ => [0, 0]) fun _ => [0, 0]) (landingLabels [1, 0])
        = some x ∧
      (fabric (fun _ => 0) fun _ : Bool => sampleWriteEndpoint).exec
        (Fabric.start sampleWriteStorage (fun _ => [0, 0]) fun _ => [0, 0])
        (landingLabels [0, 1, 0]) = some x' ∧ x.memory.server 0 = x'.memory.server 0 := by
  let _ := Platform.littleEndian
  have hexec : ∀ offsets ∈ [[1, 0], [0, 1, 0]],
      ((fabric (fun _ => 0) fun _ : Bool => sampleWriteEndpoint).exec
        (Fabric.start sampleWriteStorage (fun _ => [0, 0]) fun _ => [0, 0])
        (landingLabels offsets)).any (fun x =>
          decide ((x.net.conn true).serverCall = some (.handle sampleWriteEndpoint))) = true := by
    decide +kernel
  obtain ⟨x, hx, hcall⟩ := (Option.any_eq_true _ _).mp (hexec [1, 0] (by decide))
  obtain ⟨x', hx', hcall'⟩ := (Option.any_eq_true _ _).mp (hexec [0, 1, 0] (by decide))
  have hdetermined := contents_determined (fabricRun_of_exec hx (by decide +kernel))
    (fabricRun_of_exec hx' (by decide +kernel)) sampleDeployed rfl (by decide)
  exact ⟨x, x', hx, hx', hdetermined.1 true true _ _ 0 (of_decide_eq_true hcall)
    (of_decide_eq_true hcall') rfl rfl⟩

end DocaCpp
