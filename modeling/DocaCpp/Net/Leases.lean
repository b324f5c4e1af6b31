/-
# The buffers of a server are leased

The lock of a path is taken on behalf of a buffer, and buffers know nothing of paths.  Where
endpoints with one buffer have one path (`Deployed.separate`) the lock protects it all the same: in
every run of timely steps whoever accesses a buffer, a service or an operation on its way, does so
on a connection whose session holds the path of that buffer (`access_held`), and nobody else's
accesses come between (`server_kept`).

A session asks for its lock once.  So the accesses of a connection to a buffer are one block:
`accesses_serial` says that the accesses of all clients to a buffer of the server are those of one
client, then those of a second, and so on, however their connections are interleaved.
-/
import DocaCpp.Lib.Serial
import DocaCpp.Net.Exclusive
import DocaCpp.Net.Memory

namespace DocaCpp

variable [Platform]

/-! ## 1. A session asks for its lock once -/

omit [Platform] in
/-- The session has decoded its request and asked for the lock. -/
def ServerLog.Asked (log : ServerLog) : Prop := log.decoded = 1 ∧ log.current.lock ≠ none

section Asked

variable {endpoint : RdmaEndpoint} {ls : List ConnectionLabel} {c c' : Connection}
  {slog : ServerLog} {clog : ClientLog} {f f' : ServerPhase} {g : ClientPhase} {ev : SessionEvent}

/-- **A session that has asked does not ask again**: it takes no further lock, and the endpoint it
serves stays the one it has found. -/
theorem ServerLog.Asked.step (h : slog.Asked) (hshort : Short endpoint)
    (hl : Linked endpoint slog clog f g c) (hs : ServerStep f ev f')
    (hstep : c.step endpoint (.server ev) = some c') :
    (slog.note ev).Asked ∧ (∀ path ∈ (slog.note ev).held, path ∈ slog.held) ∧
      (slog.note ev).current.endpoint = slog.current.endpoint ∧
      ((slog.note ev).current.handled = slog.current.handled ∨
        ∃ served result, ev = ⟨.handle served, result⟩) := by
  obtain ⟨hdecoded, hlock⟩ := h
  have hk := hl.knowsServer
  cases hs with
  | requestDecode bs request =>
    obtain ⟨s, ha, -⟩ := Connection.step_server hstep
    have hd : Except.ok request = deserializeRequest bs := by
      simpa [SessionEvent.computed] using Side.answer_computed ha
    have hnone := (hl.consumed.decode hshort hd).1
    rw [hdecoded] at hnone
    cases hnone
  | lookup request served =>
    obtain ⟨-, -, hcur⟩ := hk
    rw [hcur] at hlock
    exact absurd rfl hlock
  | granted request served descriptor | locked request served descriptor
  | lockFailed request served descriptor flag err =>
    obtain ⟨-, -, -, hcur⟩ := hk
    rw [hcur] at hlock
    exact absurd rfl hlock
  | unlock request err =>
    exact ⟨⟨hdecoded, hlock⟩, fun path hm => List.mem_of_mem_erase hm, rfl, Or.inl rfl⟩
  | prepared request served descriptor | prepareFailed request served descriptor err
  | prepareThrew request served descriptor | prepareNull request served descriptor
  | processed request served err | processThrew request served | processNull request served =>
    exact ⟨⟨hdecoded, hlock⟩, fun _ hm => hm, rfl, Or.inr ⟨_, _, rfl⟩⟩
  | _ => exact ⟨⟨hdecoded, hlock⟩, fun _ hm => hm, rfl, Or.inl rfl⟩

omit [Platform] in
/-- The session has a lock, or has had one: it has permitted the operation or called its service. -/
def ServerLog.Engaged (log : ServerLog) : Prop :=
  log.held ≠ [] ∨ log.current.handled ≠ [] ∨ log.Permitted

/-- A session that is engaged has asked for its lock. -/
theorem ServerStep.asks (hs : ServerStep f ev f') (hl : Linked endpoint slog clog f g c)
    (h : slog.Engaged → slog.Asked) : (slog.note ev).Engaged → (slog.note ev).Asked := by
  have hk := hl.knowsServer
  cases hs with
  | requestDecode bs request =>
    rintro (hheld | hhandled | ⟨responce, hm, -⟩)
    · exact absurd hk.1 hheld
    · exact absurd rfl hhandled
    · cases hm
  | granted request served descriptor | locked request served descriptor
  | lockFailed request served descriptor flag err =>
    obtain ⟨⟨hdecoded, -⟩, -⟩ := hl.consumed
    exact fun _ => ⟨hdecoded, Option.some_ne_none _⟩
  | prepared request served descriptor | prepareFailed request served descriptor err
  | prepareThrew request served descriptor | prepareNull request served descriptor =>
    exact fun _ => h (Or.inl (hk.1 ▸ List.cons_ne_nil _ _))
  | processed request served err | processThrew request served | processNull request served =>
    obtain ⟨-, ack, hheld, -⟩ := hk
    exact fun _ => h (Or.inl (hheld ▸ List.cons_ne_nil _ _))
  | serialize reply bs =>
    obtain ⟨hheld, -, -, hcur⟩ := hk
    rintro (hne | hhandled | ⟨responce, hm, hcode⟩)
    · exact h (Or.inl hne)
    · exact h (Or.inr (Or.inl hhandled))
    · obtain rfl : responce = reply.responce := by
        simpa [ServerLog.note, hcur, Sending.responces] using hm
      cases reply with
      | permitted request served descriptor =>
        exact h (Or.inl (hheld ▸ List.cons_ne_nil _ _))
      | _ => cases hcode
  | unlock request err =>
    rintro (hheld | hrest)
    · exact h (Or.inl fun hnone => hheld (by rw [ServerLog.note, hnone]; rfl))
    · exact h (Or.inr hrest)
  | _ => exact h

/-- **Who is engaged has asked**, along every run. -/
theorem asked_run (hshort : Short endpoint) (h : ConnectionRun endpoint ls c) :
    (serverSays ls).Engaged → (serverSays ls).Asked := by
  have hrun : ∃ f g, Linked endpoint (serverSays ls) (clientSays ls) f g c ∧
      ((serverSays ls).Engaged → (serverSays ls).Asked) := by
    refine Linked.run hshort (fun _ _ _ hp => hp)
      (J := fun ls _ _ _ => (serverSays ls).Engaged → (serverSays ls).Asked) ?_ ?_ ?_ ?_ h
    · rintro (hne | hne | ⟨responce, hm, -⟩)
      · exact absurd rfl hne
      · exact absurd rfl hne
      · cases hm
    · intro ls f f' g c c' ev hl hJ _ hs hstep
      rw [serverSays_server]
      exact hs.asks hl hJ
    · intro ls f g g' c c' ev hl hJ _ hs hstep
      rw [serverSays_silent rfl]
      exact hJ
    · intro ls f g c c' l hl hJ _ hsil hcl hstep
      rw [serverSays_silent hsil]
      exact hJ
  obtain ⟨f, g, -, hJ⟩ := hrun
  exact hJ

/-- One more label of a session that has asked. -/
theorem asked_step {l : ConnectionLabel} (hshort : Short endpoint) (h : ConnectionRun endpoint ls c)
    (hstep : c.step endpoint l = some c') (hasked : (serverSays ls).Asked) :
    (serverSays (ls ++ [l])).Asked ∧
      (∀ path ∈ (serverSays (ls ++ [l])).held, path ∈ (serverSays ls).held) ∧
      (serverSays (ls ++ [l])).current.endpoint = (serverSays ls).current.endpoint ∧
      ((serverSays (ls ++ [l])).current.handled = (serverSays ls).current.handled ∨
        ∃ served result, l = .server ⟨.handle served, result⟩) := by
  cases hs : l.ofServer with
  | none =>
    rw [serverSays_silent hs]
    exact ⟨hasked, fun _ hm => hm, rfl, Or.inl rfl⟩
  | some ev =>
    obtain rfl : l = .server ev := by cases l <;> cases hs; rfl
    obtain ⟨f, g, hl⟩ := linked_run hshort h
    obtain ⟨s, -, hr, -⟩ := Connection.step_server hstep
    rw [hl.server] at hr
    obtain ⟨f', -, hs'⟩ := server_refines.step f ev _ hr
    rw [serverSays_server]
    obtain ⟨hnext, hheld, hendpoint, hhandled⟩ := hasked.step hshort hl hs' hstep
    refine ⟨hnext, hheld, hendpoint, hhandled.imp_right ?_⟩
    rintro ⟨served, result, rfl⟩
    exact ⟨served, result, rfl⟩

end Asked

/-! ## 2. Runs over a server's buffers -/

variable {ι : Type} [DecidableEq ι]

/-- What a server and its clients are set up with: the endpoints were registered, the paths asked
for fit their frames, and endpoints with one buffer have one path. -/
structure Deployed (storage : RdmaEndpointStorage) (endpoints : ι → RdmaEndpoint) : Prop where
  registered : storage.Registered
  short : ∀ i, Short (endpoints i)
  separate : ∀ e e' buffer, storage.Holds e → storage.Holds e' → e.buffer = some buffer →
    e'.buffer = some buffer → e.path = e'.path

/-- A descriptor that is exported fits its response. -/
def FabricLabel.compact : FabricLabel ι → Bool
  | net (.conn _ l) _ => l.compact
  | _ => true

/-- A step of the network in which no timer cuts an operation short. -/
def FabricLabel.Timely (endpoints : ι → RdmaEndpoint) (ls : List (FabricLabel ι)) (x : Fabric ι) :
    FabricLabel ι → Prop
  | net l _ => l.Timely endpoints (networkLabels ls) x.net
  | land _ _ _ => True

/-- The runs of timely steps in which every descriptor fits its response. -/
abbrev FabricRun (designates : Bytes → ℕ) (endpoints : ι → RdmaEndpoint)
    (storage : RdmaEndpointStorage) (server : ℕ → Bytes) (client : ι → Bytes)
    (ls : List (FabricLabel ι)) (x : Fabric ι) : Prop :=
  (fabric designates endpoints).RunWith
    (fun ls x l => l.Timely endpoints ls x ∧ l.compact = true)
    (Fabric.start storage server client) ls x

/-- The session of a connection holds the path its client asks for. -/
def Leases (endpoints : ι → RdmaEndpoint) (ls : List (FabricLabel ι)) (i : ι) : Prop :=
  (endpoints i).path ∈ (serverSays (connectionLabels i ls)).held

section Fabric

variable {designates : Bytes → ℕ} {endpoints : ι → RdmaEndpoint} {storage : RdmaEndpointStorage}
  {server : ℕ → Bytes} {client : ι → Bytes} {ls : List (FabricLabel ι)} {x x' : Fabric ι} {i j : ι}
  {l : FabricLabel ι} {operation : RdmaOperationRequest} {served : RdmaEndpoint} {buffer : ℕ}

/-- **Seen from a connection**, a step is one of its own or nothing at all. -/
theorem Fabric.step_connection (ls : List (FabricLabel ι)) (i : ι)
    (h : x.step designates endpoints l = some x') :
    (connectionLabels i (ls ++ [l]) = connectionLabels i ls ∧ x'.net.conn i = x.net.conn i) ∨
      ∃ l', connectionLabels i (ls ++ [l]) = connectionLabels i ls ++ [l'] ∧
        (x.net.conn i).step (endpoints i) l' = some (x'.net.conn i) ∧
        ((∃ content, l = .net (.conn i l') content) ∨ ∃ milliseconds, l' = .tick milliseconds) := by
  cases l with
  | land j buffer offset =>
    refine Or.inl ⟨connectionLabels_land i j ls buffer offset, ?_⟩
    rw [(Fabric.step_land h).2.1]
  | net l content =>
    have hnet := (Fabric.step_net h).1
    cases l with
    | tick milliseconds =>
      refine Or.inr ⟨.tick milliseconds, connectionLabels_tick i ls milliseconds content, ?_,
        Or.inr ⟨milliseconds, rfl⟩⟩
      rw [← Option.some.inj hnet]
      rfl
    | conn j l =>
      obtain ⟨-, hc, ho⟩ := Network.step_conn hnet
      by_cases hj : j = i
      · subst hj
        exact Or.inr ⟨l, connectionLabels_same j ls l content, hc, Or.inl ⟨content, rfl⟩⟩
      · exact Or.inl ⟨connectionLabels_other hj ls l content, ho i (Ne.symm hj)⟩

/-- The connection in a run of the fabric. -/
theorem FabricRun.connection (hrun : FabricRun designates endpoints storage server client ls x)
    (i : ι) : ConnectionRun (endpoints i) (connectionLabels i ls) (x.net.conn i) :=
  network_connectionRun i (fabric_network (P := fun _ _ _ => True) (fun _ _ _ _ _ => trivial) hrun)

/-- The sessions of a connection are linked, and what its client uses is protected. -/
theorem FabricRun.protected (hrun : FabricRun designates endpoints storage server client ls x)
    (hd : Deployed storage endpoints) (i : ι) : ∃ f g,
      Linked (endpoints i) (serverSays (connectionLabels i ls)) (clientSays (connectionLabels i ls))
        f g (x.net.conn i) ∧
      Protected (endpoints i) (serverSays (connectionLabels i ls))
        (clientSays (connectionLabels i ls)) f g (x.net.conn i) := by
  have hnet : (network endpoints).RunWith (fun ls n l => l.Timely endpoints ls n)
      (Network.start ι storage) (networkLabels ls) x.net :=
    fabric_network (fun _ _ _ _ hgood => hgood.1) hrun
  refine protected_run (hd.short i) (network_connection i ?_ ?_ hnet)
  · exact fun ls c ms => ⟨fun h => (nomatch h), fun _ h => nomatch h⟩
  · exact fun ls n l h => h

/-- **Two sessions never hold one path.** -/
theorem FabricRun.exclusive (hrun : FabricRun designates endpoints storage server client ls x)
    (hd : Deployed storage endpoints) (hpath : (endpoints i).path = (endpoints j).path)
    (hi : Leases endpoints ls i) (hj : Leases endpoints ls j) : i = j := by
  have hnet := fabric_network (P := fun _ _ _ => True) (fun _ _ _ _ _ => trivial) hrun
  have hexclusive := (pool_guarded hd.registered (network_pool hnet)).exclusive
  simp only [logOf_serverHistory] at hexclusive
  exact hexclusive i j _ hi (hpath ▸ hj)

/-- What a session serves is registered. -/
theorem FabricRun.found (hrun : FabricRun designates endpoints storage server client ls x)
    (h : (serverSays (connectionLabels i ls)).current.endpoint = some served) :
    storage.Holds served := by
  have hnet := fabric_network (P := fun _ _ _ => True) (fun _ _ _ _ _ => trivial) hrun
  refine (pool_found (network_pool hnet)).2 i served ?_
  rw [logOf_serverHistory]
  exact h

/-- The descriptors on a connection fit their responses. -/
theorem FabricRun.compact (hrun : FabricRun designates endpoints storage server client ls x)
    (i : ι) : Compact (connectionLabels i ls) := by
  refine Machine.RunWith.invariant (I := fun ls _ => Compact (connectionLabels i ls))
    (fun l hl => nomatch hl) ?_ hrun
  rintro ls x l x' - hcompact ⟨-, hgood⟩ (hstep : x.step designates endpoints l = some x')
  rcases Fabric.step_connection ls i hstep with ⟨heq, -⟩ | ⟨l', heq, -, hl⟩
  · rw [heq]
    exact hcompact
  · rw [heq]
    refine List.forall_mem_append.mpr ⟨hcompact, List.forall_mem_singleton.mpr ?_⟩
    rcases hl with ⟨content, rfl⟩ | ⟨milliseconds, rfl⟩
    · exact hgood
    · rfl

/-- What the buffers say of the history of a connection. -/
structure Fabric.Accounts (designates : Bytes → ℕ) (i : ι)
    (ls : List (FabricLabel ι)) (x : Fabric ι) : Prop where
  exports : ∀ served descriptor,
    .server ⟨.exportMemoryDescriptor served, .returned (.ok descriptor)⟩ ∈ connectionLabels i ls →
      served.buffer = some (designates descriptor)
  submits : ∀ operation, x.memory.operation i = some operation →
    .client ⟨.submitOperation operation, none⟩ ∈ connectionLabels i ls
  fresh : x.memory.operation i = none → x.memory.landed i = ∅ ∧ (x.net.conn i).rdma = .idle

omit [Platform] in
/-- Nothing is in flight before something was submitted. -/
theorem Rdma.answer_idle {now : ℕ} {rdma : Rdma} {ev : SessionEvent}
    (h : Rdma.idle.answer now ev = some rdma)
    (hev : ∀ operation, ev ≠ ⟨.submitOperation operation, none⟩) : rdma = .idle := by
  obtain ⟨op, r⟩ := ev
  cases op with
  | submitOperation operation =>
    cases r with
    | none => exact absurd rfl (hev operation)
    | some err => exact (Option.some.inj h).symm
  | awaitWithTimeout milliseconds => cases r <;> cases h
  | _ => exact (Option.some.inj h).symm

theorem Connection.step_idle {endpoint : RdmaEndpoint} {c c' : Connection} {l' : ConnectionLabel}
    (h : c.step endpoint l' = some c') (hidle : c.rdma = .idle)
    (hl : ∀ operation, l' ≠ .client ⟨.submitOperation operation, none⟩) : c'.rdma = .idle := by
  cases Connection.step_moves h with
  | complete err hbusy =>
    rw [hidle] at hbusy
    cases hbusy
  | client ev s rdma client hs hrdma hr =>
    rw [hidle] at hrdma
    exact Rdma.answer_idle hrdma fun operation he => hl operation (congrArg _ he)
  | _ => exact hidle

/-- A label of the connection is one it had before, or the label of the step. -/
theorem Fabric.mem_connectionLabels (h : x.step designates endpoints l = some x')
    {l' : ConnectionLabel} (hm : l' ∈ connectionLabels i (ls ++ [l])) :
    l' ∈ connectionLabels i ls ∨ (∃ content, l = .net (.conn i l') content) ∨
      ∃ milliseconds, l' = .tick milliseconds := by
  rcases Fabric.step_connection ls i h with ⟨heq, -⟩ | ⟨l'', heq, -, hl⟩
  · rw [heq] at hm
    exact Or.inl hm
  · rw [heq] at hm
    rcases List.mem_append.mp hm with hm | hm
    · exact Or.inl hm
    · rw [List.mem_singleton.mp hm]
      exact Or.inr hl

/-- The labels of a connection stay. -/
theorem Fabric.mem_connectionLabels_of (h : x.step designates endpoints l = some x')
    {l' : ConnectionLabel} (hm : l' ∈ connectionLabels i ls) :
    l' ∈ connectionLabels i (ls ++ [l]) := by
  rcases Fabric.step_connection ls i h with ⟨heq, -⟩ | ⟨l'', heq, -⟩
  · rw [heq]
    exact hm
  · rw [heq]
    exact List.mem_append_left _ hm

/-- A step that is no submission of a client leaves its operation what it was; and nothing lands, or
goes on, of an operation that was not submitted. -/
theorem Fabric.step_operation (h : x.step designates endpoints l = some x')
    (hl : ∀ operation content, l ≠ .net (.conn i (.client ⟨.submitOperation operation, none⟩)) content) :
    x'.memory.operation i = x.memory.operation i ∧
      (x.memory.operation i = none → x'.memory.landed i = x.memory.landed i) := by
  cases l with
  | land j buffer offset =>
    obtain ⟨-, -, hland⟩ := Fabric.step_land h
    obtain ⟨-, -, hoperation, hlanded⟩ := Memory.land_kept hland
    refine ⟨by rw [hoperation], fun hnone => hlanded i ?_⟩
    rintro rfl
    obtain ⟨operation, -, hsome, -⟩ := Memory.land_inv hland
    rw [hnone] at hsome
    cases hsome
  | net l content =>
    have hcases := Memory.after_cases (Fabric.step_net h).2
    have hkept := hcases.operation_kept (i := i) fun operation he => hl operation content (by rw [he])
    exact ⟨hkept.1, fun _ => hkept.2⟩

/-- **The buffers and the history of a connection agree**, along every run. -/
theorem FabricRun.accounts (hrun : FabricRun designates endpoints storage server client ls x)
    (i : ι) : x.Accounts designates i ls := by
  refine Machine.RunWith.invariant (I := fun ls x => x.Accounts designates i ls)
    ⟨fun _ _ hm => (nomatch hm), fun _ ho => (nomatch ho), fun _ => ⟨rfl, rfl⟩⟩ ?_ hrun
  rintro ls x l x' - hacc - (hstep : x.step designates endpoints l = some x')
  have hexports : ∀ served descriptor,
      .server ⟨.exportMemoryDescriptor served, .returned (.ok descriptor)⟩
          ∈ connectionLabels i (ls ++ [l]) → served.buffer = some (designates descriptor) := by
    intro served descriptor hm
    rcases Fabric.mem_connectionLabels hstep hm with hm | ⟨content, rfl⟩ | ⟨milliseconds, he⟩
    · exact hacc.exports served descriptor hm
    · obtain ⟨hbuffer, -⟩ := Option.ite_none_right_eq_some.mp (Fabric.step_net hstep).2
      exact hbuffer
    · cases he
  by_cases hsubmit : ∃ operation content,
      l = .net (.conn i (.client ⟨.submitOperation operation, none⟩)) content
  · obtain ⟨operation, content, rfl⟩ := hsubmit
    have hmemory : x'.memory.operation i = some operation := by
      rw [← Option.some.inj (Fabric.step_net hstep).2]
      exact Function.update_self ..
    refine ⟨hexports, fun operation' ho => ?_, fun hnone => ?_⟩
    · rw [hmemory] at ho
      cases ho
      rw [connectionLabels_same]
      exact List.mem_append_right _ (List.mem_singleton_self _)
    · rw [hmemory] at hnone
      cases hnone
  · obtain ⟨hoperation, hlanded⟩ := Fabric.step_operation (i := i) hstep
      fun operation content he => hsubmit ⟨operation, content, he⟩
    refine ⟨hexports, fun operation ho => ?_, fun hnone => ?_⟩
    · rw [hoperation] at ho
      exact Fabric.mem_connectionLabels_of hstep (hacc.submits operation ho)
    · rw [hoperation] at hnone
      obtain ⟨hempty, hidle⟩ := hacc.fresh hnone
      refine ⟨(hlanded hnone).trans hempty, ?_⟩
      rcases Fabric.step_connection ls i hstep with ⟨-, hconn⟩ | ⟨l', -, hc, hl⟩
      · rw [hconn]
        exact hidle
      · refine Connection.step_idle hc hidle fun operation he => ?_
        subst he
        rcases hl with ⟨content, rfl⟩ | ⟨milliseconds, he⟩
        · exact hsubmit ⟨operation, content, rfl⟩
        · cases he

/-- **An operation goes to a registered buffer of its path.** -/
theorem FabricRun.agreed (hrun : FabricRun designates endpoints storage server client ls x)
    (hd : Deployed storage endpoints) (h : x.memory.operation i = some operation) :
    ∃ served, Agreed (endpoints i) (connectionLabels i ls) operation served ∧
      storage.Holds served ∧ served.buffer = some (designates operation.remoteBuffer) := by
  have hacc := hrun.accounts i
  obtain ⟨served, hagreed⟩ := agreed_run (hd.short i) (hrun.connection i) (hrun.compact i)
    (hacc.submits operation h)
  exact ⟨served, hagreed, hrun.found hagreed.found, hacc.exports _ _ hagreed.exported⟩

/-- **While an operation is in flight its path is leased.** -/
theorem FabricRun.busy (hrun : FabricRun designates endpoints storage server client ls x)
    (hd : Deployed storage endpoints) (h : (x.net.conn i).rdma.busy = true) :
    Leases endpoints ls i := by
  obtain ⟨f, g, hl, hp⟩ := hrun.protected hd i
  refine Using.held hp hl ⟨?_, Or.inl h⟩
  obtain ⟨type, rfl⟩ := hp.busy h
  obtain ⟨descriptor, hlog⟩ := hl.knowsClient
  rw [hlog]
  rfl

omit [DecidableEq ι] in
/-- A service is called for the endpoint that was found. -/
theorem Linked.serving {endpoint : RdmaEndpoint} {slog : ServerLog} {clog : ClientLog}
    {f : ServerPhase} {g : ClientPhase} {c : Connection} (hl : Linked endpoint slog clog f g c)
    (hcall : c.serverCall = some (.handle served)) : slog.current.endpoint = some served := by
  rw [Connection.serverCall, hl.server] at hcall
  rcases handles hcall with ⟨request, descriptor, rfl⟩ | ⟨request, rfl⟩
  · obtain ⟨-, -, -, -, hcur⟩ := hl.knowsServer
    rw [hcur]
    rfl
  · obtain ⟨-, ack, -, -, -, -, descriptor, hcur⟩ := hl.knowsServer
    rw [hcur]
    rfl

/-- **Who accesses a buffer holds the path of it.** -/
theorem access_held (hrun : FabricRun designates endpoints storage server client ls x)
    (hd : Deployed storage endpoints) (hstep : x.step designates endpoints l = some x')
    (h : l.access = some (i, buffer)) :
    Leases endpoints ls i ∧ ∃ served, storage.Holds served ∧ served.buffer = some buffer ∧
      served.path = (endpoints i).path := by
  cases l with
  | land j b offset =>
    cases h
    obtain ⟨hbusy, -, hland⟩ := Fabric.step_land hstep
    obtain ⟨operation, -, hoperation, rfl, -⟩ := Memory.land_inv hland
    obtain ⟨served, hagreed, hholds, hbuffer⟩ := hrun.agreed hd hoperation
    exact ⟨hrun.busy hd hbusy, served, hholds, hbuffer, hagreed.path⟩
  | net l content =>
    unfold FabricLabel.access at h
    split at h
    next j served result content' he =>
      cases he
      obtain ⟨b, hbuffer, hb⟩ := Option.map_eq_some_iff.mp h
      cases hb
      obtain ⟨f, g, hl, -⟩ := hrun.protected hd i
      obtain ⟨-, hc, -⟩ := Network.step_conn (Fabric.step_net hstep).1
      obtain ⟨s, -, hr, -⟩ := Connection.step_server hc
      have hcall : (x.net.conn i).serverCall = some (.handle served) := Loop.pending_of_resume hr
      obtain ⟨hheld, -, -, hfit⟩ := hl.calling hcall
      refine ⟨?_, served, ?_, hbuffer, hfit.1⟩
      · unfold Leases
        rw [hheld]
        exact List.mem_singleton_self _
      · exact hrun.found (hl.serving hcall)
    next j b offset he => cases he
    next => cases h

/-- **A leased buffer is left alone** by everybody else: while a session holds the path of a
buffer, a step that does not access it on that session's connection does not change it. -/
theorem server_kept (hrun : FabricRun designates endpoints storage server client ls x)
    (hd : Deployed storage endpoints) (hstep : x.step designates endpoints l = some x')
    (hheld : Leases endpoints ls i) (hholds : storage.Holds served)
    (hbuffer : served.buffer = some buffer) (hpath : served.path = (endpoints i).path)
    (hl : l.access ≠ some (i, buffer)) : x'.memory.server buffer = x.memory.server buffer := by
  refine Fabric.step_server hstep fun j hj => ?_
  obtain ⟨hheld', served', hholds', hbuffer', hpath'⟩ := access_held hrun hd hstep hj
  have hsame := hd.separate served served' buffer hholds hholds' hbuffer hbuffer'
  have hij := hrun.exclusive hd (hpath.symm.trans (hsame.trans hpath')) hheld hheld'
  subst hij
  exact hl hj

/-! ## 3. Serial accesses -/

/-- The access of a step to one buffer of the server. -/
def FabricLabel.accessTo (buffer : ℕ) (l : FabricLabel ι) : Option (ι × FabricLabel ι) :=
  l.access.bind fun a => if a.2 = buffer then some (a.1, l) else none

/-- The accesses to a buffer of the server, with the connection each is made on. -/
def accesses (buffer : ℕ) (ls : List (FabricLabel ι)) : List (ι × FabricLabel ι) :=
  ls.filterMap (FabricLabel.accessTo buffer)

omit [Platform] [DecidableEq ι] in
theorem FabricLabel.accessTo_inv {a : ι × FabricLabel ι} (h : l.accessTo buffer = some a) :
    l.access = some (a.1, buffer) ∧ a.2 = l := by
  obtain ⟨⟨j, b⟩, hj, h⟩ := Option.bind_eq_some_iff.mp h
  obtain ⟨hb, h⟩ := Option.ite_none_right_eq_some.mp h
  cases h
  exact ⟨hj.trans (congrArg (fun b => some (j, b)) hb), rfl⟩

/-- One more step for a session that has asked for its lock. -/
theorem FabricRun.asked (hrun : FabricRun designates endpoints storage server client ls x)
    (hd : Deployed storage endpoints) (hstep : x.step designates endpoints l = some x')
    (h : (serverSays (connectionLabels i ls)).Asked) :
    (serverSays (connectionLabels i (ls ++ [l]))).Asked ∧
      (Leases endpoints (ls ++ [l]) i → Leases endpoints ls i) ∧
      (serverSays (connectionLabels i (ls ++ [l]))).current.endpoint
        = (serverSays (connectionLabels i ls)).current.endpoint ∧
      ((serverSays (connectionLabels i (ls ++ [l]))).current.handled
        = (serverSays (connectionLabels i ls)).current.handled ∨
        ∃ served result content, l = .net (.conn i (.server ⟨.handle served, result⟩)) content) := by
  unfold Leases
  rcases Fabric.step_connection ls i hstep with ⟨heq, -⟩ | ⟨l', heq, hc, hl⟩
  · rw [heq]
    exact ⟨h, id, rfl, Or.inl rfl⟩
  · rw [heq]
    obtain ⟨hasked, hheld, hendpoint, hhandled⟩ :=
      asked_step (hd.short i) (hrun.connection i) hc h
    refine ⟨hasked, hheld _, hendpoint, hhandled.imp_right ?_⟩
    rintro ⟨served, result, rfl⟩
    rcases hl with ⟨content, rfl⟩ | ⟨milliseconds, he⟩
    · exact ⟨served, result, content, rfl⟩
    · cases he

/-- A connection on which a buffer was accessed has asked for its lock. -/
theorem FabricRun.accessed (hrun : FabricRun designates endpoints storage server client ls x)
    (hd : Deployed storage endpoints) :
    ∀ a ∈ accesses buffer ls, (serverSays (connectionLabels a.1 ls)).Asked := by
  refine Machine.RunWith.invariant (I := fun ls _ => ∀ a ∈ accesses buffer ls,
    (serverSays (connectionLabels a.1 ls)).Asked) (fun _ hm => nomatch hm) ?_ hrun
  rintro ls x l x' hrun hasked - hstep a hm
  refine (FabricRun.asked hrun hd hstep ?_).1
  rw [accesses, List.filterMap_append] at hm
  rcases List.mem_append.mp hm with hm | hm
  · exact hasked a hm
  · obtain ⟨l', hl', hm⟩ := List.mem_filterMap.mp hm
    rw [List.mem_singleton.mp hl'] at hm
    have hheld := (access_held hrun hd hstep (FabricLabel.accessTo_inv hm).1).1
    exact asked_run (hd.short a.1) (FabricRun.connection hrun a.1)
      (Or.inl (List.ne_nil_of_mem hheld))

/-- **The accesses of all clients to a buffer are serial**: in every run of timely steps, however
the connections are interleaved, they are the accesses of one client, then those of a second, and so
on, and no client has two turns. -/
theorem accesses_serial (hrun : FabricRun designates endpoints storage server client ls x)
    (hd : Deployed storage endpoints) (buffer : ℕ) :
    ∃ clients : List ι, clients.Nodup ∧
      clients.flatMap (fun i => accessesOf i (accesses buffer ls)) = accesses buffer ls := by
  have hserial : Serial (accesses buffer ls) := by
    refine Machine.RunWith.serial (FabricLabel.accessTo buffer)
      (fun ls i => Leases endpoints ls i ∧ ∃ served, storage.Holds served ∧
        served.buffer = some buffer ∧ served.path = (endpoints i).path) ?_ ?_ ?_ hrun
    · rintro ls x hrun i j ⟨hi, served, hholds, hbuffer, hpath⟩
        ⟨hj, served', hholds', hbuffer', hpath'⟩
      have hsame := hd.separate served served' buffer hholds hholds' hbuffer hbuffer'
      exact FabricRun.exclusive hrun hd (hpath.symm.trans (hsame.trans hpath')) hi hj
    · rintro ls x l x' a hrun - hstep ha
      exact access_held hrun hd hstep (FabricLabel.accessTo_inv ha).1
    · rintro ls x l x' i hrun - hstep hi ⟨hheld, hserved⟩
      obtain ⟨a, hm, rfl⟩ := mem_turns.mp hi
      have hasked := FabricRun.accessed hrun hd a hm
      exact ⟨(FabricRun.asked hrun hd hstep hasked).2.1 hheld, hserved⟩
  exact ⟨turns (accesses buffer ls), hserial, hserial.blocks⟩

end Fabric

/-! ## 4. Two clients, one after the other -/

/-- The labels of a connection, where every service that is called leaves this content. -/
def leaving (i : Bool) (content : Bytes) (ls : List ConnectionLabel) : List (FabricLabel Bool) :=
  ls.map fun l => .net (.via i l) content

/-- A client writes two bytes, the second one first, and the server's service is about to be
called. -/
def deliveringLabels (i : Bool) (content : Bytes) : List (FabricLabel Bool) :=
  List.flatten [
    leaving i content (asking sampleWriteEndpoint ++ granting sampleWriteEndpoint [7] ++
      permitted [7] ++ operating sampleWriteEndpoint [7]),
    [.land i 0 1, .land i 0 0],
    leaving i content ([.complete none, .client ⟨.awaitWithTimeout 5000, .ready none⟩] ++
      acknowledging ⟨.operationCompleted⟩ ++ acknowledged ⟨.operationCompleted⟩ ++
      accepting ⟨.operationCompleted⟩)]

/-- The service is called and the path is given back. -/
def deliveredLabels (i : Bool) (content : Bytes) : List (FabricLabel Bool) :=
  deliveringLabels i content ++ leaving i content
    [.server ⟨.handle sampleWriteEndpoint, .returned none⟩,
      .server ⟨.unlockEndpointsByPath [], none⟩]

/-- A label no timer has a part in, with a descriptor that fits. -/
def FabricLabel.calm (l : FabricLabel Bool) : Bool :=
  l.compact && match l with
    | .net l _ => DocaCpp.calm l
    | .land _ _ _ => true

omit [Platform] in
/-- A server with one endpoint. -/
theorem deployed_one {ι : Type} {storage : RdmaEndpointStorage} {endpoint : RdmaEndpoint}
    (hreg : storage.Registered) (hshort : Short endpoint)
    (hone : ∀ x ∈ storage.endpointsMap, x.2.endpoint = endpoint) :
    Deployed storage fun _ : ι => endpoint where
  registered := hreg
  short := fun _ => hshort
  separate := by
    rintro - - buffer ⟨x, hx, rfl⟩ ⟨y, hy, rfl⟩ - -
    rw [hone x hx, hone y hy]

omit [Platform] in
theorem sampleDeployed : Deployed sampleWriteStorage fun _ : Bool => sampleWriteEndpoint :=
  deployed_one sampleWriteStorage_registered sampleWriteEndpoint_short (by decide)

/-- A run evaluated through calm labels is a run of timely steps. -/
theorem fabricRun_of_exec {designates : Bytes → ℕ} {endpoints : Bool → RdmaEndpoint}
    {storage : RdmaEndpointStorage} {server : ℕ → Bytes} {client : Bool → Bytes}
    {ls : List (FabricLabel Bool)} {x : Fabric Bool}
    (h : (fabric designates endpoints).exec (Fabric.start storage server client) ls = some x)
    (hcalm : ls.all FabricLabel.calm = true) :
    FabricRun designates endpoints storage server client ls x := by
  refine (Machine.exec_runWith h hcalm).mono fun ls x l hl => ?_
  obtain ⟨hcompact, hl⟩ := Bool.and_eq_true_iff.mp hl
  refine ⟨?_, hcompact⟩
  cases l with
  | net l content => exact timely_of_calm hl
  | land i buffer offset => trivial

omit [Platform] in
/-- Two clients write, one after the other; each turn is two bytes and a call of the service. -/
theorem accesses_serial_sample :
    letI := Platform.littleEndian
    let ls := deliveredLabels true [1, 2] ++ deliveredLabels false [3, 4]
    (accesses 0 ls).length = 6 ∧ ∃ clients : List Bool, clients.Nodup ∧
      clients.flatMap (fun i => accessesOf i (accesses 0 ls)) = accesses 0 ls := by
  let _ := Platform.littleEndian
  intro ls
  have hsome : ((fabric (fun _ => 0) fun _ : Bool => sampleWriteEndpoint).exec
      (Fabric.start sampleWriteStorage (fun _ => [0, 0]) fun _ => [0, 0]) ls).isSome = true := by
    decide +kernel
  obtain ⟨x, hx⟩ := Option.isSome_iff_exists.mp hsome
  exact ⟨by decide +kernel,
    accesses_serial (fabricRun_of_exec hx (by decide +kernel)) sampleDeployed 0⟩

end DocaCpp
