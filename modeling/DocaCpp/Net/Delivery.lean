/-
# What one service leaves the other finds

The purpose of an exchange is that data gets across: the client's service fills a buffer and the
server's service reads it, or the other way round.  The two results of this file are about the
contents of the buffers in runs of timely steps, over any number of clients.

* `write_delivered`: when the service of a write endpoint is called at the server and the client's
  operation has succeeded, the server's buffer begins with what the client's service has left.
* `read_delivered`: when the service of a read endpoint is called at the client, the client's buffer
  begins with what the server's service has left.

Both rest on the lease: bytes land while the session holds the path, and while it does nobody else
touches the buffer (`server_kept`).  What has landed is the invariant of each direction (`written_run`
and `fetched_run`).
-/
import DocaCpp.Net.Leases

namespace DocaCpp

variable [Platform] {ι : Type} [DecidableEq ι]

/-! ## 1. What the services leave -/

/-- What a service of the server leaves for a connection. -/
def FabricLabel.leavesServer (i : ι) : FabricLabel ι → Option Bytes
  | net (.conn j (.server ⟨.handle _, _⟩)) content => if j = i then some content else none
  | _ => none

/-- What a service of the client leaves. -/
def FabricLabel.leavesClient (i : ι) : FabricLabel ι → Option Bytes
  | net (.conn j (.client ⟨.handle _, _⟩)) content => if j = i then some content else none
  | _ => none

/-- What was left last. -/
def lastLeft (leaves : FabricLabel ι → Option Bytes) (ls : List (FabricLabel ι)) : Option Bytes :=
  (ls.filterMap leaves).getLast?

/-- What the server's service has left in the buffer it was called with for a client. -/
def leftByServer (i : ι) (ls : List (FabricLabel ι)) : Option Bytes :=
  lastLeft (FabricLabel.leavesServer i) ls

/-- What the client's service has left in its buffer. -/
def leftByClient (i : ι) (ls : List (FabricLabel ι)) : Option Bytes :=
  lastLeft (FabricLabel.leavesClient i) ls

section Left

variable {leaves : FabricLabel ι → Option Bytes} {ls : List (FabricLabel ι)} {l : FabricLabel ι}
  {content : Bytes} {i : ι}

omit [Platform] [DecidableEq ι] in
theorem lastLeft_leaving (h : leaves l = some content) :
    lastLeft leaves (ls ++ [l]) = some content := by
  simp [lastLeft, h]

omit [Platform] [DecidableEq ι] in
theorem lastLeft_silent (h : leaves l = none) : lastLeft leaves (ls ++ [l]) = lastLeft leaves ls := by
  simp [lastLeft, h]

omit [Platform] in
/-- What leaves something at the client is a call of the client's service. -/
theorem FabricLabel.leavesClient_inv (h : l.leavesClient i = some content) :
    ∃ endpoint result, l = .net (.conn i (.client ⟨.handle endpoint, result⟩)) content := by
  unfold leavesClient at h
  split at h
  · obtain ⟨hj, h⟩ := Option.ite_none_right_eq_some.mp h
    cases h
    exact ⟨_, _, by rw [hj]⟩
  · cases h

omit [Platform] in
theorem FabricLabel.leavesServer_inv (h : l.leavesServer i = some content) :
    ∃ endpoint result, l = .net (.conn i (.server ⟨.handle endpoint, result⟩)) content := by
  unfold leavesServer at h
  split at h
  · obtain ⟨hj, h⟩ := Option.ite_none_right_eq_some.mp h
    cases h
    exact ⟨_, _, by rw [hj]⟩
  · cases h

end Left

/-! ## 2. When a service is called -/

section Called

variable {endpoint served : RdmaEndpoint} {ls : List ConnectionLabel} {c c' : Connection}
  {slog : ServerLog} {clog : ClientLog} {f : ServerPhase} {g : ClientPhase}
  {result : UserCall error}

/-- **A client's service is called once**: for a write endpoint before anything is submitted, for a
read endpoint at the end. -/
theorem client_called (h : ConnectionRun endpoint ls c)
    (hstep : c.step endpoint (.client ⟨.handle served, result⟩) = some c') :
    endpoint.type = .write ∧ (clientSays ls).submitted = false ∨
      endpoint.type = .read ∧ Connection.finished (c'.clientCall endpoint) = true := by
  obtain ⟨g, hg, hk, hsuits, -⟩ := client_submits (connection_client h)
  obtain ⟨s, -, -, hr, -⟩ := Connection.step_client hstep
  rw [hg] at hr
  obtain ⟨g', hg', hs⟩ := (client_refines endpoint).step g _ _ hr
  have hlog : (clientSays ls) = clientLog (ls.filterMap ConnectionLabel.ofClient) := rfl
  rw [Connection.clientCall, hg', hlog]
  cases hs with
  | service descriptor | serviceFailed descriptor err | serviceThrew descriptor
  | serviceNull descriptor =>
    exact Or.inl ⟨hsuits, congrArg ClientLog.submitted hk⟩
  | finished | finishFailed err | finishThrew | finishNull => exact Or.inr ⟨hsuits, rfl⟩

/-- A service the server calls once it has permitted the operation is that of a write endpoint. -/
theorem Linked.called_permitted (hl : Linked endpoint slog clog f g c)
    (hcall : c.serverCall = some (.handle served)) (hp : slog.Permitted) : served.type = .write := by
  rw [Connection.serverCall, hl.server] at hcall
  rcases handles hcall with ⟨request, descriptor, rfl⟩ | ⟨request, rfl⟩
  · obtain ⟨-, -, -, -, hcur⟩ := hl.knowsServer
    obtain ⟨made, hm, -⟩ := hp
    rw [hcur] at hm
    cases hm
  · exact hl.knowsServer.1

/-- A client that has finished stays so. -/
theorem Connection.step_finished {l : ConnectionLabel} (h : c.step endpoint l = some c')
    (hfinished : Connection.finished (c.clientCall endpoint) = true) :
    Connection.finished (c'.clientCall endpoint) = true := by
  cases hc : l.ofClient with
  | none =>
    rw [Connection.clientCall, (Connection.step_same h).2 hc]
    exact hfinished
  | some ev =>
    obtain rfl : l = .client ev := by cases l <;> cases hc; rfl
    obtain ⟨s, -, -, hr, -⟩ := Connection.step_client h
    rw [Connection.clientCall, Connection.not_finished hr] at hfinished
    cases hfinished

/-- Whose operation was submitted, his session has permitted it. -/
theorem Agreed.permitted {operation : RdmaOperationRequest} (h : Agreed endpoint ls operation served)
    (hl : Linked endpoint (serverSays ls) clog f g c) (hclog : clog = clientSays ls) :
    (serverSays ls).Permitted := by
  subst hclog
  refine hl.permitted_of_responce ?_
  rw [h.submitted.permitted]
  rfl

omit [Platform] in
theorem Agreed.operationType {operation : RdmaOperationRequest}
    (h : Agreed endpoint ls operation served) :
    (endpoint.type = .write → operation.type = .write) ∧
      (endpoint.type = .read → operation.type = .read) := by
  rw [h.submitted.type]
  exact ⟨fun hw => if_pos hw, fun hr => if_neg (hr ▸ RdmaEndpointType.read_ne_write)⟩

end Called

/-! ## 3. Writes -/

section Fabric

variable {designates : Bytes → ℕ} {endpoints : ι → RdmaEndpoint} {storage : RdmaEndpointStorage}
  {server : ℕ → Bytes} {client : ι → Bytes} {ls : List (FabricLabel ι)} {x x' : Fabric ι} {i : ι}
  {l : FabricLabel ι} {operation : RdmaOperationRequest} {served : RdmaEndpoint} {buffer : ℕ}

/-- A client's buffer is left alone but by its service and its operation. -/
theorem Fabric.step_client (h : x.step designates endpoints l = some x')
    (hcall : ∀ endpoint result content,
      l ≠ .net (.conn i (.client ⟨.handle endpoint, result⟩)) content)
    (hland : ∀ buffer offset, l ≠ .land i buffer offset) :
    x'.memory.client i = x.memory.client i := by
  cases l with
  | net l content =>
    refine (Memory.after_cases (Fabric.step_net h).2).client_kept fun endpoint result he => ?_
    exact hcall endpoint result content (by rw [he])
  | land j buffer offset =>
    refine (Memory.land_kept (Fabric.step_land h).2.2).2.1 i ?_
    rintro rfl
    exact hland buffer offset rfl

/-- What has landed is left alone but by the operation and the next submission. -/
theorem Fabric.step_landed (h : x.step designates endpoints l = some x')
    (hsubmit : ∀ operation content,
      l ≠ .net (.conn i (.client ⟨.submitOperation operation, none⟩)) content)
    (hland : ∀ buffer offset, l ≠ .land i buffer offset) :
    x'.memory.landed i = x.memory.landed i := by
  cases l with
  | net l content =>
    refine ((Memory.after_cases (Fabric.step_net h).2).operation_kept fun operation he => ?_).2
    exact hsubmit operation content (by rw [he])
  | land j buffer offset =>
    refine (Memory.land_kept (Fabric.step_land h).2.2).2.2.2 i ?_
    rintro rfl
    exact hland buffer offset rfl

/-- With a new operation nothing has landed. -/
theorem Fabric.step_submit {content : Bytes} (h : x.step designates endpoints
      (.net (.conn i (.client ⟨.submitOperation operation, none⟩)) content) = some x') :
    x'.memory.landed i = ∅ := by
  rw [← Option.some.inj (Fabric.step_net h).2]
  exact Function.update_self ..

/-- An operation of a client was permitted by its session, which has asked for the lock. -/
theorem FabricRun.operating (hrun : FabricRun designates endpoints storage server client ls x)
    (hd : Deployed storage endpoints) (h : x.memory.operation i = some operation) :
    ∃ served, Agreed (endpoints i) (connectionLabels i ls) operation served ∧
      storage.Holds served ∧ served.buffer = some (designates operation.remoteBuffer) ∧
      (serverSays (connectionLabels i ls)).Permitted ∧
      (serverSays (connectionLabels i ls)).Asked := by
  obtain ⟨served, hagreed, hholds, hbuffer⟩ := hrun.agreed hd h
  obtain ⟨f, g, hl, -⟩ := hrun.protected hd i
  have hp := hagreed.permitted hl rfl
  exact ⟨served, hagreed, hholds, hbuffer, hp,
    asked_run (hd.short i) (hrun.connection i) (Or.inr (Or.inr hp))⟩

omit [Platform] [DecidableEq ι] in
/-- What accesses a buffer on a connection. -/
theorem FabricLabel.access_own (h : l.access = some (i, buffer)) :
    (∃ served result content, l = .net (.conn i (.server ⟨.handle served, result⟩)) content) ∨
      ∃ offset, l = .land i buffer offset := by
  unfold access at h
  split at h
  next j served result content =>
    obtain ⟨b, -, hb⟩ := Option.map_eq_some_iff.mp h
    cases hb
    exact Or.inl ⟨served, result, content, rfl⟩
  next j b offset =>
    cases h
    exact Or.inr ⟨offset, rfl⟩
  next => cases h

/-- The service of a write endpoint is not called at the client once its operation is submitted. -/
theorem FabricRun.not_called (hrun : FabricRun designates endpoints storage server client ls x)
    (hd : Deployed storage endpoints) (hw : (endpoints i).type = .write)
    (hstep : x.step designates endpoints l = some x')
    (hoperation : x.memory.operation i = some operation) (endpoint : RdmaEndpoint)
    (result : UserCall error) (content : Bytes) :
    l ≠ .net (.conn i (.client ⟨.handle endpoint, result⟩)) content := by
  rintro rfl
  obtain ⟨-, hc, -⟩ := Network.step_conn (Fabric.step_net hstep).1
  rcases client_called (hrun.connection i) hc with ⟨-, hnone⟩ | ⟨hr, -⟩
  · obtain ⟨served, hagreed, -⟩ := hrun.agreed hd hoperation
    rw [hagreed.submitted.submitted] at hnone
    cases hnone
  · exact RdmaEndpointType.read_ne_write (hr.symm.trans hw)

omit [Platform] in
/-- A call of the server's service is on record. -/
theorem handled_ne_nil {result : UserCall error} {content : Bytes} :
    (serverSays (connectionLabels i (ls ++ [.net (.conn i (.server ⟨.handle served, result⟩))
      content]))).current.handled ≠ [] := by
  rw [connectionLabels_same, serverSays_server]
  exact List.cons_ne_nil _ _

/-- **What has landed of a write is there**: until the server's service is called, and as long as
the session holds the path, the bytes that have landed in the server's buffer are the client's. -/
theorem written_run (hrun : FabricRun designates endpoints storage server client ls x)
    (hd : Deployed storage endpoints) (hw : (endpoints i).type = .write) :
    ∀ operation, x.memory.operation i = some operation → Leases endpoints ls i →
      (serverSays (connectionLabels i ls)).current.handled = [] → ∀ k ∈ x.memory.landed i,
        (x.memory.server (designates operation.remoteBuffer))[k]? = (x.memory.client i)[k]? := by
  refine Machine.RunWith.invariant (I := fun ls x => ∀ operation,
    x.memory.operation i = some operation → Leases endpoints ls i →
      (serverSays (connectionLabels i ls)).current.handled = [] → ∀ k ∈ x.memory.landed i,
        (x.memory.server (designates operation.remoteBuffer))[k]? = (x.memory.client i)[k]?)
    (fun _ _ _ _ k hk => absurd hk (Finset.notMem_empty k)) ?_ hrun
  rintro ls x l x' hrun hI - (hstep : x.step designates endpoints l = some x') operation hoperation
    hheld hnone k hk
  by_cases hsubmit : ∃ operation content,
      l = .net (.conn i (.client ⟨.submitOperation operation, none⟩)) content
  · obtain ⟨operation', content, rfl⟩ := hsubmit
    rw [Fabric.step_submit hstep] at hk
    exact absurd hk (Finset.notMem_empty k)
  have hsubmit' : ∀ operation content,
      l ≠ .net (.conn i (.client ⟨.submitOperation operation, none⟩)) content :=
    fun operation content he => hsubmit ⟨operation, content, he⟩
  rw [(Fabric.step_operation hstep hsubmit').1] at hoperation
  obtain ⟨served, hagreed, hholds, hbuffer, -, hasked⟩ := FabricRun.operating hrun hd hoperation
  obtain ⟨-, hleased, -, hhandled⟩ := FabricRun.asked hrun hd hstep hasked
  have hserver : ∀ served result content,
      l ≠ .net (.conn i (.server ⟨.handle served, result⟩)) content := by
    rintro served' result content rfl
    exact handled_ne_nil hnone
  have hbefore : (serverSays (connectionLabels i ls)).current.handled = [] := by
    rcases hhandled with heq | ⟨served', result, content, rfl⟩
    · exact heq ▸ hnone
    · exact absurd rfl (hserver served' result content)
  have hold := hI operation hoperation (hleased hheld) hbefore
  by_cases hland : ∃ buffer offset, l = .land i buffer offset
  · obtain ⟨buffer, offset, rfl⟩ := hland
    obtain ⟨byte, rfl, hbyte, hlt, hx⟩ :=
      Memory.land_write (Fabric.step_land hstep).2.2 hoperation (hagreed.operationType.1 hw)
    rw [hx] at hk ⊢
    dsimp only at hk ⊢
    rw [Memory.fillServer_server_same]
    by_cases hk' : k = offset
    · subst hk'
      rw [List.getElem?_set_self hlt]
      exact hbyte.symm
    · rw [List.getElem?_set_ne (Ne.symm hk')]
      rw [Function.update_self, Finset.mem_insert] at hk
      exact hold k (hk.resolve_left hk')
  · have hland' : ∀ buffer offset, l ≠ .land i buffer offset :=
      fun buffer offset he => hland ⟨buffer, offset, he⟩
    have haccess : l.access ≠ some (i, designates operation.remoteBuffer) := fun ha => by
      rcases FabricLabel.access_own ha with ⟨served', result, content, he⟩ | ⟨offset, he⟩
      · exact hserver served' result content he
      · exact hland' _ offset he
    rw [server_kept hrun hd hstep (hleased hheld) hholds hbuffer hagreed.path haccess,
      Fabric.step_client hstep (FabricRun.not_called hrun hd hw hstep hoperation) hland']
    rw [Fabric.step_landed hstep hsubmit' hland'] at hk
    exact hold k hk

/-- What the client's service leaves in the buffer of a write endpoint stays there. -/
theorem left_run (hrun : FabricRun designates endpoints storage server client ls x)
    (hd : Deployed storage endpoints) (hw : (endpoints i).type = .write) :
    ∀ content, leftByClient i ls = some content → x.memory.client i = content := by
  refine Machine.RunWith.invariant (I := fun ls x =>
    ∀ content, leftByClient i ls = some content → x.memory.client i = content)
    (fun _ hm => nomatch hm) ?_ hrun
  rintro ls x l x' hrun hI - (hstep : x.step designates endpoints l = some x') content hleft
  cases hl : l.leavesClient i with
  | some content' =>
    rw [leftByClient, lastLeft_leaving hl] at hleft
    cases hleft
    obtain ⟨endpoint, result, rfl⟩ := FabricLabel.leavesClient_inv hl
    obtain ⟨-, hafter⟩ := Option.ite_none_right_eq_some.mp (Fabric.step_net hstep).2
    rw [← Option.some.inj hafter]
    exact Memory.fillClient_client_same
  | none =>
    rw [leftByClient, lastLeft_silent hl] at hleft
    rw [← hI content hleft]
    by_cases hland : ∃ buffer offset, l = .land i buffer offset
    · obtain ⟨buffer, offset, rfl⟩ := hland
      obtain ⟨-, -, hland⟩ := Fabric.step_land hstep
      obtain ⟨operation, -, hoperation, -⟩ := Memory.land_inv hland
      obtain ⟨served, hagreed, -⟩ := FabricRun.agreed hrun hd hoperation
      obtain ⟨byte, -, -, -, hx⟩ :=
        Memory.land_write hland hoperation (hagreed.operationType.1 hw)
      rw [hx]
      rfl
    · refine Fabric.step_client hstep ?_ fun buffer offset he => hland ⟨buffer, offset, he⟩
      rintro endpoint result content' rfl
      exact absurd hl (by simp [FabricLabel.leavesClient])

/-! ## 4. Reads -/

/-- A call on record is this one or one of before. -/
theorem Fabric.step_handled (h : x.step designates endpoints l = some x')
    (hne : (serverSays (connectionLabels i (ls ++ [l]))).current.handled ≠ []) :
    (serverSays (connectionLabels i ls)).current.handled ≠ [] ∨
      ∃ served result content, l = .net (.conn i (.server ⟨.handle served, result⟩)) content := by
  rcases Fabric.step_connection ls i h with ⟨heq, -⟩ | ⟨l', heq, -, hl⟩
  · rw [heq] at hne
    exact Or.inl hne
  · rw [heq] at hne
    cases hs : l'.ofServer with
    | none =>
      rw [serverSays_silent hs] at hne
      exact Or.inl hne
    | some ev =>
      obtain rfl : l' = .server ev := by cases l' <;> cases hs; rfl
      rw [serverSays_server] at hne
      obtain ⟨call, hm⟩ := List.exists_mem_of_ne_nil _ hne
      rcases handled_note hm with hm | rfl
      · exact Or.inl (List.ne_nil_of_mem hm)
      · rcases hl with ⟨content, rfl⟩ | ⟨milliseconds, he⟩
        · exact Or.inr ⟨_, _, content, rfl⟩
        · cases he

/-- What is called for a client is the service of the endpoint found for it. -/
theorem FabricRun.serving {result : UserCall error} {content : Bytes}
    (hrun : FabricRun designates endpoints storage server client ls x)
    (hd : Deployed storage endpoints)
    (h : x.step designates endpoints
      (.net (.conn i (.server ⟨.handle served, result⟩)) content) = some x') :
    (serverSays (connectionLabels i ls)).current.endpoint = some served := by
  obtain ⟨f, g, hl, -⟩ := hrun.protected hd i
  obtain ⟨-, hc, -⟩ := Network.step_conn (Fabric.step_net h).1
  obtain ⟨s, -, hr, -⟩ := Connection.step_server hc
  exact hl.serving (Loop.pending_of_resume hr)

/-- A client of a read endpoint has its bytes land in its own buffer. -/
theorem FabricRun.reading {offset : ℕ}
    (hrun : FabricRun designates endpoints storage server client ls x)
    (hd : Deployed storage endpoints) (hr : (endpoints i).type = .read)
    (h : x.memory.land designates i buffer offset = some x'.memory) :
    ∃ operation byte, x.memory.operation i = some operation ∧
      designates operation.remoteBuffer = buffer ∧
      (x.memory.server buffer)[offset]? = some byte ∧ offset < (x.memory.client i).length ∧
      x'.memory = { x.memory.fillClient i ((x.memory.client i).set offset byte) with
        landed := Function.update x.memory.landed i (insert offset (x.memory.landed i)) } := by
  obtain ⟨operation, -, hoperation, -⟩ := Memory.land_inv h
  obtain ⟨served, hagreed, -⟩ := hrun.agreed hd hoperation
  obtain ⟨byte, hbuffer, hbyte, hlt, hx⟩ :=
    Memory.land_read h hoperation (hagreed.operationType.2 hr)
  exact ⟨operation, byte, hoperation, hbuffer, hbyte, hlt, hx⟩

/-- A session that has permitted a read has called its service. -/
theorem FabricRun.prepared (hrun : FabricRun designates endpoints storage server client ls x)
    (hd : Deployed storage endpoints) (hr : (endpoints i).type = .read)
    (hpermitted : (serverSays (connectionLabels i ls)).Permitted) :
    (serverSays (connectionLabels i ls)).current.handled ≠ [] := by
  obtain ⟨f, g, hl, -⟩ := hrun.protected hd i
  obtain ⟨served, hserved, hhandled⟩ := server_filled (connection_server (hrun.connection i)) hpermitted
  refine List.ne_nil_of_mem (hhandled (endpointTypeToString_read ((hl.fits served hserved).2.trans ?_)))
  rw [wireRequest, hr]
  rfl

/-- What a service leaves when it is called for a client of a read endpoint is in the buffer of the
endpoint found for it, and stays there as long as the session holds the path. -/
theorem filled_run (hrun : FabricRun designates endpoints storage server client ls x)
    (hd : Deployed storage endpoints) (hr : (endpoints i).type = .read) :
    ∀ served buffer, (serverSays (connectionLabels i ls)).current.endpoint = some served →
      served.buffer = some buffer → (serverSays (connectionLabels i ls)).current.handled ≠ [] →
        ∃ content, leftByServer i ls = some content ∧
          content.length = (x.memory.server buffer).length ∧
          (Leases endpoints ls i → x.memory.server buffer = content) := by
  refine Machine.RunWith.invariant (I := fun ls x => ∀ served buffer,
    (serverSays (connectionLabels i ls)).current.endpoint = some served →
      served.buffer = some buffer → (serverSays (connectionLabels i ls)).current.handled ≠ [] →
        ∃ content, leftByServer i ls = some content ∧
          content.length = (x.memory.server buffer).length ∧
          (Leases endpoints ls i → x.memory.server buffer = content))
    (fun _ _ hserved => nomatch hserved) ?_ hrun
  rintro ls x l x' hrun hI - (hstep : x.step designates endpoints l = some x') served buffer hserved
    hbuffer hne
  cases hl : l.leavesServer i with
  | some content =>
    obtain ⟨served', result, rfl⟩ := FabricLabel.leavesServer_inv hl
    rw [connectionLabels_same, serverSays_server] at hserved
    obtain rfl := Option.some.inj (hserved.symm.trans (FabricRun.serving hrun hd hstep))
    have hafter := (Fabric.step_net hstep).2
    simp only [Memory.after, hbuffer] at hafter
    obtain ⟨hlength, hafter⟩ := Option.ite_none_right_eq_some.mp hafter
    rw [leftByServer, lastLeft_leaving hl, ← Option.some.inj hafter]
    exact ⟨content, rfl, by rw [Memory.fillServer_server_same],
      fun _ => Memory.fillServer_server_same⟩
  | none =>
    have hserver : ∀ served result content,
        l ≠ .net (.conn i (.server ⟨.handle served, result⟩)) content := by
      rintro served' result content rfl
      exact absurd hl (by simp [FabricLabel.leavesServer])
    have hbefore := (Fabric.step_handled hstep hne).resolve_right
      fun ⟨served', result, content, he⟩ => hserver served' result content he
    have hasked := asked_run (hd.short i) (FabricRun.connection hrun i) (Or.inr (Or.inl hbefore))
    obtain ⟨-, hleased, hendpoint, -⟩ := FabricRun.asked hrun hd hstep hasked
    rw [hendpoint] at hserved
    obtain ⟨content, hleft, hlength, hsame⟩ := hI served buffer hserved hbuffer hbefore
    rw [leftByServer, lastLeft_silent hl]
    refine ⟨content, hleft, hlength.trans ((Fabric.step_length hstep).1 buffer).symm, fun hheld => ?_⟩
    refine Eq.trans ?_ (hsame (hleased hheld))
    by_cases hland : ∃ offset, l = .land i buffer offset
    · obtain ⟨offset, rfl⟩ := hland
      obtain ⟨operation, byte, -, -, -, -, hx⟩ := FabricRun.reading hrun hd hr (Fabric.step_land hstep).2.2
      rw [hx]
      rfl
    · obtain ⟨f, g, hl, -⟩ := FabricRun.protected hrun hd i
      refine server_kept hrun hd hstep (hleased hheld) (FabricRun.found hrun hserved) hbuffer
        (hl.fits served hserved).1 fun ha => ?_
      rcases FabricLabel.access_own ha with ⟨served', result, content', he⟩ | hoffset
      · exact hserver served' result content' he
      · exact hland hoffset

/-- **What has landed of a read is what the server's service has left.** -/
theorem fetched_run (hrun : FabricRun designates endpoints storage server client ls x)
    (hd : Deployed storage endpoints) (hr : (endpoints i).type = .read) :
    ∀ operation, x.memory.operation i = some operation →
      Connection.finished ((x.net.conn i).clientCall (endpoints i)) = false →
      ∀ content, leftByServer i ls = some content → ∀ k ∈ x.memory.landed i,
        (x.memory.client i)[k]? = content[k]? := by
  refine Machine.RunWith.invariant (I := fun ls x => ∀ operation,
    x.memory.operation i = some operation →
      Connection.finished ((x.net.conn i).clientCall (endpoints i)) = false →
      ∀ content, leftByServer i ls = some content → ∀ k ∈ x.memory.landed i,
        (x.memory.client i)[k]? = content[k]?)
    (fun _ _ _ _ _ k hk => absurd hk (Finset.notMem_empty k)) ?_ hrun
  rintro ls x l x' hrun hI - (hstep : x.step designates endpoints l = some x') operation hoperation
    hfinished content hleft k hk
  by_cases hsubmit : ∃ operation content,
      l = .net (.conn i (.client ⟨.submitOperation operation, none⟩)) content
  · obtain ⟨operation', content', rfl⟩ := hsubmit
    rw [Fabric.step_submit hstep] at hk
    exact absurd hk (Finset.notMem_empty k)
  have hsubmit' : ∀ operation content,
      l ≠ .net (.conn i (.client ⟨.submitOperation operation, none⟩)) content :=
    fun operation content he => hsubmit ⟨operation, content, he⟩
  rw [(Fabric.step_operation hstep hsubmit').1] at hoperation
  obtain ⟨served, hagreed, hholds, hbuffer, hpermitted, hasked⟩ :=
    FabricRun.operating hrun hd hoperation
  -- the service of a read endpoint is called neither at the server any more nor at the client yet
  have hserver : l.leavesServer i = none := by
    refine Option.eq_none_iff_forall_not_mem.mpr fun content' hleaves => ?_
    obtain ⟨served', result, rfl⟩ := FabricLabel.leavesServer_inv hleaves
    obtain ⟨f, g, hl, -⟩ := FabricRun.protected hrun hd i
    obtain ⟨-, hc, -⟩ := Network.step_conn (Fabric.step_net hstep).1
    obtain ⟨s, -, hresume, -⟩ := Connection.step_server hc
    have hcall : (x.net.conn i).serverCall = some (.handle served') :=
      Loop.pending_of_resume hresume
    obtain rfl := Option.some.inj (hagreed.found.symm.trans (hl.serving hcall))
    have hw := hl.called_permitted hcall hpermitted
    rw [hagreed.type, hr] at hw
    exact RdmaEndpointType.read_ne_write hw
  have hclient : ∀ endpoint result content,
      l ≠ .net (.conn i (.client ⟨.handle endpoint, result⟩)) content := by
    rintro endpoint result content' rfl
    obtain ⟨-, hc, -⟩ := Network.step_conn (Fabric.step_net hstep).1
    rcases client_called (FabricRun.connection hrun i) hc with ⟨hw, -⟩ | ⟨-, hend⟩
    · exact RdmaEndpointType.read_ne_write (hr.symm.trans hw)
    · rw [hend] at hfinished
      cases hfinished
  have hbefore : Connection.finished ((x.net.conn i).clientCall (endpoints i)) = false := by
    refine Bool.eq_false_iff.mpr fun hend => ?_
    rcases Fabric.step_connection ls i hstep with ⟨-, heq⟩ | ⟨l', -, hc, -⟩
    · rw [heq, hend] at hfinished
      cases hfinished
    · rw [Connection.step_finished hc hend] at hfinished
      cases hfinished
  rw [leftByServer, lastLeft_silent hserver] at hleft
  have hold := hI operation hoperation hbefore content hleft
  by_cases hland : ∃ buffer offset, l = .land i buffer offset
  · obtain ⟨buffer, offset, rfl⟩ := hland
    obtain ⟨hbusy, -, hland⟩ := Fabric.step_land hstep
    obtain ⟨operation', byte, hoperation', hb, hbyte, hlt, hx⟩ := FabricRun.reading hrun hd hr hland
    obtain rfl := Option.some.inj (hoperation.symm.trans hoperation')
    subst hb
    have hne := FabricRun.prepared hrun hd hr hpermitted
    obtain ⟨content', hleft', -, hsame⟩ := filled_run hrun hd hr served _ hagreed.found hbuffer hne
    obtain rfl := Option.some.inj (hleft.symm.trans hleft')
    rw [hsame (FabricRun.busy hrun hd hbusy)] at hbyte
    rw [hx] at hk ⊢
    dsimp only at hk ⊢
    rw [Memory.fillClient_client_same]
    by_cases hk' : k = offset
    · subst hk'
      rw [List.getElem?_set_self hlt]
      exact hbyte.symm
    · rw [List.getElem?_set_ne (Ne.symm hk')]
      rw [Function.update_self, Finset.mem_insert] at hk
      exact hold k (hk.resolve_left hk')
  · have hland' : ∀ buffer offset, l ≠ .land i buffer offset :=
      fun buffer offset he => hland ⟨buffer, offset, he⟩
    rw [Fabric.step_client hstep hclient hland']
    rw [Fabric.step_landed hstep hsubmit' hland'] at hk
    exact hold k hk

/-! ## 5. Delivery -/

/-- What has ended well was submitted before. -/
theorem Connection.step_ended {endpoint : RdmaEndpoint} {c c' : Connection} {l : ConnectionLabel}
    (h : c.step endpoint l = some c') (hended : c'.rdma = .ended none) :
    l = .complete none ∨ c.rdma = .ended none ∧
      ∀ operation, l ≠ .client ⟨.submitOperation operation, none⟩ := by
  cases Connection.step_moves h with
  | complete err hbusy =>
    cases hended
    exact Or.inl rfl
  | client ev s rdma client hs hrdma hr =>
    obtain rfl : rdma = .ended none := hended
    right
    obtain ⟨op, r⟩ := ev
    cases op with
    | submitOperation operation =>
      cases r with
      | none =>
        obtain ⟨-, he⟩ := Option.ite_none_right_eq_some.mp hrdma
        cases he
      | some err => exact ⟨Option.some.inj hrdma, by rintro _ ⟨⟩⟩
    | awaitWithTimeout milliseconds =>
      refine ⟨?_, by rintro _ ⟨⟩⟩
      cases r with
      | ready err =>
        obtain ⟨-, he⟩ := Option.ite_none_right_eq_some.mp hrdma
        exact Option.some.inj he
      | timedOut =>
        simp only [Rdma.answer] at hrdma
        split at hrdma
        next since hsince =>
          obtain ⟨-, he⟩ := Option.ite_none_right_eq_some.mp hrdma
          rw [hsince] at he
          cases he
        next => cases hrdma
    | _ => exact ⟨Option.some.inj hrdma, by rintro _ ⟨⟩⟩
  | _ => exact Or.inr ⟨hended, by rintro _ ⟨⟩⟩

theorem Fabric.step_source (h : x.step designates endpoints l = some x') :
    (x'.memory.source designates i operation).length
      = (x.memory.source designates i operation).length := by
  obtain ⟨hserver, hclient⟩ := Fabric.step_length h
  unfold Memory.source
  cases operation.type with
  | write => exact hclient i
  | read => exact hserver _

/-- **All bytes of an operation that has ended well have landed.** -/
theorem arrived_run (hrun : FabricRun designates endpoints storage server client ls x) :
    (x.net.conn i).rdma = .ended none → x.memory.Arrived designates i := by
  refine Machine.RunWith.invariant (I := fun _ x =>
    (x.net.conn i).rdma = .ended none → x.memory.Arrived designates i) (fun he => nomatch he) ?_ hrun
  rintro ls x l x' - hI - (hstep : x.step designates endpoints l = some x') hended
  by_cases hsubmit : ∃ operation content,
      l = .net (.conn i (.client ⟨.submitOperation operation, none⟩)) content
  · obtain ⟨operation, content, rfl⟩ := hsubmit
    obtain ⟨-, hc, -⟩ := Network.step_conn (Fabric.step_net hstep).1
    rcases Connection.step_ended hc hended with he | ⟨-, hnot⟩
    · cases he
    · exact absurd rfl (hnot operation)
  have hsubmit' : ∀ operation content,
      l ≠ .net (.conn i (.client ⟨.submitOperation operation, none⟩)) content :=
    fun operation content he => hsubmit ⟨operation, content, he⟩
  have hkept : (x.net.conn i).rdma = .ended none → x'.memory.Arrived designates i := fun hbefore => by
    have hland : ∀ buffer offset, l ≠ .land i buffer offset := by
      rintro buffer offset rfl
      have hbusy := (Fabric.step_land hstep).1
      rw [hbefore] at hbusy
      cases hbusy
    intro operation hoperation k hk
    rw [(Fabric.step_operation hstep hsubmit').1] at hoperation
    rw [Fabric.step_source hstep] at hk
    rw [Fabric.step_landed hstep hsubmit' hland]
    exact hI hbefore operation hoperation k hk
  rcases Fabric.step_connection ls i hstep with ⟨-, heq⟩ | ⟨l', -, hc, hl⟩
  · exact hkept (heq ▸ hended)
  · rcases Connection.step_ended hc hended with rfl | ⟨hbefore, -⟩
    · rcases hl with ⟨content, rfl⟩ | ⟨milliseconds, he⟩
      · obtain ⟨harrived, hx⟩ := Option.ite_none_right_eq_some.mp (Fabric.step_net hstep).2
        rw [← Option.some.inj hx]
        exact harrived
      · cases he
    · exact hkept hbefore

/-- An operation that has ended was submitted. -/
theorem FabricRun.submitted (hrun : FabricRun designates endpoints storage server client ls x)
    (h : (x.net.conn i).rdma = .ended none) : ∃ operation, x.memory.operation i = some operation := by
  cases hoperation : x.memory.operation i with
  | some operation => exact ⟨operation, rfl⟩
  | none =>
    rw [((hrun.accounts i).fresh hoperation).2] at h
    cases h

omit [Platform] in
/-- What a connection's history has, the whole history has. -/
theorem mem_of_connectionLabels {l' : ConnectionLabel} (h : l' ∈ connectionLabels i ls) :
    (∃ content, .net (.conn i l') content ∈ ls) ∨ ∃ milliseconds, l' = .tick milliseconds := by
  obtain ⟨n, hn, hon⟩ := List.mem_filterMap.mp h
  obtain ⟨l, hl, hnet⟩ := List.mem_filterMap.mp hn
  cases l with
  | land j buffer offset => cases hnet
  | net n' content =>
    cases hnet
    cases n with
    | tick milliseconds =>
      cases hon
      exact Or.inr ⟨milliseconds, rfl⟩
    | conn j l =>
      obtain ⟨hj, hon⟩ := Option.ite_none_right_eq_some.mp hon
      rw [← Option.some.inj hon, ← hj]
      exact Or.inl ⟨content, hl⟩

omit [Platform] in
/-- A client's service that was called has left something. -/
theorem Handled.left {endpoint : RdmaEndpoint}
    (h : Handled endpoint ((connectionLabels i ls).filterMap ConnectionLabel.ofClient)) :
    ∃ content, leftByClient i ls = some content := by
  obtain ⟨result, hm⟩ := h
  rcases mem_of_connectionLabels (mem_ofClient.mp hm) with ⟨content, hl⟩ | ⟨milliseconds, he⟩
  · have hleft : content ∈ ls.filterMap (FabricLabel.leavesClient i) :=
      List.mem_filterMap.mpr ⟨_, hl, if_pos rfl⟩
    exact ⟨_, List.getLast?_eq_some_getLast (List.ne_nil_of_mem hleft)⟩
  · cases he

omit [DecidableEq ι] in
/-- The service of a write endpoint has not been called before. -/
theorem Linked.unhandled {endpoint : RdmaEndpoint} {slog : ServerLog} {clog : ClientLog}
    {f : ServerPhase} {g : ClientPhase} {c : Connection} (hl : Linked endpoint slog clog f g c)
    (hcall : c.serverCall = some (.handle served)) : slog.current.handled = [] := by
  rw [Connection.serverCall, hl.server] at hcall
  rcases handles hcall with ⟨request, descriptor, rfl⟩ | ⟨request, rfl⟩
  · obtain ⟨-, -, -, -, hcur⟩ := hl.knowsServer
    rw [hcur]
    rfl
  · obtain ⟨hw, ack, -, -, -, -, descriptor, hcur⟩ := hl.knowsServer
    rw [hcur]
    simp [waiting, Reply.exchange, hw, RdmaEndpointType.read_ne_write.symm]

/-- What a write has brought, with the two buffers it is about. -/
theorem FabricRun.wrote (hrun : FabricRun designates endpoints storage server client ls x)
    (hd : Deployed storage endpoints) (hw : (endpoints i).type = .write)
    (hcall : (x.net.conn i).serverCall = some (.handle served))
    (hended : (x.net.conn i).rdma = .ended none) :
    ∃ buffer, leftByClient i ls = some (x.memory.client i) ∧ storage.Holds served ∧
      served.path = (endpoints i).path ∧ served.type = .write ∧ served.buffer = some buffer ∧
      x.memory.client i <+: x.memory.server buffer := by
  obtain ⟨operation, hoperation⟩ := hrun.submitted hended
  obtain ⟨served', hagreed, hholds, hbuffer, -, -⟩ := hrun.operating hd hoperation
  obtain ⟨f, g, hl, -⟩ := hrun.protected hd i
  obtain rfl := Option.some.inj (hagreed.found.symm.trans (hl.serving hcall))
  obtain ⟨content, hcontent⟩ := (hagreed.submitted.handled hw).left
  have hclient := left_run hrun hd hw content hcontent
  have harrived := arrived_run hrun hended operation hoperation
  have hheld : Leases endpoints ls i := by
    unfold Leases
    rw [(hl.calling hcall).1]
    exact List.mem_singleton_self _
  refine ⟨_, hclient ▸ hcontent, hholds, hagreed.path, hagreed.type.trans hw, hbuffer,
    List.prefix_iff_getElem?.mpr fun k hk => ?_⟩
  have hlanded : k ∈ x.memory.landed i := by
    refine harrived k ?_
    rw [Memory.source, hagreed.operationType.1 hw]
    exact hk
  rw [written_run hrun hd hw operation hoperation hheld (hl.unhandled hcall) k hlanded]
  exact List.getElem?_eq_getElem hk

/-- **A write is delivered**: when the service of a write endpoint is about to be called at the
server for a client whose operation has ended well, the buffer of the endpoint begins with what the
client's service has left, whatever other clients have done. -/
theorem write_delivered (hrun : FabricRun designates endpoints storage server client ls x)
    (hd : Deployed storage endpoints) (hw : (endpoints i).type = .write)
    (hcall : (x.net.conn i).serverCall = some (.handle served))
    (hended : (x.net.conn i).rdma = .ended none) :
    ∃ content buffer, leftByClient i ls = some content ∧ served.buffer = some buffer ∧
      content <+: x.memory.server buffer := by
  obtain ⟨buffer, hleft, -, -, -, hbuffer, hprefix⟩ := hrun.wrote hd hw hcall hended
  exact ⟨_, buffer, hleft, hbuffer, hprefix⟩

omit [DecidableEq ι] in
theorem handles_client {endpoint : RdmaEndpoint} {g : ClientPhase}
    (h : (g.session endpoint).pending (clientPass true endpoint) = some (.handle served)) :
    (∃ descriptor, g = .service descriptor) ∨ g = .finish := by
  obtain ⟨g', hs⟩ := (client_refines endpoint).of_pending h .threw
  cases hs with
  | serviceThrew descriptor => exact Or.inl ⟨descriptor, rfl⟩
  | finishThrew => exact Or.inr rfl

/-- What a read has brought, with the two buffers it is about. -/
theorem FabricRun.fetched {endpoint : RdmaEndpoint}
    (hrun : FabricRun designates endpoints storage server client ls x)
    (hd : Deployed storage endpoints) (hr : (endpoints i).type = .read)
    (hcall : (x.net.conn i).clientCall (endpoints i) = some (.handle endpoint)) :
    ∃ content served buffer, leftByServer i ls = some content ∧ storage.Holds served ∧
      served.path = (endpoints i).path ∧ served.buffer = some buffer ∧
      content.length = (x.memory.server buffer).length ∧ content <+: x.memory.client i := by
  obtain ⟨f, g, hl, -⟩ := hrun.protected hd i
  have hended : (x.net.conn i).rdma = .ended none := by
    obtain ⟨g', hg, hknows, hsuits, -⟩ := client_submits (connection_client (hrun.connection i))
    rw [Connection.clientCall, hg] at hcall
    rcases handles_client hcall with ⟨descriptor, rfl⟩ | rfl
    · exact absurd (hr.symm.trans hsuits) RdmaEndpointType.read_ne_write
    · exact hl.operated.2 none (hknows.1.1.mp rfl)
  obtain ⟨operation, hoperation⟩ := hrun.submitted hended
  obtain ⟨served, hagreed, hholds, hbuffer, hpermitted, -⟩ := hrun.operating hd hoperation
  obtain ⟨content, hcontent, hlength, -⟩ :=
    filled_run hrun hd hr served _ hagreed.found hbuffer (hrun.prepared hd hr hpermitted)
  have harrived := arrived_run hrun hended operation hoperation
  refine ⟨content, served, _, hcontent, hholds, hagreed.path, hbuffer, hlength,
    List.prefix_iff_getElem?.mpr fun k hk => ?_⟩
  have hlanded : k ∈ x.memory.landed i := by
    refine harrived k ?_
    rw [Memory.source, hagreed.operationType.2 hr, ← hlength]
    exact hk
  rw [fetched_run hrun hd hr operation hoperation (hcall ▸ rfl) content hcontent k hlanded]
  exact List.getElem?_eq_getElem hk

/-- **A read is delivered**: when the service of a read endpoint is about to be called at the
client, the client's buffer begins with what the server's service has left. -/
theorem read_delivered {endpoint : RdmaEndpoint}
    (hrun : FabricRun designates endpoints storage server client ls x)
    (hd : Deployed storage endpoints) (hr : (endpoints i).type = .read)
    (hcall : (x.net.conn i).clientCall (endpoints i) = some (.handle endpoint)) :
    ∃ content, leftByServer i ls = some content ∧ content <+: x.memory.client i := by
  obtain ⟨content, served, buffer, hleft, -, -, -, -, hprefix⟩ := hrun.fetched hd hr hcall
  exact ⟨content, hleft, hprefix⟩

end Fabric

/-! ## 6. A client after another -/

/-- The same client reads instead, up to the call of its service. -/
def fetchingLabels (i : Bool) (content : Bytes) : List (FabricLabel Bool) :=
  List.flatten [
    leaving i content (asking sampleEndpoint ++ filling sampleEndpoint [7] ++ reading [7] ++
      [.client ⟨.submitOperation ⟨.read, some 0, [7]⟩, none⟩]),
    [.land i 0 1, .land i 0 0],
    leaving i content ([.complete none, .client ⟨.awaitWithTimeout 5000, .ready none⟩] ++
      acknowledging ⟨.operationCompleted⟩)]

omit [Platform] in
/-- A second client writes over what the first has written. -/
theorem write_delivered_sample :
    letI := Platform.littleEndian
    ∃ x, (fabric (fun _ => 0) fun _ : Bool => sampleWriteEndpoint).exec
        (Fabric.start sampleWriteStorage (fun _ => [0, 0]) fun _ => [0, 0])
        (deliveredLabels true [1, 2] ++ deliveringLabels false [3, 4]) = some x ∧
      ∃ content buffer, leftByClient false (deliveredLabels true [1, 2] ++
          deliveringLabels false [3, 4]) = some content ∧
        sampleWriteEndpoint.buffer = some buffer ∧ content <+: x.memory.server buffer := by
  let _ := Platform.littleEndian
  have hexec : ((fabric (fun _ => 0) fun _ : Bool => sampleWriteEndpoint).exec
      (Fabric.start sampleWriteStorage (fun _ => [0, 0]) fun _ => [0, 0])
      (deliveredLabels true [1, 2] ++ deliveringLabels false [3, 4])).any (fun x =>
        decide ((x.net.conn false).serverCall = some (.handle sampleWriteEndpoint) ∧
          (x.net.conn false).rdma = .ended none)) = true := by
    decide +kernel
  obtain ⟨x, hx, h⟩ := (Option.any_eq_true _ _).mp hexec
  obtain ⟨hcall, hended⟩ := of_decide_eq_true h
  exact ⟨x, hx, write_delivered (fabricRun_of_exec hx (by decide +kernel)) sampleDeployed rfl hcall
    hended⟩

omit [Platform] in
theorem read_delivered_sample :
    letI := Platform.littleEndian
    ∃ x, (fabric (fun _ => 0) fun _ : Bool => sampleEndpoint).exec
        (Fabric.start sampleStorage (fun _ => [0, 0]) fun _ => [0, 0]) (fetchingLabels true [1, 2])
        = some x ∧
      ∃ content, leftByServer true (fetchingLabels true [1, 2]) = some content ∧
        content <+: x.memory.client true := by
  let _ := Platform.littleEndian
  have hexec : ((fabric (fun _ => 0) fun _ : Bool => sampleEndpoint).exec
      (Fabric.start sampleStorage (fun _ => [0, 0]) fun _ => [0, 0]) (fetchingLabels true [1, 2])).any
      (fun x => decide ((x.net.conn true).clientCall sampleEndpoint
        = some (.handle sampleEndpoint))) = true := by
    decide +kernel
  obtain ⟨x, hx, h⟩ := (Option.any_eq_true _ _).mp hexec
  exact ⟨x, hx, read_delivered (fabricRun_of_exec hx (by decide +kernel))
    (deployed_one (.register (some sampleEndpoint) .create) (by decide) (by decide))
    rfl (of_decide_eq_true h)⟩

end DocaCpp
