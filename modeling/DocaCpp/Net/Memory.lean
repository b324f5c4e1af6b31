/-
# What is in the buffers

A `Fabric` is the network of `Network` with the contents of the buffers: the server's, which its
endpoints name, and one at every client, that of its endpoint.  Two things change a buffer.  A
service that is called with it leaves what it likes there, of the same length; and while an RDMA
operation is in flight its bytes land one by one, in any order and any number of times, until the
operation is over.  It ends well only when every byte of its source has landed.

The operation knows the remote buffer by its descriptor.  Which buffer of the server a descriptor
stands for is the library's to say, so it is a parameter (`designates`); all that is known is that
an export of an endpoint's buffer gives a descriptor of that buffer.

A run of the fabric is a run of the network (`fabric_network`) in which these rules hold.
-/
import DocaCpp.Net.Submission
import Mathlib.Data.Finset.Insert

namespace DocaCpp

variable {ι : Type} [DecidableEq ι]

/-! ## 1. Memory -/

/-- No service is called and no operation submitted. -/
def NetworkLabel.quiet : NetworkLabel ι → Bool
  | conn _ (.server ⟨.handle _, _⟩) | conn _ (.client ⟨.handle _, _⟩)
  | conn _ (.client ⟨.submitOperation _, none⟩) => false
  | _ => true

/-- The contents of the buffers, and how far the operations of the clients have come. -/
structure Memory (ι : Type) where
  /-- the buffers of the server -/
  server : ℕ → Bytes
  /-- the buffer of a client's endpoint -/
  client : ι → Bytes
  /-- the operation a client has submitted -/
  operation : ι → Option RdmaOperationRequest := fun _ => none
  /-- the bytes of it that have landed -/
  landed : ι → Finset ℕ := fun _ => ∅

namespace Memory

variable (designates : Bytes → ℕ)

/-- The buffer an operation takes its bytes from. -/
def source (m : Memory ι) (i : ι) (operation : RdmaOperationRequest) : Bytes :=
  match operation.type with
  | .write => m.client i
  | .read => m.server (designates operation.remoteBuffer)

/-- The buffer it puts them into. -/
def target (m : Memory ι) (i : ι) (operation : RdmaOperationRequest) : Bytes :=
  match operation.type with
  | .write => m.server (designates operation.remoteBuffer)
  | .read => m.client i

/-- The server's buffer has this content now. -/
def fillServer (m : Memory ι) (buffer : ℕ) (content : Bytes) : Memory ι :=
  { m with server := Function.update m.server buffer content }

/-- The client's buffer has this content now. -/
def fillClient (m : Memory ι) (i : ι) (content : Bytes) : Memory ι :=
  { m with client := Function.update m.client i content }

/-- The target of an operation has this content now. -/
def fillTarget (m : Memory ι) (i : ι) (operation : RdmaOperationRequest) (content : Bytes) :
    Memory ι :=
  match operation.type with
  | .write => m.fillServer (designates operation.remoteBuffer) content
  | .read => m.fillClient i content

/-- A byte of an operation lands. -/
def land (m : Memory ι) (i : ι) (buffer offset : ℕ) : Option (Memory ι) :=
  match m.operation i with
  | none => none
  | some operation =>
    match (m.source designates i operation)[offset]? with
    | none => none
    | some byte =>
      if designates operation.remoteBuffer = buffer ∧
          offset < (m.target designates i operation).length then
        let content := (m.target designates i operation).set offset byte
        some { m.fillTarget designates i operation content with
          landed := Function.update m.landed i (insert offset (m.landed i)) }
      else none

/-- Every byte of the client's operation has landed. -/
def Arrived (m : Memory ι) (i : ι) : Prop :=
  ∀ operation ∈ m.operation i, ∀ k < (m.source designates i operation).length, k ∈ m.landed i

instance (m : Memory ι) (i : ι) : Decidable (m.Arrived designates i) :=
  inferInstanceAs (Decidable (∀ operation ∈ m.operation i, _))

/-- What a step of the network does to the buffers, if it is a call of a service that leaves
`content` behind. -/
def after (m : Memory ι) (content : Bytes) : NetworkLabel ι → Option (Memory ι)
  | .conn _ (.server ⟨.handle endpoint, _⟩) =>
    match endpoint.buffer with
    | none => some m
    | some buffer =>
      if content.length = (m.server buffer).length then some (m.fillServer buffer content) else none
  | .conn _ (.server ⟨.exportMemoryDescriptor endpoint, .returned (.ok descriptor)⟩) =>
    if endpoint.buffer = some (designates descriptor) then some m else none
  | .conn i (.client ⟨.handle _, _⟩) =>
    if content.length = (m.client i).length then some (m.fillClient i content) else none
  | .conn i (.client ⟨.submitOperation operation, none⟩) =>
    some { m with
      operation := Function.update m.operation i (some operation)
      landed := Function.update m.landed i ∅ }
  | .conn i (.complete none) => if m.Arrived designates i then some m else none
  | _ => some m

section Fill

variable {designates : Bytes → ℕ} {m : Memory ι} {i : ι} {buffer : ℕ} {content : Bytes}
  {operation : RdmaOperationRequest}

omit [DecidableEq ι] in
@[simp] theorem fillServer_server_same : (m.fillServer buffer content).server buffer = content :=
  Function.update_self ..

omit [DecidableEq ι] in
theorem fillServer_server_other {b : ℕ} (h : b ≠ buffer) :
    (m.fillServer buffer content).server b = m.server b := Function.update_of_ne h ..

@[simp] theorem fillClient_client_same : (m.fillClient i content).client i = content :=
  Function.update_self ..

theorem fillClient_client_other {j : ι} (h : j ≠ i) :
    (m.fillClient i content).client j = m.client j := Function.update_of_ne h ..

omit [DecidableEq ι] in
theorem fillServer_length (h : content.length = (m.server buffer).length) (b : ℕ) :
    ((m.fillServer buffer content).server b).length = (m.server b).length := by
  by_cases hb : b = buffer
  · subst hb
    rw [fillServer_server_same, h]
  · rw [fillServer_server_other hb]

theorem fillClient_length (h : content.length = (m.client i).length) (j : ι) :
    ((m.fillClient i content).client j).length = (m.client j).length := by
  by_cases hj : j = i
  · subst hj
    rw [fillClient_client_same, h]
  · rw [fillClient_client_other hj]

theorem fillTarget_write (h : operation.type = .write) :
    m.fillTarget designates i operation content
      = m.fillServer (designates operation.remoteBuffer) content := by
  unfold fillTarget
  rw [h]

theorem fillTarget_read (h : operation.type = .read) :
    m.fillTarget designates i operation content = m.fillClient i content := by
  unfold fillTarget
  rw [h]

end Fill

section Changes

variable {designates : Bytes → ℕ} {m m' : Memory ι} {i : ι} {buffer offset : ℕ} {content : Bytes}
  {l : NetworkLabel ι} {operation : RdmaOperationRequest}

/-- A byte that lands is one of the source, and has a place in the target. -/
theorem land_inv (h : m.land designates i buffer offset = some m') :
    ∃ operation byte, m.operation i = some operation ∧
      designates operation.remoteBuffer = buffer ∧
      (m.source designates i operation)[offset]? = some byte ∧
      offset < (m.target designates i operation).length ∧
      m' = { m.fillTarget designates i operation
          ((m.target designates i operation).set offset byte) with
        landed := Function.update m.landed i (insert offset (m.landed i)) } := by
  unfold land at h
  split at h
  · cases h
  next operation hoperation =>
    split at h
    · cases h
    next byte hbyte =>
      obtain ⟨⟨hbuffer, hlt⟩, h⟩ := Option.ite_none_right_eq_some.mp h
      cases h
      exact ⟨operation, byte, hoperation, hbuffer, hbyte, hlt, rfl⟩

/-- What a step of the network can leave of the buffers. -/
inductive After (m : Memory ι) (content : Bytes) : NetworkLabel ι → Memory ι → Prop
  | served (i : ι) (endpoint : RdmaEndpoint) (result : UserCall error) (buffer : ℕ)
      (hbuffer : endpoint.buffer = some buffer)
      (hlength : content.length = (m.server buffer).length) :
      After m content (.conn i (.server ⟨.handle endpoint, result⟩)) (m.fillServer buffer content)
  | unserved (i : ι) (endpoint : RdmaEndpoint) (result : UserCall error)
      (hbuffer : endpoint.buffer = none) :
      After m content (.conn i (.server ⟨.handle endpoint, result⟩)) m
  | handled (i : ι) (endpoint : RdmaEndpoint) (result : UserCall error)
      (hlength : content.length = (m.client i).length) :
      After m content (.conn i (.client ⟨.handle endpoint, result⟩)) (m.fillClient i content)
  | submitted (i : ι) (operation : RdmaOperationRequest) :
      After m content (.conn i (.client ⟨.submitOperation operation, none⟩))
        { m with
          operation := Function.update m.operation i (some operation)
          landed := Function.update m.landed i ∅ }
  | other (l : NetworkLabel ι) (hl : l.quiet = true) : After m content l m

theorem after_cases (h : m.after designates content l = some m') : m.After content l m' := by
  unfold after at h
  split at h
  next i endpoint result =>
    split at h
    next hbuffer =>
      cases h
      exact .unserved i endpoint result hbuffer
    next buffer hbuffer =>
      obtain ⟨hlength, h⟩ := Option.ite_none_right_eq_some.mp h
      cases h
      exact .served i endpoint result buffer hbuffer hlength
  next i endpoint descriptor =>
    obtain ⟨-, h⟩ := Option.ite_none_right_eq_some.mp h
    cases h
    exact .other _ rfl
  next i endpoint result =>
    obtain ⟨hlength, h⟩ := Option.ite_none_right_eq_some.mp h
    cases h
    exact .handled i endpoint result hlength
  next i operation =>
    cases h
    exact .submitted i operation
  next i =>
    obtain ⟨-, h⟩ := Option.ite_none_right_eq_some.mp h
    cases h
    exact .other _ rfl
  next hserver _ hclient hsubmit _ =>
    cases h
    refine .other l ?_
    unfold NetworkLabel.quiet
    split
    · exact (hserver _ _ _ rfl).elim
    · exact (hclient _ _ _ rfl).elim
    · exact (hsubmit _ _ rfl).elim
    · rfl

/-- A byte of a write lands in the server's buffer. -/
theorem land_write (h : m.land designates i buffer offset = some m')
    (hoperation : m.operation i = some operation) (hw : operation.type = .write) :
    ∃ byte, designates operation.remoteBuffer = buffer ∧ (m.client i)[offset]? = some byte ∧
      offset < (m.server buffer).length ∧
      m' = { m.fillServer buffer ((m.server buffer).set offset byte) with
        landed := Function.update m.landed i (insert offset (m.landed i)) } := by
  obtain ⟨operation', byte, hoperation', rfl, hbyte, hlt, rfl⟩ := land_inv h
  obtain rfl := Option.some.inj (hoperation.symm.trans hoperation')
  rw [fillTarget_write hw]
  simp only [source, target, hw] at hbyte hlt
  refine ⟨byte, rfl, hbyte, hlt, ?_⟩
  simp only [target, hw]

/-- A byte of a read lands in the client's. -/
theorem land_read (h : m.land designates i buffer offset = some m')
    (hoperation : m.operation i = some operation) (hr : operation.type = .read) :
    ∃ byte, designates operation.remoteBuffer = buffer ∧ (m.server buffer)[offset]? = some byte ∧
      offset < (m.client i).length ∧
      m' = { m.fillClient i ((m.client i).set offset byte) with
        landed := Function.update m.landed i (insert offset (m.landed i)) } := by
  obtain ⟨operation', byte, hoperation', rfl, hbyte, hlt, rfl⟩ := land_inv h
  obtain rfl := Option.some.inj (hoperation.symm.trans hoperation')
  rw [fillTarget_read hr]
  simp only [source, target, hr] at hbyte hlt
  refine ⟨byte, rfl, hbyte, hlt, ?_⟩
  simp only [target, hr]

/-! ### What stays as it was -/

/-- Nothing changes the length of a buffer. -/
theorem land_length (h : m.land designates i buffer offset = some m') :
    (∀ b, (m'.server b).length = (m.server b).length) ∧
      ∀ j, (m'.client j).length = (m.client j).length := by
  obtain ⟨operation, -, hoperation, -⟩ := land_inv h
  cases hw : operation.type with
  | write =>
    obtain ⟨byte, -, -, -, rfl⟩ := land_write h hoperation hw
    exact ⟨fillServer_length (List.length_set ..), fun _ => rfl⟩
  | read =>
    obtain ⟨byte, -, -, -, rfl⟩ := land_read h hoperation hw
    exact ⟨fun _ => rfl, fillClient_length (List.length_set ..)⟩

theorem After.length (h : m.After content l m') :
    (∀ b, (m'.server b).length = (m.server b).length) ∧
      ∀ j, (m'.client j).length = (m.client j).length := by
  cases h with
  | served i endpoint result buffer hbuffer hlength =>
    exact ⟨fillServer_length hlength, fun _ => rfl⟩
  | handled i endpoint result hlength => exact ⟨fun _ => rfl, fillClient_length hlength⟩
  | unserved i endpoint result hbuffer | submitted i operation | other l hl =>
    exact ⟨fun _ => rfl, fun _ => rfl⟩

/-- A client's operation does not write to the buffers of other clients, nor to any other buffer of
the server, and is nobody else's. -/
theorem land_kept (h : m.land designates i buffer offset = some m') :
    (∀ b, b ≠ buffer → m'.server b = m.server b) ∧ (∀ j, j ≠ i → m'.client j = m.client j) ∧
      m'.operation = m.operation ∧ ∀ j, j ≠ i → m'.landed j = m.landed j := by
  obtain ⟨operation, -, hoperation, -⟩ := land_inv h
  cases hw : operation.type with
  | write =>
    obtain ⟨byte, -, -, -, rfl⟩ := land_write h hoperation hw
    exact ⟨fun b hb => fillServer_server_other hb, fun _ _ => rfl, rfl,
      fun j hj => Function.update_of_ne hj ..⟩
  | read =>
    obtain ⟨byte, -, -, -, rfl⟩ := land_read h hoperation hw
    exact ⟨fun _ _ => rfl, fun j hj => fillClient_client_other hj, rfl,
      fun j hj => Function.update_of_ne hj ..⟩

/-- A buffer of the server is left alone but by a service that is called with it. -/
theorem After.server_kept (h : m.After content l m')
    (hl : ∀ j endpoint result, endpoint.buffer = some buffer →
      l ≠ .conn j (.server ⟨.handle endpoint, result⟩)) : m'.server buffer = m.server buffer := by
  cases h with
  | served i endpoint result b hbuffer hlength =>
    refine fillServer_server_other ?_
    rintro rfl
    exact hl i endpoint result hbuffer rfl
  | _ => rfl

/-- The buffer of a client is left alone but by its service. -/
theorem After.client_kept (h : m.After content l m')
    (hl : ∀ endpoint result, l ≠ .conn i (.client ⟨.handle endpoint, result⟩)) :
    m'.client i = m.client i := by
  cases h with
  | handled j endpoint result hlength =>
    refine fillClient_client_other ?_
    rintro rfl
    exact hl endpoint result rfl
  | _ => rfl

/-- An operation is the one last submitted. -/
theorem After.operation_kept (h : m.After content l m')
    (hl : ∀ operation, l ≠ .conn i (.client ⟨.submitOperation operation, none⟩)) :
    m'.operation i = m.operation i ∧ m'.landed i = m.landed i := by
  cases h with
  | submitted j operation =>
    have hj : i ≠ j := by
      rintro rfl
      exact hl operation rfl
    exact ⟨Function.update_of_ne hj .., Function.update_of_ne hj ..⟩
  | _ => exact ⟨rfl, rfl⟩

end Changes

end Memory

/-! ## 2. The network with its buffers -/

variable [Platform]

/-- A server's storage, its connections and the buffers. -/
structure Fabric (ι : Type) where
  net : Network ι
  memory : Memory ι

/-- What can happen next: something in the network, with what a service leaves in its buffer if one
is called, or a byte of a client's operation lands in or is taken from a buffer of the server. -/
inductive FabricLabel (ι : Type)
  | net (l : NetworkLabel ι) (content : Bytes)
  | land (i : ι) (buffer offset : ℕ)

/-- What of a step concerns the network. -/
def FabricLabel.toNetwork : FabricLabel ι → Option (NetworkLabel ι)
  | net l _ => some l
  | land _ _ _ => none

namespace Fabric

variable (designates : Bytes → ℕ)

/-- One step. -/
def step (endpoints : ι → RdmaEndpoint) (x : Fabric ι) : FabricLabel ι → Option (Fabric ι)
  | .net l content =>
    (x.net.step endpoints l).bind fun net =>
      (x.memory.after designates content l).map fun memory => ⟨net, memory⟩
  | .land i buffer offset =>
    if (x.net.conn i).rdma.busy then
      (x.memory.land designates i buffer offset).map fun memory => { x with memory := memory }
    else none

/-- A server that starts to serve, with these contents in the buffers. -/
def start (storage : RdmaEndpointStorage) (server : ℕ → Bytes) (client : ι → Bytes) : Fabric ι :=
  ⟨Network.start ι storage, { server := server, client := client }⟩

end Fabric

/-- The network with its buffers, as a machine. -/
def fabric (designates : Bytes → ℕ) (endpoints : ι → RdmaEndpoint) :
    Machine (Fabric ι) (FabricLabel ι) :=
  ⟨Fabric.step designates endpoints⟩

/-- What has happened in the network. -/
def networkLabels (ls : List (FabricLabel ι)) : List (NetworkLabel ι) :=
  ls.filterMap FabricLabel.toNetwork

/-- What has happened on one connection. -/
def connectionLabels (i : ι) (ls : List (FabricLabel ι)) : List ConnectionLabel :=
  historyOf i (networkLabels ls)

section Step

variable {designates : Bytes → ℕ} {endpoints : ι → RdmaEndpoint} {x x' : Fabric ι}
  {i : ι} {buffer offset : ℕ} {content : Bytes} {l : NetworkLabel ι}

theorem Fabric.step_net (h : x.step designates endpoints (.net l content) = some x') :
    x.net.step endpoints l = some x'.net ∧
      x.memory.after designates content l = some x'.memory := by
  obtain ⟨net, hnet, h⟩ := Option.bind_eq_some_iff.mp h
  obtain ⟨memory, hmemory, rfl⟩ := Option.map_eq_some_iff.mp h
  exact ⟨hnet, hmemory⟩

theorem Fabric.step_land (h : x.step designates endpoints (.land i buffer offset) = some x') :
    (x.net.conn i).rdma.busy = true ∧ x'.net = x.net ∧
      x.memory.land designates i buffer offset = some x'.memory := by
  obtain ⟨hbusy, h⟩ := Option.ite_none_right_eq_some.mp h
  obtain ⟨memory, hmemory, rfl⟩ := Option.map_eq_some_iff.mp h
  exact ⟨hbusy, rfl, hmemory⟩

/-- Nothing changes the length of a buffer. -/
theorem Fabric.step_length {l : FabricLabel ι} (h : x.step designates endpoints l = some x') :
    (∀ b, (x'.memory.server b).length = (x.memory.server b).length) ∧
      ∀ j, (x'.memory.client j).length = (x.memory.client j).length := by
  cases l with
  | net l content => exact (Memory.after_cases (Fabric.step_net h).2).length
  | land i buffer offset => exact Memory.land_length (Fabric.step_land h).2.2

/-- The connection on which a step accesses a buffer of the server: a service is called with it, or
a byte of an operation lands in it or is taken from it. -/
def FabricLabel.access : FabricLabel ι → Option (ι × ℕ)
  | net (.conn i (.server ⟨.handle endpoint, _⟩)) _ => endpoint.buffer.map fun buffer => (i, buffer)
  | land i buffer _ => some (i, buffer)
  | _ => none

/-- A buffer of the server that no step accesses is left alone. -/
theorem Fabric.step_server {l : FabricLabel ι} (h : x.step designates endpoints l = some x')
    (hl : ∀ j, l.access ≠ some (j, buffer)) :
    x'.memory.server buffer = x.memory.server buffer := by
  cases l with
  | net l content =>
    refine (Memory.after_cases (Fabric.step_net h).2).server_kept fun j endpoint result hb he => ?_
    subst he
    exact hl j (by rw [FabricLabel.access, hb]; rfl)
  | land j b offset =>
    refine (Memory.land_kept (Fabric.step_land h).2.2).1 buffer ?_
    rintro rfl
    exact hl j rfl

end Step

/-! ## 3. Its runs -/

section Runs

variable {designates : Bytes → ℕ} {endpoints : ι → RdmaEndpoint} {x : Fabric ι} {i : ι}
  {ls : List (FabricLabel ι)} {storage : RdmaEndpointStorage} {server : ℕ → Bytes}
  {client : ι → Bytes} {Good : List (FabricLabel ι) → Fabric ι → FabricLabel ι → Prop}

/-- **A run of the fabric is a run of the network**, and what is known of the steps of the fabric
there is known of the steps of the network. -/
theorem fabric_network {P : List (NetworkLabel ι) → Network ι → NetworkLabel ι → Prop}
    (hok : ∀ ls x l content, Good ls x (.net l content) → P (networkLabels ls) x.net l)
    (h : (fabric designates endpoints).RunWith Good (Fabric.start storage server client) ls x) :
    (network endpoints).RunWith P (Network.start ι storage) (networkLabels ls) x.net := by
  refine Machine.RunWith.project Fabric.net FabricLabel.toNetwork ?_ h
  rintro ls x l x' - hgood (hstep : x.step designates endpoints l = some x')
  cases l with
  | net l content => exact ⟨hok _ _ _ _ hgood, (Fabric.step_net hstep).1⟩
  | land i buffer offset => exact (Fabric.step_land hstep).2.1

omit [Platform] in
theorem connectionLabels_same (i : ι) (ls : List (FabricLabel ι)) (l : ConnectionLabel)
    (content : Bytes) :
    connectionLabels i (ls ++ [.net (.conn i l) content]) = connectionLabels i ls ++ [l] := by
  simp [connectionLabels, networkLabels, historyOf, FabricLabel.toNetwork, NetworkLabel.on]

omit [Platform] in
theorem connectionLabels_tick (i : ι) (ls : List (FabricLabel ι)) (milliseconds : ℕ)
    (content : Bytes) :
    connectionLabels i (ls ++ [.net (.tick milliseconds) content])
      = connectionLabels i ls ++ [.tick milliseconds] := by
  simp [connectionLabels, networkLabels, historyOf, FabricLabel.toNetwork, NetworkLabel.on]

omit [Platform] in
theorem connectionLabels_other {j : ι} (h : j ≠ i) (ls : List (FabricLabel ι))
    (l : ConnectionLabel) (content : Bytes) :
    connectionLabels i (ls ++ [.net (.conn j l) content]) = connectionLabels i ls := by
  simp [connectionLabels, networkLabels, historyOf, FabricLabel.toNetwork, NetworkLabel.on, h]

omit [Platform] in
theorem connectionLabels_land (i j : ι) (ls : List (FabricLabel ι)) (buffer offset : ℕ) :
    connectionLabels i (ls ++ [.land j buffer offset]) = connectionLabels i ls := by
  simp [connectionLabels, networkLabels, historyOf, FabricLabel.toNetwork]

end Runs

end DocaCpp
