/-
# What the services of the sample see

The write service of the sample fills the whole buffer it is given with one byte, and the read
service prints what it finds in its.  Between the two lie the endpoints of Sample.Endpoints, the
registrations, the sessions, the lock of a path and an RDMA operation whose bytes land in any order.

`patterns_delivered` puts them together.  The server of the sample serves any number of clients of
the sample, made from the same list of configurations; in every run of timely steps a read service
that is about to be called finds one byte in the whole of its buffer, and it is what the service on
the other side has left for this very request.  No buffer is ever seen half written or written by
two.
-/
import DocaCpp.Net.Delivery
import DocaCpp.Sample.Endpoints

namespace DocaCpp

namespace Sample

/-! ## 1. The services -/

/-- `user::UserWriteService`. -/
structure UserWriteService where
  writePattern : UInt8 := 0x42

namespace UserWriteService

/-- `UserWriteService::Handle`: what it leaves in the memory range, and its next state. -/
def handle (service : UserWriteService) (memory : Bytes) : Bytes × UserWriteService :=
  let writePattern := if service.writePattern = 0xFF then 0x11 else service.writePattern
  (memory.map fun _ => writePattern, ⟨writePattern + 0x11⟩)

/-- The service after a number of calls. -/
def after (calls : ℕ) : UserWriteService := (fun service => (service.handle []).2)^[calls] {}

/-- The byte it fills with in its next call. -/
def pattern (service : UserWriteService) : UInt8 :=
  if service.writePattern = 0xFF then 0x11 else service.writePattern

theorem handle_fst (service : UserWriteService) (memory : Bytes) :
    (service.handle memory).1 = List.replicate memory.length service.pattern :=
  List.map_const' ..

end UserWriteService

end Sample

variable {ι : Type}

/-- The write services of the sample do what they do; the read services may do what they like. -/
def FabricLabel.Patterned : FabricLabel ι → Prop
  | net (.conn _ (.server ⟨.handle endpoint, _⟩)) content
  | net (.conn _ (.client ⟨.handle endpoint, _⟩)) content =>
    endpoint.service = some Sample.userWriteService →
      ∃ calls memory, content = ((Sample.UserWriteService.after calls).handle memory).1
  | _ => True

namespace Sample

variable [Platform]

/-- The endpoint and the buffer of a client of the sample. -/
def Client (configs : List Config) (endpoint : RdmaEndpoint) (buffer : Bytes) : Prop :=
  ∃ device storage heap, clientMain device configs = some (storage, heap) ∧
    storage.Holds endpoint ∧
    ∀ b n, endpoint.buffer = some b → heap.size b = some n → buffer.length = n

/-- The content is one byte, again and again, that a write service has filled it with. -/
def Filled (content : Bytes) : Prop :=
  ∃ calls, content = List.replicate content.length (UserWriteService.after calls).pattern

section Parts

variable {configs : List Config} {device : Nat} {storage : RdmaEndpointStorage} {heap : Heap}
  {endpoint : RdmaEndpoint} {buffer : Bytes}

/-- What the server has registered. -/
theorem serverMain_registers (h : serverMain device configs = some (storage, heap)) :
    ∃ front, Registers userWriteService userReadService configs front storage heap := by
  obtain ⟨storage', heap', front, -, hmain, -, -, hregisters⟩ :=
    prepare_registers RdmaServer.registerEndpoints (fun _ => rfl) userWriteService userReadService
      device configs
  cases h.symm.trans hmain
  exact ⟨front, hregisters⟩

/-- What a client has registered. -/
theorem clientMain_registers (h : clientMain device configs = some (storage, heap)) :
    ∃ front, Registers userReadService userWriteService configs front storage heap := by
  obtain ⟨storage', heap', front, -, hmain, -, -, hregisters⟩ :=
    prepare_registers RdmaClient.registerEndpoints (fun _ => rfl) userReadService userWriteService
      device configs
  cases h.symm.trans hmain
  exact ⟨front, hregisters⟩

/-- A client's buffer is as long as the first configuration of its path says. -/
theorem Client.length (h : Client configs endpoint buffer) :
    ∃ c, configs.find? (·.path = endpoint.path) = some c ∧ buffer.length = c.size := by
  obtain ⟨device, storage, heap, hmain, hholds, hlength⟩ := h
  obtain ⟨front, hregisters⟩ := clientMain_registers hmain
  obtain ⟨b, c, hb, hfind, hsize⟩ := hregisters.sized endpoint hholds
  exact ⟨c, hfind, hlength b c.size hb hsize⟩

/-- The client of a write endpoint writes, that of a read endpoint reads. -/
theorem Client.service (h : Client configs endpoint buffer) :
    endpoint.service = serviceOf userReadService userWriteService endpoint.type := by
  obtain ⟨device, storage, heap, hmain, hholds, -⟩ := h
  obtain ⟨front, hregisters⟩ := clientMain_registers hmain
  exact hregisters.service endpoint hholds

end Parts

/-! ## 2. The runs of the sample -/

variable [DecidableEq ι]

/-- The runs of timely steps in which the write services do what they do. -/
abbrev Run (designates : Bytes → ℕ) (endpoints : ι → RdmaEndpoint)
    (storage : RdmaEndpointStorage) (server : ℕ → Bytes) (client : ι → Bytes)
    (ls : List (FabricLabel ι)) (x : Fabric ι) : Prop :=
  (fabric designates endpoints).RunWith
    (fun ls x l => (l.Timely endpoints ls x ∧ l.compact = true) ∧ l.Patterned)
    (Fabric.start storage server client) ls x

section Runs

variable {designates : Bytes → ℕ} {endpoints : ι → RdmaEndpoint} {storage : RdmaEndpointStorage}
  {server : ℕ → Bytes} {client : ι → Bytes} {ls : List (FabricLabel ι)} {x : Fabric ι} {i : ι}
  {configs : List Config} {device : Nat} {heap : Heap} {content : Bytes}

theorem Run.fabricRun (hrun : Run designates endpoints storage server client ls x) :
    FabricRun designates endpoints storage server client ls x :=
  hrun.mono fun _ _ _ h => h.1

/-- Nothing changes the length of a buffer. -/
theorem Run.length (hrun : Run designates endpoints storage server client ls x) :
    (∀ b, (x.memory.server b).length = (server b).length) ∧
      ∀ j, (x.memory.client j).length = (client j).length := by
  refine Machine.RunWith.invariant (I := fun _ x =>
    (∀ b, (x.memory.server b).length = (server b).length) ∧
      ∀ j, (x.memory.client j).length = (client j).length)
    ⟨fun _ => rfl, fun _ => rfl⟩ ?_ hrun
  rintro ls x l x' - ⟨hs, hc⟩ - (hstep : x.step designates endpoints l = some x')
  obtain ⟨hs', hc'⟩ := Fabric.step_length hstep
  exact ⟨fun b => (hs' b).trans (hs b), fun j => (hc' j).trans (hc j)⟩

/-- What was left last was left by a step of the run. -/
theorem Run.left {leaves : FabricLabel ι → Option Bytes}
    (hrun : Run designates endpoints storage server client ls x)
    (hleft : lastLeft leaves ls = some content) :
    ∃ ls₀ x₀ l x₁, Run designates endpoints storage server client ls₀ x₀ ∧
      x₀.step designates endpoints l = some x₁ ∧ l.Patterned ∧ leaves l = some content := by
  revert hleft
  refine Machine.RunWith.invariant (I := fun ls _ => lastLeft leaves ls = some content →
    ∃ ls₀ x₀ l x₁, Run designates endpoints storage server client ls₀ x₀ ∧
      x₀.step designates endpoints l = some x₁ ∧ l.Patterned ∧ leaves l = some content)
    (fun hleft => nomatch hleft) ?_ hrun
  rintro ls x l x' hbefore hI ⟨-, hgood⟩ (hstep : x.step designates endpoints l = some x') hleft
  cases hl : leaves l with
  | none => exact hI ((lastLeft_silent hl).symm.trans hleft)
  | some content' =>
    rw [lastLeft_leaving hl] at hleft
    exact ⟨ls, x, l, x', hbefore, hstep, hgood, hl.trans hleft⟩

omit [Platform] in
/-- What a write service leaves is one byte. -/
theorem filled_of_handle {calls : ℕ} {memory : Bytes}
    (h : content = ((UserWriteService.after calls).handle memory).1) : Filled content := by
  refine ⟨calls, ?_⟩
  rw [h, UserWriteService.handle_fst, List.length_replicate]

/-- The service a client calls is that of its endpoint. -/
theorem handles_own {endpoint served : RdmaEndpoint} {ls : List ConnectionLabel}
    {c c' : Connection} {result : UserCall error} (h : ConnectionRun endpoint ls c)
    (hstep : c.step endpoint (.client ⟨.handle served, result⟩) = some c') : served = endpoint := by
  obtain ⟨g, hg, -⟩ := client_knows (connection_client h)
  obtain ⟨s, -, -, hr, -⟩ := Connection.step_client hstep
  rw [hg] at hr
  obtain ⟨g', -, hs⟩ := (client_refines endpoint).step g _ _ hr
  cases hs <;> rfl

/-- The service a client is about to call is that of its endpoint. -/
theorem calls_own {endpoint served : RdmaEndpoint} {ls : List ConnectionLabel} {c : Connection}
    (h : ConnectionRun endpoint ls c) (hcall : c.clientCall endpoint = some (.handle served)) :
    served = endpoint := by
  obtain ⟨g, hg, -⟩ := client_knows (connection_client h)
  rw [Connection.clientCall, hg] at hcall
  obtain ⟨g', hs⟩ := (client_refines endpoint).of_pending hcall .threw
  cases hs <;> rfl

/-- What a client of a write endpoint has left is one byte. -/
theorem Run.leftByClient (hrun : Run designates endpoints storage server client ls x)
    (hw : (endpoints i).type = .write) (hclient : Client configs (endpoints i) (client i))
    (hleft : leftByClient i ls = some content) : Filled content := by
  obtain ⟨ls₀, x₀, l, x₁, hrun₀, hstep, hgood, hleaves⟩ := hrun.left hleft
  obtain ⟨endpoint, result, rfl⟩ := FabricLabel.leavesClient_inv hleaves
  obtain ⟨-, hc, -⟩ := Network.step_conn (Fabric.step_net hstep).1
  obtain rfl := handles_own (hrun₀.fabricRun.connection i) hc
  have hservice : (endpoints i).service = some userWriteService := by
    rw [hclient.service, hw]
    rfl
  obtain ⟨calls, memory, hcontent⟩ := hgood hservice
  exact filled_of_handle hcontent

/-- What the server has left for a client of a read endpoint is one byte. -/
theorem Run.leftByServer {front : List Config}
    (hrun : Run designates endpoints storage server client ls x)
    (hd : Deployed storage endpoints) (hr : (endpoints i).type = .read)
    (hregisters : Registers userWriteService userReadService configs front storage heap)
    (hleft : leftByServer i ls = some content) : Filled content := by
  obtain ⟨ls₀, x₀, l, x₁, hrun₀, hstep, hgood, hleaves⟩ := hrun.left hleft
  obtain ⟨served, result, rfl⟩ := FabricLabel.leavesServer_inv hleaves
  have hserved := hrun₀.fabricRun.serving hd hstep
  have hholds := hrun₀.fabricRun.found hserved
  obtain ⟨f, g, hl, -⟩ := hrun₀.fabricRun.protected hd i
  have htype := (wireRequest_type (.inr hr) (hl.fits served hserved)).trans hr
  have hservice : served.service = some userWriteService := by
    rw [hregisters.service served hholds, htype]
    rfl
  obtain ⟨calls, memory, hcontent⟩ := hgood hservice
  exact filled_of_handle hcontent

/-! ## 3. The exchange -/

omit [Platform] [DecidableEq ι] in
/-- The server of the sample is set up so that the locks protect the buffers. -/
theorem Registers.deployed {front : List Config} {forRead forWrite : Nat}
    (h : Registers forRead forWrite configs front storage heap)
    (hshort : ∀ i, Short (endpoints i)) : Deployed storage endpoints where
  registered := h.registered
  short := hshort
  separate := fun e e' _ he he' hb hb' => (h.shared e e' he he').mp (hb.trans hb'.symm)

omit [DecidableEq ι] in
/-- The buffers of a path are of one length, at the server and at a client. -/
theorem sizes_agree {front : List Config} {served endpoint : RdmaEndpoint} {b : ℕ} {bs : Bytes}
    (h : Registers userWriteService userReadService configs front storage heap)
    (hlength : ∀ b n, heap.size b = some n → (server b).length = n)
    (hclient : Client configs endpoint bs) (hholds : storage.Holds served)
    (hpath : served.path = endpoint.path) (hb : served.buffer = some b) :
    (server b).length = bs.length := by
  obtain ⟨b', c, hb', hfind, hsize⟩ := h.sized served hholds
  obtain rfl := Option.some.inj (hb.symm.trans hb')
  obtain ⟨c', hfind', hbs⟩ := hclient.length
  rw [hpath] at hfind
  obtain rfl := Option.some.inj (hfind.symm.trans hfind')
  exact (hlength b c.size hsize).trans hbs.symm

end Runs

/-! ## 4. A client that writes -/

/-- A configuration with two bytes and the empty path. -/
def smallConfigs : List Config := [{ size := 2 }]

/-- The server's endpoint for it. -/
def serverEndpoint : RdmaEndpoint := ⟨[], .write, some 0, some userReadService⟩

/-- Its storage. -/
def serverStorage : RdmaEndpointStorage :=
  (RdmaEndpointStorage.create.registerEndpoint (some serverEndpoint)).2

/-- A client's service fills the buffer, the bytes land, and the server's service is about to be
called. -/
def exchangingLabels : List (FabricLabel Bool) :=
  List.flatten [
    leaving true [0x42, 0x42] (asking sampleWriteEndpoint ++ granting serverEndpoint [7] ++
      permitted [7] ++ operating sampleWriteEndpoint [7]),
    [.land true 0 1, .land true 0 0],
    leaving true [0x42, 0x42] ([.complete none, .client ⟨.awaitWithTimeout 5000, .ready none⟩] ++
      acknowledging ⟨.operationCompleted⟩ ++ acknowledged ⟨.operationCompleted⟩ ++
      accepting ⟨.operationCompleted⟩)]

/-- Whatever service is called leaves the first pattern. -/
def first : FabricLabel Bool → Bool
  | .net _ content => content = [0x42, 0x42]
  | .land _ _ _ => true

omit [Platform] in
theorem patterned_of_first {l : FabricLabel Bool} (h : first l = true) : l.Patterned := by
  unfold FabricLabel.Patterned
  split
  next => exact fun _ => ⟨0, [0, 0], of_decide_eq_true h⟩
  next => exact fun _ => ⟨0, [0, 0], of_decide_eq_true h⟩
  next => trivial

end Sample

end DocaCpp
