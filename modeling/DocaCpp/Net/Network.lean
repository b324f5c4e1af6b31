/-
# One server and its clients

A `Network` is the endpoint storage of a server and one connection for every client, all on one
clock.  Its labels are the labels of the connections; the storage answers the calls that concern
it, whichever session makes them.

Nothing new happens here: seen from one connection a run of the network is a run of that connection
(`network_connection`), and seen from the server it is a run of the pool of its sessions
(`network_pool`).  What is known of the two can be used together.
-/
import DocaCpp.Net.Linked
import DocaCpp.Pool

namespace DocaCpp

variable [Platform] {ι : Type} [DecidableEq ι]

/-! ## 1. The network -/

/-- A server's storage and its connections. -/
structure Network (ι : Type) where
  storage : RdmaEndpointStorage
  conn : ι → Connection

/-- What can happen next: time passes everywhere, or something on one connection. -/
inductive NetworkLabel (ι : Type)
  | tick (milliseconds : ℕ)
  | conn (i : ι) (l : ConnectionLabel)

namespace Network

/-- The storage's part in what happens on a connection; no time passes there alone. -/
def answer (storage : RdmaEndpointStorage) : ConnectionLabel → Option RdmaEndpointStorage
  | .tick _ => none
  | .server ev => storage.answer ev
  | _ => some storage

/-- One step, for clients of the given endpoints. -/
def step (endpoints : ι → RdmaEndpoint) (n : Network ι) : NetworkLabel ι → Option (Network ι)
  | .tick milliseconds =>
    some { n with conn := fun i => { n.conn i with now := (n.conn i).now + milliseconds } }
  | .conn i l =>
    (answer n.storage l).bind fun storage =>
      ((n.conn i).step (endpoints i) l).map fun c =>
        { storage := storage, conn := Function.update n.conn i c }

/-- A server that starts to serve. -/
def start (ι : Type) (storage : RdmaEndpointStorage) : Network ι :=
  ⟨storage, fun _ => .start⟩

/-- The server sessions. -/
def sessions (n : Network ι) : Pool ι := ⟨n.storage, fun i => (n.conn i).server⟩

end Network

/-- The network, as a machine. -/
def network (endpoints : ι → RdmaEndpoint) : Machine (Network ι) (NetworkLabel ι) :=
  ⟨Network.step endpoints⟩

/-- What of a step concerns one connection. -/
def NetworkLabel.on (i : ι) : NetworkLabel ι → Option ConnectionLabel
  | tick milliseconds => some (.tick milliseconds)
  | conn j l => if j = i then some l else none

/-- What of a step concerns the server. -/
def NetworkLabel.atServer : NetworkLabel ι → Option (ι × SessionEvent)
  | conn i (.server ev) => some (i, ev)
  | _ => none

/-- What has happened on one connection. -/
def historyOf (i : ι) (ls : List (NetworkLabel ι)) : List ConnectionLabel :=
  ls.filterMap (NetworkLabel.on i)

/-- What has happened at the server. -/
def serverHistory (ls : List (NetworkLabel ι)) : List (ι × SessionEvent) :=
  ls.filterMap NetworkLabel.atServer

/-! ## 2. Its parts -/

section Parts

variable {endpoints : ι → RdmaEndpoint} {n n' : Network ι} {i : ι} {l : ConnectionLabel}
  {ls : List (NetworkLabel ι)} {storage : RdmaEndpointStorage}
  {Good : List (NetworkLabel ι) → Network ι → NetworkLabel ι → Prop}

theorem Network.step_conn (h : n.step endpoints (.conn i l) = some n') :
    Network.answer n.storage l = some n'.storage ∧
      (n.conn i).step (endpoints i) l = some (n'.conn i) ∧ ∀ j, j ≠ i → n'.conn j = n.conn j := by
  obtain ⟨storage, hs, h⟩ := Option.bind_eq_some_iff.mp h
  obtain ⟨c, hc, rfl⟩ := Option.map_eq_some_iff.mp h
  refine ⟨hs, hc.trans (congrArg some (Function.update_self i c n.conn).symm), fun j hj => ?_⟩
  exact Function.update_of_ne hj _ _

/-- A step of one connection is a step of the network. -/
theorem Network.step_of_conn {storage' : RdmaEndpointStorage} {c : Connection}
    (ha : Network.answer n.storage l = some storage')
    (hc : (n.conn i).step (endpoints i) l = some c) :
    ∃ n', n.step endpoints (.conn i l) = some n' ∧ n'.storage = storage' ∧ n'.conn i = c ∧
      ∀ j, j ≠ i → n'.conn j = n.conn j := by
  refine ⟨⟨storage', Function.update n.conn i c⟩, ?_, rfl, Function.update_self ..,
    fun j hj => Function.update_of_ne hj ..⟩
  simp only [Network.step, ha, hc, Option.bind_some, Option.map_some]

theorem Network.answer_possible {storage' : RdmaEndpointStorage}
    (h : Network.answer storage l = some storage') : l.Possible := by
  cases l with
  | server ev => exact ⟨storage, storage', h⟩
  | _ => trivial

theorem Network.answer_silent {storage' : RdmaEndpointStorage} (hl : l.ofServer = none)
    (h : Network.answer storage l = some storage') : storage' = storage := by
  cases l with
  | server ev => cases hl
  | tick milliseconds => cases h
  | _ => exact (Option.some.inj h).symm

/-- **Seen from one connection**, a run of the network is a run of that connection, and what is
known of the steps of the network there is known of the steps of the connection. -/
theorem network_connection {P : List ConnectionLabel → Connection → ConnectionLabel → Prop}
    (i : ι) (htick : ∀ ls c milliseconds, P ls c (.tick milliseconds))
    (hok : ∀ ls n l, Good ls n (.conn i l) → P (historyOf i ls) (n.conn i) l)
    (h : (network endpoints).RunWith Good (Network.start ι storage) ls n) :
    (connection (endpoints i)).RunWith (fun ls c l => l.Possible ∧ P ls c l) .start
      (historyOf i ls) (n.conn i) := by
  refine Machine.RunWith.project (fun n : Network ι => n.conn i) (NetworkLabel.on i) ?_ h
  rintro ls n l n' - hgood (hstep : n.step endpoints l = some n')
  cases l with
  | tick milliseconds =>
    cases hstep
    exact ⟨⟨trivial, htick _ _ _⟩, rfl⟩
  | conn j l =>
    obtain ⟨ha, hc, ho⟩ := Network.step_conn hstep
    by_cases hj : j = i
    · subst hj
      simp only [NetworkLabel.on, if_true]
      exact ⟨⟨Network.answer_possible ha, hok _ _ _ hgood⟩, hc⟩
    · simp only [NetworkLabel.on, hj, if_false]
      exact ho i (Ne.symm hj)

/-- **Seen from the server**, a run of the network is a run of the pool of its sessions. -/
theorem network_pool (h : (network endpoints).RunWith Good (Network.start ι storage) ls n) :
    (pool ι).Run (Pool.start ι storage) (serverHistory ls) n.sessions := by
  refine Machine.RunWith.project Network.sessions NetworkLabel.atServer ?_ h
  rintro ls n l n' - - (hstep : n.step endpoints l = some n')
  cases l with
  | tick milliseconds =>
    cases hstep
    rfl
  | conn i l =>
    obtain ⟨ha, hc, ho⟩ := Network.step_conn hstep
    cases hl : l.ofServer with
    | none =>
      have hsilent : (NetworkLabel.conn i l).atServer = none := by
        cases l <;> first | rfl | cases hl
      rw [hsilent]
      have hsessions : (fun j => (n'.conn j).server) = fun j => (n.conn j).server := by
        funext j
        by_cases hj : j = i
        · subst hj
          exact (Connection.step_same hc).1 hl
        · rw [ho j hj]
      exact congrArg₂ Pool.mk (Network.answer_silent hl ha) hsessions
    | some ev =>
      obtain rfl : l = .server ev := by cases l <;> cases hl; rfl
      obtain ⟨s, -, hr, -⟩ := Connection.step_server hc
      have hsessions : Function.update n.sessions.session i (n'.conn i).server
          = n'.sessions.session := by
        funext j
        by_cases hj : j = i
        · subst hj
          exact Function.update_self _ _ _
        · rw [Function.update_of_ne hj]
          exact congrArg Connection.server (ho j hj).symm
      have hpool : Pool.step n.sessions (i, ev)
          = some ⟨n'.storage, Function.update n.sessions.session i (n'.conn i).server⟩ :=
        Option.bind_eq_some_iff.mpr ⟨_, ha, Option.map_eq_some_iff.mpr ⟨_, hr, rfl⟩⟩
      exact ⟨trivial, hpool.trans (congrArg (fun f => some (Pool.mk n'.storage f)) hsessions)⟩

omit [Platform] in
/-- The server's history of a session is the connection's. -/
theorem logOf_serverHistory (i : ι) (ls : List (NetworkLabel ι)) :
    logOf i (serverHistory ls) = serverSays (historyOf i ls) := by
  unfold logOf serverSays eventsOf serverHistory historyOf
  rw [List.filterMap_filterMap, List.filterMap_filterMap]
  congr 2
  funext l
  cases l with
  | tick milliseconds => rfl
  | conn j l =>
    by_cases hj : j = i
    · cases l <;> simp [NetworkLabel.atServer, NetworkLabel.on, ConnectionLabel.ofServer, hj]
    · cases l <;> simp [NetworkLabel.atServer, NetworkLabel.on, hj]

end Parts

end DocaCpp
