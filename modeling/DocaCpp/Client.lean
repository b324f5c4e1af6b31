/-
# The client

`Connect` stores what it makes as it goes along: the executor as soon as it is created, the address
of the server once everything has succeeded.  When it fails it takes nothing back, and
`RequestEndpointProcessing` looks only at whether there is an executor.

`connect_truthful_iff` says when `Connect` can be believed, `request_right_iff` which requests go
on although the last `Connect` has failed.
-/
import DocaCpp.Executor.Connect
import DocaCpp.Executor.Lifecycle
import DocaCpp.Storage.Registration

namespace DocaCpp

/-! ## 1. The functions -/

/-- An executor the client has made: the call of `Connect` that made it, by number, what it holds
and its connections. -/
structure ClientExecutor (κ : Type) where
  number : ℕ
  members : ExecutorMembers
  slots : ConnectionSlots κ := {}

/-- `RdmaClient`.  The device is not null. -/
structure RdmaClient (κ : Type) where
  device : ℕ
  endpointsStorage : Option RdmaEndpointStorage := none
  executor : Option (ClientExecutor κ) := none
  serverAddress : String := ""
  /-- how many calls of `Connect` there have been -/
  connects : ℕ := 0

/-- A call of `Connect`: its argument, and what its steps come to. -/
structure ConnectInput (κ : Type) where
  serverAddress : String
  mapping : error := none
  engine : error := none
  start : StartOutcomes
  outcomes : ConnectOutcomes := {}
  waiting : Waiting κ

/-- What `RequestEndpointProcessing` goes on with when it is past its checks. -/
structure Processing (κ : Type) where
  endpoint : RdmaEndpoint
  executor : ClientExecutor κ
  serverAddress : String

namespace RdmaClient

variable {κ : Type}

/-- `RdmaClient::Create`. -/
def create (device : Option ℕ) : Except Err (RdmaClient κ) :=
  match device with
  | none => .error (.new "Device pointer is null")
  | some device => .ok { device := device }

/-- The error both functions return if there is nothing to process. -/
def noEndpoints : Err := .new "No endpoints to process; register endpoints before serving"

/-- `this->endpointsStorage == nullptr || this->endpointsStorage->Empty()`. -/
def lacksEndpoints (x : RdmaClient κ) : Bool :=
  x.endpointsStorage.all (·.isEmpty)

/-- The executor that is replaced was started, so that its destructor finds a thread to join. -/
def releases (x : RdmaClient κ) : Bool :=
  x.executor.all fun e => e.members.workerThread.isSome

section Connect

variable [Platform]

/-- `RdmaClient::Connect`.  It does not return if the executor it replaces was never started, for
the destructor dereferences its worker thread, nor if the wait does not end. -/
def connect (x : RdmaClient κ) (i : ConnectInput κ) : Option (error × RdmaClient κ) :=
  let number := x.connects
  let x := { x with connects := number + 1 }
  if x.lacksEndpoints then some (some noEndpoints, x)
  else
    match i.mapping with
    | some err => some (some (.wrap err "Failed to map endpoints memory"), x)
    | none =>
      match RdmaExecutor.create (some x.device) i.engine with
      | .error err => some (some (.wrap err "Failed to create RDMA executor"), x)
      | .ok members =>
        if !x.releases then none
        else
          match members.start i.start with
          | none => none
          | some (some err, members) =>
            some (some (.wrap err "Failed to start RDMA executor"),
              { x with executor := some { number := number, members := members } })
          | some (none, members) =>
            match connectToAddress i.outcomes {} i.waiting with
            | none => none
            | some (some err, slots) =>
              some (some (.wrap err "Failed to connect to RDMA server"),
                { x with
                  executor := some { number := number, members := members, slots := slots } })
            | some (none, slots) =>
              some (none,
                { x with
                  executor := some { number := number, members := members, slots := slots }
                  serverAddress := i.serverAddress })

end Connect

/-- The checks of `RdmaClient::RequestEndpointProcessing`, and what it goes on with. -/
def requestEndpointProcessing (x : RdmaClient κ) (endpointId : RdmaEndpointId) :
    Except Err (Processing κ) :=
  match x.executor with
  | none => .error (.new "RDMA executor is null")
  | some executor =>
    match x.endpointsStorage with
    | none => .error noEndpoints
    | some storage =>
      if storage.isEmpty then .error noEndpoints
      else
        match storage.getEndpoint endpointId with
        | .error _ => .error (.new "Endpoint with given ID is not registered in client")
        | .ok endpoint =>
          .ok { endpoint := endpoint, executor := executor, serverAddress := x.serverAddress }

/-- The endpoint is registered. -/
def Knows (x : RdmaClient κ) (endpointId : RdmaEndpointId) : Prop :=
  ∃ storage endpoint, x.endpointsStorage = some storage ∧
    storage.lookup endpointId = some endpoint

end RdmaClient

/-- A call of a client, with what it returns. -/
inductive ClientCall (κ : Type)
  | registerEndpoints (endpoints : List (Option RdmaEndpoint))
  | connect (i : ConnectInput κ) (result : error)
  /-- `callbacks`: what `Progress` delivers in the meantime -/
  | request (endpointId : RdmaEndpointId) (callbacks : List (ConnectionCallback κ))

section Client

variable {κ : Type} [Platform]

/-- One call.  A request that is past its checks calls `Progress` first of all. -/
def RdmaClient.step (x : RdmaClient κ) : ClientCall κ → Option (RdmaClient κ)
  | .registerEndpoints endpoints =>
    some { x with
      endpointsStorage := some (RdmaClient.registerEndpoints x.endpointsStorage endpoints).2 }
  | .connect i result =>
    match x.connect i with
    | some (r, y) => if r = result then some y else none
    | none => none
  | .request endpointId callbacks =>
    match x.requestEndpointProcessing endpointId with
    | .error _ => some x
    | .ok p =>
      if p.executor.members.progressEngine then
        some { x with
          executor := some { p.executor with slots := p.executor.slots.deliver callbacks } }
      else none

/-- The client, as a machine. -/
def rdmaClient (κ : Type) : Machine (RdmaClient κ) (ClientCall κ) := ⟨RdmaClient.step⟩

/-! ## 2. What `Connect` does -/

namespace RdmaClient

variable {x y : RdmaClient κ} {i : ConnectInput κ} {result : error}

/-- **What `Connect` leaves behind**: what was there, if it fails before it has an executor; an
executor of its own, if it fails later; and the address as well, if it succeeds. -/
theorem connect_cases (h : x.connect i = some (result, y)) :
    (∃ err, result = some err ∧ y = { x with connects := x.connects + 1 }) ∨
      (∃ err e, result = some err ∧
        y = { x with connects := x.connects + 1, executor := some e }) ∨
      ∃ members slots, result = none ∧ members.workerRunning = true ∧
        connectToAddress i.outcomes {} i.waiting = some (none, slots) ∧
        y = { x with
          connects := x.connects + 1
          executor := some { number := x.connects, members := members, slots := slots }
          serverAddress := i.serverAddress } := by
  unfold connect at h
  dsimp only at h
  split at h
  · cases h
    exact .inl ⟨_, rfl, rfl⟩
  split at h
  · cases h
    exact .inl ⟨_, rfl, rfl⟩
  split at h
  · cases h
    exact .inl ⟨_, rfl, rfl⟩
  next members hcreate =>
  split at h
  · cases h
  split at h
  · cases h
  · cases h
    exact .inr (.inl ⟨_, _, rfl, rfl⟩)
  next members' hstart =>
  split at h
  · cases h
  · cases h
    exact .inr (.inl ⟨_, _, rfl, rfl⟩)
  next slots hconnect =>
    cases h
    obtain ⟨-, -, -, hmembers⟩ := start_null hstart
    have hrunning : members'.workerRunning = true := by rw [hmembers, started]
    exact .inr (.inr ⟨members', slots, rfl, hrunning, hconnect, rfl⟩)

/-! ## 3. Whether `Connect` can be believed -/

/-- No call of `Connect` that goes as far as this reports a success without an active connection. -/
def ConnectTellsTruth (o : ConnectOutcomes) (w : Waiting κ) : Prop :=
  ∀ (x y : RdmaClient κ) (i : ConnectInput κ), i.outcomes = o → i.waiting = w →
    x.connect i = some (none, y) → ∃ e c, y.executor = some e ∧ e.slots.activeConnection = some c

/-- A `Connect` whose `ConnectToAddress` tells the truth does so as well. -/
theorem connectTellsTruth {o : ConnectOutcomes} {w : Waiting κ} {slots : ConnectionSlots κ}
    (h : connectToAddress o {} w = some (result, slots)) (htruth : TellsTruth o {} w result slots) :
    ConnectTellsTruth o w := by
  rintro x y i rfl rfl hconnect
  rcases connect_cases hconnect with ⟨err, herr, -⟩ | ⟨err, e, herr, -⟩ |
    ⟨members, slots', -, -, hslots, rfl⟩
  · cases herr
  · cases herr
  · cases h.symm.trans hslots
    obtain ⟨c, hc⟩ := htruth.connected rfl
    exact ⟨_, c, rfl, hc⟩

/-- **When `ConnectToAddress` and `Connect` tell the truth**: if a step in front of the wait fails,
or a connection is established in time; otherwise only if wrapping null makes up for it. -/
theorem connect_truthful_iff {o : ConnectOutcomes} {s s' : ConnectionSlots κ} {w : Waiting κ}
    (h : connectToAddress o s w = some (result, s')) :
    TellsTruth o s w result s' ∧ (s = {} → ConnectTellsTruth o w) ↔
      ¬ o.Reaches ∨ s.EstablishedInTime connectTimeout w ∨ WrapsWait s w := by
  rw [← tellsTruth_iff h]
  constructor
  · exact And.left
  · intro htruth
    refine ⟨htruth, ?_⟩
    rintro rfl
    exact connectTellsTruth h htruth

end RdmaClient

end Client

/-- A connection is established in the first round of the wait. -/
def establishedWait : Waiting ℕ := ⟨[⟨0, [.established 1 none]⟩], []⟩

/-- The peer never answers, and the time runs out. -/
def expiredWait : Waiting ℕ := ⟨[⟨0, []⟩, ⟨5000000001, []⟩], []⟩

theorem RdmaClient.connect_truthful_sample :
    letI := Platform.littleEndian
    ∃ result s', connectToAddress {} {} establishedWait = some (result, s') ∧
      (TellsTruth {} {} establishedWait result s' ∧
          (({} : ConnectionSlots ℕ) = {} → RdmaClient.ConnectTellsTruth {} establishedWait) ↔
        ¬ ConnectOutcomes.Reaches {} ∨
          ConnectionSlots.EstablishedInTime {} connectTimeout establishedWait ∨
          WrapsWait {} establishedWait) := by
  let := Platform.littleEndian
  exact ⟨_, _, rfl, RdmaClient.connect_truthful_iff rfl⟩

/-- After a timeout `ConnectToAddress` returns null where wrapping null does. -/
theorem RdmaClient.connect_lies :
    letI := Platform.littleEndian
    ∃ s', connectToAddress {} {} expiredWait = some (none, s') ∧
      s'.activeConnection = none ∧ ¬ TellsTruth {} {} expiredWait none s' := by
  let := Platform.littleEndian
  refine ⟨{}, rfl, rfl, fun h => ?_⟩
  obtain ⟨c, hc⟩ := h.connected rfl
  cases hc

/-! ## 4. What the last `Connect` has left -/

namespace ClientCall

variable {κ : Type}

/-- The call is one of `Connect`. -/
def isConnect : ClientCall κ → Bool
  | connect _ _ => true
  | _ => false

/-- The last `Connect` has failed. -/
def FailedLast (calls : List (ClientCall κ)) : Prop :=
  Since (fun _ call => ∃ i err, call = .connect i (some err)) (fun call => call.isConnect = true)
    calls

/-- The last `Connect` has succeeded: it was called with this address, and was the one with this
number. -/
def SucceededLast (calls : List (ClientCall κ)) (serverAddress : String) (number : ℕ) : Prop :=
  Since (fun pre call => (∃ i, call = .connect i none ∧ i.serverAddress = serverAddress) ∧
    pre.countP isConnect = number) (fun call => call.isConnect = true) calls

variable {calls : List (ClientCall κ)} {call : ClientCall κ} {serverAddress : String} {number : ℕ}

/-- A call that is no `Connect` changes nothing about the last one. -/
theorem failedLast_other (h : call.isConnect = false) :
    FailedLast (calls ++ [call]) ↔ FailedLast calls := by
  rw [FailedLast, since_concat, FailedLast, h]
  refine ⟨fun hs => ?_, fun hs => .inr ⟨Bool.false_ne_true, hs⟩⟩
  rcases hs with ⟨i, err, rfl⟩ | ⟨-, hs⟩
  · cases h
  · exact hs

theorem succeededLast_other (h : call.isConnect = false) :
    SucceededLast (calls ++ [call]) serverAddress number ↔
      SucceededLast calls serverAddress number := by
  rw [SucceededLast, since_concat, SucceededLast, h]
  refine ⟨fun hs => ?_, fun hs => .inr ⟨Bool.false_ne_true, hs⟩⟩
  rcases hs with ⟨⟨i, rfl, -⟩, -⟩ | ⟨-, hs⟩
  · cases h
  · exact hs

theorem succeededLast_connect {i : ConnectInput κ} {result : error} :
    SucceededLast (calls ++ [.connect i result]) serverAddress number ↔
      result = none ∧ i.serverAddress = serverAddress ∧ calls.countP isConnect = number := by
  rw [SucceededLast, since_concat]
  constructor
  · rintro (⟨⟨j, heq, haddress⟩, hnumber⟩ | ⟨hnot, -⟩)
    · cases heq
      exact ⟨rfl, haddress, hnumber⟩
    · exact absurd rfl hnot
  · rintro ⟨rfl, haddress, hnumber⟩
    exact .inl ⟨⟨i, rfl, haddress⟩, hnumber⟩

theorem isConnect_iff : call.isConnect = true ↔ ∃ i result, call = .connect i result := by
  cases call <;> simp [isConnect]

/-- If there has been a `Connect`, the last one has failed or succeeded. -/
theorem last_cases (h : 0 < calls.countP isConnect) :
    FailedLast calls ∨ ∃ serverAddress number, SucceededLast calls serverAddress number := by
  induction calls using List.reverseRecOn with
  | nil => cases h
  | append_singleton calls call ih =>
    cases hc : call.isConnect with
    | true =>
      obtain ⟨i, result, rfl⟩ := isConnect_iff.mp hc
      cases result with
      | none => exact .inr ⟨_, _, succeededLast_connect.mpr ⟨rfl, rfl, rfl⟩⟩
      | some err => exact .inl (since_concat.mpr (.inl ⟨i, err, rfl⟩))
    | false =>
      rw [List.countP_append, List.countP_singleton, hc] at h
      simp only [failedLast_other hc, succeededLast_other hc]
      exact ih h

end ClientCall

/-! ## 5. Requests -/

section Requests

variable {κ : Type} [Platform]

namespace RdmaClient

variable {x y : RdmaClient κ} {calls : List (ClientCall κ)} {call : ClientCall κ} {device : ℕ}
  {endpointId : RdmaEndpointId}

omit [Platform] in
/-- **What a request goes on with**: the executor and the address that are stored, and an endpoint
that is registered. -/
theorem request_eq_ok_iff {p : Processing κ} :
    x.requestEndpointProcessing endpointId = .ok p ↔
      x.executor = some p.executor ∧ x.serverAddress = p.serverAddress ∧
        ∃ storage, x.endpointsStorage = some storage ∧
          storage.lookup endpointId = some p.endpoint := by
  obtain ⟨endpoint, executor, serverAddress⟩ := p
  unfold requestEndpointProcessing
  cases x.executor with
  | none => simp
  | some e =>
    cases x.endpointsStorage with
    | none => simp
    | some storage =>
      dsimp only
      rw [RdmaEndpointStorage.getEndpoint_eq]
      by_cases hempty : storage.isEmpty = true
      · rw [if_pos hempty]
        simp [RdmaEndpointStorage.isEmpty_iff.mp hempty]
      · rw [if_neg hempty]
        cases hlookup : storage.lookup endpointId with
        | none => simp [hlookup]
        | some found =>
          simp only [Except.ok.injEq, Processing.mk.injEq, Option.some.injEq, exists_eq_left',
            hlookup]
          tauto

/-- What the members of a client say about the calls so far. -/
structure Recorded (calls : List (ClientCall κ)) (x : RdmaClient κ) : Prop where
  connects : x.connects = calls.countP ClientCall.isConnect
  made : x.executor ≠ none → 0 < x.connects
  last : ∀ serverAddress number, ClientCall.SucceededLast calls serverAddress number →
    x.serverAddress = serverAddress ∧
      ∃ e, x.executor = some e ∧ e.number = number ∧ e.members.workerRunning = true

omit [Platform] in
theorem recorded_start : Recorded [] ({ device := device } : RdmaClient κ) where
  connects := rfl
  made := fun hne => absurd rfl hne
  last := fun _ _ h => absurd h not_since_nil

omit [Platform] in
/-- A call that is no `Connect` and leaves the executor what it is. -/
theorem Recorded.other (h : x.Recorded calls) (hc : call.isConnect = false)
    (hconnects : y.connects = x.connects) (haddress : y.serverAddress = x.serverAddress)
    (hexecutor : ∀ e, x.executor = some e → ∃ e', y.executor = some e' ∧ e'.number = e.number ∧
      e'.members = e.members)
    (hnone : x.executor = none → y.executor = none) : y.Recorded (calls ++ [call]) where
  connects := by
    rw [hconnects, h.connects, List.countP_append, List.countP_singleton, hc]
    rfl
  made := fun hne => hconnects ▸ h.made fun hx => hne (hnone hx)
  last := fun serverAddress number hs => by
    obtain ⟨hsame, e, he, hnumber, hrunning⟩ :=
      h.last serverAddress number ((ClientCall.succeededLast_other hc).mp hs)
    obtain ⟨e', he', hnumber', hmembers⟩ := hexecutor e he
    exact ⟨haddress.trans hsame, e', he', hnumber'.trans hnumber, hmembers ▸ hrunning⟩

/-- **Every call keeps the record.** -/
theorem Recorded.step (h : x.Recorded calls) (hs : x.step call = some y) :
    y.Recorded (calls ++ [call]) := by
  cases call with
  | registerEndpoints endpoints =>
    cases hs
    exact h.other rfl rfl rfl (fun e he => ⟨e, he, rfl, rfl⟩) id
  | request endpointId callbacks =>
    unfold RdmaClient.step at hs
    dsimp only at hs
    split at hs
    next =>
      cases hs
      exact h.other rfl rfl rfl (fun e he => ⟨e, he, rfl, rfl⟩) id
    next p hp =>
      obtain ⟨-, hy⟩ := Option.ite_none_right_eq_some.mp hs
      cases hy
      have hexecutor := (request_eq_ok_iff.mp hp).1
      refine h.other rfl rfl rfl (fun e he => ?_) fun hnone => ?_
      · cases hexecutor.symm.trans he
        exact ⟨_, rfl, rfl, rfl⟩
      · cases hexecutor.symm.trans hnone
  | connect i result =>
    have hconnect : x.connect i = some (result, y) := by
      unfold RdmaClient.step at hs
      dsimp only at hs
      split at hs
      next r z hz =>
        obtain ⟨rfl, hy⟩ := Option.ite_none_right_eq_some.mp hs
        cases hy
        exact hz
      next => cases hs
    have hcount : x.connects + 1 =
        (calls ++ [ClientCall.connect i result]).countP ClientCall.isConnect := by
      rw [List.countP_append, h.connects]
      rfl
    rcases connect_cases hconnect with ⟨err, rfl, rfl⟩ | ⟨err, e, rfl, rfl⟩ |
      ⟨members, slots, rfl, hrunning, -, rfl⟩
    · refine ⟨hcount, fun _ => Nat.succ_pos _, fun serverAddress number hlast => ?_⟩
      cases (ClientCall.succeededLast_connect.mp hlast).1
    · refine ⟨hcount, fun _ => Nat.succ_pos _, fun serverAddress number hlast => ?_⟩
      cases (ClientCall.succeededLast_connect.mp hlast).1
    · refine ⟨hcount, fun _ => Nat.succ_pos _, fun serverAddress number hlast => ?_⟩
      obtain ⟨-, haddress, hnumber⟩ := ClientCall.succeededLast_connect.mp hlast
      exact ⟨haddress, _, rfl, h.connects.trans hnumber, hrunning⟩

theorem recorded_run (h : (rdmaClient κ).Run { device := device } calls x) : x.Recorded calls :=
  h.invariant recorded_start fun _ _ _ _ _ hrecorded _ hs => hrecorded.step hs

omit [Platform] in
/-- A request goes on exactly if there is an executor and the endpoint is known. -/
theorem request_goesOn_iff :
    (∃ p, x.requestEndpointProcessing endpointId = .ok p) ↔
      x.executor ≠ none ∧ x.Knows endpointId := by
  constructor
  · rintro ⟨p, hp⟩
    obtain ⟨hexecutor, -, storage, hstorage, hlookup⟩ := request_eq_ok_iff.mp hp
    refine ⟨?_, storage, _, hstorage, hlookup⟩
    rw [hexecutor]
    exact Option.some_ne_none _
  · rintro ⟨hne, storage, endpoint, hstorage, hlookup⟩
    obtain ⟨e, he⟩ := Option.ne_none_iff_exists'.mp hne
    exact ⟨⟨endpoint, e, x.serverAddress⟩,
      request_eq_ok_iff.mpr ⟨he, rfl, storage, hstorage, hlookup⟩⟩

omit [Platform] in
/-- What a request goes on with if the last `Connect` has not failed is what this one has left. -/
theorem Recorded.past (h : x.Recorded calls) (hnot : ¬ ClientCall.FailedLast calls)
    {p : Processing κ} (hp : x.requestEndpointProcessing endpointId = .ok p) :
    ∃ serverAddress number, ClientCall.SucceededLast calls serverAddress number ∧
      p.serverAddress = serverAddress ∧ p.executor.number = number ∧
      p.executor.members.workerRunning = true := by
  obtain ⟨hexecutor, haddress, -⟩ := request_eq_ok_iff.mp hp
  have hconnects : 0 < calls.countP ClientCall.isConnect := by
    rw [← h.connects]
    exact h.made (request_goesOn_iff.mp ⟨p, hp⟩).1
  obtain ⟨serverAddress, number, hlast⟩ := (ClientCall.last_cases hconnects).resolve_left hnot
  obtain ⟨hsame, e, he, hnumber, hrunning⟩ := h.last serverAddress number hlast
  cases hexecutor.symm.trans he
  exact ⟨serverAddress, number, hlast, haddress.symm.trans hsame, hnumber, hrunning⟩

/-- The request is right: it goes on only after a `Connect` that has succeeded and that no other has
followed, with the executor this one has started and its address; and after one that has failed it
returns an error. -/
structure RequestRight (calls : List (ClientCall κ)) (x : RdmaClient κ)
    (endpointId : RdmaEndpointId) : Prop where
  past : ∀ p, x.requestEndpointProcessing endpointId = .ok p →
    ∃ serverAddress number, ClientCall.SucceededLast calls serverAddress number ∧
      p.serverAddress = serverAddress ∧ p.executor.number = number ∧
      p.executor.members.workerRunning = true
  failed : ClientCall.FailedLast calls → ∃ err, x.requestEndpointProcessing endpointId = .error err

/-- **Which requests are right**: those for an endpoint the client does not know, those after a
`Connect` that has not failed, and those to a client that holds no executor. -/
theorem request_right_iff (h : (rdmaClient κ).Run { device := device } calls x)
    (endpointId : RdmaEndpointId) :
    x.RequestRight calls endpointId ↔
      ¬ x.Knows endpointId ∨ ¬ ClientCall.FailedLast calls ∨ x.executor = none := by
  constructor
  · intro hright
    by_contra hall
    push Not at hall
    obtain ⟨hknows, hfailed, hne⟩ := hall
    obtain ⟨p, hp⟩ := request_goesOn_iff.mpr ⟨hne, hknows⟩
    obtain ⟨err, herr⟩ := hright.failed hfailed
    cases hp.symm.trans herr
  · intro hcondition
    have hnot : ∀ p, x.requestEndpointProcessing endpointId = .ok p →
        ¬ ClientCall.FailedLast calls := by
      intro p hp
      obtain ⟨hne, hknows⟩ := request_goesOn_iff.mp ⟨p, hp⟩
      exact (hcondition.resolve_left (not_not_intro hknows)).resolve_right hne
    refine ⟨fun p hp => (recorded_run h).past (hnot p hp) hp, fun hfailed => ?_⟩
    cases hr : x.requestEndpointProcessing endpointId with
    | error err => exact ⟨err, rfl⟩
    | ok p => exact absurd hfailed (hnot p hr)

end RdmaClient

end Requests

namespace RdmaClient

/-- The endpoint a request is made for. -/
def requestedEndpoint : RdmaEndpoint := ⟨[47], .write, some 0, some 0⟩

/-- Everything succeeds. -/
def successfulConnect : ConnectInput ℕ :=
  { serverAddress := "192.168.1.1", start := succeeding, waiting := establishedWait }

/-- The progress engine cannot be created. -/
def failedStart : ConnectInput ℕ :=
  { serverAddress := "192.168.1.1", start := failing, waiting := establishedWait }

/-- What `Connect` says then. -/
def startFailure : Err :=
  .wrap (.wrap (.native 4) "Failed to create RDMA progress engine") "Failed to start RDMA executor"

theorem request_right_sample :
    letI := Platform.littleEndian
    ∃ x, (rdmaClient ℕ).Run { device := 0 }
        [.registerEndpoints [some requestedEndpoint], .connect successfulConnect none] x ∧
      (x.RequestRight
          [.registerEndpoints [some requestedEndpoint], .connect successfulConnect none]
          requestedEndpoint.makeEndpointId ↔
        ¬ x.Knows requestedEndpoint.makeEndpointId ∨
          ¬ ClientCall.FailedLast
            [.registerEndpoints [some requestedEndpoint], .connect successfulConnect none] ∨
          x.executor = none) := by
  let := Platform.littleEndian
  have hexec : ((rdmaClient ℕ).exec { device := 0 }
      [.registerEndpoints [some requestedEndpoint], .connect successfulConnect none]).isSome
      = true := by decide
  obtain ⟨x, hx⟩ := Option.isSome_iff_exists.mp hexec
  exact ⟨x, Machine.exec_run hx, request_right_iff (Machine.exec_run hx) _⟩

/-- The request goes on with an executor that was never started. -/
theorem request_stranded :
    letI := Platform.littleEndian
    ∃ x p, (rdmaClient ℕ).Run { device := 0 }
        [.registerEndpoints [some requestedEndpoint], .connect failedStart (some startFailure)] x ∧
      x.requestEndpointProcessing requestedEndpoint.makeEndpointId = .ok p ∧
      p.executor.members.progressEngine = false ∧
      ¬ x.RequestRight
        [.registerEndpoints [some requestedEndpoint], .connect failedStart (some startFailure)]
        requestedEndpoint.makeEndpointId := by
  let := Platform.littleEndian
  refine ⟨_, _, Machine.exec_run rfl, rfl, rfl, fun h => ?_⟩
  obtain ⟨err, herr⟩ := h.failed ⟨[.registerEndpoints [some requestedEndpoint]],
    .connect failedStart (some startFailure), [], rfl, ⟨_, _, rfl⟩, nofun⟩
  cases herr

end RdmaClient

end DocaCpp
