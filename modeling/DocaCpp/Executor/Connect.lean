/-
# Connecting to an address

`ConnectToAddress` creates an address, starts the native connect and waits until a callback has
filled the active slot, for five seconds.  Each of the three steps hands its error to a variable of
its own; behind the wait it is the first of them, `err`, that is wrapped, and it is null by then.

The wait looks at the slot, at the clock, and lets `Progress` deliver callbacks, one round after the
other; `wait_cases` says how it ends.
-/
import DocaCpp.Executor.Connections

namespace DocaCpp

/-! ## 1. The wait -/

/-- One round of the wait: the nanoseconds that have passed when it looks at the clock, and the
callbacks that are delivered before it looks at the slot again. -/
structure WaitRound (κ : Type) where
  elapsed : ℕ
  callbacks : List (ConnectionCallback κ)

/-- What happens while a thread waits for a connection: the rounds, and the callbacks that come
between its last look at the slot and `GetActiveConnection`. -/
structure Waiting (κ : Type) where
  rounds : List (WaitRound κ)
  late : List (ConnectionCallback κ) := []

namespace ConnectionSlots

variable {κ : Type}

/-- The slots behind some more callbacks. -/
def deliver (s : ConnectionSlots κ) (callbacks : List (ConnectionCallback κ)) :
    ConnectionSlots κ :=
  callbacks.foldl next s

/-- The slots behind some more rounds. -/
def through (s : ConnectionSlots κ) (rounds : List (WaitRound κ)) : ConnectionSlots κ :=
  rounds.foldl (fun s r => s.deliver r.callbacks) s

/-- The loop of `RdmaExecutor::WaitForEstablishedConnection`, with the slots it leaves; no result if
the rounds do not bring it to its end. -/
def waitLoop (waitTimeout : ℕ) (late : List (ConnectionCallback κ)) (s : ConnectionSlots κ) :
    List (WaitRound κ) → Option (Except Err κ × ConnectionSlots κ)
  | [] =>
    if s.activeConnection.isSome then
      some ((s.deliver late).getActiveConnection, s.deliver late)
    else none
  | r :: rest =>
    if s.activeConnection.isSome then
      some ((s.deliver late).getActiveConnection, s.deliver late)
    else if timeoutExpired r.elapsed waitTimeout then some (.error .timeoutExpired, s)
    else waitLoop waitTimeout late (s.deliver r.callbacks) rest

/-- `RdmaExecutor::WaitForEstablishedConnection`. -/
def waitForEstablishedConnection (s : ConnectionSlots κ) (waitTimeout : ℕ) (w : Waiting κ) :
    Option (Except Err κ × ConnectionSlots κ) :=
  waitLoop waitTimeout w.late s w.rounds

/-- In every one of the rounds there is no active connection, and time left. -/
structure Patient (s : ConnectionSlots κ) (waitTimeout : ℕ) (pre : List (WaitRound κ)) : Prop where
  idle : ∀ q r rest, pre = q ++ r :: rest → (s.through q).activeConnection = none
  inTime : ∀ r ∈ pre, timeoutExpired r.elapsed waitTimeout = false

section Wait

variable {s s' : ConnectionSlots κ} {waitTimeout : ℕ} {w : Waiting κ}
  {late : List (ConnectionCallback κ)} {rounds pre post : List (WaitRound κ)}
  {r : WaitRound κ} {result : Except Err κ}

theorem patient_nil : s.Patient waitTimeout [] where
  idle := fun q r rest h => by simp at h
  inTime := nofun

theorem patient_cons :
    s.Patient waitTimeout (r :: pre) ↔ s.activeConnection = none ∧
      timeoutExpired r.elapsed waitTimeout = false ∧
      (s.deliver r.callbacks).Patient waitTimeout pre := by
  constructor
  · intro h
    refine ⟨h.idle [] r pre rfl, h.inTime r List.mem_cons_self, fun q r' rest hq => ?_, ?_⟩
    · exact h.idle (r :: q) r' rest (by rw [hq]; rfl)
    · exact fun r' hr' => h.inTime r' (List.mem_cons_of_mem r hr')
  · rintro ⟨hidle, htime, h⟩
    refine ⟨fun q r' rest hq => ?_, List.forall_mem_cons.mpr ⟨htime, h.inTime⟩⟩
    cases q with
    | nil => exact hidle
    | cons r₀ q =>
      obtain ⟨hr, htail⟩ := List.cons_eq_cons.mp hq
      subst hr
      exact h.idle q r' rest htail

/-- A wait goes through rounds that give it no reason to end. -/
theorem waitLoop_patient (h : s.Patient waitTimeout pre) :
    waitLoop waitTimeout late s (pre ++ post) = waitLoop waitTimeout late (s.through pre) post := by
  induction pre generalizing s with
  | nil => rfl
  | cons r pre ih =>
    obtain ⟨hidle, htime, hrest⟩ := patient_cons.mp h
    rw [List.cons_append, waitLoop, hidle, htime]
    exact ih hrest

/-- A wait that finds a connection ends. -/
theorem waitLoop_active (h : s.activeConnection ≠ none) :
    waitLoop waitTimeout late s rounds
      = some ((s.deliver late).getActiveConnection, s.deliver late) := by
  have hsome : s.activeConnection.isSome = true := Option.isSome_iff_ne_none.mpr h
  cases rounds <;> rw [waitLoop, if_pos hsome]

/-- **How a wait ends**: it has found a connection, or it has run out of time. -/
theorem wait_cases (h : waitLoop waitTimeout late s rounds = some (result, s')) :
    ∃ pre post, rounds = pre ++ post ∧ s.Patient waitTimeout pre ∧
      ((s.through pre).activeConnection ≠ none ∧ s' = (s.through pre).deliver late ∧
          result = s'.getActiveConnection ∨
        (s.through pre).activeConnection = none ∧ s' = s.through pre ∧
          result = .error .timeoutExpired) := by
  induction rounds generalizing s with
  | nil =>
    obtain ⟨hactive, h⟩ := Option.ite_none_right_eq_some.mp h
    cases h
    exact ⟨[], [], rfl, patient_nil, .inl ⟨Option.isSome_iff_ne_none.mp hactive, rfl, rfl⟩⟩
  | cons r rest ih =>
    cases hactive : s.activeConnection with
    | some c =>
      have hne : s.activeConnection ≠ none := by simp [hactive]
      rw [waitLoop_active hne] at h
      cases h
      exact ⟨[], r :: rest, rfl, patient_nil, .inl ⟨hne, rfl, rfl⟩⟩
    | none =>
      rw [waitLoop, hactive] at h
      cases htime : timeoutExpired r.elapsed waitTimeout with
      | true =>
        rw [htime] at h
        cases h
        exact ⟨[], r :: rest, rfl, patient_nil, .inr ⟨hactive, rfl, rfl⟩⟩
      | false =>
        rw [htime] at h
        obtain ⟨pre, post, rfl, hpatient, hend⟩ := ih h
        exact ⟨r :: pre, post, rfl, patient_cons.mpr ⟨hactive, htime, hpatient⟩, hend⟩

/-- A wait with a clock that runs out comes to its end. -/
theorem wait_returns (h : ∃ r ∈ rounds, timeoutExpired r.elapsed waitTimeout = true) :
    (waitLoop waitTimeout late s rounds).isSome = true := by
  induction rounds generalizing s with
  | nil =>
    obtain ⟨r, hr, -⟩ := h
    cases hr
  | cons r rest ih =>
    rw [waitLoop]
    split
    · rfl
    · split
      next => rfl
      next hnot =>
        refine ih ?_
        obtain ⟨r', hr', htime⟩ := h
        rcases List.mem_cons.mp hr' with rfl | hr'
        · exact absurd htime hnot
        · exact ⟨r', hr', htime⟩

end Wait

/-- A connection is established in time, and is still active when it is looked up. -/
def EstablishedInTime (s : ConnectionSlots κ) (waitTimeout : ℕ) (w : Waiting κ) : Prop :=
  ∃ pre post, w.rounds = pre ++ post ∧ s.Patient waitTimeout pre ∧
    (s.through pre).activeConnection ≠ none ∧
    ((s.through pre).deliver w.late).activeConnection ≠ none

section Established

variable {s s' : ConnectionSlots κ} {waitTimeout : ℕ} {w : Waiting κ} {result : Except Err κ}

/-- What `GetActiveConnection` finds. -/
theorem getActiveConnection_cases (s : ConnectionSlots κ) :
    (∃ c, s.activeConnection = some c ∧ s.getActiveConnection = .ok c) ∨
      (s.activeConnection = none ∧
        s.getActiveConnection = .error (.new "No active RDMA connection")) := by
  unfold getActiveConnection
  cases s.activeConnection with
  | none => exact .inr ⟨rfl, rfl⟩
  | some c => exact .inl ⟨c, rfl, rfl⟩

/-- **What a wait has found**: it returns a connection exactly if one was established in time, and
then, and only then, one is active. -/
theorem wait_established (h : s.waitForEstablishedConnection waitTimeout w = some (result, s')) :
    (s.EstablishedInTime waitTimeout w ∧ ∃ c, s'.activeConnection = some c ∧ result = .ok c) ∨
      (¬ s.EstablishedInTime waitTimeout w ∧ s'.activeConnection = none ∧
        ∃ err, result = .error err) := by
  have hfound : s.EstablishedInTime waitTimeout w → s'.activeConnection ≠ none := by
    rintro ⟨pre, post, hrounds, hpatient, hactive, hlate⟩
    rw [waitForEstablishedConnection, hrounds, waitLoop_patient hpatient,
      waitLoop_active hactive] at h
    cases h
    exact hlate
  obtain ⟨pre, post, hrounds, hpatient, ⟨hactive, hs', hresult⟩ | ⟨hactive, hs', hresult⟩⟩ :=
    wait_cases h
  · rcases getActiveConnection_cases s' with ⟨c, hc, hget⟩ | ⟨hnone, hget⟩
    · refine .inl ⟨⟨pre, post, hrounds, hpatient, hactive, ?_⟩, c, hc, hresult.trans hget⟩
      rw [← hs', hc]
      exact Option.some_ne_none c
    · exact .inr ⟨fun hin => hfound hin hnone, hnone, _, hresult.trans hget⟩
  · have hnone : s'.activeConnection = none := by rw [hs', hactive]
    exact .inr ⟨fun hin => hfound hin hnone, hnone, _, hresult⟩

end Established

end ConnectionSlots

/-! ## 2. `ConnectToAddress` -/

/-- What the steps in front of the wait find: the pointers by whether they are not null, and the
native calls. -/
structure ConnectOutcomes where
  rdmaEngine : Bool := true
  rdmaInstance : Bool := true
  address : error := none
  connect : error := none

/-- `RdmaAddress::Create`, by what `doca_rdma_addr_create` answers. -/
def RdmaAddress.create (native : error) : error :=
  native.map (.wrap · "Failed to create RDMA address")

/-- `RdmaEngine::ConnectToAddress`, by what `doca_rdma_connect_to_addr` answers. -/
def RdmaEngine.connectToAddress (rdmaInstance : Bool) (native : error) : error :=
  if !rdmaInstance then some (.new "RDMA Engine is not initialized")
  else native.map (.wrap · "Failed to connect to RDMA address")

/-- `waitTimeout` of `ConnectToAddress`, in nanoseconds. -/
def connectTimeout : ℕ := 5 * 10 ^ 9

/-- What `ConnectToAddress` says when the wait has failed. -/
def waitFailed : String := "Failed to wait for established connection"

section Connect

variable {κ : Type} [Platform]

/-- `RdmaExecutor::ConnectToAddress`, with the slots it leaves. -/
def connectToAddress (o : ConnectOutcomes) (s : ConnectionSlots κ) (w : Waiting κ) :
    Option (error × ConnectionSlots κ) :=
  if !o.rdmaEngine then some (some (.new "RDMA engine is not initialized"), s)
  else
    match RdmaAddress.create o.address with
    | some err => some (some (.wrap err "Failed to create server RDMA address"), s)
    | none =>
      match RdmaEngine.connectToAddress o.rdmaInstance o.connect with
      | some err => some (some (.wrap err "Failed to connect to server RDMA address"), s)
      | none =>
        match s.waitForEstablishedConnection connectTimeout w with
        | none => none
        | some (.ok _, s) => some (none, s)
        -- `err`, and not `connErr`, is wrapped: it is null here
        | some (.error _, s) => some (wrap none waitFailed, s)

/-- The steps in front of the wait succeed. -/
structure ConnectOutcomes.Reaches (o : ConnectOutcomes) : Prop where
  rdmaEngine : o.rdmaEngine = true
  rdmaInstance : o.rdmaInstance = true
  address : o.address = none
  connect : o.connect = none

variable {o : ConnectOutcomes} {s s' : ConnectionSlots κ} {w : Waiting κ} {result : error}

/-- A step in front of the wait that fails is reported. -/
theorem connectToAddress_early (h : ¬ o.Reaches) :
    ∃ err, connectToAddress o s w = some (some err, s) := by
  obtain ⟨rdmaEngine, rdmaInstance, address, connect⟩ := o
  cases rdmaEngine with
  | false => exact ⟨_, rfl⟩
  | true =>
    cases address with
    | some err => exact ⟨_, rfl⟩
    | none =>
      cases rdmaInstance with
      | false => exact ⟨_, rfl⟩
      | true =>
        cases connect with
        | some err => exact ⟨_, rfl⟩
        | none => exact absurd ⟨rfl, rfl, rfl, rfl⟩ h

/-- Where no step in front of the wait fails. -/
theorem connectToAddress_wait (h : o.Reaches) :
    connectToAddress o s w = (s.waitForEstablishedConnection connectTimeout w).map fun r =>
      (match r.1 with
        | .ok _ => none
        | .error _ => Platform.wrapNull waitFailed, r.2) := by
  obtain ⟨rdmaEngine, rdmaInstance, address, connect⟩ := o
  obtain ⟨rfl, rfl, rfl, rfl⟩ := h
  simp only [connectToAddress, RdmaAddress.create, RdmaEngine.connectToAddress]
  cases s.waitForEstablishedConnection connectTimeout w with
  | none => rfl
  | some r =>
    obtain ⟨r, s'⟩ := r
    cases r <;> rfl

/-- **What comes of `ConnectToAddress`**: an error of a step in front of the wait, or null if the
wait succeeds, or whatever wrapping null gives if it fails. -/
theorem connectToAddress_cases (h : connectToAddress o s w = some (result, s')) :
    (¬ o.Reaches ∧ s' = s ∧ ∃ err, result = some err) ∨
      o.Reaches ∧ ∃ r, s.waitForEstablishedConnection connectTimeout w = some (r, s') ∧
        ((∃ c, r = .ok c) ∧ result = none ∨
          (∃ err, r = .error err) ∧ result = Platform.wrapNull waitFailed) := by
  by_cases hreaches : o.Reaches
  · rw [connectToAddress_wait hreaches] at h
    obtain ⟨⟨r, s''⟩, hwait, heq⟩ := Option.map_eq_some_iff.mp h
    cases heq
    refine .inr ⟨hreaches, r, hwait, ?_⟩
    cases r with
    | ok c => exact .inl ⟨⟨c, rfl⟩, rfl⟩
    | error err => exact .inr ⟨⟨err, rfl⟩, rfl⟩
  · obtain ⟨err, herr⟩ := connectToAddress_early (s := s) (w := w) hreaches
    cases herr.symm.trans h
    exact .inl ⟨hreaches, rfl, err, rfl⟩

/-- `ConnectToAddress` comes back once its time is up. -/
theorem connectToAddress_returns (h : ∃ r ∈ w.rounds, connectTimeout < r.elapsed) :
    (connectToAddress o s w).isSome = true := by
  by_cases hreaches : o.Reaches
  · rw [connectToAddress_wait hreaches, Option.isSome_map]
    obtain ⟨r, hr, htime⟩ := h
    exact ConnectionSlots.wait_returns ⟨r, hr, decide_eq_true htime⟩
  · obtain ⟨err, herr⟩ := connectToAddress_early (s := s) (w := w) hreaches
    rw [herr]
    rfl

/-- `ConnectToAddress` tells the truth: null only with a connection, and of a wait that has failed
an error that contains the error of the wait. -/
structure TellsTruth (o : ConnectOutcomes) (s : ConnectionSlots κ) (w : Waiting κ)
    (result : error) (s' : ConnectionSlots κ) : Prop where
  connected : result = none → ∃ c, s'.activeConnection = some c
  reported : ∀ err, o.Reaches →
    s.waitForEstablishedConnection connectTimeout w = some (.error err, s') →
    ∃ e, result = some e ∧ e.is err = true

/-- Wrapping null gives an error, and one that contains the error of the wait. -/
def WrapsWait (s : ConnectionSlots κ) (w : Waiting κ) : Prop :=
  ∃ err s' e, s.waitForEstablishedConnection connectTimeout w = some (.error err, s') ∧
    Platform.wrapNull waitFailed = some e ∧ e.is err = true

/-- **When `ConnectToAddress` tells the truth**: if a step in front of the wait fails, or a
connection is established in time; otherwise only if wrapping null makes up for it. -/
theorem tellsTruth_iff (h : connectToAddress o s w = some (result, s')) :
    TellsTruth o s w result s' ↔
      ¬ o.Reaches ∨ s.EstablishedInTime connectTimeout w ∨ WrapsWait s w := by
  rcases connectToAddress_cases h with ⟨hnot, -, err, rfl⟩ | ⟨hreaches, r, hwait, hend⟩
  · exact iff_of_true ⟨nofun, fun _ hr _ => absurd hr hnot⟩ (.inl hnot)
  · rw [or_iff_right (not_not_intro hreaches)]
    rcases ConnectionSlots.wait_established hwait with
      ⟨hin, c, hactive, rfl⟩ | ⟨hnot, hnone, err, rfl⟩
    · refine iff_of_true ⟨fun _ => ⟨c, hactive⟩, fun err _ herr => ?_⟩ (.inl hin)
      cases hwait.symm.trans herr
    · have hresult : result = Platform.wrapNull waitFailed := by
        rcases hend with ⟨⟨c, hc⟩, -⟩ | ⟨-, hresult⟩
        · cases hc
        · exact hresult
      rw [or_iff_right hnot]
      constructor
      · intro htruth
        obtain ⟨e, he, his⟩ := htruth.reported err hreaches hwait
        exact ⟨err, s', e, hwait, hresult.symm.trans he, his⟩
      · rintro ⟨err', s'', e, hwait', he, his⟩
        cases hwait.symm.trans hwait'
        have hsome : result = some e := hresult.trans he
        refine ⟨fun hnull => ?_, fun err' _ herr => ?_⟩
        · rw [hsome] at hnull
          cases hnull
        · cases hwait.symm.trans herr
          exact ⟨e, hsome, his⟩

end Connect

end DocaCpp
