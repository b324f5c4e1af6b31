/-
# The executor's two connection slots

DOCA delivers four callbacks about any number of connections, in any order; the executor answers
with `Accept`, `Reject` or `Disconnect` and remembers at most one connection that is `requested` and
one that is `active`.  What `Accept`, `Reject` and `Disconnect` return is ignored by the executor
and an input here.

Two slips decide what the slots are worth.  `OnConnectionClosed` ignores which connection has
closed, so any closing empties the active slot (`active_tracks_iff`).  And nothing but an
established connection empties the requested slot, so a handshake that fails half way leaves it
occupied (`reachable_again_iff`).
-/
import DocaCpp.Base
import DocaCpp.Lib.History

namespace DocaCpp

/-! ## 1. Callbacks -/

/-- `RdmaConnectionId`, a `uint32_t`. -/
abbrev RdmaConnectionId := UInt32

/-- `activeConnection` and `requestedConnection`, by the connection of DOCA they wrap. -/
structure ConnectionSlots (κ : Type) where
  activeConnection : Option κ := none
  requestedConnection : Option κ := none
  deriving DecidableEq

/-- A call of a method of the connection a callback is about. -/
inductive ConnectionCall
  | accept
  | reject
  | disconnect
  deriving DecidableEq

/-- A connection callback.  `result` is what the method returns that the executor calls on the
connection, if it calls one, and `connectionId` is what `GetId` yields, which is zero if it
fails. -/
inductive ConnectionCallback (κ : Type)
  | requested (connection : κ) (result : error)
  | established (connection : κ) (result : error)
  | failed (connection : κ) (connectionId : RdmaConnectionId)
  | disconnected (connection : κ) (connectionId : RdmaConnectionId)

namespace ConnectionSlots

variable {κ : Type}

/-- `RdmaExecutor::OnConnectionRequested`, with the call it makes. -/
def onConnectionRequested (s : ConnectionSlots κ) (connection : κ) :
    ConnectionCall × ConnectionSlots κ :=
  if s.activeConnection.isSome then (.reject, s)
  else if s.requestedConnection.isSome then (.reject, s)
  else (.accept, { s with requestedConnection := some connection })

/-- `RdmaExecutor::OnConnectionEstablished`, with the call it makes. -/
def onConnectionEstablished (s : ConnectionSlots κ) (connection : κ) :
    Option ConnectionCall × ConnectionSlots κ :=
  if s.activeConnection.isSome then (some .disconnect, s)
  else (none, { activeConnection := some connection, requestedConnection := none })

/-- `RdmaExecutor::OnConnectionClosed`. -/
def onConnectionClosed (s : ConnectionSlots κ) (_connectionId : RdmaConnectionId) :
    ConnectionSlots κ :=
  { s with activeConnection := none }

/-- `RdmaExecutor::GetActiveConnection`. -/
def getActiveConnection (s : ConnectionSlots κ) : Except Err κ :=
  match s.activeConnection with
  | none => .error (.new "No active RDMA connection")
  | some connection => .ok connection

/-- The slots a callback leaves. -/
def next (s : ConnectionSlots κ) : ConnectionCallback κ → ConnectionSlots κ
  | .requested connection _ => (s.onConnectionRequested connection).2
  | .established connection _ => (s.onConnectionEstablished connection).2
  | .failed _ connectionId => s.onConnectionClosed connectionId
  | .disconnected _ connectionId => s.onConnectionClosed connectionId

/-- The slots of an executor behind a history of callbacks. -/
def after (history : List (ConnectionCallback κ)) : ConnectionSlots κ := history.foldl next {}

@[simp] theorem after_nil : after ([] : List (ConnectionCallback κ)) = {} := rfl

@[simp] theorem after_concat (history : List (ConnectionCallback κ)) (cb : ConnectionCallback κ) :
    after (history ++ [cb]) = (after history).next cb := by simp [after]

end ConnectionSlots

namespace ConnectionCallback

variable {κ : Type}

/-- The connection that has been established. -/
def opens : ConnectionCallback κ → Option κ
  | established connection _ => some connection
  | _ => none

/-- The connection that has failed or was disconnected. -/
def closes : ConnectionCallback κ → Option κ
  | failed connection _ => some connection
  | disconnected connection _ => some connection
  | _ => none

/-- The connection that asks to be accepted. -/
def requests : ConnectionCallback κ → Option κ
  | requested connection _ => some connection
  | _ => none

end ConnectionCallback

/-! ## 2. What a callback does to the slots -/

namespace ConnectionSlots

open ConnectionCallback

section Next

variable {κ : Type} {s : ConnectionSlots κ} {cb : ConnectionCallback κ} {c : κ}

theorem next_of_requests (h : cb.requests = some c) :
    (s.next cb).activeConnection = s.activeConnection ∧
      ((s.next cb).requestedConnection = none ↔
        s.requestedConnection = none ∧ s.activeConnection ≠ none) := by
  cases cb <;> simp only [requests, reduceCtorEq] at h
  simp only [next, onConnectionRequested]
  cases hact : s.activeConnection <;> cases hreq : s.requestedConnection <;> simp [hact, hreq]

theorem next_of_opens (h : cb.opens = some c) :
    (s.next cb).activeConnection = s.activeConnection.or (some c) ∧
      (s.activeConnection = none → (s.next cb).requestedConnection = none) ∧
      (s.activeConnection ≠ none → s.next cb = s) := by
  cases cb <;> simp only [opens, reduceCtorEq, Option.some.injEq] at h
  subst h
  simp only [next, onConnectionEstablished]
  cases hact : s.activeConnection <;> simp [hact]

/-- **Any closing empties the active slot**, and none empties the requested one. -/
theorem next_of_closes (h : cb.closes = some c) :
    (s.next cb).activeConnection = none ∧
      (s.next cb).requestedConnection = s.requestedConnection := by
  cases cb <;> simp only [closes, reduceCtorEq] at h <;> exact ⟨rfl, rfl⟩

end Next

/-! ## 3. The active slot -/

section Active

variable {κ : Type} {history : List (ConnectionCallback κ)} {cb : ConnectionCallback κ} {c d : κ}

/-- `c` was established while no other connection was active, and no failure or disconnect callback
for `c` has arrived since. -/
def OpenSince (history : List (ConnectionCallback κ)) (c : κ) : Prop :=
  Since (fun pre cb => cb.opens = some c ∧ ∀ d, (after pre).activeConnection = some d → d = c)
    (fun cb => cb.closes = some c) history

/-- The active slot holds the connection the history says is open. -/
def Tracks (history : List (ConnectionCallback κ)) : Prop :=
  ∀ c, (after history).activeConnection = some c ↔ OpenSince history c

variable [DecidableEq κ]

/-- The connection that is open, by its own callbacks: the first one established, until it
closes. -/
def openNext (o : Option κ) (cb : ConnectionCallback κ) : Option κ :=
  match cb.opens, cb.closes with
  | some c, _ => o.or (some c)
  | none, some c => if o = some c then none else o
  | none, none => o

/-- The connection that is open behind a history of callbacks. -/
def openConnection (history : List (ConnectionCallback κ)) : Option κ := history.foldl openNext none

@[simp] theorem openConnection_concat (history : List (ConnectionCallback κ))
    (cb : ConnectionCallback κ) :
    openConnection (history ++ [cb]) = openNext (openConnection history) cb := by
  simp [openConnection]

/-- **The condition**: while a connection is open, no other one fails or is disconnected. -/
def OwnClosing (pre : List (ConnectionCallback κ)) (cb : ConnectionCallback κ) : Prop :=
  ∀ c d, cb.closes = some c → openConnection pre = some d → d = c

omit [DecidableEq κ] in
/-- The three kinds of callbacks. -/
theorem callback_cases (cb : ConnectionCallback κ) :
    (∃ c, cb.requests = some c ∧ cb.opens = none ∧ cb.closes = none) ∨
      (∃ c, cb.opens = some c ∧ cb.closes = none) ∨
      (∃ c, cb.closes = some c ∧ cb.opens = none) := by
  cases cb with
  | requested c result => exact .inl ⟨c, rfl, rfl, rfl⟩
  | established c result => exact .inr (.inl ⟨c, rfl, rfl⟩)
  | failed c connectionId => exact .inr (.inr ⟨c, rfl, rfl⟩)
  | disconnected c connectionId => exact .inr (.inr ⟨c, rfl, rfl⟩)

/-- Where connections close one at a time, the active slot is the open connection. -/
theorem activeConnection_eq (h : AtEvery OwnClosing history) :
    (after history).activeConnection = openConnection history := by
  induction history using List.reverseRecOn with
  | nil => rfl
  | append_singleton history cb ih =>
    obtain ⟨hhistory, hcb⟩ := atEvery_concat.mp h
    have ih := ih hhistory
    rw [after_concat, openConnection_concat, ← ih]
    rcases callback_cases cb with ⟨c, hreq, ho, hc⟩ | ⟨c, ho, hc⟩ | ⟨c, hc, ho⟩
    · rw [(next_of_requests hreq).1, openNext, ho, hc]
    · rw [(next_of_opens ho).1, openNext, ho]
    · rw [(next_of_closes hc).1, openNext, ho, hc]
      dsimp only
      split
      · rfl
      · rename_i hne
        cases hact : (after history).activeConnection with
        | none => rfl
        | some d => exact absurd (hact.trans (by rw [hcb c d hc (ih ▸ hact)])) hne

/-- **One more callback** keeps the active slot right exactly if it is not the closing of another
connection than the active one. -/
theorem tracks_concat_iff (h : Tracks history) :
    Tracks (history ++ [cb]) ↔
      ∀ c d, cb.closes = some c → (after history).activeConnection = some d → d = c := by
  have hopen : ∀ c, OpenSince (history ++ [cb]) c ↔
      (cb.opens = some c ∧ ∀ d, (after history).activeConnection = some d → d = c) ∨
        (cb.closes ≠ some c ∧ (after history).activeConnection = some c) := by
    intro c
    rw [h c]
    exact since_concat
  simp only [Tracks, hopen, after_concat]
  rcases callback_cases cb with ⟨c, hreq, ho, hc⟩ | ⟨c, ho, hc⟩ | ⟨c, hc, ho⟩
  · simp [(next_of_requests hreq).1, ho, hc]
  · rw [(next_of_opens ho).1]
    cases hact : (after history).activeConnection with
    | none => simp [ho, hc]
    | some e =>
      simp only [Option.some_or, Option.some.injEq, ho, hc, reduceCtorEq, ne_eq, not_false_eq_true,
        true_and, false_implies, implies_true, iff_true]
      intro d
      constructor
      · rintro rfl
        exact .inr rfl
      · rintro (⟨rfl, hall⟩ | rfl)
        · exact hall e rfl
        · rfl
  · rw [(next_of_closes hc).1, ho, hc]
    constructor
    · intro hall c' d hcc hd
      cases hcc
      by_contra hne
      have hnone := (hall d).mpr (.inr ⟨fun he => hne (Option.some.inj he).symm, hd⟩)
      exact Option.some_ne_none d hnone.symm
    · intro hown d
      refine iff_of_false (Option.some_ne_none d).symm ?_
      rintro (⟨ho, -⟩ | ⟨hne, hd⟩)
      · exact Option.some_ne_none d ho.symm
      · exact hne (by rw [hown c d rfl hd])

/-- **Active-connection tracking.**  The active slot is what the history says at every point exactly
when no connection fails or is disconnected while another one is open. -/
theorem active_tracks_iff (history : List (ConnectionCallback κ)) :
    Always Tracks history ↔ AtEvery OwnClosing history := by
  refine always_iff_atEvery ?_ fun history cb hall hown => ?_
  · intro c
    exact iff_of_false (Option.some_ne_none c).symm not_since_nil
  · rw [tracks_concat_iff hall.now, activeConnection_eq hown]
    rfl

end Active

/-- A connection that was refused fails, and the active one is forgotten. -/
def strangerFails : List (ConnectionCallback Bool) :=
  [.requested true none, .established true none, .requested false none, .failed false 0]

theorem active_forgotten :
    ¬ Tracks strangerFails ∧ (after strangerFails).activeConnection = none ∧
      OpenSince strangerFails true := by
  have hopen : OpenSince strangerFails true := by
    refine ⟨[.requested true none], .established true none,
      [.requested false none, .failed false 0], rfl, ⟨rfl, fun d hd => ?_⟩, ?_⟩
    · exact absurd hd (Option.some_ne_none d).symm
    · simp [closes]
  refine ⟨fun h => ?_, rfl, hopen⟩
  exact Option.some_ne_none true ((h true).mpr hopen).symm

/-! ## 4. The requested slot -/

section Requested

variable {κ : Type} {history : List (ConnectionCallback κ)} {cb : ConnectionCallback κ} {c : κ}

/-- The request is refused: `Reject` is called and succeeds, or `Accept` is called and fails. -/
def RefusedAt (pre : List (ConnectionCallback κ)) (c : κ) (result : error) : Prop :=
  match ((after pre).onConnectionRequested c).1 with
  | .accept => result ≠ none
  | _ => result = none

/-- The connection is dropped as a duplicate: `Disconnect` is called and succeeds. -/
def DroppedAt (pre : List (ConnectionCallback κ)) (c : κ) (result : error) : Prop :=
  ((after pre).onConnectionEstablished c).1 = some .disconnect ∧ result = none

/-- The connection has been requested and was not refused, and neither was established nor has
closed since. -/
def Pending (history : List (ConnectionCallback κ)) (c : κ) : Prop :=
  Since (fun pre cb => ∃ result, cb = .requested c result ∧ ¬ RefusedAt pre c result)
    (fun cb => cb.opens = some c ∨ cb.closes = some c) history

/-- The connection has been established and was not dropped, and has not closed since. -/
def Open (history : List (ConnectionCallback κ)) (c : κ) : Prop :=
  Since (fun pre cb => ∃ result, cb = .established c result ∧ ¬ DroppedAt pre c result)
    (fun cb => cb.closes = some c) history

/-- Every connection seen so far has been refused, has failed or has been disconnected. -/
def Quiet (history : List (ConnectionCallback κ)) : Prop :=
  ∀ c, ¬ Pending history c ∧ ¬ Open history c

/-- Some connection was established and none has closed since. -/
def Established (history : List (ConnectionCallback κ)) : Prop :=
  Since (fun _ cb => cb.opens ≠ none) (fun cb => cb.closes ≠ none) history

/-- **The condition**: each request that arrives while nothing is established is followed by an
established connection, be it the one requested or another. -/
def HandshakesEnd (history : List (ConnectionCallback κ)) : Prop :=
  ¬ Since (fun pre cb => cb.requests ≠ none ∧ ¬ Established pre) (fun cb => cb.opens ≠ none)
    history

theorem active_ne_none_iff :
    (after history).activeConnection ≠ none ↔ Established history := by
  induction history using List.reverseRecOn with
  | nil => exact iff_of_false (fun h => h rfl) not_since_nil
  | append_singleton history cb ih =>
    unfold Established at ih ⊢
    rw [since_concat, after_concat, ← ih]
    rcases callback_cases cb with ⟨c, hreq, ho, hc⟩ | ⟨c, ho, hc⟩ | ⟨c, hc, ho⟩
    · simp [(next_of_requests hreq).1, ho, hc]
    · simp [(next_of_opens ho).1, ho]
    · simp [(next_of_closes hc).1, hc, ho]

/-- While a connection is active, no request is pending with the executor. -/
theorem requested_eq_none (h : (after history).activeConnection ≠ none) :
    (after history).requestedConnection = none := by
  induction history using List.reverseRecOn with
  | nil => rfl
  | append_singleton history cb ih =>
    rw [after_concat] at h ⊢
    rcases callback_cases cb with ⟨c, hreq, -, -⟩ | ⟨c, ho, -⟩ | ⟨c, hc, -⟩
    · rw [(next_of_requests hreq).1] at h
      exact (next_of_requests hreq).2.mpr ⟨ih h, h⟩
    · by_cases hact : (after history).activeConnection = none
      · exact (next_of_opens ho).2.1 hact
      · rw [(next_of_opens ho).2.2 hact]
        exact ih hact
    · exact absurd (next_of_closes hc).1 h

/-- **Who occupies the requested slot**: a request that arrived while nothing was established, and
nothing has been established since. -/
theorem requested_eq_none_iff :
    (after history).requestedConnection = none ↔ HandshakesEnd history := by
  induction history using List.reverseRecOn with
  | nil => exact iff_of_true rfl not_since_nil
  | append_singleton history cb ih =>
    unfold HandshakesEnd at ih ⊢
    rw [since_concat, after_concat, ← active_ne_none_iff, not_or, not_and_or, not_not]
    rcases callback_cases cb with ⟨c, hreq, ho, -⟩ | ⟨c, ho, -⟩ | ⟨c, hc, ho⟩
    · rw [(next_of_requests hreq).2, ih]
      simp [hreq, ho, and_comm]
    · refine iff_of_true ?_ ⟨?_, ?_⟩
      · by_cases hact : (after history).activeConnection = none
        · exact (next_of_opens ho).2.1 hact
        · rw [(next_of_opens ho).2.2 hact]
          exact requested_eq_none hact
      · left
        cases cb <;> simp [opens, requests] at ho ⊢
      · simp [ho]
    · rw [(next_of_closes hc).2, ih]
      have hreq : cb.requests = none := by
        cases cb <;> simp [closes, requests] at hc ⊢
      simp [hreq, ho]

/-- The active connection is open. -/
theorem open_of_active (h : (after history).activeConnection = some c) : Open history c := by
  induction history using List.reverseRecOn with
  | nil => cases h
  | append_singleton history cb ih =>
    unfold Open at ih ⊢
    rw [since_concat]
    rw [after_concat] at h
    rcases callback_cases cb with ⟨d, hreq, -, hc⟩ | ⟨d, ho, hc⟩ | ⟨d, hc, -⟩
    · rw [(next_of_requests hreq).1] at h
      exact .inr ⟨by simp [hc], ih h⟩
    · by_cases hact : (after history).activeConnection = none
      · rw [(next_of_opens ho).1, hact] at h
        cases cb <;> simp only [opens, reduceCtorEq, Option.some.injEq] at ho
        rename_i result
        subst ho
        cases h
        refine .inl ⟨result, rfl, fun hd => ?_⟩
        have hcall := hd.1
        simp [onConnectionEstablished, hact] at hcall
      · rw [(next_of_opens ho).2.2 hact] at h
        exact .inr ⟨by simp [hc], ih h⟩
    · rw [(next_of_closes hc).1] at h
      cases h

/-- **When the executor is reachable again.**  With no connection pending and none open, both slots
are empty and the next request is accepted exactly when each request that arrived while nothing was
established has been followed by an established connection. -/
theorem reachable_again_iff (history : List (ConnectionCallback κ)) (hquiet : Quiet history) :
    (after history = {} ∧ ∀ c, ((after history).onConnectionRequested c).1 = .accept) ↔
      HandshakesEnd history := by
  have hactive : (after history).activeConnection = none := by
    by_contra hne
    obtain ⟨c, hc⟩ := Option.ne_none_iff_exists'.mp hne
    exact (hquiet c).2 (open_of_active hc)
  rw [← requested_eq_none_iff]
  constructor
  · rintro ⟨hempty, -⟩
    rw [hempty]
  · intro hreq
    have hempty : after history = {} := by
      cases h : after history
      simp_all
    refine ⟨hempty, fun c => ?_⟩
    rw [hempty]
    rfl

end Requested

/-- A connection that has come and gone. -/
def cameAndWent : List (ConnectionCallback Bool) :=
  [] ++ [.requested true none] ++ [.established true none] ++ [.disconnected true 1]

theorem reachable_again_sample :
    after cameAndWent = {} ∧ ∀ c, ((after cameAndWent).onConnectionRequested c).1 = .accept := by
  refine (reachable_again_iff cameAndWent fun c => ?_).mpr ?_
  · unfold Pending Open cameAndWent
    simp only [since_concat, not_since_nil]
    cases c <;> simp [RefusedAt, DroppedAt, opens, closes]
  · unfold HandshakesEnd cameAndWent
    simp only [since_concat, not_since_nil]
    simp [opens, requests]

/-- A connection whose `Accept` fails. -/
def acceptFails : List (ConnectionCallback Bool) := [] ++ [.requested true (some (.native 1))]

/-- A connection that fails before it is established. -/
def handshakeFails : List (ConnectionCallback Bool) :=
  [] ++ [.requested true none] ++ [.failed true 1]

/-- No connection is left of either, and every further request is rejected. -/
theorem unreachable_for_good :
    (Quiet acceptFails ∧ ∀ c, ((after acceptFails).onConnectionRequested c).1 = .reject) ∧
      (Quiet handshakeFails ∧
        ∀ c, ((after handshakeFails).onConnectionRequested c).1 = .reject) := by
  refine ⟨⟨fun c => ?_, fun _ => rfl⟩, ⟨fun c => ?_, fun _ => rfl⟩⟩
  · unfold Pending Open acceptFails
    simp only [since_concat, not_since_nil]
    cases c <;> simp [RefusedAt, onConnectionRequested]
  · unfold Pending Open handshakeFails
    simp only [since_concat, not_since_nil]
    cases c <;> simp [opens, closes]

end ConnectionSlots

end DocaCpp
