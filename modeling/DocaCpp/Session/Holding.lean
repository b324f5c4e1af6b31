/-
# How long a session holds its lock

Between the grant and the call of `UnlockEndpointsByPath` a session makes every call once and goes
back to none.  `ServerPhase.callsLeft` counts the calls that can still come, every one of them that
is made with the lock held takes one off (`ServerStep.callsLeft`), and so a session that holds a
lock makes at most nine calls before it asks to give it back, whatever its peer, the storage and the
services answer (`held_calls_le`).  None of the nine is a wait for another session: a lock is held
for as long as these calls take.
-/
import DocaCpp.Session.Locks
import Mathlib.Data.List.Infix

namespace DocaCpp

/-! ## 1. The calls that are left -/

/-- One call more for a write endpoint, whose service is called after the acknowledge. -/
def RdmaEndpoint.processes (endpoint : RdmaEndpoint) : ℕ := if endpoint.type = .write then 1 else 0

/-- The calls a reply still takes. -/
def Sending.callsLeft : Sending → ℕ
  | serialize => 3
  | length _ => 2
  | payload _ => 1

/-- The calls after a reply. -/
def Reply.callsLeft : Reply → ℕ
  | permitted _ endpoint _ => 5 + endpoint.processes
  | _ => 0

/-- The calls a session that holds a lock can make before it asks to give it back. -/
def ServerPhase.callsLeft : ServerPhase → ℕ
  | prepare _ _ _ => 9
  | respond reply sending => sending.callsLeft + reply.callsLeft
  | ackTimer _ endpoint => 5 + endpoint.processes
  | ackLength _ endpoint => 4 + endpoint.processes
  | ackPayload _ endpoint _ => 3 + endpoint.processes
  | ackDecode _ endpoint _ => 2 + endpoint.processes
  | ackJoin _ endpoint _ _ => 1 + endpoint.processes
  | process _ _ => 1
  | _ => 0

section CallsLeft

variable {f f' : ServerPhase} {ev : SessionEvent} {log : ServerLog} {evs ms : List SessionEvent}

theorem RdmaEndpoint.processes_le (endpoint : RdmaEndpoint) : endpoint.processes ≤ 1 := by
  unfold processes
  split <;> simp

theorem RdmaEndpoint.processes_read {endpoint : RdmaEndpoint} (h : endpoint.type = .read) :
    endpoint.processes = 0 :=
  if_neg (h ▸ RdmaEndpointType.read_ne_write)

/-- There are never more than nine. -/
theorem ServerPhase.callsLeft_le (f : ServerPhase) : f.callsLeft ≤ 9 := by
  cases f with
  | prepare request endpoint descriptor => exact Nat.le_refl 9
  | respond reply sending =>
    have hreply : reply.callsLeft ≤ 6 := by
      cases reply with
      | permitted request endpoint descriptor =>
        exact Nat.add_le_add_left endpoint.processes_le 5
      | _ => exact Nat.zero_le 6
    have hsending : sending.callsLeft ≤ 3 := by cases sending <;> simp [Sending.callsLeft]
    exact Nat.add_le_add hsending hreply
  | ackTimer request endpoint | ackLength request endpoint | ackPayload request endpoint size
  | ackDecode request endpoint buffer | ackJoin request endpoint ack err =>
    have := endpoint.processes_le
    simp only [ServerPhase.callsLeft]
    omega
  | process request endpoint => simp [ServerPhase.callsLeft]
  | _ => exact Nat.zero_le 9

theorem callsLeft_joined (request : Request) (endpoint : RdmaEndpoint) (ackErr : error) :
    (joined request endpoint ackErr).callsLeft ≤ endpoint.processes := by
  unfold joined RdmaEndpoint.processes
  cases ackErr with
  | some err => exact Nat.zero_le _
  | none =>
    by_cases hw : endpoint.type = .write
    · simp [hw, ServerPhase.callsLeft]
    · simp [hw, ServerPhase.callsLeft]

variable [Platform]

theorem Reply.callsLeft_sent (reply : Reply) : reply.sent.callsLeft ≤ reply.callsLeft := by
  cases reply with
  | permitted request endpoint descriptor =>
    rcases Reply.permitted_sent_cases request endpoint descriptor with h | ⟨err, h⟩
    · rw [h]
      exact Nat.le_refl _
    · rw [h]
      exact Nat.zero_le _
  | _ => exact Nat.zero_le _

/-- **Every call of a session that holds its lock before and after it takes one off.** -/
theorem ServerStep.callsLeft (hs : ServerStep f ev f') (hk : f.Knows log) (hheld : log.held ≠ [])
    (hafter : (log.note ev).held ≠ []) : f'.callsLeft + 1 ≤ f.callsLeft := by
  cases hs with
  | prepared request served descriptor =>
    have hr := RdmaEndpoint.processes_read hk.2.2.2.1
    simp [ServerPhase.callsLeft, Sending.callsLeft, Reply.callsLeft, hr]
  | prepareFailed request served descriptor err | prepareThrew request served descriptor
  | prepareNull request served descriptor =>
    simp [ServerPhase.callsLeft, Sending.callsLeft, Reply.callsLeft]
  | serialize reply bs | sendLength reply bs =>
    simp only [ServerPhase.callsLeft, Sending.callsLeft]
    omega
  | sendPayload reply bs =>
    change _ ≤ 1 + reply.callsLeft
    have := reply.callsLeft_sent
    omega
  | sendLengthFailed reply bs ec | sendPayloadFailed reply bs ec =>
    simp only [ServerPhase.callsLeft, Sending.callsLeft]
    omega
  | ackTimer request served | ackLength request served bs | ackLengthFailed request served ec
  | ackPayload request served size bs | ackPayloadFailed request served size ec
  | ackDecode request served bs ack | ackFault request served bs fault =>
    simp only [ServerPhase.callsLeft]
    omega
  | ackJoin request served ack err timer =>
    change _ ≤ 1 + served.processes
    have := callsLeft_joined request served (Coro.errorAfter timer err)
    omega
  | processed request served err | processThrew request served | processNull request served =>
    exact Nat.le_refl 1
  | unlock request err =>
    refine absurd ?_ hafter
    rw [ServerLog.note, hk.1]
    exact List.erase_cons_head _ _
  | _ => exact absurd hk.1 hheld

/-! ## 2. Along a run -/

/-- **A session that holds a lock makes at most nine calls before it asks to give it back**,
whatever its peer, the storage and the services answer: there is no stretch of a run with more than
nine calls before and after each of which the session holds one. -/
theorem held_calls_le {c : Session} (h : ServerRun (evs ++ ms) c)
    (hheld : ∀ pre, pre <+: ms → (serverLog (evs ++ pre)).held ≠ []) : ms.length ≤ 9 := by
  have hrun : ∃ f : ServerPhase, c = f.session ∧ f.Knows (serverLog (evs ++ ms)) ∧
      ∀ evs' ms', evs ++ ms = evs' ++ ms' →
        (∀ pre, pre <+: ms' → (serverLog (evs' ++ pre)).held ≠ []) →
        f.callsLeft + ms'.length ≤ 9 := by
    refine server_refines.run .head
      (I := fun all f => f.Knows (serverLog all) ∧ ∀ evs ms, all = evs ++ ms →
        (∀ pre, pre <+: ms → (serverLog (evs ++ pre)).held ≠ []) → f.callsLeft + ms.length ≤ 9)
      ⟨knows_start, ?_⟩ ?_ h
    · rintro evs ms hnil -
      rw [(List.append_eq_nil_iff.mp hnil.symm).2]
      exact ServerPhase.head.callsLeft_le
    · rintro all f ev f' ⟨hk, ih⟩ hpossible hs
      rw [serverLog_snoc]
      refine ⟨hk.step hs hpossible, fun evs ms hall hheld => ?_⟩
      -- by the last call of the stretch: it is the last of the run, if there is one
      cases ms using List.reverseRecOn with
      | nil => exact f'.callsLeft_le
      | append_singleton ms ev' =>
        rw [← List.append_assoc] at hall
        obtain ⟨rfl, hev⟩ := List.append_inj' hall rfl
        cases hev
        have hbefore := hheld ms (List.prefix_append ms [ev])
        have hafter := hheld (ms ++ [ev]) (List.prefix_refl _)
        rw [← List.append_assoc, serverLog_snoc] at hafter
        have hstep := hs.callsLeft hk hbefore hafter
        have hrest := ih evs ms rfl fun pre hpre =>
          hheld pre (hpre.trans (List.prefix_append ms [ev]))
        rw [List.length_append, List.length_singleton]
        omega
  obtain ⟨f, -, -, hcount⟩ := hrun
  have := hcount evs ms rfl hheld
  omega

omit [Platform] in
/-- A read that is served takes all nine. -/
theorem held_calls_le_sample :
    letI := Platform.littleEndian
    ∃ evs ms ev, servedEvents = evs ++ ms ++ [ev] ∧ ms.length = 9 ∧ ms.length ≤ 9 := by
  let _ := Platform.littleEndian
  let evs := servedEvents.take 8
  let ms := (servedEvents.drop 8).take 9
  obtain ⟨c, hrun⟩ := serverRun_some (evs ++ ms) sampleStorage
    (by decide +kernel) (by decide +kernel)
  have hheld : ∀ pre ∈ ms.inits, (serverLog (evs ++ pre)).held ≠ [] := by decide +kernel
  exact ⟨evs, ms, ⟨.unlockEndpointsByPath [], none⟩, rfl, rfl,
    held_calls_le hrun fun pre hpre => hheld pre ((List.mem_inits pre ms).mpr hpre)⟩

end CallsLeft

end DocaCpp
