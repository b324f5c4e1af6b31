/-
# Which answers a call can get

A coroutine by itself accepts any answer of the right type.  Two kinds of calls are answered by
code of the repository and so leave no choice: the serializer (`SessionEvent.computed`) and the
endpoint storage (`RdmaEndpointStorage.answer`, which also says what the call does to the storage).
All other answers come from outside and stay free.

`SessionEvent.Possible` is what is left when nothing is known of the storage: some storage gives
this answer.  A result about one session assumes no more than that.
-/
import DocaCpp.Session.Calls

namespace DocaCpp

variable [Platform]

/-- The serializer is a function. -/
def SessionEvent.computed (ev : SessionEvent) : Bool :=
  match ev with
  | ⟨.serializeRequest request, bs⟩ => bs = serializeRequest request
  | ⟨.deserializeRequest buffer, result⟩ => result = deserializeRequest buffer
  | ⟨.serializeResponse responce, bs⟩ => bs = serializeResponse responce
  | ⟨.deserializeResponse buffer, result⟩ => result = deserializeResponse buffer
  | ⟨.serializeAcknowledge ack, bs⟩ => bs = serializeAcknowledge ack
  | ⟨.deserializeAcknowledge buffer, result⟩ => result = deserializeAcknowledge buffer
  | _ => true

/-- The storage after an answered call, if it gives this answer. -/
def RdmaEndpointStorage.answer (storage : RdmaEndpointStorage) (ev : SessionEvent) :
    Option RdmaEndpointStorage :=
  match ev with
  | ⟨.getEndpoint id, result⟩ => if result = storage.getEndpoint id then some storage else none
  | ⟨.tryLockEndpointsByPath path, result⟩ =>
    if result = (storage.tryLockEndpointsByPath path).1 then
      some (storage.tryLockEndpointsByPath path).2
    else none
  | ⟨.unlockEndpointsByPath path, result⟩ =>
    if result = (storage.unlockEndpointsByPath path).1 then
      some (storage.unlockEndpointsByPath path).2
    else none
  | ev => if ev.computed then some storage else none

/-- Some storage gives this answer. -/
def SessionEvent.Possible (ev : SessionEvent) : Prop :=
  ∃ storage storage' : RdmaEndpointStorage, storage.answer ev = some storage'

namespace RdmaEndpointStorage

variable {storage storage' : RdmaEndpointStorage}

theorem answer_getEndpoint {id : RdmaEndpointId} {result : Except Err RdmaEndpoint}
    (h : storage.answer ⟨.getEndpoint id, result⟩ = some storage') :
    result = storage.getEndpoint id ∧ storage' = storage := by
  simp only [answer] at h
  split at h
  · exact ⟨by assumption, (Option.some.inj h).symm⟩
  · cases h

theorem answer_tryLock {path : RdmaEndpointPath} {result : Bool × error}
    (h : storage.answer ⟨.tryLockEndpointsByPath path, result⟩ = some storage') :
    result = (storage.tryLockEndpointsByPath path).1 ∧ storage' = storage.setLocked path true := by
  simp only [answer] at h
  split at h
  · exact ⟨by assumption, (Option.some.inj h).symm.trans (tryLockEndpointsByPath_snd _ _)⟩
  · cases h

theorem answer_unlock {path : RdmaEndpointPath} {result : error}
    (h : storage.answer ⟨.unlockEndpointsByPath path, result⟩ = some storage') :
    storage' = storage.setLocked path false := by
  simp only [answer] at h
  split at h
  · exact (Option.some.inj h).symm.trans (unlockEndpointsByPath_snd _ _)
  · cases h

/-- Only the lock calls change the storage. -/
theorem answer_other {ev : SessionEvent} (h : storage.answer ev = some storage')
    (hlock : ∀ path, ev.op ≠ .tryLockEndpointsByPath path)
    (hunlock : ∀ path, ev.op ≠ .unlockEndpointsByPath path) : storage' = storage := by
  obtain ⟨op, r⟩ := ev
  cases op with
  | tryLockEndpointsByPath path => exact absurd rfl (hlock path)
  | unlockEndpointsByPath path => exact absurd rfl (hunlock path)
  | getEndpoint id => exact (answer_getEndpoint h).2
  | _ =>
    simp only [answer] at h
    split at h
    · exact (Option.some.inj h).symm
    · cases h

/-- No call of a session registers anything. -/
theorem answer_holds {ev : SessionEvent} (h : storage.answer ev = some storage')
    (endpoint : RdmaEndpoint) : storage'.Holds endpoint ↔ storage.Holds endpoint := by
  obtain ⟨op, r⟩ := ev
  cases op with
  | tryLockEndpointsByPath path =>
    rw [(answer_tryLock h).2]
    exact setLocked_holds
  | unlockEndpointsByPath path =>
    rw [answer_unlock h]
    exact setLocked_holds
  | _ => rw [answer_other h (by simp) (by simp)]

theorem answer_computed {ev : SessionEvent} (h : storage.answer ev = some storage') :
    ev.computed = true := by
  obtain ⟨op, r⟩ := ev
  cases op with
  | tryLockEndpointsByPath path => rfl
  | unlockEndpointsByPath path => rfl
  | getEndpoint id => rfl
  | _ =>
    simp only [answer] at h
    split at h
    · assumption
    · cases h

end RdmaEndpointStorage

namespace SessionEvent

theorem Possible.computed {ev : SessionEvent} (h : ev.Possible) : ev.computed = true := by
  obtain ⟨storage, storage', h⟩ := h
  exact RdmaEndpointStorage.answer_computed h

/-- **The endpoint served for a request has the request's path.** -/
theorem Possible.getEndpoint {path : RdmaEndpointPath} {type : RdmaEndpointType}
    {endpoint : RdmaEndpoint}
    (h : Possible ⟨.getEndpoint (makeEndpointId path type), Except.ok endpoint⟩) :
    endpoint.path = path ∧ endpointTypeToString endpoint.type = endpointTypeToString type := by
  obtain ⟨storage, storage', h⟩ := h
  have hid :=
    (RdmaEndpointStorage.getEndpoint_ok (RdmaEndpointStorage.answer_getEndpoint h).1.symm).1
  exact ⟨makeEndpointId_path hid, makeEndpointId_type hid⟩

/-- A lock is granted without an error. -/
theorem Possible.granted {path : RdmaEndpointPath} {err : error}
    (h : Possible ⟨.tryLockEndpointsByPath path, (true, err)⟩) : err = none := by
  obtain ⟨storage, storage', h⟩ := h
  have hr := (RdmaEndpointStorage.answer_tryLock h).1
  have hg := RdmaEndpointStorage.tryLockEndpointsByPath_granted_error
    (congrArg Prod.fst hr.symm : (storage.tryLockEndpointsByPath path).1.1 = true)
  exact (congrArg Prod.snd hr).trans hg

end SessionEvent

end DocaCpp
