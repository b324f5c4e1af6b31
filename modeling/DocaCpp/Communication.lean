/-
# The messages of the control channel and their serializer

`MessageSerializer` turns the three messages into bytes and back.  The decoders are handed a whole
frame payload and index into it without looking at its size: `deserializeRequest` and
`deserializeResponse` read byte 0, copy bytes 1 to 4 to a `uint32_t` and then take that many bytes
from offset 5, and `deserializeAcknowledge` reads byte 0.  A read outside the buffer is undefined
behaviour in the source, so the decoders here return it as a value of its own (`OutOfBounds`),
naming the range that was asked for.

§4 settles for which payloads a decoder does its job: exactly the payloads the serializer can have
written (`WellFramed`).  On every other payload it reads outside the buffer or silently ignores
trailing bytes; it never rejects anything.
-/
import DocaCpp.Endpoint

namespace DocaCpp

/-! ## 1. Messages -/

/-- `Request`. -/
structure Request where
  endpointType : RdmaEndpointType := .write
  endpointPath : RdmaEndpointPath := []
  deriving DecidableEq, Repr

/-- `Responce::Code`, an `enum class` over `uint8_t`. -/
structure Responce.Code where
  raw : UInt8
  deriving DecidableEq, Repr

namespace Responce.Code

def operationRejected : Responce.Code := ⟨1⟩
def operationPermitted : Responce.Code := ⟨2⟩
def operationEndpointNotFound : Responce.Code := ⟨3⟩
def operationEndpointLocked : Responce.Code := ⟨4⟩
def operationInternalError : Responce.Code := ⟨5⟩
def operationServiceError : Responce.Code := ⟨6⟩

end Responce.Code

/-- `Responce`, spelled as in the source. -/
structure Responce where
  responceCode : Responce.Code := .operationRejected
  memoryDescriptor : Bytes := []
  deriving DecidableEq, Repr

/-- `Responce::CodeDescription`. -/
def Responce.codeDescription (code : Responce.Code) : String :=
  if code = .operationRejected then "Operation rejected"
  else if code = .operationPermitted then "Operation permitted"
  else if code = .operationEndpointNotFound then "Operation endpoint not found"
  else if code = .operationEndpointLocked then "Operation endpoint locked by other session"
  else if code = .operationInternalError then "Operation caused server internal error"
  else if code = .operationServiceError then "Operation service failed"
  else "Unknown responce code"

/-- `Acknowledge::Code`, an `enum class` over `uint8_t`. -/
structure Acknowledge.Code where
  raw : UInt8
  deriving DecidableEq, Repr

namespace Acknowledge.Code

def operationCanceled : Acknowledge.Code := ⟨1⟩
def operationInterrupted : Acknowledge.Code := ⟨2⟩
def operationFailed : Acknowledge.Code := ⟨3⟩
def operationCompleted : Acknowledge.Code := ⟨4⟩

end Acknowledge.Code

/-- `Acknowledge`. -/
structure Acknowledge where
  ackCode : Acknowledge.Code := .operationCanceled
  deriving DecidableEq, Repr

/-! ## 2. The serializer -/

/-- The range `[first, past)` was asked of a buffer of `size` bytes and does not lie inside. -/
structure OutOfBounds where
  first : Nat
  past : Nat
  size : Nat
  deriving DecidableEq, Repr

/-- A value computed by indexing into a buffer. -/
abbrev Access := Except OutOfBounds

/-- `buffer[offset]`. -/
def readByte (buffer : Bytes) (offset : Nat) : Access UInt8 :=
  match buffer[offset]? with
  | some b => .ok b
  | none => .error ⟨offset, offset + 1, buffer.length⟩

/-- The `len` bytes from `offset`, as `memcpy` or an iterator pair takes them. -/
def readRange (buffer : Bytes) (offset len : Nat) : Access Bytes :=
  if offset + len ≤ buffer.length then .ok ((buffer.drop offset).take len)
  else .error ⟨offset, offset + len, buffer.length⟩

section Serializer

variable [Platform]

/-- The layout requests and responses share: a byte, the length of the body, the body. -/
def serializeTagged (tag : UInt8) (body : Bytes) : Bytes :=
  tag :: (uint32Bytes body.length ++ body)

/-- Reading that layout, as both decoders do it. -/
def deserializeTagged {μ : Type} (mk : UInt8 → Bytes → μ) (buffer : Bytes) : Access μ := do
  let tag ← readByte buffer 0
  let bodyLen ← readRange buffer 1 4
  let body ← readRange buffer 5 (uint32Of bodyLen)
  return mk tag body

/-- `MessageSerializer::SerializeRequest`. -/
def serializeRequest (request : Request) : Bytes :=
  serializeTagged request.endpointType.toByte request.endpointPath

/-- `MessageSerializer::DeserializeRequest`. -/
def deserializeRequest : Bytes → Access Request :=
  deserializeTagged fun tag body => { endpointType := .ofByte tag, endpointPath := body }

/-- `MessageSerializer::SerializeResponse`. -/
def serializeResponse (responce : Responce) : Bytes :=
  serializeTagged responce.responceCode.raw responce.memoryDescriptor

/-- `MessageSerializer::DeserializeResponse`. -/
def deserializeResponse : Bytes → Access Responce :=
  deserializeTagged fun tag body => { responceCode := ⟨tag⟩, memoryDescriptor := body }

end Serializer

/-- `MessageSerializer::SerializeAcknowledge`. -/
def serializeAcknowledge (ack : Acknowledge) : Bytes := [ack.ackCode.raw]

/-- `MessageSerializer::DeserializeAcknowledge`. -/
def deserializeAcknowledge (buffer : Bytes) : Access Acknowledge := do
  let ackCode ← readByte buffer 0
  return { ackCode := ⟨ackCode⟩ }

/-! ## 3. What the decoders compute -/

/-- A range that could be read is that part of the buffer. -/
theorem readRange_ok {buffer bs : Bytes} {offset len : Nat}
    (h : readRange buffer offset len = .ok bs) :
    bs = (buffer.drop offset).take len ∧ offset + len ≤ buffer.length := by
  unfold readRange at h
  split at h
  · cases h
    exact ⟨rfl, by assumption⟩
  · cases h

theorem except_bind_ok {ε α β : Type} {x : Except ε α} {f : α → Except ε β} {b : β}
    (h : (x >>= f) = .ok b) : ∃ a, x = .ok a ∧ f a = .ok b := by
  cases x with
  | error e => cases h
  | ok a => exact ⟨a, rfl, h⟩

section Decoders

variable [Platform]

/-- **What the tagged decoder accepts**: a tag, a four-byte length, a body of that length and
then anything at all. -/
theorem deserializeTagged_ok_iff {μ : Type} {mk : UInt8 → Bytes → μ} {b : Bytes} {m : μ} :
    deserializeTagged mk b = .ok m ↔
      ∃ tag word body extra, b = tag :: (word ++ body ++ extra) ∧ word.length = 4 ∧
        body.length = uint32Of word ∧ m = mk tag body := by
  constructor
  · intro h
    obtain ⟨tag, htag, h⟩ := except_bind_ok h
    obtain ⟨word, hword, h⟩ := except_bind_ok h
    obtain ⟨body, hbody, h⟩ := except_bind_ok h
    obtain ⟨hw, hwin⟩ := readRange_ok hword
    obtain ⟨hb, hbin⟩ := readRange_ok hbody
    cases h
    cases b with
    | nil => cases htag
    | cons t rest =>
      cases htag
      rw [List.length_cons] at hwin hbin
      rw [List.drop_succ_cons, List.drop_zero] at hw
      rw [List.drop_succ_cons] at hb
      have hwl : word.length = 4 := by rw [hw, List.length_take]; omega
      have hbl : body.length = uint32Of word := by
        rw [hb, List.length_take, List.length_drop]; omega
      refine ⟨tag, word, body, (rest.drop 4).drop (uint32Of word), ?_, hwl, hbl, rfl⟩
      rw [List.append_assoc, hb, List.take_append_drop, hw, List.take_append_drop]
  · rintro ⟨tag, word, body, extra, rfl, hword, hbody, rfl⟩
    have h1 : readRange (tag :: (word ++ body ++ extra)) 1 4 = .ok word := by
      rw [readRange, if_pos (by simp only [List.length_cons, List.length_append]; omega),
        List.drop_succ_cons, List.drop_zero, List.append_assoc, ← hword, List.take_left]
    have h2 : readRange (tag :: (word ++ body ++ extra)) 5 (uint32Of word) = .ok body := by
      rw [readRange, if_pos (by simp only [List.length_cons, List.length_append]; omega),
        List.drop_succ_cons, List.append_assoc, ← hword, List.drop_left, ← hbody, List.take_left]
    unfold deserializeTagged
    rw [h1]
    change (do let body ← readRange _ 5 (uint32Of word); pure (mk tag body)) = _
    rw [h2]
    rfl

/-- The tagged decoder undoes the tagged serializer, as long as the body's length fits. -/
theorem deserializeTagged_serializeTagged {μ : Type} {mk : UInt8 → Bytes → μ} {tag : UInt8}
    {body : Bytes} (h : body.length < 2 ^ 32) :
    deserializeTagged mk (serializeTagged tag body) = .ok (mk tag body) := by
  refine deserializeTagged_ok_iff.mpr
    ⟨tag, uint32Bytes body.length, body, [], ?_, length_uint32Bytes _, ?_, rfl⟩
  · rw [List.append_nil]; rfl
  · rw [uint32Of_uint32Bytes, Nat.mod_eq_of_lt h]

@[simp] theorem length_serializeTagged (tag : UInt8) (body : Bytes) :
    (serializeTagged tag body).length = body.length + 5 := by
  simp only [serializeTagged, List.length_cons, List.length_append, length_uint32Bytes]
  omega

@[simp] theorem length_serializeRequest (request : Request) :
    (serializeRequest request).length = request.endpointPath.length + 5 :=
  length_serializeTagged _ _

@[simp] theorem length_serializeResponse (responce : Responce) :
    (serializeResponse responce).length = responce.memoryDescriptor.length + 5 :=
  length_serializeTagged _ _

end Decoders

@[simp] theorem length_serializeAcknowledge (ack : Acknowledge) :
    (serializeAcknowledge ack).length = 1 := rfl

/-! ## 4. Which payloads are decoded for what they are -/

/-- A decoder does its job on `b`: it stays inside `b`, and what it yields serializes to `b`. -/
def DecodesExactly {μ : Type} (deserialize : Bytes → Access μ) (serialize : μ → Bytes)
    (b : Bytes) : Prop :=
  (∀ e, deserialize b ≠ .error e) ∧ ∀ m, deserialize b = .ok m → b = serialize m

section Exact

variable [Platform]

/-- The payloads of the tagged layout with nothing behind the body. -/
def WellFramed (b : Bytes) : Prop :=
  5 ≤ b.length ∧ uint32Of ((b.drop 1).take 4) = b.length - 5

instance (b : Bytes) : Decidable (WellFramed b) := inferInstanceAs (Decidable (_ ∧ _))

/-- A tagged payload is well framed when nothing follows its body. -/
theorem wellFramed_tagged {tag : UInt8} {word body extra : Bytes} (hw : word.length = 4)
    (hb : body.length = uint32Of word) :
    WellFramed (tag :: (word ++ body ++ extra)) ↔ extra = [] := by
  have htake : (word ++ body ++ extra).take 4 = word := by
    rw [List.append_assoc, ← hw, List.take_left]
  have hlen : (tag :: (word ++ body ++ extra)).length = 5 + body.length + extra.length := by
    simp only [List.length_cons, List.length_append]; omega
  unfold WellFramed
  rw [List.drop_succ_cons, List.drop_zero, htake, hlen, ← hb]
  constructor
  · rintro ⟨-, h⟩
    exact List.length_eq_zero_iff.mp (by omega)
  · rintro rfl
    simp only [List.length_nil]
    omega

/-- Well framed payloads do have a tag, a length and a body. -/
theorem WellFramed.split {b : Bytes} (h : WellFramed b) :
    ∃ tag word body, b = tag :: (word ++ body ++ []) ∧ word.length = 4 ∧
      body.length = uint32Of word := by
  obtain ⟨h5, hlen⟩ := h
  cases b with
  | nil => simp at h5
  | cons tag rest =>
    simp only [List.drop_succ_cons, List.drop_zero, List.length_cons] at h5 hlen
    refine ⟨tag, rest.take 4, rest.drop 4, ?_, ?_, ?_⟩
    · rw [List.append_nil, List.take_append_drop]
    · rw [List.length_take]; omega
    · rw [List.length_drop, hlen]; omega

/-- **Both length-prefixed decoders**, for any serializer that undoes `mk`. -/
theorem tagged_decodesExactly_iff {μ : Type} {mk : UInt8 → Bytes → μ} {serialize : μ → Bytes}
    (hs : ∀ tag body, serialize (mk tag body) = serializeTagged tag body) (b : Bytes) :
    DecodesExactly (deserializeTagged mk) serialize b ↔ WellFramed b := by
  constructor
  · rintro ⟨hno, hexact⟩
    cases hm : deserializeTagged mk b with
    | error e => exact absurd hm (hno e)
    | ok m =>
      have hb := hexact m hm
      obtain ⟨tag, word, body, extra, rfl, hw, hl, rfl⟩ := deserializeTagged_ok_iff.mp hm
      rw [hs, serializeTagged, hl, uint32Bytes_uint32Of hw] at hb
      exact (wellFramed_tagged hw hl).mpr (by simpa using hb)
  · intro h
    obtain ⟨tag, word, body, rfl, hw, hl⟩ := h.split
    have hm : deserializeTagged mk (tag :: (word ++ body ++ [])) = .ok (mk tag body) :=
      deserializeTagged_ok_iff.mpr ⟨tag, word, body, [], rfl, hw, hl, rfl⟩
    constructor
    · intro e he
      rw [hm] at he; cases he
    · intro m hm'
      rw [hm] at hm'
      cases hm'
      rw [hs, serializeTagged, hl, uint32Bytes_uint32Of hw, List.append_nil]

theorem deserializeRequest_exact_iff (b : Bytes) :
    DecodesExactly deserializeRequest serializeRequest b ↔ WellFramed b :=
  tagged_decodesExactly_iff (fun tag body => by simp [serializeRequest]) b

theorem deserializeResponse_exact_iff (b : Bytes) :
    DecodesExactly deserializeResponse serializeResponse b ↔ WellFramed b :=
  tagged_decodesExactly_iff (fun _ _ => rfl) b

omit [Platform] in
theorem deserializeAcknowledge_exact_iff (b : Bytes) :
    DecodesExactly deserializeAcknowledge serializeAcknowledge b ↔ b.length = 1 := by
  cases b with
  | nil =>
    have herr : deserializeAcknowledge [] = .error ⟨0, 1, 0⟩ := rfl
    simp [DecodesExactly, herr]
  | cons tag rest =>
    have hok : deserializeAcknowledge (tag :: rest) = .ok ⟨⟨tag⟩⟩ := rfl
    simp [DecodesExactly, hok, serializeAcknowledge]

/-- **A decoder does its job on exactly the payloads its serializer can have written**: those of
the tagged layout with nothing behind the body for requests and responses, the single bytes for
acknowledges. -/
theorem decoders_exact_iff (b : Bytes) :
    (DecodesExactly deserializeRequest serializeRequest b ↔ WellFramed b) ∧
      (DecodesExactly deserializeResponse serializeResponse b ↔ WellFramed b) ∧
      (DecodesExactly deserializeAcknowledge serializeAcknowledge b ↔ b.length = 1) :=
  ⟨deserializeRequest_exact_iff b, deserializeResponse_exact_iff b,
    deserializeAcknowledge_exact_iff b⟩

end Exact

/-- An empty frame, which any peer may send, makes the request decoder index outside it; a frame
with a byte too many is decoded to a message that is not what it says. -/
theorem decoders_not_exact :
    (∀ _ : Platform, ¬ DecodesExactly deserializeRequest serializeRequest []) ∧
      (∀ _ : Platform, ¬ DecodesExactly deserializeResponse serializeResponse []) ∧
      ¬ DecodesExactly deserializeAcknowledge serializeAcknowledge [] ∧
      ¬ DecodesExactly deserializeAcknowledge serializeAcknowledge [4, 0] := by
  refine ⟨fun _ h => ?_, fun _ h => ?_, fun h => ?_, fun h => ?_⟩
  · exact h.1 ⟨0, 1, 0⟩ rfl
  · exact h.1 ⟨0, 1, 0⟩ rfl
  · exact h.1 ⟨0, 1, 0⟩ rfl
  · exact absurd (h.2 ⟨⟨4⟩⟩ rfl) (by decide)

end DocaCpp
