/-
# Peers that store integers in different orders

The serializer and the framing copy a `uint32_t` to the wire as it lies in memory, and nobody
converts it.  So the round trip of Net.RoundTrip is one between peers with one byte order.
`understood_iff` says that it is nothing else: there is no message at all, however its lengths read
backwards, that a peer with the other byte order takes off the wire as it was sent.
-/
import DocaCpp.Net.RoundTrip

namespace DocaCpp

open Coro

/-! ## 1. What a receiver has read -/

section Received

variable [Platform] {α : Type} {size : ℕ} {w w' : Wire} {bs payload : Bytes} {m : Message}
  {kind : Message.Kind}

/-- A read that succeeds has taken that many bytes off the front. -/
theorem Wire.run_asyncRead_ok (h : Wire.run (asyncRead size) w = some (.ok bs, w')) :
    bs.length = size ∧ w.incoming = bs ++ w'.incoming ∧ w'.outgoing = w.outgoing := by
  simp only [Wire.run, asyncRead, Prog.interpret_call, Wire.answer] at h
  split at h
  · cases h
    exact ⟨List.length_take_of_le ‹_›, (List.take_append_drop size _).symm, rfl⟩
  · cases h

/-- **The two reads of a receiver**, where the outcome is none of a read that failed. -/
theorem Wire.run_readFrame_inv {failed failed' : ErrorCode → Coro α} {got : Bytes → Coro α}
    {a : α} (hfailed : ∀ err w, Wire.run (failed err) w ≠ some (a, w'))
    (hfailed' : ∀ err w, Wire.run (failed' err) w ≠ some (a, w'))
    (h : Wire.run (do
      match ← asyncRead 4 with
      | .error err => failed err
      | .ok length =>
        match ← asyncRead (uint32Of length) with
        | .error err => failed' err
        | .ok buffer => got buffer) w = some (a, w')) :
    ∃ word payload u, w.incoming = word ++ payload ++ u.incoming ∧ word.length = 4 ∧
      payload.length = uint32Of word ∧ Wire.run (got payload) u = some (a, w') := by
  rw [Wire.run_bind] at h
  obtain ⟨⟨read, v⟩, hread, h⟩ := Option.bind_eq_some_iff.mp h
  cases read with
  | error err => exact absurd h (hfailed err v)
  | ok word =>
    dsimp only at h
    rw [Wire.run_bind] at h
    obtain ⟨⟨read, u⟩, hread', h⟩ := Option.bind_eq_some_iff.mp h
    cases read with
    | error err => exact absurd h (hfailed' err u)
    | ok payload =>
      obtain ⟨hword, hv, -⟩ := Wire.run_asyncRead_ok hread
      obtain ⟨hpayload, hu, -⟩ := Wire.run_asyncRead_ok hread'
      exact ⟨word, payload, u, by rw [hv, hu, List.append_assoc], hword, hpayload, h⟩

/-- What the deserializer makes of a payload. -/
def Message.Decodes (payload : Bytes) : Message → Prop
  | .request r => deserializeRequest payload = .ok r
  | .responce r => deserializeResponse payload = .ok r
  | .acknowledge a => deserializeAcknowledge payload = .ok a

/-- A payload that was decoded. -/
theorem Wire.run_decoded {β : Type} {call : Coro (Access β)} {result : Access β} {f : β → α} {a : α}
    (hcall : Wire.run call w = some (result, w))
    (h : Wire.run (do
      let message ← decoded (← call)
      return f message) w = some (a, w')) : ∃ b, result = .ok b ∧ a = f b ∧ w' = w := by
  rw [Wire.run_bind, hcall, Option.bind_some] at h
  cases result with
  | error outOfBounds => cases h
  | ok b =>
    cases h
    exact ⟨b, rfl, rfl, rfl⟩

/-- **What a receiver has read**: a length word, as many bytes, and the message they decode to. -/
theorem received_inv (h : Wire.run (receive kind) w = some (.ok m, w')) :
    ∃ word payload, w.incoming = word ++ payload ++ w'.incoming ∧ word.length = 4 ∧
      payload.length = uint32Of word ∧ m.Decodes payload := by
  cases kind with
  | request =>
    obtain ⟨⟨received, v⟩, hreceived, h⟩ := Option.bind_eq_some_iff.mp (Wire.run_bind _ _ ▸ h)
    cases received with
    | error err => cases h
    | ok r =>
      cases h
      obtain ⟨word, payload, u, hw, hword, hpayload, hgot⟩ :=
        Wire.run_readFrame_inv (by rintro err w ⟨⟩) (by rintro err w ⟨⟩) hreceived
      obtain ⟨r', hdecoded, he, rfl⟩ := Wire.run_decoded (f := Except.ok) rfl hgot
      cases he
      exact ⟨word, payload, hw, hword, hpayload, hdecoded⟩
  | responce =>
    obtain ⟨⟨⟨r, err⟩, v⟩, hreceived, h⟩ := Option.bind_eq_some_iff.mp (Wire.run_bind _ _ ▸ h)
    cases err with
    | some err => cases h
    | none =>
      cases h
      obtain ⟨word, payload, u, hw, hword, hpayload, hgot⟩ :=
        Wire.run_readFrame_inv (by rintro err w ⟨⟩) (by rintro err w ⟨⟩) hreceived
      obtain ⟨r', hdecoded, he, rfl⟩ := Wire.run_decoded (f := fun r => (r, none)) rfl hgot
      cases he
      exact ⟨word, payload, hw, hword, hpayload, hdecoded⟩
  | acknowledge =>
    obtain ⟨⟨⟨r, err⟩, v⟩, hreceived, h⟩ := Option.bind_eq_some_iff.mp (Wire.run_bind _ _ ▸ h)
    cases err with
    | some err => cases h
    | none =>
      cases h
      obtain ⟨word, payload, u, hw, hword, hpayload, hgot⟩ :=
        Wire.run_readFrame_inv (by rintro err w ⟨⟩) (by rintro err w ⟨⟩) hreceived
      obtain ⟨r', hdecoded, he, rfl⟩ := Wire.run_decoded (f := fun r => (r, none)) rfl hgot
      cases he
      exact ⟨word, payload, hw, hword, hpayload, hdecoded⟩

end Received

/-! ## 2. Two platforms -/

/-- What a peer on platform `Q` reads of a message that was sent from platform `P`, with what follows
it on the wire. -/
def across (P Q : Platform) (m : Message) (rest out : Bytes) :
    Option (Except Err Message × Wire) :=
  @Wire.run Q _ (@receive Q m.kind) ⟨@frame P (@Message.payload P m) ++ rest, out⟩

section Platforms

variable {P Q : Platform} {m : Message} {rest out : Bytes}

theorem uint32Bytes_congr (h : P.byteOrder = Q.byteOrder) (n : ℕ) :
    @uint32Bytes P n = @uint32Bytes Q n :=
  congrArg (fun order : ByteOrder => order.encode 4 (n % 2 ^ 32)) h

theorem payload_congr (h : P.byteOrder = Q.byteOrder) (m : Message) :
    @Message.payload P m = @Message.payload Q m := by
  cases m with
  | request r => simp only [Message.payload, serializeRequest, serializeTagged, uint32Bytes_congr h]
  | responce r =>
    simp only [Message.payload, serializeResponse, serializeTagged, uint32Bytes_congr h]
  | acknowledge ack => rfl

/-- A length that is read in the other byte order. -/
theorem uint32Of_other (h : P.byteOrder ≠ Q.byteOrder) {n : ℕ} (hn : n < 2 ^ 32) :
    @uint32Of Q (@uint32Bytes P n) = ByteOrder.swap 4 n := by
  refine Eq.trans (congrArg (fun n => Q.byteOrder.decode (P.byteOrder.encode 4 n))
    (Nat.mod_eq_of_lt hn)) ?_
  exact ByteOrder.decode_encode_of_ne h 4 n

/-- **No two lengths that differ by five read the same backwards.** -/
theorem swap_add_five {n : ℕ} (h : ByteOrder.swap 4 n = n) :
    ByteOrder.swap 4 (n + 5) ≠ n + 5 := by
  intro h'
  obtain ⟨a, b, ha, hb, rfl⟩ := ByteOrder.swap_four_fixed h
  obtain ⟨a', b', ha', hb', he⟩ := ByteOrder.swap_four_fixed h'
  omega

/-- A body that was decoded has the length its word says in the other byte order. -/
theorem swap_of_decoded {μ : Type} {mk : UInt8 → Bytes → μ} {tag : UInt8} {body : Bytes} {a : μ}
    (h : P.byteOrder ≠ Q.byteOrder) (hn : body.length < 2 ^ 32)
    (hmk : ∀ tag' body', a = mk tag' body' → body' = body)
    (hd : @deserializeTagged Q _ mk (@serializeTagged P tag body) = .ok a) :
    ByteOrder.swap 4 body.length = body.length := by
  obtain ⟨tag', word, body', extra, hb, hword, hbody, hm⟩ := deserializeTagged_ok_iff.mp hd
  obtain rfl := hmk tag' body' hm
  have hwords : @uint32Bytes P body'.length ++ body' = word ++ (body' ++ extra) :=
    (List.cons.inj hb).2.trans (List.append_assoc ..)
  obtain ⟨rfl, -⟩ := List.append_inj hwords ((@length_uint32Bytes P _).trans hword.symm)
  exact (uint32Of_other h hn).symm.trans hbody.symm

/-- **A message is understood exactly by peers with the sender's byte order**: a peer takes it off
the wire as it was sent, and leaves what follows it, if and only if it stores integers as the sender
does. -/
theorem understood_iff (P Q : Platform) (h : @Message.Sendable P m) (rest out : Bytes) :
    across P Q m rest out = some (.ok m, ⟨rest, out⟩) ↔ P.byteOrder = Q.byteOrder := by
  obtain ⟨hlt, htype⟩ := h
  constructor
  · intro hread
    by_contra hne
    obtain ⟨word, payload, hw, hword, hpayload, hd⟩ := @received_inv Q _ _ _ _ hread
    -- the receiver's word and payload are the sender's
    have hframe : @uint32Bytes P (@Message.payload P m).length ++ @Message.payload P m
        = word ++ payload := List.append_cancel_right hw
    obtain ⟨rfl, rfl⟩ := List.append_inj hframe ((@length_uint32Bytes P _).trans hword.symm)
    have hlength : ByteOrder.swap 4 (@Message.payload P m).length = (@Message.payload P m).length :=
      (uint32Of_other hne hlt).symm.trans hpayload.symm
    cases m with
    | request r =>
      rw [show (@Message.payload P (.request r)).length = r.endpointPath.length + 5 from
        @length_serializeRequest P r] at hlength hlt
      refine swap_add_five (swap_of_decoded hne (by omega) ?_ hd) hlength
      rintro tag' body' rfl
      rfl
    | responce r =>
      rw [show (@Message.payload P (.responce r)).length = r.memoryDescriptor.length + 5 from
        @length_serializeResponse P r] at hlength hlt
      refine swap_add_five (swap_of_decoded hne (by omega) ?_ hd) hlength
      rintro tag' body' rfl
      rfl
    | acknowledge ack =>
      rw [show (@Message.payload P (.acknowledge ack)).length = 1 from rfl] at hlength
      exact absurd hlength (by decide)
  · intro heq
    have hsame := payload_congr heq m
    have hframe : @frame P (@Message.payload P m) = @frame Q (@Message.payload Q m) := by
      rw [hsame]
      exact congrArg (· ++ _) (uint32Bytes_congr heq _)
    rw [across, hframe]
    exact @receive_frame Q _ _ _ ⟨hsame ▸ hlt, htype⟩

end Platforms

/-- A platform on which `errors::Wrap` of a null error is null, and which stores the most significant
byte first. -/
@[reducible] def Platform.bigEndian : Platform := ⟨.big, fun _ => none⟩

theorem understood_iff_sample :
    across Platform.littleEndian Platform.littleEndian (.request ⟨.read, [7]⟩) [1, 2] []
        = some (.ok (.request ⟨.read, [7]⟩), ⟨[1, 2], []⟩) ∧
      across Platform.littleEndian Platform.bigEndian (.request ⟨.read, [7]⟩) [1, 2] []
        ≠ some (.ok (.request ⟨.read, [7]⟩), ⟨[1, 2], []⟩) := by
  have hsendable : @Message.Sendable Platform.littleEndian (.request ⟨.read, [7]⟩) :=
    ⟨by decide, fun r hr => .inr (by cases hr; rfl)⟩
  exact ⟨(understood_iff _ _ hsendable [1, 2] []).mpr rfl,
    fun hread => nomatch (understood_iff _ _ hsendable [1, 2] []).mp hread⟩

end DocaCpp
