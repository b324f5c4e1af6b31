/-
# A store of buffers with atomic operations

What the services of the two sides take the buffers for: a service replaces the content of a buffer,
and an operation of a client that completes copies its source to the front of its target in one
step, or leaves a mixture of the two if it fails.

In the buffers themselves the bytes of an operation land one at a time.  `Shows` is how they show the
store meanwhile, and §2 that they do so whatever happens next, as long as no two operations use one
buffer of the server (`Alone`).
-/
import DocaCpp.Lib.Transfer
import DocaCpp.Net.Memory

namespace DocaCpp

variable {ι : Type} [DecidableEq ι]

/-! ## 1. The store -/

/-- What happens in the buffers, as the sessions see it. -/
inductive StoreEvent (ι : Type)
  /-- the service of the server's buffer has left this content -/
  | served (i : ι) (buffer : ℕ) (content : Bytes)
  /-- the service of the client has -/
  | handled (i : ι) (content : Bytes)
  | submitted (i : ι) (operation : RdmaOperationRequest)
  | completed (i : ι) (err : error)

namespace Memory

variable (designates : Bytes → ℕ)

/-- What an operation that has completed may leave in its target. -/
def Leaves (m : Memory ι) (i : ι) (operation : RdmaOperationRequest) (err : error)
    (content : Bytes) : Prop :=
  let source := m.source designates i operation
  let target := m.target designates i operation
  if err = none then source.length ≤ target.length ∧ content = overlay source target
  else Mixed source target content

instance (m : Memory ι) (i : ι) (operation : RdmaOperationRequest) (err : error)
    (content : Bytes) : Decidable (m.Leaves designates i operation err content) :=
  inferInstanceAs (Decidable (ite _ _ _))

/-- An operation has left this content in its target, and is over. -/
def carryOut (m : Memory ι) (i : ι) (operation : RdmaOperationRequest) (content : Bytes) :
    Memory ι :=
  { m.fillTarget designates i operation content with
    operation := Function.update m.operation i none }

/-- One step of the store: an event, with what an operation leaves in its target. -/
def storeStep (m : Memory ι) : StoreEvent ι × Bytes → Option (Memory ι)
  | (.served _ buffer content, _) =>
    if content.length = (m.server buffer).length then some (m.fillServer buffer content) else none
  | (.handled i content, _) =>
    if content.length = (m.client i).length then some (m.fillClient i content) else none
  | (.submitted i operation, _) =>
    if m.operation i = none then
      some { m with operation := Function.update m.operation i (some operation) }
    else none
  | (.completed i err, content) =>
    match m.operation i with
    | none => none
    | some operation =>
      if m.Leaves designates i operation err content then
        some (m.carryOut designates i operation content)
      else none

end Memory

/-- The store, as a machine. -/
def store (designates : Bytes → ℕ) : Machine (Memory ι) (StoreEvent ι × Bytes) :=
  ⟨Memory.storeStep designates⟩

/-- What a step of the fabric is for the store. -/
def FabricLabel.event : FabricLabel ι → Option (StoreEvent ι)
  | net (.conn i (.server ⟨.handle endpoint, _⟩)) content =>
    endpoint.buffer.map fun buffer => .served i buffer content
  | net (.conn i (.client ⟨.handle _, _⟩)) content => some (.handled i content)
  | net (.conn i (.client ⟨.submitOperation operation, none⟩)) _ => some (.submitted i operation)
  | net (.conn i (.complete err)) _ => some (.completed i err)
  | _ => none

/-! ## 2. Buffers in which bytes are on their way -/

namespace Memory

variable {designates : Bytes → ℕ}

/-- No two operations use one buffer of the server. -/
def Alone (designates : Bytes → ℕ) (m : Memory ι) : Prop :=
  ∀ i j p q, m.operation i = some p → m.operation j = some q →
    designates p.remoteBuffer = designates q.remoteBuffer → i = j

/-- **The buffers show the store**: a buffer that no operation writes to is as in the store, and the
target of an operation is on its way from what the store has there. -/
structure Shows (designates : Bytes → ℕ) (mem m : Memory ι) : Prop where
  server : ∀ b, (∀ i operation, m.operation i = some operation → operation.type = .write →
    designates operation.remoteBuffer ≠ b) → mem.server b = m.server b
  client : ∀ i, (∀ operation, m.operation i = some operation → operation.type = .write) →
    mem.client i = m.client i
  moving : ∀ i operation, m.operation i = some operation →
    Transfer (m.source designates i operation) (m.target designates i operation) (mem.landed i)
      (mem.target designates i operation)

section Shows

variable {mem mem' m m' : Memory ι} {i : ι} {buffer offset : ℕ} {content : Bytes}
  {operation : RdmaOperationRequest}

omit [DecidableEq ι] in
theorem source_congr
    (hw : operation.type = .write → m'.client i = m.client i)
    (hr : operation.type = .read →
      m'.server (designates operation.remoteBuffer) = m.server (designates operation.remoteBuffer)) :
    m'.source designates i operation = m.source designates i operation := by
  unfold source
  cases ht : operation.type with
  | write => exact hw ht
  | read => exact hr ht

omit [DecidableEq ι] in
theorem target_congr
    (hw : operation.type = .write →
      m'.server (designates operation.remoteBuffer) = m.server (designates operation.remoteBuffer))
    (hr : operation.type = .read → m'.client i = m.client i) :
    m'.target designates i operation = m.target designates i operation := by
  unfold target
  cases ht : operation.type with
  | write => exact hw ht
  | read => exact hr ht

omit [DecidableEq ι] in
/-- The source of an operation is as in the store. -/
theorem Shows.source (h : mem.Shows designates m) (ha : m.Alone designates)
    (ho : m.operation i = some operation) :
    mem.source designates i operation = m.source designates i operation := by
  refine source_congr (fun ht => ?_) fun ht => ?_
  · refine h.client i fun p hp => ?_
    obtain rfl := Option.some.inj (ho.symm.trans hp)
    exact ht
  · refine h.server _ fun j q hq hw heq => ?_
    obtain rfl := ha j i q operation hq ho heq
    obtain rfl := Option.some.inj (ho.symm.trans hq)
    cases ht.symm.trans hw

/-- What a byte that lands changes: the target of its operation, by one item. -/
theorem land_target (hland : mem.land designates i buffer offset = some mem')
    (ho : mem.operation i = some operation) :
    designates operation.remoteBuffer = buffer ∧
      mem'.landed i = insert offset (mem.landed i) ∧
      (operation.type = .read → mem'.server = mem.server) ∧
      (operation.type = .write → mem'.client = mem.client) ∧
      ∃ byte, (mem.source designates i operation)[offset]? = some byte ∧
        offset < (mem.target designates i operation).length ∧
        mem'.target designates i operation
          = (mem.target designates i operation).set offset byte := by
  cases ht : operation.type with
  | write =>
    obtain ⟨byte, hbuffer, hbyte, hlt, rfl⟩ := land_write hland ho ht
    subst hbuffer
    simp only [Memory.source, Memory.target, ht]
    exact ⟨trivial, Function.update_self .., by rintro ⟨⟩, fun _ => rfl, byte, hbyte, hlt,
      fillServer_server_same⟩
  | read =>
    obtain ⟨byte, hbuffer, hbyte, hlt, rfl⟩ := land_read hland ho ht
    subst hbuffer
    simp only [Memory.source, Memory.target, ht]
    exact ⟨trivial, Function.update_self .., fun _ => rfl, by rintro ⟨⟩, byte, hbyte, hlt,
      fillClient_client_same⟩

theorem carryOut_write (ht : operation.type = .write) :
    (m.carryOut designates i operation (mem.target designates i operation)).server
        (designates operation.remoteBuffer) = mem.server (designates operation.remoteBuffer) := by
  rw [carryOut, fillTarget_write ht]
  simp only [Memory.target, ht]
  exact fillServer_server_same

theorem carryOut_read (ht : operation.type = .read) :
    (m.carryOut designates i operation (mem.target designates i operation)).client i
      = mem.client i := by
  rw [carryOut, fillTarget_read ht]
  simp only [Memory.target, ht]
  exact fillClient_client_same

/-- An operation changes the server's buffer it writes to. -/
theorem carryOut_server {b : ℕ}
    (hb : operation.type = .write → b ≠ designates operation.remoteBuffer) :
    (m.carryOut designates i operation content).server b = m.server b := by
  cases ht : operation.type with
  | write =>
    rw [carryOut, fillTarget_write ht]
    exact fillServer_server_other (hb ht)
  | read =>
    rw [carryOut, fillTarget_read ht]
    rfl

/-- An operation changes the buffer of its client if it reads. -/
theorem carryOut_client {j : ι} (hj : operation.type = .read → j ≠ i) :
    (m.carryOut designates i operation content).client j = m.client j := by
  cases ht : operation.type with
  | write =>
    rw [carryOut, fillTarget_write ht]
    rfl
  | read =>
    rw [carryOut, fillTarget_read ht]
    exact fillClient_client_other (hj ht)

/-- **A byte lands.** -/
theorem Shows.land (h : mem.Shows designates m) (ha : m.Alone designates)
    (ho : m.operation i = mem.operation i)
    (hland : mem.land designates i buffer offset = some mem') : mem'.Shows designates m := by
  obtain ⟨p, -, hp, -⟩ := land_inv hland
  have hmp : m.operation i = some p := ho.trans hp
  obtain ⟨hserver, hclient, -, hlanded⟩ := land_kept hland
  obtain ⟨rfl, hmoved, hread, hwrite, byte, hbyte, hlt, htarget⟩ := land_target hland hp
  constructor
  · intro b hb
    refine Eq.trans ?_ (h.server b hb)
    cases ht : p.type with
    | write => exact hserver b (Ne.symm (hb i p hmp ht))
    | read => rw [hread ht]
  · intro j hj
    refine Eq.trans ?_ (h.client j hj)
    by_cases hji : j = i
    · subst hji
      rw [hwrite (hj p hmp)]
    · exact hclient j hji
  · intro j q hq
    by_cases hji : j = i
    · subst hji
      obtain rfl := Option.some.inj (hmp.symm.trans hq)
      rw [htarget, hmoved]
      exact (h.moving j p hmp).move (h.source ha hmp ▸ hbyte) hlt
    · rw [hlanded j hji, target_congr (fun _ => hserver _ fun heq => hji (ha j i q p hq hmp heq))
        fun _ => hclient j hji]
      exact h.moving j q hq

omit [DecidableEq ι] in
/-- **A service of the server is called**, with a buffer that no operation uses. -/
theorem Shows.serve (h : mem.Shows designates m)
    (hfree : ∀ i operation, m.operation i = some operation →
      designates operation.remoteBuffer ≠ buffer) :
    (mem.fillServer buffer content).Shows designates (m.fillServer buffer content) where
  server := by
    intro b hb
    by_cases hbb : b = buffer
    · subst hbb
      rw [fillServer_server_same, fillServer_server_same]
    · rw [fillServer_server_other hbb, fillServer_server_other hbb]
      exact h.server b hb
  client := fun j hj => h.client j hj
  moving := by
    intro j q hq
    have hne := hfree j q hq
    have hsource : (m.fillServer buffer content).source designates j q = m.source designates j q :=
      source_congr (fun _ => rfl) fun _ => fillServer_server_other hne
    have htarget : ∀ m : Memory ι,
        (m.fillServer buffer content).target designates j q = m.target designates j q :=
      fun _ => target_congr (fun _ => fillServer_server_other hne) fun _ => rfl
    rw [hsource, htarget, htarget]
    exact h.moving j q hq

/-- **A service of a client is called**, while it has no operation in flight. -/
theorem Shows.handle (h : mem.Shows designates m) (hfree : m.operation i = none) :
    (mem.fillClient i content).Shows designates (m.fillClient i content) where
  server := fun b hb => h.server b hb
  client := by
    intro j hj
    by_cases hji : j = i
    · subst hji
      rw [fillClient_client_same, fillClient_client_same]
    · rw [fillClient_client_other hji, fillClient_client_other hji]
      exact h.client j hj
  moving := by
    intro j q hq
    have hne : j ≠ i := by
      rintro rfl
      cases hfree.symm.trans hq
    have hsource : (m.fillClient i content).source designates j q = m.source designates j q :=
      source_congr (fun _ => fillClient_client_other hne) fun _ => rfl
    have htarget : ∀ m : Memory ι,
        (m.fillClient i content).target designates j q = m.target designates j q :=
      fun _ => target_congr (fun _ => rfl) fun _ => fillClient_client_other hne
    rw [hsource, htarget, htarget]
    exact h.moving j q hq

/-- **An operation is submitted.** -/
theorem Shows.submit (h : mem.Shows designates m) (hfree : m.operation i = none)
    (ha : Memory.Alone designates
      { m with operation := Function.update m.operation i (some operation) }) :
    Memory.Shows designates
      { mem with
        operation := Function.update mem.operation i (some operation)
        landed := Function.update mem.landed i ∅ }
      { m with operation := Function.update m.operation i (some operation) } := by
  have hkept : ∀ j q, m.operation j = some q →
      j ≠ i ∧ Function.update m.operation i (some operation) j = some q := by
    intro j q hq
    have hne : j ≠ i := by
      rintro rfl
      cases hfree.symm.trans hq
    exact ⟨hne, (Function.update_of_ne hne ..).trans hq⟩
  constructor
  · exact fun b hb => h.server b fun j q hq => hb j q (hkept j q hq).2
  · exact fun j hj => h.client j fun q hq => hj q (hkept j q hq).2
  · intro j q hq
    by_cases hji : j = i
    · subst hji
      change Function.update m.operation j (some operation) j = some q at hq
      rw [Function.update_self] at hq
      cases hq
      have htarget : mem.target designates j operation = m.target designates j operation := by
        refine target_congr (fun ht => h.server _ fun k r hr hw heq => ?_) fun ht =>
          h.client j fun r hr => ?_
        · obtain ⟨hne, hupdated⟩ := hkept k r hr
          exact hne (ha k j r operation hupdated (Function.update_self ..) heq)
        · cases hfree.symm.trans hr
      change Transfer _ (m.target designates j operation) (Function.update mem.landed j ∅ j)
        (mem.target designates j operation)
      rw [Function.update_self, htarget]
      exact Transfer.start
    · change Transfer _ _ (Function.update mem.landed i ∅ j) _
      rw [Function.update_of_ne hji]
      exact h.moving j q ((Function.update_of_ne hji ..).symm.trans hq)

/-- **An operation is over**, and has left its target as it is. -/
theorem Shows.complete (h : mem.Shows designates m) (ha : m.Alone designates)
    (ho : m.operation i = some operation) :
    mem.Shows designates
      (m.carryOut designates i operation (mem.target designates i operation)) := by
  let m' := m.carryOut designates i operation (mem.target designates i operation)
  have hoperation : m'.operation = Function.update m.operation i none := rfl
  have hothers : ∀ j q, m'.operation j = some q → j ≠ i ∧ m.operation j = some q := by
    intro j q hq
    have hne : j ≠ i := by
      rintro rfl
      cases (Function.update_self ..).symm.trans hq
    exact ⟨hne, (Function.update_of_ne hne ..).symm.trans hq⟩
  have hkept : ∀ j q, m.operation j = some q →
      j = i ∧ q = operation ∨ m'.operation j = some q := by
    intro j q hq
    by_cases hji : j = i
    · subst hji
      exact .inl ⟨rfl, Option.some.inj (hq.symm.trans ho)⟩
    · exact .inr ((Function.update_of_ne hji ..).trans hq)
  have hserver : ∀ b, (operation.type = .write → b ≠ designates operation.remoteBuffer) →
      m'.server b = m.server b := fun b hb => carryOut_server hb
  have hclient : ∀ j, (operation.type = .read → j ≠ i) → m'.client j = m.client j :=
    fun j hj => carryOut_client hj
  constructor
  · intro b hb
    by_cases hown : operation.type = .write ∧ b = designates operation.remoteBuffer
    · obtain ⟨ht, rfl⟩ := hown
      rw [carryOut_write ht]
    · rw [hserver b fun ht heq => hown ⟨ht, heq⟩]
      refine h.server b fun j q hq hw heq => ?_
      rcases hkept j q hq with ⟨-, rfl⟩ | hq'
      · exact hown ⟨hw, heq.symm⟩
      · exact hb j q hq' hw heq
  · intro j hj
    by_cases hown : operation.type = .read ∧ j = i
    · obtain ⟨ht, rfl⟩ := hown
      rw [carryOut_read ht]
    · rw [hclient j fun ht heq => hown ⟨ht, heq⟩]
      refine h.client j fun q hq => ?_
      rcases hkept j q hq with ⟨rfl, rfl⟩ | hq'
      · cases ht : q.type with
        | write => rfl
        | read => exact absurd ⟨ht, rfl⟩ hown
      · exact hj q hq'
  · intro j q hq
    obtain ⟨hne, hold⟩ := hothers j q hq
    have hdiff : designates q.remoteBuffer ≠ designates operation.remoteBuffer :=
      fun heq => hne (ha j i q operation hold ho heq)
    rw [source_congr (fun _ => hclient j fun _ => hne) fun _ => hserver _ fun _ => hdiff,
      target_congr (fun _ => hserver _ fun _ => hdiff) fun _ => hclient j fun _ => hne]
    exact h.moving j q hold

omit [DecidableEq ι] in
/-- What a completed operation has left is what it may leave. -/
theorem Shows.leaves {err : error} (h : mem.Shows designates m) (ha : m.Alone designates)
    (ho : m.operation i = some operation) (hmem : mem.operation i = some operation)
    (harrived : err = none → mem.Arrived designates i) :
    m.Leaves designates i operation err (mem.target designates i operation) := by
  have hmoving := h.moving i operation ho
  unfold Leaves
  dsimp only
  split
  next hnone =>
    have hall : ∀ k < (m.source designates i operation).length, k ∈ mem.landed i := by
      rw [← h.source ha ho]
      exact harrived hnone operation hmem
    exact ⟨hmoving.room hall, hmoving.complete hall⟩
  next => exact hmoving.mixed

end Shows

end Memory

/-! ## 3. What is in the store -/

/-- An operation completes only well. -/
def StoreEvent.Succeeds : StoreEvent ι → Prop
  | completed _ err => err = none
  | _ => True

instance : (event : StoreEvent ι) → Decidable event.Succeeds
  | .completed _ err => inferInstanceAs (Decidable (err = none))
  | .served .. | .handled .. | .submitted .. => inferInstanceAs (Decidable True)

/-- **The events determine the store**, unless an operation fails. -/
theorem store_determined {designates : Bytes → ℕ} {es es' : List (StoreEvent ι × Bytes)}
    {m₀ m m' : Memory ι} (h : (store designates).Run m₀ es m)
    (h' : (store designates).Run m₀ es' m') (heq : es.map Prod.fst = es'.map Prod.fst)
    (hok : ∀ e ∈ es.map Prod.fst, e.Succeeds) : m = m' := by
  refine Machine.exec_determined Prod.fst StoreEvent.Succeeds ?_ hok heq (Machine.run_exec h)
    (Machine.run_exec h')
  rintro m ⟨event, left⟩ ⟨event', left'⟩ m₁ m₂ hsucceeds (rfl : event = event') h₁ h₂
  cases event with
  | completed i err =>
    obtain rfl : err = none := hsucceeds
    cases ho : m.operation i with
    | none => simp [store, Memory.storeStep, ho] at h₁
    | some operation =>
      simp only [store, Memory.storeStep, ho] at h₁ h₂
      obtain ⟨⟨-, rfl⟩, h₁⟩ := Option.ite_none_right_eq_some.mp h₁
      obtain ⟨⟨-, rfl⟩, h₂⟩ := Option.ite_none_right_eq_some.mp h₂
      exact Option.some.inj (h₁.symm.trans h₂)
  | _ => exact Option.some.inj (h₁.symm.trans h₂)

end DocaCpp
