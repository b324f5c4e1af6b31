/-
# One direction of a stream connection

A `Channel` carries elements from one writer to one reader, in order and with any delay.  The
writer hands over a whole buffer at a time and the reader asks for a whole buffer at a time, but
neither call is atomic: the elements of a pending write become visible one by one (`push`), and a
pending read collects them one by one (`fetch`).  A write or a read that is completed has moved its
whole buffer; one that is cut short has moved a part of it, and what a read has collected by then
is lost to the reader for good.

`written` never shrinks, so what is said of a position in the stream stays true.  The readers of
this file use `Channel.finish_slice`: a completed read returns that part of the stream which
begins where the last read ended, also when the stream is known only as a beginning of something
longer.  The last section has the two calls when nothing cuts them short.
-/
import Mathlib.Data.List.Basic

namespace DocaCpp

/-- One direction of a connection. -/
structure Channel (α : Type*) where
  /-- everything the reader can see or has seen -/
  written : List α := []
  /-- how much of the buffer of the pending write is visible -/
  pushed : ℕ := 0
  /-- how much of the stream earlier reads have used up -/
  consumed : ℕ := 0
  /-- how much the pending read has collected beyond that -/
  taken : ℕ := 0
  /-- the writing end is closed -/
  closed : Bool := false
  /-- a read has failed because of it -/
  dead : Bool := false
  bounded : consumed + taken ≤ written.length := by simp
  idle : dead = true → taken = 0 := by simp

namespace Channel

variable {α : Type*} {c c' : Channel α} {bs : List α} {size : ℕ}

theorem bounded_fresh : 0 + 0 ≤ ([] : List α).length := Nat.le_refl 0

theorem idle_fresh : false = true → 0 = 0 := fun _ => rfl

/-- A connection over which nothing has gone. -/
def fresh : Channel α := { bounded := bounded_fresh, idle := idle_fresh }

/-! ## The writer -/

/-- One more element of the buffer of the pending write. -/
def push (c : Channel α) (bs : List α) : Option (Channel α) :=
  match bs[c.pushed]? with
  | none => none
  | some b =>
    some { c with
      written := c.written ++ [b]
      pushed := c.pushed + 1
      bounded := by
        rw [List.length_append]
        exact Nat.le_trans c.bounded (Nat.le_add_right _ _) }

/-- The pending write is complete. -/
def wrote (c : Channel α) (bs : List α) : Option (Channel α) :=
  if c.pushed = bs.length then some { c with pushed := 0 } else none

/-- The pending write is cut short. -/
def unwrote (c : Channel α) (bs : List α) : Option (Channel α) :=
  if c.pushed < bs.length then some { c with pushed := 0 } else none

/-- The writer closes its end. -/
def close (c : Channel α) : Channel α := { c with closed := true }

theorem push_inv (h : c.push bs = some c') :
    (∀ done, c.written = done ++ bs.take c.pushed → c'.written = done ++ bs.take c'.pushed) ∧
      c'.pushed = c.pushed + 1 ∧ c'.pushed ≤ bs.length ∧ c.written <+: c'.written ∧
      c'.consumed = c.consumed ∧ c'.dead = c.dead ∧ c'.closed = c.closed := by
  unfold push at h
  split at h
  · cases h
  · rename_i b hb
    cases h
    obtain ⟨hlt, rfl⟩ := List.getElem?_eq_some_iff.mp hb
    refine ⟨fun done hw => ?_, rfl, hlt, List.prefix_append _ _, rfl, rfl, rfl⟩
    simp only [hw, List.append_assoc, List.take_succ_eq_append_getElem hlt]

theorem push_taken (h : c.push bs = some c') : c'.taken = c.taken := by
  unfold push at h
  split at h
  · cases h
  · cases h
    rfl

theorem wrote_inv (h : c.wrote bs = some c') :
    c.pushed = bs.length ∧ c' = { c with pushed := 0 } := by
  unfold wrote at h
  split at h
  · exact ⟨by assumption, (Option.some.inj h).symm⟩
  · cases h

theorem unwrote_inv (h : c.unwrote bs = some c') : c' = { c with pushed := 0 } := by
  unfold unwrote at h
  split at h
  · exact (Option.some.inj h).symm
  · cases h

/-! ## The reader -/

/-- The pending read collects one more element. -/
def fetch (c : Channel α) (size : ℕ) : Option (Channel α) :=
  if h : c.dead = false ∧ c.taken < size ∧ c.consumed + c.taken < c.written.length then
    some { c with
      taken := c.taken + 1
      bounded := h.2.2
      idle := fun hd => absurd (h.1.symm.trans hd) Bool.false_ne_true }
  else none

/-- The pending read is complete. -/
def finish (c : Channel α) (size : ℕ) : Option (List α × Channel α) :=
  if c.taken = size then
    some ((c.written.drop c.consumed).take size,
      { c with
        consumed := c.consumed + c.taken
        taken := 0
        bounded := c.bounded
        idle := fun _ => rfl })
  else none

/-- The pending read is cut short, and what it has collected is lost. -/
def cut (c : Channel α) (size : ℕ) : Option (Channel α) :=
  if c.taken < size then
    some { c with
      consumed := c.consumed + c.taken
      taken := 0
      bounded := c.bounded
      idle := fun _ => rfl }
  else none

/-- The pending read fails because the other end is closed, as every later one will. -/
def fail (c : Channel α) (size : ℕ) : Option (Channel α) :=
  if c.closed = true ∧ c.taken < size then
    some { c with
      consumed := c.consumed + c.taken
      taken := 0
      dead := true
      bounded := c.bounded
      idle := fun _ => rfl }
  else none

theorem fetch_inv (h : c.fetch size = some c') :
    c'.written = c.written ∧ c'.pushed = c.pushed ∧ c'.consumed = c.consumed ∧
      c'.dead = c.dead ∧ c'.closed = c.closed := by
  unfold fetch at h
  split at h
  · cases h
    exact ⟨rfl, rfl, rfl, rfl, rfl⟩
  · cases h

theorem finish_inv (h : c.finish size = some (bs, c')) :
    bs = (c.written.drop c.consumed).take size ∧ c.consumed + size ≤ c.written.length ∧
      (0 < size → c.dead = false) ∧ c'.consumed = c.consumed + size ∧ c'.written = c.written ∧
      c'.pushed = c.pushed ∧ c'.dead = c.dead ∧ c'.closed = c.closed := by
  unfold finish at h
  split at h
  · rename_i ht
    cases h
    have hb := c.bounded
    rw [ht] at hb
    refine ⟨rfl, hb, fun hpos => ?_, by simp only [ht], rfl, rfl, rfl, rfl⟩
    by_contra hd
    have := c.idle (by simpa using hd)
    omega
  · cases h

/-- **A completed read returns the next part of the stream**, of which `c.written` may be only a
beginning. -/
theorem finish_slice {stream : List α} (h : c.finish size = some (bs, c'))
    (hs : c.written <+: stream) :
    bs = (stream.drop c.consumed).take size ∧ c.consumed + size ≤ stream.length ∧
      bs.length = size := by
  obtain ⟨rest, rfl⟩ := hs
  obtain ⟨rfl, hle, -⟩ := finish_inv h
  refine ⟨?_, ?_, ?_⟩
  · rw [List.drop_append_of_le_length (by omega), List.take_append_of_le_length]
    rw [List.length_drop]
    omega
  · rw [List.length_append]
    omega
  · rw [List.length_take, List.length_drop]
    omega

theorem cut_inv (h : c.cut size = some c') :
    c.taken < size ∧ c'.consumed = c.consumed + c.taken ∧ c'.written = c.written ∧
      c'.pushed = c.pushed ∧ c'.dead = c.dead ∧ c'.closed = c.closed := by
  unfold cut at h
  split at h
  · rename_i ht
    cases h
    exact ⟨ht, rfl, rfl, rfl, rfl, rfl⟩
  · cases h

theorem fail_inv (h : c.fail size = some c') :
    (c.closed = true ∧ c.taken < size) ∧ c'.consumed = c.consumed + c.taken ∧
      c'.written = c.written ∧ c'.pushed = c.pushed ∧ c'.dead = true ∧ c'.closed = c.closed := by
  unfold fail at h
  split at h
  · rename_i hc
    cases h
    exact ⟨hc, rfl, rfl, rfl, rfl, rfl⟩
  · cases h

theorem cut_taken (h : c.cut size = some c') : c'.taken = 0 := by
  unfold cut at h
  split at h
  · cases h
    rfl
  · cases h

theorem fail_taken (h : c.fail size = some c') : c'.taken = 0 := by
  unfold fail at h
  split at h
  · cases h
    rfl
  · cases h

theorem finish_taken (h : c.finish size = some (bs, c')) : c.taken = size ∧ c'.taken = 0 := by
  unfold finish at h
  split at h
  next ht =>
    cases h
    exact ⟨ht, rfl⟩
  next => cases h

/-! ## Whole buffers -/

section Whole

variable {rest : List α} {b : α} {n : ℕ}

/-- The stream with this much more of the buffer of the pending write. -/
def extend (c : Channel α) (bs : List α) : Channel α :=
  { c with
    written := c.written ++ bs
    pushed := c.pushed + bs.length
    bounded := by
      rw [List.length_append]
      exact Nat.le_trans c.bounded (Nat.le_add_right _ _) }

theorem push_eq (h : bs.drop c.pushed = b :: rest) : c.push bs = some (c.extend [b]) := by
  have hb : bs[c.pushed]? = some b := by
    rw [← List.head?_drop, h]
    rfl
  simp [push, hb, extend]

theorem extend_extend (bs bs' : List α) : (c.extend bs).extend bs' = c.extend (bs ++ bs') := by
  simp [extend, Nat.add_assoc]

/-- The stream with a buffer written to it. -/
def append (c : Channel α) (bs : List α) : Channel α := { c.extend bs with pushed := 0 }

theorem wrote_extend (h : c.pushed = 0) : (c.extend bs).wrote bs = some (c.append bs) := by
  simp [wrote, append, extend, h]

/-- The stream when the pending read has collected this much. -/
def collect (c : Channel α) (n : ℕ) (h : c.consumed + n ≤ c.written.length)
    (hdead : c.dead = false) : Channel α :=
  { c with
    taken := n
    bounded := h
    idle := fun hd => absurd (hdead.symm.trans hd) Bool.false_ne_true }

/-- The stream when a read has used up this much more. -/
def advance (c : Channel α) (n : ℕ) (h : c.consumed + n ≤ c.written.length) : Channel α :=
  { c with
    consumed := c.consumed + n
    taken := 0
    bounded := h
    idle := fun _ => rfl }

theorem advance_advance {m : ℕ} (h : c.consumed + n ≤ c.written.length)
    (h' : c.consumed + n + m ≤ c.written.length) :
    (c.advance n h).advance m h' = c.advance (n + m) (by rwa [← Nat.add_assoc]) := by
  simp [advance, Nat.add_assoc]

theorem collect_zero {h : c.consumed + 0 ≤ c.written.length} {hdead : c.dead = false}
    (htaken : c.taken = 0) : c.collect 0 h hdead = c := by
  obtain ⟨written, pushed, consumed, taken, closed, dead, bounded, idle⟩ := c
  obtain rfl : taken = 0 := htaken
  rfl

theorem fetch_collect {h : c.consumed + n ≤ c.written.length} {hdead : c.dead = false}
    (hn : n < size) (h' : c.consumed + (n + 1) ≤ c.written.length) :
    (c.collect n h hdead).fetch size = some (c.collect (n + 1) h' hdead) := by
  have hlt : c.consumed + n < c.written.length := h'
  simp [fetch, collect, hdead, hn, hlt]

theorem finish_collect {h : c.consumed + size ≤ c.written.length} {hdead : c.dead = false}
    (hbs : bs <+: c.written.drop c.consumed) (hlen : bs.length = size) :
    (c.collect size h hdead).finish size = some (bs, c.advance size h) := by
  have htake : (c.written.drop c.consumed).take size = bs := by
    rw [← hlen]
    exact (List.prefix_iff_eq_take.mp hbs).symm
  simp [finish, collect, advance, htake]

end Whole

end Channel

end DocaCpp
