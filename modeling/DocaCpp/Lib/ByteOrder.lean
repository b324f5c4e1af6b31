/-
# Fixed-width integers as bytes, in either byte order

A machine that copies an unsigned integer into memory leaves its base-256 digits there, least
significant first or most significant first.  This file gives the two directions for any width
and proves them inverse to each other: `decode_encode` up to the reduction modulo `256 ^ w` that
a cast to the width performs, and `encode_decode` on every block of the width.

Nothing here knows what the bytes are for.
-/
import Mathlib.Algebra.Order.Ring.Nat
import Mathlib.Tactic.Ring

namespace DocaCpp

/-- A run of memory. -/
abbrev Bytes := List UInt8

/-- The order in which a machine stores the digits of an integer. -/
inductive ByteOrder
  | little
  | big
  deriving DecidableEq, Repr

namespace ByteOrder

/-! ## 1. Base-256 digits, least significant first -/

/-- The `w` low digits of `n`. -/
def digits : Nat → Nat → Bytes
  | 0, _ => []
  | w + 1, n => UInt8.ofNat n :: digits w (n / 256)

/-- The number a digit list denotes. -/
def value : Bytes → Nat
  | [] => 0
  | b :: bs => b.toNat + 256 * value bs

@[simp] theorem length_digits : ∀ (w n : Nat), (digits w n).length = w
  | 0, _ => rfl
  | w + 1, n => by simp [digits, length_digits w]

/-- `w` digits denote less than `256 ^ w`. -/
theorem value_lt : ∀ bs : Bytes, value bs < 256 ^ bs.length
  | [] => by simp [value]
  | b :: bs => by
    have hb : b.toNat < 256 := b.toNat_lt
    have ih := value_lt bs
    simp only [value, List.length_cons, pow_succ]
    omega

/-- Writing `w` digits and reading them back reduces modulo `256 ^ w`. -/
theorem value_digits : ∀ w n : Nat, value (digits w n) = n % 256 ^ w
  | 0, n => by simp [digits, value, Nat.mod_one]
  | w + 1, n => by
    have hb : (UInt8.ofNat n).toNat = n % 256 := UInt8.toNat_ofNat'
    simp only [digits, value, value_digits w, hb]
    rw [pow_succ' 256 w, Nat.mod_mul]

/-- Reading a block and writing it back gives the block. -/
theorem digits_value : ∀ bs : Bytes, digits bs.length (value bs) = bs
  | [] => rfl
  | b :: bs => by
    have hb : b.toNat < 256 := b.toNat_lt
    have hdiv : (b.toNat + 256 * value bs) / 256 = value bs := by omega
    simp only [List.length_cons, digits, value, hdiv, digits_value bs]
    congr 1
    apply UInt8.toNat_inj.mp
    simp only [UInt8.toNat_ofNat']
    omega

/-! ## 2. Either byte order -/

/-- `n` as `w` bytes of memory. -/
def encode (order : ByteOrder) (w n : Nat) : Bytes :=
  match order with
  | .little => digits w n
  | .big => (digits w n).reverse

/-- The unsigned integer a block of memory holds. -/
def decode (order : ByteOrder) (bs : Bytes) : Nat :=
  match order with
  | .little => value bs
  | .big => value bs.reverse

@[simp] theorem length_encode (order : ByteOrder) (w n : Nat) :
    (order.encode w n).length = w := by
  cases order <;> simp [encode]

theorem decode_lt (order : ByteOrder) (bs : Bytes) : order.decode bs < 256 ^ bs.length := by
  cases order
  · exact value_lt bs
  · simpa [decode] using value_lt bs.reverse

/-- **Decoding what was encoded** reduces to the width. -/
theorem decode_encode (order : ByteOrder) (w n : Nat) :
    order.decode (order.encode w n) = n % 256 ^ w := by
  cases order <;> simp [encode, decode, value_digits]

/-- A number that fits the width survives. -/
theorem decode_encode_of_lt (order : ByteOrder) {w n : Nat} (h : n < 256 ^ w) :
    order.decode (order.encode w n) = n := by
  rw [decode_encode, Nat.mod_eq_of_lt h]

/-- **Encoding what was decoded** gives the block back. -/
theorem encode_decode (order : ByteOrder) (bs : Bytes) :
    order.encode bs.length (order.decode bs) = bs := by
  cases order
  · exact digits_value bs
  · have h := digits_value bs.reverse
    rw [List.length_reverse] at h
    simp only [encode, decode, h, List.reverse_reverse]

/-! ## 3. The other byte order -/

/-- The number that the other byte order makes of `w` digits of `n`. -/
def swap (w n : Nat) : Nat := value (digits w n).reverse

/-- **Decoding in the other byte order** swaps the digits. -/
theorem decode_encode_of_ne {order other : ByteOrder} (h : order ≠ other) (w n : Nat) :
    other.decode (order.encode w n) = swap w n := by
  cases order <;> cases other
  · exact absurd rfl h
  · rfl
  · rfl
  · exact absurd rfl h

/-- Four digits that read the same backwards. -/
theorem swap_four_fixed {n : Nat} (h : swap 4 n = n) :
    ∃ a b, a < 256 ∧ b < 256 ∧ n = 16777217 * a + 65792 * b := by
  have hswap : swap 4 n = n / 256 / 256 / 256 % 256 + 256 * (n / 256 / 256 % 256)
      + 65536 * (n / 256 % 256) + 16777216 * (n % 256) := by
    simp only [swap, digits, value, List.reverse_cons, List.reverse_nil, List.nil_append,
      List.cons_append, UInt8.toNat_ofNat', Nat.reducePow]
    ring
  exact ⟨n % 256, n / 256 % 256, by omega, by omega, by omega⟩

end ByteOrder

end DocaCpp
