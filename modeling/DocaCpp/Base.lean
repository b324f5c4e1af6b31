/-
# What the sources share: errors, strings and the platform

`error` is a nullable pointer to an error object of the `errors` package, which is not part of
the repository.  The package's constructors are kept as constructors of `Err`; what it does with
a NULL argument of `errors::Wrap` is nowhere documented, so it stays a field of `Platform` and
every result below holds whatever it is.  The other field is the byte order of the machine, which
`std::memcpy` of a `uint32_t` exposes on the wire.
-/
import DocaCpp.Lib.ByteOrder

namespace DocaCpp

/-! ## 1. Errors -/

/-- The error objects the sources build. -/
inductive Err
  /-- `errors::New` -/
  | new (text : String)
  /-- `errors::Wrap` of an error -/
  | wrap (inner : Err) (text : String)
  /-- `errors::Join` -/
  | join (first second : Err)
  /-- `ErrorTypes::TimeoutExpired` -/
  | timeoutExpired
  /-- a DOCA error code, `doca::DocaError` -/
  | native (code : Nat)
  deriving DecidableEq, Repr

/-- The type `error`: null, or an error object. -/
abbrev error := Option Err

/-- What the sources leave to the machine and to the `errors` package. -/
class Platform where
  /-- the order of the bytes of a `uint32_t` in memory -/
  byteOrder : ByteOrder
  /-- `errors::Wrap(nullptr, text)` -/
  wrapNull : String → error

/-- `errors::Wrap`. -/
def wrap [Platform] (err : error) (text : String) : error :=
  match err with
  | some inner => some (.wrap inner text)
  | none => Platform.wrapNull text

/-- `errors::Is`: the error is the one asked for, or was made of it. -/
def Err.is : Err → Err → Bool
  | .wrap inner text, target => decide (Err.wrap inner text = target) || inner.is target
  | .join first second, target =>
    decide (Err.join first second = target) || first.is target || second.is target
  | err, target => decide (err = target)

/-- A little-endian machine, with an `errors::Wrap` that passes null through. -/
@[reducible] def Platform.littleEndian : Platform := ⟨.little, fun _ => none⟩

/-- `RdmaExecutor::timeoutExpired`, by the nanoseconds that have passed. -/
def timeoutExpired (elapsed timeout : Nat) : Bool :=
  if timeout = 0 then false else decide (timeout < elapsed)

/-- `asio::error_code`, by its message. -/
structure ErrorCode where
  message : String
  deriving DecidableEq, Repr

/-- The code of an operation that did not fail. -/
def ErrorCode.success : ErrorCode := ⟨"Success"⟩

/-! ## 2. Strings and words -/

/-- The bytes of an ASCII literal: `std::string` is a sequence of bytes. -/
def ascii (text : List Char) : Bytes := text.map fun c => UInt8.ofNat c.toNat

/-- `std::memcpy` of the `uint32_t` to which a size is cast. -/
def uint32Bytes [Platform] (n : Nat) : Bytes := Platform.byteOrder.encode 4 (n % 2 ^ 32)

/-- `std::memcpy` of four bytes to a `uint32_t`. -/
def uint32Of [Platform] (bs : Bytes) : Nat := Platform.byteOrder.decode bs

@[simp] theorem length_uint32Bytes [Platform] (n : Nat) : (uint32Bytes n).length = 4 :=
  ByteOrder.length_encode _ _ _

/-- A size survives the copy up to the cast. -/
@[simp] theorem uint32Of_uint32Bytes [Platform] (n : Nat) :
    uint32Of (uint32Bytes n) = n % 2 ^ 32 :=
  ByteOrder.decode_encode_of_lt _ (Nat.mod_lt _ (by decide))

theorem uint32Of_lt [Platform] {bs : Bytes} (h : bs.length = 4) : uint32Of bs < 2 ^ 32 := by
  have hlt := ByteOrder.decode_lt Platform.byteOrder bs
  rw [h] at hlt
  exact hlt

/-- Four bytes are the copy of the word they hold. -/
theorem uint32Bytes_uint32Of [Platform] {bs : Bytes} (h : bs.length = 4) :
    uint32Bytes (uint32Of bs) = bs := by
  have hb := ByteOrder.encode_decode Platform.byteOrder bs
  rw [h] at hb
  rw [uint32Bytes, Nat.mod_eq_of_lt (uint32Of_lt h)]
  exact hb

end DocaCpp
