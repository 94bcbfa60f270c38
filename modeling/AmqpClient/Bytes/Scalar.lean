import AmqpClient.Bytes.BigEndian

/-!
# Scalars

The numbers of fixed width that are read and written: signed integers in two's complement, and
floating-point numbers by their bits, so that no bit pattern is lost.
-/

namespace AmqpClient

inductive ScalarType where
  | byte
  | short
  | int
  | long
  | float
  | double
  deriving DecidableEq, Repr

def ScalarType.width : ScalarType → Nat
  | byte => 1
  | short => 2
  | int => 4
  | long => 8
  | float => 4
  | double => 8

inductive Scalar where
  | byte (v : UInt8)
  | short (v : Int16)
  | int (v : Int32)
  | long (v : Int64)
  | float (bits : UInt32)
  | double (bits : UInt64)
  deriving DecidableEq, Repr

namespace Scalar

def type : Scalar → ScalarType
  | byte _ => .byte
  | short _ => .short
  | int _ => .int
  | long _ => .long
  | float _ => .float
  | double _ => .double

/-- The bits of a scalar as a number. -/
def bits : Scalar → Nat
  | byte v => v.toNat
  | short v => v.toUInt16.toNat
  | int v => v.toUInt32.toNat
  | long v => v.toUInt64.toNat
  | float bits => bits.toNat
  | double bits => bits.toNat

/-- The scalar of a type that has these bits. -/
def ofBits : ScalarType → Nat → Scalar
  | .byte, n => byte (.ofNat n)
  | .short, n => short (UInt16.ofNat n).toInt16
  | .int, n => int (UInt32.ofNat n).toInt32
  | .long, n => long (UInt64.ofNat n).toInt64
  | .float, n => float (.ofNat n)
  | .double, n => double (.ofNat n)

def encode (s : Scalar) : List UInt8 :=
  BigEndian.encode s.type.width s.bits

/-- The scalar of a type that octets stand for. -/
def decode (t : ScalarType) (bytes : List UInt8) : Scalar :=
  ofBits t (BigEndian.decode bytes)

@[simp] theorem length_encode (s : Scalar) : s.encode.length = s.type.width := by
  simp [encode]

@[simp] theorem type_ofBits (t : ScalarType) (n : Nat) : (ofBits t n).type = t := by
  cases t <;> rfl

@[simp] theorem type_decode (t : ScalarType) (bytes : List UInt8) : (decode t bytes).type = t :=
  type_ofBits t _

theorem bits_lt (s : Scalar) : s.bits < BigEndian.count s.type.width := by
  cases s with
  | byte v => exact v.toNat_lt
  | short v => exact v.toUInt16.toNat_lt
  | int v => exact v.toUInt32.toNat_lt
  | long v => exact v.toUInt64.toNat_lt
  | float bits => exact bits.toNat_lt
  | double bits => exact bits.toNat_lt

theorem ofBits_bits (s : Scalar) : ofBits s.type s.bits = s := by
  cases s <;> simp [ofBits, bits, type]

theorem bits_ofBits {t : ScalarType} {n : Nat} (h : n < BigEndian.count t.width) :
    (ofBits t n).bits = n := by
  cases t <;> simp_all [ofBits, bits, ScalarType.width, BigEndian.count]

theorem decode_encode (s : Scalar) : decode s.type s.encode = s := by
  rw [decode, encode, BigEndian.decode_encode s.bits_lt, ofBits_bits]

theorem encode_decode {t : ScalarType} {bytes : List UInt8} (h : bytes.length = t.width) :
    (decode t bytes).encode = bytes := by
  have hlt : BigEndian.decode bytes < BigEndian.count t.width := h ▸ BigEndian.decode_lt bytes
  rw [encode, type_decode, decode, bits_ofBits hlt, ← h, BigEndian.encode_decode]

end Scalar

end AmqpClient
