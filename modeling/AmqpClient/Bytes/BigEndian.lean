/-!
# Big-endian numbers

Numbers as a fixed count of octets, the most significant first. Writing and reading undo each other.
-/

namespace AmqpClient.BigEndian

/-- How many numbers there are of so many octets. -/
def count : (width : Nat) → Nat
  | 0 => 1
  | width + 1 => count width * 256

/-- The lowest octets of a number, `width` of them. -/
def encode : (width : Nat) → Nat → List UInt8
  | 0, _ => []
  | width + 1, n => .ofNat (n / count width) :: encode width n

/-- The number that octets stand for. -/
def decode : List UInt8 → Nat
  | [] => 0
  | b :: rest => b.toNat * count rest.length + decode rest

theorem count_pos (width : Nat) : 0 < count width := by
  induction width with
  | zero => decide
  | succ width ih => simp only [count]; omega

@[simp] theorem length_encode (width n : Nat) : (encode width n).length = width := by
  induction width with
  | zero => rfl
  | succ width ih => simp [encode, ih]

theorem decode_lt (bytes : List UInt8) : decode bytes < count bytes.length := by
  induction bytes with
  | nil => simp [decode, count]
  | cons b rest ih =>
    have h : b.toNat * count rest.length ≤ 255 * count rest.length :=
      Nat.mul_le_mul_right _ (Nat.le_of_lt_succ b.toNat_lt)
    simp only [decode, List.length_cons, count]
    omega

theorem decode_encode_mod (width n : Nat) : decode (encode width n) = n % count width := by
  induction width with
  | zero => simp [encode, decode, count, Nat.mod_one]
  | succ width ih =>
    simp only [encode, decode, length_encode, ih, UInt8.toNat_ofNat', Nat.reducePow, count]
    rw [Nat.mul_comm, Nat.add_comm, Nat.mod_mul]

theorem decode_encode {width n : Nat} (h : n < count width) : decode (encode width n) = n := by
  rw [decode_encode_mod, Nat.mod_eq_of_lt h]

theorem encode_add_mul (width n k : Nat) : encode width (n + k * count width) = encode width n := by
  induction width generalizing k with
  | zero => rfl
  | succ width ih =>
    have h : n + k * count (width + 1) = n + k * 256 * count width := by
      rw [count, Nat.mul_comm (count width), ← Nat.mul_assoc]
    rw [h, encode, encode, ih, Nat.add_mul_div_right _ _ (count_pos width)]
    congr 1
    apply UInt8.toNat_inj.1
    simp only [UInt8.toNat_ofNat', Nat.reducePow]
    omega

theorem encode_decode (bytes : List UInt8) : encode bytes.length (decode bytes) = bytes := by
  induction bytes with
  | nil => rfl
  | cons b rest ih =>
    have hdiv : (b.toNat * count rest.length + decode rest) / count rest.length = b.toNat := by
      rw [Nat.add_comm, Nat.add_mul_div_right _ _ (count_pos _), Nat.div_eq_of_lt (decode_lt rest),
        Nat.zero_add]
    simp only [List.length_cons, encode, decode, hdiv]
    rw [Nat.add_comm, encode_add_mul, ih, UInt8.ofNat_toNat]

end AmqpClient.BigEndian
