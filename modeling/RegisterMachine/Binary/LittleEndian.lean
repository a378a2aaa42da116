/-!
# Little-endian numbers

A number of a fixed width is stored as its base-256 digits, the lowest first.

`decode_encode` and `encode_decode` say that the numbers below `capacity width`
and the byte sequences of length `width` determine each other.
-/

namespace RegisterMachine.LittleEndian

/-- The number of values that fit a width. -/
def capacity : (width : Nat) → Nat
  | 0 => 1
  | width + 1 => 256 * capacity width

/-- The lowest `width` bytes of a number, the lowest first. -/
def encode : (width : Nat) → Nat → List UInt8
  | 0, _ => []
  | width + 1, n => UInt8.ofNat n :: encode width (n / 256)

/-- The number that bytes stand for, the lowest first. -/
def decode : List UInt8 → Nat
  | [] => 0
  | byte :: bytes => byte.toNat + 256 * decode bytes

@[simp]
theorem length_encode (width n : Nat) : (encode width n).length = width := by
  induction width generalizing n with
  | zero => rfl
  | succ width ih => simp [encode, ih]

theorem decode_lt (bytes : List UInt8) : decode bytes < capacity bytes.length := by
  induction bytes with
  | nil => exact Nat.one_pos
  | cons byte bytes ih =>
    have := byte.toNat_lt
    simp only [decode, List.length_cons, capacity]
    omega

theorem decode_encode {width n : Nat} (h : n < capacity width) : decode (encode width n) = n := by
  induction width generalizing n with
  | zero => simp only [capacity] at h; simp only [encode, decode]; omega
  | succ width ih =>
    have hn : n / 256 < capacity width := Nat.div_lt_of_lt_mul h
    simp only [encode, decode, ih hn, UInt8.toNat_ofNat']
    omega

theorem encode_decode (bytes : List UInt8) : encode bytes.length (decode bytes) = bytes := by
  induction bytes with
  | nil => rfl
  | cons byte bytes ih =>
    have hb := byte.toNat_lt
    have hdiv : (byte.toNat + 256 * decode bytes) / 256 = decode bytes := by omega
    have hlow : UInt8.ofNat (byte.toNat + 256 * decode bytes) = byte := by
      apply UInt8.toNat_inj.1
      rw [UInt8.toNat_ofNat']
      omega
    simp only [decode, List.length_cons, encode, hdiv, hlow, ih]

end RegisterMachine.LittleEndian
