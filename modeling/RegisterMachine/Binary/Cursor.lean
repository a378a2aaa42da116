import RegisterMachine.Binary.Fault
import RegisterMachine.Binary.LittleEndian
import RegisterMachine.Instruction

/-!
# Reading bytes

A cursor is what is left of an input, with the number of bytes before it.  Each
reader takes one field off the front.  If the input ends within the field, the
fault says where the field began and how many bytes it lacks.
-/

namespace RegisterMachine

/-- The part of an input that is still to be read. -/
structure Cursor where
  rest : List UInt8
  offset : Nat

namespace Cursor

def start (bytes : List UInt8) : Cursor := ⟨bytes, 0⟩

/-- Takes `count` bytes. -/
def bytes (count : Nat) (c : Cursor) : Except DecodeFault (List UInt8 × Cursor) :=
  let (front, rest) := c.rest.splitAt count
  if front.length = count then .ok (front, ⟨rest, c.offset + count⟩)
  else .error (.unexpectedEnd c.offset (count - front.length))

/-- Takes a little-endian number of the given width. -/
def number (width : Nat) (c : Cursor) : Except DecodeFault (Nat × Cursor) :=
  (c.bytes width).map fun (front, c) => (LittleEndian.decode front, c)

/-- Takes a length-prefixed string, the one with the given number. -/
def string (index : Nat) (c : Cursor) : Except DecodeFault (String × Cursor) :=
  (c.number 4).bind fun (length, c) =>
  (c.bytes length).bind fun (front, c) =>
  match String.fromUTF8? front.toByteArray with
  | some text => .ok (text, c)
  | none => .error (.invalidUtf8 index)

/-- Takes an instruction: a tag and two words. -/
def instruction (c : Cursor) : Except DecodeFault (Instruction × Cursor) :=
  (c.number 1).bind fun (tag, afterTag) =>
  match Opcode.ofTag? (UInt8.ofNat tag) with
  | none => .error (.invalidOpcode (UInt8.ofNat tag) c.offset)
  | some opcode =>
    (afterTag.number 8).bind fun (lhs, afterLeft) =>
    (afterLeft.number 8).bind fun (rhs, afterRight) =>
    .ok (⟨opcode, UInt64.ofNat lhs, UInt64.ofNat rhs⟩, afterRight)

/-- Takes `count` items behind those taken before.  The reader of an item is given its number. -/
def items {α : Type} (read : Nat → Cursor → Except DecodeFault (α × Cursor)) :
    (count : Nat) → Array α → Cursor → Except DecodeFault (Array α × Cursor)
  | 0, taken, c => .ok (taken, c)
  | count + 1, taken, c =>
    match read taken.size c with
    | .ok (item, c) => items read count (taken.push item) c
    | .error fault => .error fault

/-- Takes a 32-bit count and as many items. -/
def counted {α : Type} (read : Nat → Cursor → Except DecodeFault (α × Cursor)) (c : Cursor) :
    Except DecodeFault (Array α × Cursor) :=
  (c.number 4).bind fun (count, c) => items read count #[] c

theorem bytes_eq (count : Nat) (c : Cursor) :
    c.bytes count =
      if count ≤ c.rest.length then
        .ok (c.rest.take count, ⟨c.rest.drop count, c.offset + count⟩)
      else .error (.unexpectedEnd c.offset (count - c.rest.length)) := by
  have h : (c.rest.take count).length = min count c.rest.length := List.length_take
  simp only [bytes, List.splitAt_eq]
  by_cases hc : count ≤ c.rest.length
  · rw [if_pos (by omega), if_pos hc]
  · rw [if_neg (by omega), if_neg hc, h, Nat.min_eq_right (by omega)]

end Cursor

end RegisterMachine
