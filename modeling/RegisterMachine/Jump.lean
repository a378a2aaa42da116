/-!
# Jumps

A jump moves the program counter by a displacement, which is a word read as a
signed number.  A negative displacement counts back from the jump itself.  Any
other counts forward from the instruction after the jump, so the displacement
zero is the next instruction and no jump can go to itself.

`jumpOffset_ne_zero` says the latter.  `advance_eq_some_iff` says that the
counter moves exactly where integer arithmetic puts it, and that it moves only
within the program.
-/

namespace RegisterMachine

/-- A word read as a signed number in two's complement. -/
def displacement (word : UInt64) : Int := word.toInt64.toInt

/-- The largest offset that a jump can ask for. -/
def maxOffset : Int := 9223372036854775807

/-- How far a jump by a word moves the counter, counted from the jump. -/
def jumpOffset (word : UInt64) : Int :=
  let d := displacement word
  if d < 0 then d else min (d + 1) maxOffset

/-- Moves a counter within a program of the given length, or reports that it would leave it. -/
def advance (length pc : Nat) (offset : Int) : Option Nat :=
  let target := (pc : Int) + offset
  if 0 ≤ target ∧ target < length then some target.toNat else none

/-- The signed reading of a word from the middle on is the word less 2⁶⁴. -/
theorem displacement_eq (word : UInt64) :
    displacement word =
      if word.toNat < 9223372036854775808 then (word.toNat : Int)
      else (word.toNat : Int) - UInt64.size := by
  have hw := word.toNat_lt_size
  have e : displacement word = (word.toNat : Int).bmod UInt64.size := by
    rw [displacement, ← Int64.toInt_toBitVec, UInt64.toBitVec_toInt64, BitVec.toInt_eq_toNat_bmod]
    rfl
  rw [e, Int.bmod, UInt64.size] at *
  split <;> split <;> omega

theorem jumpOffset_ne_zero (word : UInt64) : jumpOffset word ≠ 0 := by
  simp only [jumpOffset, maxOffset]
  split <;> omega

theorem advance_eq_some_iff {length pc next : Nat} {offset : Int} :
    advance length pc offset = some next ↔ (next : Int) = pc + offset ∧ next < length := by
  simp only [advance]
  split
  · rw [Option.some.injEq]; omega
  · simp only [reduceCtorEq, false_iff]; omega

theorem advance_eq_none_iff {length pc : Nat} {offset : Int} :
    advance length pc offset = none ↔ (pc : Int) + offset < 0 ∨ (length : Int) ≤ pc + offset := by
  simp only [advance]
  split
  · simp only [reduceCtorEq, false_iff]; omega
  · simp only [true_iff]; omega

end RegisterMachine
