import RegisterMachine.Proofs.Execution.Dispatch
import Mathlib.Algebra.Order.Ring.Int

/-!
# Where jumps go

A jump by the displacement `d` has a target among the integers: `d` from its own place if `d` is
negative, else `d` from the place behind it.  It goes there if that is a place in the program,
and it leaves the program if not (`advance_jumpOffset`).  One displacement has no successor among
the signed 64-bit numbers, and its offset is too small by one.  That never shows, because both the
target and the place that the offset leads to are beyond any program of less than 2⁶³
instructions.

`jumpOffset` and `advance` compute over the integers.  `jumpOffset64` and `advance64` do the same
in 64-bit arithmetic, where a word is read with a sign, its successor saturates, and a signed
offset is added to an unsigned counter.  No step of it hides what another one does wrong: each
gives the integer that it stands for (`toInt_jumpOffset64`, `sum64?_eq_some_iff`).
-/

namespace RegisterMachine

/-! ## 64-bit arithmetic -/

/-- How far a jump by a word moves the counter, in 64-bit arithmetic. -/
def jumpOffset64 (word : UInt64) : Int64 :=
  let d := word.toInt64
  if d < 0 then d else if d = Int64.maxValue then d else d + 1

/-- The sum of a counter and a signed offset, unless it does not fit.  A negative offset is a
large word, and the unsigned sum with it has to wrap.  With any other offset it must not. -/
def sum64? (pc : UInt64) (offset : Int64) : Option UInt64 :=
  let sum := pc + offset.toUInt64
  if sum < pc ↔ offset < 0 then some sum else none

/-- Moves a counter within a program of the given length, in 64-bit arithmetic. -/
def advance64 (length pc : UInt64) (offset : Int64) : Option UInt64 :=
  (sum64? pc offset).filter (· < length)

theorem toInt_jumpOffset64 (word : UInt64) : (jumpOffset64 word).toInt = jumpOffset word := by
  have hd : word.toInt64.toInt = displacement word := rfl
  have hhigh : displacement word ≤ maxOffset := word.toInt64.toInt_le
  have hback : word.toInt64 < 0 ↔ displacement word < 0 := Int64.lt_iff_toInt_lt
  have hlargest : word.toInt64 = Int64.maxValue ↔ displacement word = maxOffset :=
    Int64.toInt_inj.symm
  simp only [jumpOffset64, jumpOffset]
  by_cases hneg : displacement word < 0
  · rw [if_pos (hback.2 hneg), if_pos hneg, hd]
  · rw [if_neg (mt hback.1 hneg), if_neg hneg]
    by_cases hmax : displacement word = maxOffset
    · rw [if_pos (hlargest.2 hmax), hd]
      omega
    · rw [if_neg (mt hlargest.1 hmax), Int64.toInt_add, Int64.toInt_one, hd]
      rw [maxOffset] at *
      rw [Int.bmod_eq_of_le (by omega) (by omega)]
      omega

/-- The sum of 64-bit numbers is that of the integers, and there is none if that does not fit. -/
theorem sum64?_eq_some_iff {pc next : UInt64} {offset : Int64} :
    sum64? pc offset = some next ↔ (next.toNat : Int) = pc.toNat + offset.toInt := by
  have hpc := pc.toNat_lt_size
  have hnext := next.toNat_lt_size
  have hword := offset.toUInt64.toNat_lt_size
  have hoffset := displacement_eq offset.toUInt64
  rw [displacement, Int64.toInt64_toUInt64] at hoffset
  simp only [sum64?, UInt64.lt_iff_toNat_lt, Int64.lt_iff_toInt_lt, Int64.toInt_zero,
    UInt64.toNat_add, Option.ite_none_right_eq_some, Option.some.injEq, ← UInt64.toNat_inj]
  simp only [UInt64.size] at *
  split at hoffset <;> omega

theorem map_advance64 (length pc : UInt64) (offset : Int64) :
    (advance64 length pc offset).map UInt64.toNat =
      advance length.toNat pc.toNat offset.toInt := by
  refine Option.ext fun n => ?_
  simp only [advance64, Option.map_eq_some_iff, Option.filter_eq_some_iff, sum64?_eq_some_iff,
    decide_eq_true_eq, UInt64.lt_iff_toNat_lt, advance_eq_some_iff]
  constructor
  · rintro ⟨next, hnext, rfl⟩
    exact hnext
  · rintro ⟨hn, hlt⟩
    have hfits : (UInt64.ofNat n).toNat = n :=
      UInt64.toNat_ofNat_of_lt' (Nat.lt_trans hlt length.toNat_lt)
    exact ⟨.ofNat n, by rw [hfits]; exact ⟨hn, hlt⟩, hfits⟩

/-! ## Targets -/

/-- Where a jump at a counter goes by a displacement, as an integer. -/
def jumpTarget (pc : Nat) (d : Int) : Int :=
  if d < 0 then pc + d else pc + d + 1

theorem jumpTarget_ne (pc : Nat) (d : Int) : jumpTarget pc d ≠ pc := by
  rw [jumpTarget]
  split <;> omega

theorem jumpOffset_eq (word : UInt64) :
    jumpOffset word =
      if displacement word < 0 then displacement word
      else if displacement word < maxOffset then displacement word + 1 else maxOffset := by
  rw [jumpOffset]
  split
  · rfl
  · split <;> omega

theorem add_jumpOffset (pc : Nat) {word : UInt64} (h : displacement word ≠ maxOffset) :
    pc + jumpOffset word = jumpTarget pc (displacement word) := by
  have hhigh : displacement word ≤ maxOffset := word.toInt64.toInt_le
  rw [jumpOffset_eq, jumpTarget]
  split
  · rfl
  · rw [if_pos (by omega), Int.add_assoc]

/-- A jump goes to its target or out of the program. -/
theorem advance_jumpOffset {length : Nat} (pc : Nat) (word : UInt64)
    (hlength : length < 2 ^ 63) :
    let target := jumpTarget pc (displacement word)
    advance length pc (jumpOffset word) =
      if 0 ≤ target ∧ target < length then some target.toNat else none := by
  intro target
  by_cases hmax : displacement word = maxOffset
  · -- The offset falls short of the target by one, and neither is in the program.
    have htarget : target = pc + maxOffset + 1 := by
      show jumpTarget pc (displacement word) = _
      rw [hmax, jumpTarget, if_neg (by decide)]
    have hoffset : jumpOffset word = maxOffset := by
      rw [jumpOffset_eq, hmax]
      decide
    rw [maxOffset] at *
    rw [if_neg (by omega), advance_eq_none_iff]
    omega
  · rw [advance, add_jumpOffset pc hmax]

/-! ## Jumps -/

namespace Instruction

variable {i : Instruction} {kind : OperandKind} {word : UInt64} {store : Store}

/-- A jump changes nothing but the counter. -/
theorem step_of_jump (strings : Array String) (length pc : Nat)
    (hopcode : i.opcode = .op .jmp kind) (hoperand : i.operand store.registers = .ok word) :
    i.step strings length ⟨pc, store⟩ =
      match advance length pc (jumpOffset word) with
      | some place => .running ⟨place, store⟩
      | none => .stopped (.error (.counterOutOfBounds pc (jumpOffset word) length)) store := by
  have heffect : i.effect store.registers strings = .ok (.move (jumpOffset word)) :=
    effect_of_operand hopcode hoperand
  rw [step_eq, dispatch_of_effect_eq_ok heffect]
  rfl

end Instruction

/-- With `d` the signed reading of a word, a jump by it at a place of a program goes to the
integer `d` from there, or from the next place if `d` is not negative, whenever that is a place of
the program too.  If it is not, then the jump stops the run, and the fault tells the offset, which
is the distance of the target but for the largest `d`.  No target is the place of the jump.  In
64-bit arithmetic the offset and the next place are the same. -/
theorem jump_goes_to_target (length pc : Nat) (word : UInt64) (hpc : pc < length)
    (hlength : length < 2 ^ 63) :
    let d : Int := if word.toNat < 2 ^ 63 then word.toNat else word.toNat - 2 ^ 64
    let target : Int := if d < 0 then pc + d else pc + d + 1
    let offset : Int := if d < 0 then d else if d < 2 ^ 63 - 1 then d + 1 else 2 ^ 63 - 1
    let next : Option Nat := if 0 ≤ target ∧ target < length then some target.toNat else none
    target ≠ pc ∧
      jumpOffset word = offset ∧ advance length pc (jumpOffset word) = next ∧
      (jumpOffset64 word).toInt = offset ∧
      (advance64 (.ofNat length) (.ofNat pc) (jumpOffset64 word)).map UInt64.toNat = next ∧
      ∀ (i : Instruction) (kind : OperandKind) (strings : Array String) (store : Store),
        i.opcode = .op .jmp kind → i.operand store.registers = .ok word →
        i.step strings length ⟨pc, store⟩ =
          match next with
          | some place => .running ⟨place, store⟩
          | none => .stopped (.error (.counterOutOfBounds pc offset length)) store := by
  intro d target offset next
  have hd : displacement word = d := displacement_eq word
  have htarget : jumpTarget pc (displacement word) = target := by
    rw [hd]
    rfl
  have hoffset : jumpOffset word = offset := by
    rw [jumpOffset_eq, hd]
    rfl
  have hnext : advance length pc (jumpOffset word) = next := by
    rw [advance_jumpOffset pc word hlength, htarget]
  have hwords : (UInt64.ofNat length).toNat = length ∧ (UInt64.ofNat pc).toNat = pc := by
    rw [UInt64.toNat_ofNat', UInt64.toNat_ofNat']
    omega
  refine ⟨?_, hoffset, hnext, ?_, ?_, ?_⟩
  · rw [← htarget]
    exact jumpTarget_ne pc _
  · rw [toInt_jumpOffset64, hoffset]
  · rw [map_advance64, toInt_jumpOffset64, hwords.1, hwords.2, hnext]
  · intro i kind strings store hopcode hoperand
    have hstep := Instruction.step_of_jump strings length pc hopcode hoperand
    rw [hnext, hoffset] at hstep
    exact hstep

/-- A jump back to the first instruction, and one by the largest displacement, which a register
holds, out of a program of one instruction. -/
theorem jump_goes_to_target_largest :
    let store : Store := ⟨.ofList [0, 9223372036854775807], .unbounded⟩
    2 < 4 ∧ 4 < 2 ^ 63 ∧
      (Instruction.jmpc (-2)).step #[] 4 ⟨2, store⟩ = .running ⟨0, store⟩ ∧
      (Instruction.jmp 1).step #[] 1 ⟨0, store⟩ =
        .stopped (.error (.counterOutOfBounds 0 9223372036854775807 1)) store := by
  intro store
  obtain ⟨-, -, -, -, -, hback⟩ :=
    jump_goes_to_target 4 2 18446744073709551614 (by decide) (by decide)
  obtain ⟨-, -, -, -, -, hout⟩ :=
    jump_goes_to_target 1 0 9223372036854775807 (by decide) (by decide)
  exact ⟨by decide, by decide, hback (.jmpc (-2)) .immediate #[] store rfl rfl,
    hout (.jmp 1) .register #[] store rfl rfl⟩

end RegisterMachine
