import RegisterMachine.Opcode

/-!
# Faults

The causes for which the machine refuses an access, a program or the rest of a
run, each with what is needed to tell where.  `Fault.message` is the wording.
-/

namespace RegisterMachine

/-- Why an access, a load or a run failed. -/
inductive Fault where
  /-- A register beyond the register file was named. -/
  | registerOutOfBounds (index : UInt64) (count : Nat)
  /-- The instruction at `pc` would move the counter out of the program. -/
  | counterOutOfBounds (pc : Nat) (offset : Int) (length : Nat)
  | divisionByZero
  /-- The run ended at an instruction that is no return, so it has no result. -/
  | unexpectedHaltOpcode (opcode : Opcode)
  /-- The run used up its step limit before it halted. -/
  | stepLimitExceeded (limit : UInt64)
  /-- A string beyond the pool was to be printed. -/
  | stringOutOfBounds (index : UInt64) (count : Nat)
  /-- The sink did not take the output, for the given reason. -/
  | output (reason : String)
  /-- A program without instructions was to be loaded. -/
  | emptyProgram
deriving DecidableEq

def Fault.message : Fault → String
  | .registerOutOfBounds index count => s!"register r{index} out of bounds ({count} registers)"
  | .counterOutOfBounds pc offset length =>
    s!"program counter {pc} advanced by {offset} leaves the program ({length} instructions)"
  | .divisionByZero => "division by zero"
  | .unexpectedHaltOpcode opcode =>
    let mnemonic := opcode.mnemonic
    s!"execution halted on non-halting opcode {mnemonic}"
  | .stepLimitExceeded limit => s!"step limit exceeded (limit {limit})"
  | .stringOutOfBounds index count =>
    s!"string {index} out of bounds ({count} strings in pool)"
  | .output reason => s!"failed to write program output: {reason}"
  | .emptyProgram => "cannot load an empty program"

end RegisterMachine
