import RegisterMachine.Text.Quoted

/-!
# Faults of assembly text

The causes for which a line of assembly text is refused, and the number of the
line.  Words of the text are shown in quotes.
-/

namespace RegisterMachine

/-- Why a line of assembly text is refused. -/
inductive LineFault where
  /-- The first word is not a mnemonic. -/
  | unknownMnemonic (word : String)
  | arityMismatch (mnemonic : String) (expected actual : Nat)
  | expectedRegister (word : String)
  | invalidImmediate (word : String)
  | unknownDirective (name : String)
  /-- The string directive is not followed by one string literal. -/
  | malformedString
  /-- The text ends without an instruction. -/
  | emptyProgram
deriving DecidableEq

/-- Why assembly text is refused, and where. -/
structure AssemblyFault where
  /-- The line that is refused, counted from one.  A text without an instruction is refused at its
  last line, and at line zero if it has none. -/
  line : Nat
  cause : LineFault
deriving DecidableEq

def LineFault.message : LineFault → String
  | .unknownMnemonic word => "unknown mnemonic " ++ Text.quote word
  | .arityMismatch mnemonic expected actual =>
    s!"{mnemonic} expects {expected} operand(s), got {actual}"
  | .expectedRegister word => "expected register, got " ++ Text.quote word
  | .invalidImmediate word => "invalid immediate " ++ Text.quote word
  | .unknownDirective name => "unknown directive " ++ Text.quote name
  | .malformedString => "malformed string literal"
  | .emptyProgram => "program contains no instructions"

def AssemblyFault.message (fault : AssemblyFault) : String :=
  let cause := fault.cause.message
  s!"line {fault.line}: {cause}"

end RegisterMachine
