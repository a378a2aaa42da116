import RegisterMachine.Assembly.Operand

/-!
# Register assignments

An assignment such as `r2=10` gives a register a word before a run.  It is the
letter `r`, in either case, with a register number, an equals sign, and an
immediate operand of assembly text.  Unlike in assembly text, a plus sign may
precede the register number.
-/

namespace RegisterMachine

/-- Why a text is no assignment. -/
inductive AssignmentFault where
  | missingEquals (text : String)
  /-- What stands before the first equals sign is no register. -/
  | invalidRegister (name : String)
  /-- What stands behind it is no immediate operand. -/
  | invalidValue (cause : LineFault)
deriving DecidableEq

def AssignmentFault.message : AssignmentFault → String
  | .missingEquals text => s!"Invalid assignment '{text}', expected rI=V (e.g. r2=10)"
  | .invalidRegister name => s!"Invalid register '{name}'"
  | .invalidValue cause => cause.message

/-- A word for a register. -/
structure Assignment where
  index : UInt64
  value : UInt64
deriving DecidableEq

namespace Assignment

/-- The number of the register that an assignment names. -/
def register? : List Char → Option UInt64
  | 'r' :: digits => Numeral.word? 10 (Numeral.withoutPlus digits)
  | 'R' :: digits => Numeral.word? 10 (Numeral.withoutPlus digits)
  | _ => none

def ofParts (name value : List Char) : Except AssignmentFault Assignment :=
  match register? name with
  | none => .error (.invalidRegister (String.ofList name))
  | some index =>
    match Assembly.readImmediate value with
    | .ok value => .ok ⟨index, value⟩
    | .error cause => .error (.invalidValue cause)

/-- Reads an assignment, which falls apart at its first equals sign. -/
def parse (text : String) : Except AssignmentFault Assignment :=
  let name := text.toList.takeWhile (· ≠ '=')
  match text.toList.dropWhile (· ≠ '=') with
  | [] => .error (.missingEquals text)
  | _ :: value => ofParts name value

end Assignment

end RegisterMachine
