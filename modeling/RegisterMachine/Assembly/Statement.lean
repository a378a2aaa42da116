import RegisterMachine.Assembly.Literal
import RegisterMachine.Assembly.Operand
import RegisterMachine.Text.Pieces

/-!
# Lines of assembly text

A line is a directive if it begins with a point.  The only directive is
`.string`, which adds a literal to the pool.  Any other line holds at most one
instruction, before the semicolon of a comment.  Blanks and commas part its
words, and an address such as `0004:` may come first.
-/

namespace RegisterMachine.Assembly

/-- What a line says. -/
inductive Statement where
  | blank
  | text (string : String)
  | code (instruction : Instruction)
deriving DecidableEq

/-- Whether a character parts the words of a line. -/
def isSeparator (c : Char) : Bool := c = ',' || Text.isBlank c

/-- Whether a word is an address: decimal digits and a colon. -/
def isAddress (word : List Char) : Bool :=
  let digits := word.dropLast
  word.getLast? = some ':' && !digits.isEmpty && digits.all (Numeral.isDigit 10)

/-- The words of a line without the address they may begin with. -/
def withoutAddress : List (List Char) → List (List Char)
  | [] => []
  | word :: words => if isAddress word then words else word :: words

/-- Reads an instruction from its mnemonic and its operands, left to right. -/
def readInstruction (mnemonic : List Char) (operands : List (List Char)) :
    Except LineFault Instruction :=
  match Opcode.ofMnemonic? mnemonic with
  | none => .error (.unknownMnemonic (String.ofList mnemonic))
  | some opcode =>
    match opcode.shape, operands with
    | .nullary, [] => .ok ⟨opcode, 0, 0⟩
    | .unary, [operand] => (readOperand opcode.kind operand).map fun rhs => ⟨opcode, 0, rhs⟩
    | .binary, [register, operand] =>
      (readRegister register).bind fun lhs =>
      (readOperand opcode.kind operand).map fun rhs => ⟨opcode, lhs, rhs⟩
    | shape, _ => .error (.arityMismatch opcode.mnemonic shape.arity operands.length)

namespace Statement

/-- Reads a line that begins with a point, from behind it. -/
def ofDirective (directive : List Char) : Except LineFault Statement :=
  let name := directive.takeWhile (!Text.isBlank ·)
  if name = "string".toList then
    match literal? (directive.dropWhile (!Text.isBlank ·)) with
    | some string => .ok (.text string)
    | none => .error .malformedString
  else .error (.unknownDirective (String.ofList name))

/-- Reads the words of a line that is not a directive. -/
def ofWords (words : List (List Char)) : Except LineFault Statement :=
  match withoutAddress words with
  | [] => .ok .blank
  | mnemonic :: operands => (readInstruction mnemonic operands).map .code

def ofLine (line : List Char) : Except LineFault Statement :=
  match Text.trimStart line with
  | '.' :: directive => ofDirective directive
  | trimmed => ofWords (Text.words isSeparator (trimmed.takeWhile (· ≠ ';')))

def instruction? : Statement → Option Instruction
  | .code instruction => some instruction
  | .blank | .text _ => none

def string? : Statement → Option String
  | .text string => some string
  | .blank | .code _ => none

end Statement

end RegisterMachine.Assembly
