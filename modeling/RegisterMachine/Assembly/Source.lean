import RegisterMachine.Assembly.Statement
import RegisterMachine.Program

/-!
# Assembly text

A program is assembled line by line: the instructions and the strings of its
lines, in their order.  The first line that is refused decides the fault.  That
there is no instruction at all is the fault of the last line, or of line zero in
a text without lines.

The listing of a program is assembly text: each string of the pool with its
number in a comment, then each instruction with its address.
-/

namespace RegisterMachine

namespace Assembly

/-- The statements of some lines, of which the first has the given number. -/
def statements : (number : Nat) → List (List Char) → Except AssemblyFault (List Statement)
  | _, [] => .ok []
  | number, line :: lines =>
    match Statement.ofLine line with
    | .ok statement => (statements (number + 1) lines).map (statement :: ·)
    | .error cause => .error ⟨number, cause⟩

/-- The address that a line of a listing begins with. -/
def addressText (address : Nat) : List Char :=
  Numeral.padded 4 (Numeral.decimal address) ++ [':']

/-- The two lines of a string in a listing: a comment with its number, and the directive. -/
def stringLines (string : String) (index : Nat) : List (List Char) :=
  ["; string ".toList ++ Numeral.decimal index, ".string ".toList ++ Text.quoted string.toList]

def instructionLine (instruction : Instruction) (address : Nat) : List Char :=
  addressText address ++ ' ' :: instruction.text

end Assembly

namespace Program

def assemble (source : String) : Except AssemblyFault Program :=
  let lines := Text.lines source.toList
  (Assembly.statements 1 lines).bind fun statements =>
  let instructions := (statements.filterMap Assembly.Statement.instruction?).toArray
  let strings := (statements.filterMap Assembly.Statement.string?).toArray
  if h : 0 < instructions.size then .ok ⟨instructions, strings, h⟩
  else .error ⟨lines.length, .emptyProgram⟩

/-- The lines of the listing of a program. -/
def listingLines (p : Program) : List (List Char) :=
  (p.strings.toList.zipIdx.flatMap fun (string, index) => Assembly.stringLines string index) ++
    p.instructions.toList.zipIdx.map fun (instruction, address) =>
      Assembly.instructionLine instruction address

/-- The listing of a program, in which each line is ended by a line feed. -/
def listing (p : Program) : String :=
  String.ofList (p.listingLines.flatMap (· ++ ['\n']))

end Program

end RegisterMachine
