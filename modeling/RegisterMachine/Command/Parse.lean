import RegisterMachine.Bench
import RegisterMachine.Command.Arguments
import RegisterMachine.Command.Assignment

/-!
# Commands

The commands of the command line with what they are asked to do.  The first
argument is the name of a command.  Arguments that do not fit it are a misuse,
for which there is no command.  If an assignment is at fault, then
`Command.assignmentFault?` tells which one, and why.
-/

namespace RegisterMachine

/-- How a program file is to be run. -/
structure RunRequest where
  path : String
  /-- The number of registers; what the program requires if it is not given. -/
  registers : Option UInt64 := none
  /-- The step limit; that of the settings if it is not given. -/
  stepLimit : Option UInt64 := none
  settings : Option String := none
  /-- The words to put in registers before the run. -/
  assignments : List Assignment := []
  /-- Whether to print the whole report, as JSON. -/
  json : Bool := false
deriving DecidableEq

inductive Command where
  | run (request : RunRequest)
  | fibonacci (n : UInt64)
  | multiplication (a b : UInt64)
  | assemble (source output : String)
  | disassemble (path : String)
  | bench (bench : Bench)
deriving DecidableEq

namespace Command

def runOptions (name : String) : Option OptionKind :=
  if name = "json" then some .flag
  else if name ∈ ["registers", "step-limit", "config", "set"] then some .valued
  else none

def benchOptions (name : String) : Option OptionKind :=
  if name ∈ ["jobs", "seed", "max-operand", "step-limit"] then some .valued else none

/-- The options of a command that has none. -/
def noOptions (_ : String) : Option OptionKind := none

def parseRun (arguments : Arguments) : Option Command := do
  let [path] := arguments.operands | none
  let path ← Arguments.path? path
  let registers ← arguments.single? "registers" Arguments.word?
  let stepLimit ← arguments.single? "step-limit" Arguments.word?
  let settings ← arguments.single? "config" Arguments.path?
  let assignments ← (arguments.values "set").mapM fun text => (Assignment.parse text).toOption
  let json ← arguments.flag? "json"
  return .run { path, registers, stepLimit, settings, assignments, json }

def parseBench (arguments : Arguments) : Option Command := do
  let [] := arguments.operands | none
  let jobs ← arguments.single? "jobs" Arguments.word?
  let seed ← arguments.single? "seed" Arguments.word?
  let maxOperand ← arguments.single? "max-operand" Arguments.word?
  let stepLimit ← arguments.single? "step-limit" Arguments.word?
  let usual : Bench := {}
  return .bench
    { jobs := (jobs.map UInt64.toNat).getD usual.jobs
      seed := seed.getD usual.seed
      maxOperand := maxOperand.getD usual.maxOperand
      stepLimit := stepLimit.or usual.stepLimit }

/-- Reads the arguments of a command without options. -/
def parseOperands (name : String) (operands : List String) : Option Command :=
  match name, operands with
  | "fib", [n] => (Arguments.word? n).map .fibonacci
  | "mul", [a, b] => do return .multiplication (← Arguments.word? a) (← Arguments.word? b)
  | "asm", [source, output] => do
    return .assemble (← Arguments.path? source) (← Arguments.path? output)
  | "disasm", [path] => (Arguments.path? path).map .disassemble
  | _, _ => none

def parse : List String → Option Command
  | [] => none
  | name :: rest =>
    if name = "run" then (Arguments.scan runOptions rest).bind parseRun
    else if name = "bench" then (Arguments.scan benchOptions rest).bind parseBench
    else (Arguments.scan noOptions rest).bind fun arguments => parseOperands name arguments.operands

/-- The first text given for an assignment that is none, and what is wrong with it. -/
def wrongAssignment? (arguments : Arguments) : Option (String × AssignmentFault) :=
  (arguments.values "set").findSome? fun text =>
    match Assignment.parse text with
    | .ok _ => none
    | .error fault => some (text, fault)

/-- The assignment that makes a command line a misuse, if one does. -/
def assignmentFault? : List String → Option (String × AssignmentFault)
  | [] => none
  | name :: rest =>
    if name = "run" then (Arguments.scan runOptions rest).bind wrongAssignment? else none

end Command

end RegisterMachine
