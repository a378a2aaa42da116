import RegisterMachine.Assembly.Source
import RegisterMachine.Binary.Format
import RegisterMachine.Command.Files
import RegisterMachine.Command.Parse
import RegisterMachine.Command.Path
import RegisterMachine.Settings

/-!
# Carrying out commands

A command reads and writes files and comes to an outcome: an exit code and what
it prints.  Everything that does not touch a file is a function of what was
read, such as `RunRequest.execute`.

The first thing that goes wrong ends a command, with a complaint on the error
output and the exit code 1.  What a program printed before that stays printed.
-/

namespace RegisterMachine

/-- What went wrong, and with what. -/
structure Complaint where
  context : String
  message : String
deriving DecidableEq

def Complaint.line (complaint : Complaint) : String :=
  s!"{complaint.context}: {complaint.message}\n"

/-- What a command comes to. -/
structure Exit where
  code : UInt32 := 0
  output : ByteArray := .empty
  errors : String := ""

namespace Exit

/-- A failure with some output before it. -/
def failure (complaint : Complaint) (output : ByteArray) : Exit :=
  { code := 1, output, errors := complaint.line }

def refusal (complaint : Complaint) : Exit := failure complaint .empty

end Exit

/-- A line of text in bytes, with its line feed. -/
def lineBytes (line : String) : ByteArray := (line ++ "\n").toUTF8

/-! ## Running machines -/

/-- The end of a run, or what is said of a run without one. -/
def Run.report (run : Run) : Except Complaint Report :=
  match run.ending with
  | .halted report => .ok report
  | .failed fault => .error ⟨"Execution failed", fault.message⟩
  | .unfinished => .error ⟨"Execution failed", "the step counter is used up"⟩

/-- Runs a machine on the standard output. -/
def Machine.execute (machine : Machine) (limit : Option UInt64) :
    Except Complaint Report × ByteArray :=
  let run := machine.runFlushed limit .unbounded
  (run.report, run.sink.taken)

/-- Puts words into registers, in the order of the assignments. -/
def Machine.assign (machine : Machine) : List Assignment → Except Fault Machine
  | [] => .ok machine
  | assignment :: assignments =>
    match machine.write assignment.index assignment.value with
    | .ok machine => machine.assign assignments
    | .error fault => .error fault

def RunRequest.machine (request : RunRequest) (program : Program) : Machine :=
  let count := (request.registers.map UInt64.toNat).getD program.defaultRegisterCount
  (Machine.new count).loadProgram program

/-- What is printed of the report of a run. -/
def RunRequest.shown (request : RunRequest) (report : Report) : String :=
  if request.json then report.json else toString report.value

/-- Runs a program as requested, under settings that the request takes precedence over. -/
def RunRequest.execute (request : RunRequest) (settings : Settings) (program : Program) : Exit :=
  match (request.machine program).assign request.assignments with
  | .error fault => .refusal ⟨"Invalid --set", fault.message⟩
  | .ok machine =>
    match machine.execute (request.stepLimit.or settings.stepLimit) with
    | (.error complaint, output) => .failure complaint output
    | (.ok report, output) => { output := output ++ lineBytes (request.shown report) }

/-- Runs a sample program on a machine with the given number of registers. -/
def Command.executeSample (program : Program) (registerCount : Nat) : Exit :=
  match ((Machine.new registerCount).loadProgram program).execute none with
  | (.error complaint, output) => .failure complaint output
  | (.ok report, output) =>
    { output := output ++ lineBytes (toString report.value)
      errors := s!"({report.steps} steps)\n" }

/-- What is said of a benchmark.  A mismatch makes it a failure. -/
def BenchReport.exit (report : BenchReport) : Exit where
  code := if report.mismatches = 0 then 0 else 1
  errors :=
    "Benchmark results:\n" ++
    s!"  Jobs:              {report.jobs}\n" ++
    s!"  Total steps:       {report.steps}\n" ++
    s!"  Mismatches:        {report.mismatches}\n"

/-! ## Files of programs and settings -/

namespace Command

/-- The program of a binary file's contents. -/
def readBinary (path : String) (bytes : ByteArray) : Except Complaint Program :=
  match Program.decode bytes.data.toList with
  | .ok program => .ok program
  | .error fault => .error ⟨path, fault.message⟩

/-- The program of an assembly file's contents. -/
def readSource (path : String) (text : String) : Except Complaint Program :=
  match Program.assemble text with
  | .ok program => .ok program
  | .error fault => .error ⟨path, fault.message⟩

/-- What is said of settings that cannot be read. -/
def settingsComplaint (path : String) : Complaint := ⟨path, "malformed settings"⟩

section Files

variable {m : Type → Type} [Monad m] [FileAccess m]

def loadSource (path : String) : m (Except Complaint Program) := do
  match ← FileAccess.readText path with
  | .ok text => return readSource path text
  | .error fault => return .error ⟨path, fault.message⟩

/-- Loads a program file, binary or assembly by its name. -/
def loadProgram (path : String) : m (Except Complaint Program) := do
  if Path.isBinary path then
    match ← FileAccess.read path with
    | .ok bytes => return readBinary path bytes
    | .error fault => return .error ⟨path, fault.message⟩
  else loadSource path

/-- Loads a settings file.  Without one there are no limits. -/
def loadSettings : Option String → m (Except Complaint Settings)
  | none => return .ok {}
  | some path => do
    match ← FileAccess.readText path with
    | .error fault => return .error ⟨path, fault.message⟩
    | .ok text =>
      match Settings.ofJson? text with
      | some settings => return .ok settings
      | none => return .error (settingsComplaint path)

/-- Carries out a run.  The settings are loaded before the program. -/
def performRun (request : RunRequest) : m Exit := do
  match ← loadSettings request.settings with
  | .error complaint => return .refusal complaint
  | .ok settings =>
    match ← loadProgram request.path with
    | .error complaint => return .refusal complaint
    | .ok program => return request.execute settings program

def performAssembly (source output : String) : m Exit := do
  match ← loadSource source with
  | .error complaint => return .refusal complaint
  | .ok program =>
    match program.encode with
    | .error fault => return .refusal ⟨"Encode failed", fault.message⟩
    | .ok bytes =>
      match ← FileAccess.write output bytes.toByteArray with
      | .error fault => return .refusal ⟨output, fault.message⟩
      | .ok () =>
        return { errors :=
          s!"Wrote {program.length} instructions, {program.strings.size} strings to {output}\n" }

def performListing (path : String) : m Exit := do
  match ← loadProgram path with
  | .error complaint => return .refusal complaint
  | .ok program => return { output := program.listing.toUTF8 }

def perform : Command → m Exit
  | .run request => performRun request
  | .fibonacci n => return executeSample (Sample.fibonacci n) Sample.fibonacciRegisters
  | .multiplication a b =>
    return executeSample (Sample.multiplication a b) Sample.multiplicationRegisters
  | .assemble source output => performAssembly source output
  | .disassemble path => performListing path
  | .bench plan => return plan.run.exit

def usage : String :=
  "usage: run PATH [--registers N] [--step-limit N] [--config FILE] [--set rI=V]... [--json]\n" ++
  "       fib N\n" ++
  "       mul A B\n" ++
  "       asm SOURCE OUTPUT\n" ++
  "       disasm PATH\n" ++
  "       bench [--jobs N] [--seed N] [--max-operand N] [--step-limit N]\n"

/-- What is said of a misuse. -/
def misuse (arguments : List String) : String :=
  match assignmentFault? arguments with
  | some (text, fault) => s!"invalid value '{text}' for '--set': {fault.message}\n" ++ usage
  | none => usage

/-- Carries out a command line.  The exit code of a misuse is 2. -/
def performLine (arguments : List String) : m Exit :=
  match parse arguments with
  | some command => command.perform
  | none => return { code := 2, errors := misuse arguments }

end Files

end Command

end RegisterMachine
