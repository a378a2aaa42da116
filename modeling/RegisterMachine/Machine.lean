import RegisterMachine.Execution.Run

/-!
# The machine

A machine is a register file and a loaded program.  The registers keep their
words from run to run, so that a host can put inputs there and read results.

A run may have a step limit.  One that uses it up fails.  A run without a limit
has as many steps as its 64-bit step counter can count, and if it has not ended
by then, it is `unfinished`, which says that the machine cannot tell how it ends.
-/

namespace RegisterMachine

/-- The result of a run that halted. -/
structure Report where
  /-- The word that the halting instruction returned. -/
  value : UInt64
  /-- The number of instructions executed, the halting one included. -/
  steps : Nat
deriving DecidableEq

def Report.json (report : Report) : String :=
  s!"\x7b\"value\":{report.value},\"steps\":{report.steps}\x7d"

/-- How a run ends. -/
inductive Ending where
  | halted (report : Report)
  | failed (fault : Fault)
  /-- Not at all, before a run without a limit had used up its step counter. -/
  | unfinished
deriving DecidableEq

/-- The ending of a run that stopped with a result or a fault after some steps. -/
def Ending.ofResult (steps : Nat) : Except Fault UInt64 → Ending
  | .ok value => .halted ⟨value, steps⟩
  | .error fault => .failed fault

structure Machine where
  registers : RegisterFile
  /-- The program that a run executes. -/
  program : Program

/-- A finished run: how it ended, and the machine and the sink that it left. -/
structure Run where
  ending : Ending
  machine : Machine
  sink : Sink

namespace Machine

/-- A machine with registers that are all zero and the program `ret r0`. -/
def new (registerCount : Nat) : Machine := ⟨.zeroed registerCount, .initial⟩

def registerCount (m : Machine) : Nat := m.registers.count

def loadProgram (m : Machine) (program : Program) : Machine := { m with program }

/-- Replaces the program by instructions with an empty pool, unless there are none. -/
def load (m : Machine) (instructions : Array Instruction) : Except Fault Machine :=
  (Program.ofInstructions instructions #[]).map m.loadProgram

def read (m : Machine) (index : UInt64) : Except Fault UInt64 := m.registers.get index

def write (m : Machine) (index word : UInt64) : Except Fault Machine :=
  (m.registers.set index word).map fun registers => { m with registers }

def resetRegisters (m : Machine) : Machine := { m with registers := m.registers.clear }

/-- The largest number of steps that a run without a limit can count. -/
def maxSteps : Nat := 18446744073709551615

/-- The number of steps that a run with the given limit may take. -/
def budget : Option UInt64 → Nat
  | some limit => limit.toNat
  | none => maxSteps

/-- The ending of a run that used up its budget. -/
def exhausted : Option UInt64 → Ending
  | some limit => .failed (.stepLimitExceeded limit)
  | none => .unfinished

/-- Where every run begins: at the first instruction. -/
def start (m : Machine) (sink : Sink) : Configuration := ⟨0, m.registers, sink⟩

/-- Runs the program from its first instruction with the given step limit. -/
def run (m : Machine) (limit : Option UInt64) (sink : Sink) : Run :=
  let program := m.program
  match program.run (budget limit) 0 (m.start sink) with
  | .unfinished c => ⟨exhausted limit, ⟨c.store.registers, program⟩, c.store.sink⟩
  | .finished steps result store =>
    ⟨.ofResult steps result, ⟨store.registers, program⟩, store.sink⟩

/-- Runs the program and then flushes the sink, however the run ended.  That the sink cannot
be flushed is the fault of a run that has none of its own. -/
def runFlushed (m : Machine) (limit : Option UInt64) (sink : Sink) : Run :=
  let result := m.run limit sink
  let (flushed, sink) := result.sink.flush
  let ending :=
    match result.ending, flushed with
    | .halted _, .error reason => .failed (.output reason)
    | ending, _ => ending
  { result with ending, sink }

end Machine

end RegisterMachine
