import RegisterMachine.Machine
import RegisterMachine.Sample
import RegisterMachine.Random.Xoshiro

/-!
# The benchmark

A benchmark draws a list of jobs from a seed, runs the sample program of each on
a machine of its own, and compares the result with plain arithmetic.
Multiplications and Fibonacci numbers take turns.  A job that does not halt
within the step limit counts as a mismatch and adds no steps.
-/

namespace RegisterMachine

/-- A sample program with its arguments. -/
inductive Job where
  | multiplication (a b : UInt64)
  | fibonacci (n : UInt64)
deriving DecidableEq

namespace Job

/-- The result by plain arithmetic. -/
def expected : Job → UInt64
  | .multiplication a b => a * b
  | .fibonacci n => Sample.fibonacciValue n

def program : Job → Program
  | .multiplication a b => Sample.multiplication a b
  | .fibonacci n => Sample.fibonacci n

/-- The number of registers of a job's machine. -/
def registerCount : Job → Nat
  | .multiplication _ _ => Sample.multiplicationRegisters
  | .fibonacci _ => Sample.fibonacciRegisters

/-- The steps that a job took, and whether its result is as expected. -/
def execute (job : Job) (limit : Option UInt64) : Nat × Bool :=
  let machine := (Machine.new job.registerCount).loadProgram job.program
  match (machine.run limit .unbounded).ending with
  | .halted report => (report.steps, report.value = job.expected)
  | .failed _ | .unfinished => (0, false)

end Job

structure Bench where
  jobs : Nat := 4096
  seed : UInt64 := 0
  maxOperand : UInt64 := 1000
  stepLimit : Option UInt64 := some 1048576
deriving DecidableEq

structure BenchReport where
  jobs : Nat
  steps : Nat
  mismatches : Nat
deriving DecidableEq

namespace Bench

/-- Draws the arguments of the job at a position: a multiplication at the even positions. -/
def drawJob (maxOperand : UInt64) (position : Nat) (g : Random.Xoshiro) : Job × Random.Xoshiro :=
  if position % 2 = 0 then
    let (a, g) := g.uniform maxOperand
    let (b, g) := g.uniform maxOperand
    (.multiplication a b, g)
  else
    let (n, g) := g.uniform maxOperand
    (.fibonacci n, g)

/-- Draws `count` jobs behind those drawn before. -/
def drawJobsFrom (maxOperand : UInt64) : (count : Nat) → Array Job → Random.Xoshiro → Array Job
  | 0, drawn, _ => drawn
  | count + 1, drawn, g =>
    let (job, g) := drawJob maxOperand drawn.size g
    drawJobsFrom maxOperand count (drawn.push job) g

def drawJobs (bench : Bench) : Array Job :=
  drawJobsFrom bench.maxOperand bench.jobs #[] (.ofSeed bench.seed)

def run (bench : Bench) : BenchReport :=
  let jobs := bench.drawJobs
  let results := jobs.map fun job => job.execute bench.stepLimit
  { jobs := jobs.size
    steps := results.foldl (fun steps result => steps + result.1) 0
    mismatches := results.countP fun result => !result.2 }

end Bench

end RegisterMachine
