import RegisterMachine.Execution.Effect

/-!
# Steps and runs

A *configuration* is a program counter, the registers and the sink.
`Program.step` executes one instruction of a configuration, and `Program.run` as
many as a budget allows.  A run whose budget is used up is unfinished, which is
not a fault: what it means is for the caller to say.
-/

namespace RegisterMachine

/-- Where a run stands: the next instruction, the registers and the sink. -/
structure Configuration where
  pc : Nat
  store : Store

/-- What one step of a run leads to. -/
inductive Progress where
  | running (next : Configuration)
  /-- The run ended, with a result or a fault. -/
  | stopped (result : Except Fault UInt64) (store : Store)

/-- Executes an instruction of a program of the given length and pool, at the counter of a
configuration.  The value of a return is looked up when it has halted. -/
def Instruction.step (i : Instruction) (strings : Array String) (length : Nat)
    (c : Configuration) : Progress :=
  match i.dispatch strings c.store with
  | (.ok (.advance offset), store) =>
    match advance length c.pc offset with
    | some pc => .running ⟨pc, store⟩
    | none => .stopped (.error (.counterOutOfBounds c.pc offset length)) store
  | (.ok .halt, store) => .stopped (i.haltValue store.registers) store
  | (.error fault, store) => .stopped (.error fault) store

/-- Executes the next instruction of a configuration.

A counter outside the program has nothing to execute.  No run comes to such a counter,
since it starts inside and `advance` keeps it there. -/
def Program.step (p : Program) (c : Configuration) : Progress :=
  match p.fetch? c.pc with
  | some i => i.step p.strings p.length c
  | none => .stopped (.error (.counterOutOfBounds c.pc 0 p.length)) c.store

/-- What a run comes to within a budget of steps. -/
inductive Outcome where
  /-- The budget was used up first. -/
  | unfinished (c : Configuration)
  /-- The run ended after the given number of steps, the last one included. -/
  | finished (steps : Nat) (result : Except Fault UInt64) (store : Store)

/-- Executes at most `budget` instructions after the first `done` ones. -/
def Program.run (p : Program) (budget done : Nat) (c : Configuration) : Outcome :=
  match budget with
  | 0 => .unfinished c
  | budget + 1 =>
    match p.step c with
    | .running next => p.run budget (done + 1) next
    | .stopped result store => .finished (done + 1) result store

end RegisterMachine
