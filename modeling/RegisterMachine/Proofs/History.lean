import RegisterMachine.Proofs.Execution.Course
import RegisterMachine.Proofs.Registers

/-!
# Histories of a machine

A host works with a machine by requests: it loads, writes, resets and runs.  A request may
fail, and one that fails leaves the machine as it was, but for a run, which may fail after
any number of instructions.

What the machine is after a history of requests is told by few of them.  It has the
registers that it was made with (`registerCount_after`), and the program of the latest load
that succeeded (`program_after`).  As long as there was no run, a register holds the word
that was written to it last, since the latest reset (`read_after`).  Each of the three is an
induction on the history over what one request does.
-/

namespace RegisterMachine.Machine

/-! ## Requests -/

/-- What a host asks of a machine. -/
inductive Request where
  | load (instructions : Array Instruction)
  | loadProgram (program : Program)
  | write (index word : UInt64)
  | resetRegisters
  | run (limit : Option UInt64) (sink : Sink)
  /-- A run after which the sink is flushed. -/
  | runFlushed (limit : Option UInt64) (sink : Sink)

def Request.isRun : Request → Bool
  | .run _ _ | .runFlushed _ _ => true
  | .load _ | .loadProgram _ | .write _ _ | .resetRegisters => false

/-- The machine after a request.  A load or a write that fails leaves it as it was. -/
def apply (m : Machine) : Request → Machine
  | .load instructions => (m.load instructions).toOption.getD m
  | .loadProgram program => m.loadProgram program
  | .write index word => (m.write index word).toOption.getD m
  | .resetRegisters => m.resetRegisters
  | .run limit sink => (m.run limit sink).machine
  | .runFlushed limit sink => (m.runFlushed limit sink).machine

/-- The machine after a history of requests, the latest first. -/
def after (m : Machine) : List Request → Machine
  | [] => m
  | request :: earlier => (m.after earlier).apply request

/-- The program of the latest load that succeeded, else that of a new machine. -/
def lastLoaded : List Request → Program
  | [] => .initial
  | .loadProgram program :: _ => program
  | .load instructions :: earlier =>
    if h : 0 < instructions.size then ⟨instructions, #[], h⟩ else lastLoaded earlier
  | .write _ _ :: earlier | .resetRegisters :: earlier | .run _ _ :: earlier
  | .runFlushed _ _ :: earlier => lastLoaded earlier

/-- The word last written to a register since the latest reset, else zero. -/
def lastWritten (index : UInt64) : List Request → UInt64
  | [] => 0
  | .resetRegisters :: _ => 0
  | .write written word :: earlier => if index = written then word else lastWritten index earlier
  | .load _ :: earlier | .loadProgram _ :: earlier | .run _ _ :: earlier
  | .runFlushed _ _ :: earlier => lastWritten index earlier

/-! ## What one request does -/

section Requests

variable {m : Machine}

theorem load_of_pos {instructions : Array Instruction} (h : 0 < instructions.size) :
    m.load instructions = .ok ⟨m.registers, ⟨instructions, #[], h⟩⟩ := by
  rw [load, Program.ofInstructions, dif_pos h]
  rfl

theorem load_of_not_pos {instructions : Array Instruction} (h : ¬ 0 < instructions.size) :
    m.load instructions = .error .emptyProgram := by
  rw [load, Program.ofInstructions, dif_neg h]
  rfl

theorem write_of_lt {index : UInt64} (word : UInt64) (h : index.toNat < m.registerCount) :
    m.write index word = .ok ⟨m.registers.put index word, m.program⟩ := by
  have hset : m.registers.set index word = .ok (m.registers.put index word) := if_pos h
  rw [write, hset]
  rfl

theorem write_of_le {index : UInt64} (word : UInt64) (h : m.registerCount ≤ index.toNat) :
    m.write index word = .error (.registerOutOfBounds index m.registerCount) := by
  have hset : m.registers.set index word = .error (.registerOutOfBounds index m.registerCount) :=
    if_neg (Nat.not_lt_of_le h)
  rw [write, hset]
  rfl

/-- A run keeps the program of its machine. -/
theorem program_run (m : Machine) (limit : Option UInt64) (sink : Sink) :
    (m.run limit sink).machine.program = m.program := by
  rw [run]
  split
  · rfl
  · rfl

theorem registerCount_run (m : Machine) (limit : Option UInt64) (sink : Sink) :
    (m.run limit sink).machine.registerCount = m.registerCount :=
  m.run_related (R := fun s t => t.registers.count = s.registers.count) (fun _ => rfl)
    (fun h₁ h₂ => h₂.trans h₁) m.program.count_step limit sink

/-- Flushing the sink is nothing to the machine. -/
theorem machine_runFlushed (m : Machine) (limit : Option UInt64) (sink : Sink) :
    (m.runFlushed limit sink).machine = (m.run limit sink).machine :=
  rfl

theorem registerCount_apply (m : Machine) (request : Request) :
    (m.apply request).registerCount = m.registerCount := by
  cases request with
  | load instructions =>
    by_cases h : 0 < instructions.size
    · rw [apply, load_of_pos h]
      rfl
    · rw [apply, load_of_not_pos h]
      rfl
  | loadProgram program => rfl
  | write index word =>
    rcases Nat.lt_or_ge index.toNat m.registerCount with h | h
    · rw [apply, write_of_lt word h]
      exact RegisterFile.count_put _ _ _
    · rw [apply, write_of_le word h]
      rfl
  | resetRegisters => exact RegisterFile.count_clear _
  | run limit sink => exact m.registerCount_run limit sink
  | runFlushed limit sink => exact m.registerCount_run limit sink

/-- A write changes the register that it names and no other. -/
theorem read_write {index word : UInt64} (h : index.toNat < m.registerCount) (other : UInt64) :
    Machine.read ⟨m.registers.put index word, m.program⟩ other =
      if other = index then .ok word else m.read other := by
  rw [read, read, RegisterFile.get_put]
  by_cases hother : other = index
  · rw [if_pos ⟨hother, h⟩, if_pos hother]
  · rw [if_neg fun hboth => hother hboth.1, if_neg hother]

end Requests

/-! ## What a history leaves -/

/-- A machine has as many registers as it began with, whatever was asked of it. -/
theorem registerCount_after (n : Nat) (history : List Request) :
    ((new n).after history).registerCount = n := by
  induction history with
  | nil => exact RegisterFile.count_zeroed n
  | cons request earlier ih => rw [after, registerCount_apply, ih]

/-- A machine holds the last program that was loaded without a fault. -/
theorem program_after (n : Nat) (history : List Request) :
    ((new n).after history).program = lastLoaded history := by
  induction history with
  | nil => rfl
  | cons request earlier ih =>
    rw [after]
    cases request with
    | load instructions =>
      rw [lastLoaded]
      by_cases h : 0 < instructions.size
      · rw [apply, load_of_pos h, dif_pos h]
        rfl
      · rw [apply, load_of_not_pos h, dif_neg h]
        exact ih
    | loadProgram program => rfl
    | write index word =>
      rw [lastLoaded, ← ih]
      rcases Nat.lt_or_ge index.toNat ((new n).after earlier).registerCount with h | h
      · rw [apply, write_of_lt word h]
        rfl
      · rw [apply, write_of_le word h]
        rfl
    | resetRegisters => exact ih
    | run limit sink => exact (program_run _ limit sink).trans ih
    | runFlushed limit sink => exact (program_run _ limit sink).trans ih

/-- Without runs, a register holds what was last written to it, or zero. -/
theorem read_after (n : Nat) (history : List Request) (hruns : ∀ r ∈ history, r.isRun = false)
    (index : UInt64) :
    ((new n).after history).read index =
      if index.toNat < n then .ok (lastWritten index history)
      else .error (.registerOutOfBounds index n) := by
  induction history with
  | nil => exact RegisterFile.get_zeroed n index
  | cons request earlier ih =>
    have hearlier := ih fun r hr => hruns r (List.mem_cons_of_mem _ hr)
    have hrequest := hruns request List.mem_cons_self
    have hcount := registerCount_after n earlier
    rw [after]
    generalize (new n).after earlier = m at hearlier hcount
    cases request with
    | load instructions =>
      by_cases h : 0 < instructions.size
      · rw [apply, load_of_pos h]
        exact hearlier
      · rw [apply, load_of_not_pos h]
        exact hearlier
    | loadProgram program => exact hearlier
    | write written word =>
      rcases Nat.lt_or_ge written.toNat m.registerCount with h | h
      · rw [apply, write_of_lt word h, lastWritten]
        refine (read_write h index).trans ?_
        split
        · rename_i heq
          rw [heq, if_pos (hcount ▸ h)]
        · exact hearlier
      · rw [apply, write_of_le word h, lastWritten]
        refine hearlier.trans ?_
        -- A register that exists is not the one that was refused.
        by_cases hindex : index.toNat < n
        · have hne : index ≠ written := by
            rintro rfl
            omega
          rw [if_neg hne]
        · rw [if_neg hindex, if_neg hindex]
    | resetRegisters =>
      rw [← hcount]
      exact RegisterFile.get_zeroed m.registerCount index
    | run limit sink => cases hrequest
    | runFlushed limit sink => cases hrequest

/-- Whatever was asked of a new machine, it has all its registers and no others, and it holds
the program of the latest load that succeeded with its pool.  A load without instructions
fails and changes nothing, and any other replaces the program and leaves the registers.  A
write succeeds for the registers that exist and changes just the one, and else it changes
nothing.  No run changes the program.  If there was no run, then a register holds the word
last written to it since the latest reset, and zero if there was none. -/
theorem history_determines_machine (n : Nat) (history : List Request) :
    let m := (new n).after history
    (m.registerCount = n ∧ m.program = lastLoaded history ∧ 0 < m.program.length) ∧
    (m.load #[] = .error .emptyProgram ∧ m.apply (.load #[]) = m) ∧
    (∀ (instructions : Array Instruction) (h : 0 < instructions.size),
      m.load instructions = .ok ⟨m.registers, ⟨instructions, #[], h⟩⟩ ∧
        m.apply (.load instructions) = ⟨m.registers, ⟨instructions, #[], h⟩⟩) ∧
    (∀ program, m.apply (.loadProgram program) = ⟨m.registers, program⟩) ∧
    (∀ index word, index.toNat < n →
      ∃ written, m.write index word = .ok written ∧ m.apply (.write index word) = written ∧
        written.program = m.program ∧
        ∀ other, written.read other = if other = index then .ok word else m.read other) ∧
    (∀ index word, n ≤ index.toNat →
      m.write index word = .error (.registerOutOfBounds index n) ∧
        m.apply (.write index word) = m) ∧
    (∀ limit sink, (m.run limit sink).machine.program = m.program ∧
      (m.runFlushed limit sink).machine.program = m.program) ∧
    ((∀ r ∈ history, r.isRun = false) → ∀ index,
      m.read index =
        if index.toNat < n then .ok (lastWritten index history)
        else .error (.registerOutOfBounds index n)) := by
  intro m
  have hcount : m.registerCount = n := registerCount_after n history
  refine ⟨⟨hcount, program_after n history, m.program.nonempty⟩, ⟨rfl, rfl⟩, ?_, fun _ => rfl,
    ?_, ?_, ?_, read_after n history⟩
  · intro instructions h
    rw [apply, load_of_pos h]
    exact ⟨rfl, rfl⟩
  · intro index word h
    have hindex : index.toNat < m.registerCount := hcount ▸ h
    refine ⟨_, write_of_lt word hindex, ?_, rfl, read_write hindex⟩
    rw [apply, write_of_lt word hindex]
    rfl
  · intro index word h
    have hindex : m.registerCount ≤ index.toNat := hcount ▸ h
    rw [apply, write_of_le word hindex, hcount]
    exact ⟨rfl, rfl⟩
  · intro limit sink
    rw [machine_runFlushed]
    exact ⟨program_run m limit sink, program_run m limit sink⟩

/-- A history with a load and a write that are refused, before and after a reset. -/
theorem history_determines_machine_refused :
    let history : List Request :=
      [.write 7 4, .load #[], .write 1 6, .resetRegisters, .write 0 9, .load #[.retc 3]]
    let m := (new 2).after history
    m.registerCount = 2 ∧ m.program = ⟨#[.retc 3], #[], by decide⟩ ∧
      m.read 0 = .ok 0 ∧ m.read 1 = .ok 6 ∧
      m.write 2 5 = .error (.registerOutOfBounds 2 2) := by
  intro history m
  obtain ⟨⟨hcount, hprogram, -⟩, -, -, -, -, hrefused, -, hread⟩ :=
    history_determines_machine 2 history
  have hruns : ∀ r ∈ history, r.isRun = false := by simp [history, Request.isRun]
  refine ⟨hcount, hprogram, hread hruns 0, hread hruns 1, ?_⟩
  exact (hrefused 2 5 (by decide)).1

end RegisterMachine.Machine
