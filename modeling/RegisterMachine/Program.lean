import RegisterMachine.Instruction
import RegisterMachine.Fault

/-!
# Programs

A program is a non-empty sequence of instructions with a pool of strings for
the prints to choose from.

The registers that a program requires are those up to the largest one that it
names in a field that is read.  Fields that are not read do not count, so a
program and its canonical form require the same (`registersRequired_canonical`).
-/

namespace RegisterMachine

/-- A non-empty sequence of instructions and a pool of strings. -/
structure Program where
  /-- The instructions; the first one is executed first. -/
  instructions : Array Instruction
  strings : Array String
  nonempty : 0 < instructions.size
deriving DecidableEq

/-- The largest register count that can be asked for. -/
def maxRegisterCount : Nat := 18446744073709551615

/-- The smallest register file that holds every register an instruction names. -/
def Instruction.registersRequired (i : Instruction) : Nat :=
  i.registersNamed.foldr
    (fun index required => max (min (index.toNat + 1) maxRegisterCount) required) 0

namespace Program

/-- A program of the given instructions and strings, unless there are no instructions. -/
def ofInstructions (instructions : Array Instruction) (strings : Array String) :
    Except Fault Program :=
  if h : 0 < instructions.size then .ok ⟨instructions, strings, h⟩ else .error .emptyProgram

/-- The program `ret r0`, which a new machine holds. -/
def initial : Program := ⟨#[.ret 0], #[], by decide⟩

def length (p : Program) : Nat := p.instructions.size

def fetch? (p : Program) (pc : Nat) : Option Instruction := p.instructions[pc]?

/-- The program with zero in every field that is not read. -/
def canonical (p : Program) : Program where
  instructions := p.instructions.map Instruction.canonical
  strings := p.strings
  nonempty := by simpa using p.nonempty

/-- The smallest register file that every register named in the program fits into. -/
def registersRequired (p : Program) : Nat :=
  p.instructions.toList.foldr (fun i required => max i.registersRequired required) 0

/-- The largest register file that is chosen without being asked for. -/
def maxDefaultRegisterCount : Nat := 65536

/-- The register file to run with when none is asked for: what the program requires, but
at least one register and at most `maxDefaultRegisterCount`. -/
def defaultRegisterCount (p : Program) : Nat :=
  max 1 (min p.registersRequired maxDefaultRegisterCount)

/-! ## Canonical programs -/

@[simp]
theorem length_canonical (p : Program) : p.canonical.length = p.length := by
  simp [canonical, length]

@[simp]
theorem canonical_canonical (p : Program) : p.canonical.canonical = p.canonical := by
  simp [canonical, Function.comp_def]

theorem fetch?_canonical (p : Program) (pc : Nat) :
    p.canonical.fetch? pc = (p.fetch? pc).map Instruction.canonical := by
  simp [canonical, fetch?]

@[simp]
theorem registersNamed_canonical (i : Instruction) :
    i.canonical.registersNamed = i.registersNamed := by
  rcases i with ⟨_ | ⟨operation, kind⟩, lhs, rhs⟩
  · rfl
  · cases operation <;> rfl

theorem registersRequired_canonical (p : Program) :
    p.canonical.registersRequired = p.registersRequired := by
  simp [canonical, registersRequired, List.foldr_map, Instruction.registersRequired]

end Program

end RegisterMachine
