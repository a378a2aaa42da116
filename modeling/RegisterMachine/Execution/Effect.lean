import RegisterMachine.Program
import RegisterMachine.Registers
import RegisterMachine.Sink

/-!
# The effect of an instruction

An instruction is executed in two parts.  Its *effect* is found out from the
registers and the pool alone, and finding it out changes nothing.  Then the
effect is applied, which can fail only if the sink does.  So an instruction
that fails for any other reason leaves everything as it was.

Of several things that may be wrong with one instruction, the order in which
`Instruction.effect` looks decides: the register that holds the operand, then
the destination register, then a division by zero.
-/

namespace RegisterMachine

/-! ## Effects -/

/-- What an instruction does, once its operand is known. -/
inductive Effect where
  | move (offset : Int)
  /-- Stores a word in an existing register and goes on. -/
  | store (index word : UInt64)
  | print (text : String)
  | halt
deriving DecidableEq

def Instruction.operand (i : Instruction) (registers : RegisterFile) : Except Fault UInt64 :=
  match i.opcode.kind with
  | .register => registers.get i.rhs
  | .immediate => .ok i.rhs

/-- The effect of an operation on a destination register and an operand. -/
def Operation.effect (operation : Operation) (registers : RegisterFile) (strings : Array String)
    (lhs operand : UInt64) : Except Fault Effect :=
  match operation with
  | .add => (registers.get lhs).map fun word => .store lhs (word + operand)
  | .mul => (registers.get lhs).map fun word => .store lhs (word * operand)
  | .div => (registers.get lhs).bind fun word =>
    if operand = 0 then .error .divisionByZero else .ok (.store lhs (word / operand))
  | .mod => (registers.get lhs).bind fun word =>
    if operand = 0 then .error .divisionByZero else .ok (.store lhs (word % operand))
  | .set => (registers.get lhs).map fun _ => .store lhs operand
  | .eq => (registers.get lhs).map fun word => .move (if word = operand then 1 else 2)
  | .jmp => .ok (.move (jumpOffset operand))
  | .print =>
    match strings[operand.toNat]? with
    | some text => .ok (.print text)
    | none => .error (.stringOutOfBounds operand strings.size)
  | .ret => .ok .halt

/-- The effect of an instruction.  A return halts before its operand is looked at. -/
def Instruction.effect (i : Instruction) (registers : RegisterFile) (strings : Array String) :
    Except Fault Effect :=
  match i.opcode with
  | .nop => .ok (.move 1)
  | .op .ret _ => .ok .halt
  | .op operation _ =>
    (i.operand registers).bind fun operand => operation.effect registers strings i.lhs operand

/-- The result of a run that ended at an instruction, which has to be a return. -/
def Instruction.haltValue (i : Instruction) (registers : RegisterFile) : Except Fault UInt64 :=
  match i.opcode with
  | .op .ret _ => i.operand registers
  | opcode => .error (.unexpectedHaltOpcode opcode)

/-! ## Dispatch -/

/-- What an instruction works on: the registers and the sink. -/
structure Store where
  registers : RegisterFile
  sink : Sink

/-- Where control goes after an instruction. -/
inductive Flow where
  | advance (offset : Int)
  | halt
deriving DecidableEq

/-- Applies an effect.  Only a print can fail. -/
def Effect.apply (effect : Effect) (store : Store) : Except Fault Flow × Store :=
  match effect with
  | .move offset => (.ok (.advance offset), store)
  | .store index word =>
    (.ok (.advance 1), { store with registers := store.registers.put index word })
  | .print text =>
    match store.sink.write text with
    | (.ok (), sink) => (.ok (.advance 1), { store with sink })
    | (.error reason, sink) => (.error (.output reason), { store with sink })
  | .halt => (.ok .halt, store)

/-- Executes one instruction on a store. -/
def Instruction.dispatch (i : Instruction) (strings : Array String) (store : Store) :
    Except Fault Flow × Store :=
  match i.effect store.registers strings with
  | .ok effect => effect.apply store
  | .error fault => (.error fault, store)

end RegisterMachine
