import RegisterMachine.Execution.Effect
import RegisterMachine.Proofs.Attempt
import RegisterMachine.Proofs.Registers

/-!
# The table of handlers

An instruction can also be carried out by a handler of its opcode, which gets the two fields and
works on the store as it goes, with no effect in between.  `handlers` has one for each opcode, in
the order of the tags, and the one at the tag of an instruction does what the instruction is
dispatched to (`Instruction.dispatch_eq_handler`).

A handler looks things up in an order of its own, and what it has written before it fails stays
written.  That its order is the one in which an effect is found out, and that it writes to no
register before it fails, is shown operation by operation (`Operation.run_handler`).  The handlers
of the two forms of an operation differ in one look-up in front, but both forms of a return have
the same one, which looks nothing up (`Opcode.handler_of_ne_ret`, `Opcode.handler`).
-/

namespace RegisterMachine

open Attempt

/-- Work on a store.  If it fails midway, the store is left as it is by then. -/
abbrev Work := ExceptT Fault (StateM Store)

/-- What carries out an opcode, given the pool and the two fields of an instruction. -/
abbrev Handler := Array String → UInt64 → UInt64 → Work Flow

/-! ## The table -/

namespace Handler

/-- Work that only looks at the store. -/
def lookUp {α : Type} (f : Store → Except Fault α) : Work α := do
  liftExcept (f (← get))

def read (index : UInt64) : Work UInt64 := lookUp fun store => store.registers.get index

/-- Puts into the destination what a change makes of its word and the operand. -/
def update (change : UInt64 → UInt64 → Option UInt64) : Handler := fun _ lhs operand => do
  match change (← read lhs) operand with
  | some word =>
    modify fun store => { store with registers := store.registers.put lhs word }
    return .advance 1
  | none => throw .divisionByZero

def add : Handler := update fun word operand => some (word + operand)

def div : Handler := update fun word operand => if operand = 0 then none else some (word / operand)

def mod : Handler := update fun word operand => if operand = 0 then none else some (word % operand)

def mul : Handler := update fun word operand => some (word * operand)

def set : Handler := fun _ lhs operand => do
  let registers ← lookUp fun store => store.registers.set lhs operand
  modify fun store => { store with registers }
  return .advance 1

def eq : Handler := fun _ lhs operand => do
  if (← read lhs) = operand then return .advance 1 else return .advance 2

def jmp : Handler := fun _ _ operand => return .advance (jumpOffset operand)

def print : Handler := fun strings _ operand => do
  match strings[operand.toNat]? with
  | some text =>
    let (answer, sink) := (← get).sink.write text
    modify fun store => { store with sink }
    match answer with
    | .ok () => return .advance 1
    | .error reason => throw (.output reason)
  | none => throw (.stringOutOfBounds operand strings.size)

/-- The value of a return is looked up when it has halted. -/
def ret : Handler := fun _ _ _ => return .halt

def nop : Handler := fun _ _ _ => return .advance 1

/-- The handler of the form that names the register of its operand. -/
def fromRegister (handler : Handler) : Handler := fun strings lhs rhs => do
  handler strings lhs (← read rhs)

end Handler

open Handler in
/-- The handlers of all opcodes, in the order of their tags. -/
def handlers : List Handler :=
  [fromRegister add, add, fromRegister div, div, fromRegister eq, eq, fromRegister jmp, jmp,
   fromRegister mod, mod, fromRegister mul, mul, nop, fromRegister print, print, ret, ret,
   fromRegister set, set]

/-! ## Work and effects -/

/-- Applies an effect, if one was found. -/
def Effect.settle (result : Except Fault Effect) (store : Store) : Except Fault Flow × Store :=
  match result with
  | .ok effect => effect.apply store
  | .error fault => (.error fault, store)

namespace Handler

variable {strings : Array String} {lhs rhs operand : UInt64} {store : Store}

/-- Further work begins with the store that is left, and there is none after a failure. -/
theorem run_bind {α β : Type} {work : Work α} {next : α → Work β} :
    (work >>= next).run.run store =
      match work.run.run store with
      | (.ok a, store) => (next a).run.run store
      | (.error fault, store) => (.error fault, store) := by
  rw [ExceptT.run_bind, StateT.run_bind]
  rcases work.run.run store with ⟨_ | a, after⟩
  · rfl
  · rfl

theorem run_lookUp_bind {α β : Type} {f : Store → Except Fault α} {next : α → Work β} :
    (lookUp f >>= next).run.run store =
      match f store with
      | .ok a => (next a).run.run store
      | .error fault => (.error fault, store) := by
  have hlookUp : (lookUp f).run.run store = (f store, store) := by
    rw [lookUp, run_bind]
    show (liftExcept (f store) : Work α).run.run store = _
    cases f store with
    | ok a => rfl
    | error fault => rfl
  rw [run_bind, hlookUp]
  cases f store with
  | ok a => rfl
  | error fault => rfl

/-- Work that begins with a register comes to the effect that depends on that register. -/
theorem run_read_bind {index : UInt64} {next : UInt64 → Work Flow}
    {f : UInt64 → Except Fault Effect}
    (hnext : ∀ word, (next word).run.run store = Effect.settle (f word) store) :
    (read index >>= next).run.run store =
      Effect.settle ((store.registers.get index).bind f) store := by
  rw [read, run_lookUp_bind]
  cases store.registers.get index with
  | ok word => exact hnext word
  | error fault => rfl

theorem run_update {change : UInt64 → UInt64 → Option UInt64} {f : UInt64 → Except Fault Effect}
    (hf : ∀ word, f word =
      match change word operand with
      | some new => .ok (.store lhs new)
      | none => .error .divisionByZero) :
    (update change strings lhs operand).run.run store =
      Effect.settle ((store.registers.get lhs).bind f) store := by
  refine run_read_bind fun word => ?_
  rw [hf]
  cases change word operand with
  | some new => rfl
  | none => rfl

theorem run_set :
    (set strings lhs operand).run.run store =
      Effect.settle ((store.registers.get lhs).map fun _ => .store lhs operand) store := by
  rw [set, run_lookUp_bind, RegisterFile.set]
  by_cases hlhs : lhs.toNat < store.registers.count
  · obtain ⟨word, hword⟩ := RegisterFile.exists_word?_iff.2 hlhs
    rw [if_pos hlhs, RegisterFile.get_eq_ok_iff.2 hword]
    rfl
  · rw [if_neg hlhs, RegisterFile.get_eq_error_iff.2 ⟨Nat.le_of_not_lt hlhs, rfl⟩]
    rfl

theorem run_print :
    (print strings lhs operand).run.run store =
      Effect.settle (Operation.effect .print store.registers strings lhs operand) store := by
  rw [print, Operation.effect]
  cases strings[operand.toNat]? with
  | none => rfl
  | some text =>
    have hget : (get : Work Store).run.run store = (.ok store, store) := rfl
    dsimp only
    rw [run_bind, hget, Effect.settle, Effect.apply]
    dsimp only
    rcases store.sink.write text with ⟨_ | _, sink⟩
    · rfl
    · rfl

end Handler

/-! ## Operations -/

/-- The handler of the form of an operation that holds its operand. -/
def Operation.handler : Operation → Handler
  | .add => .add
  | .div => .div
  | .eq => .eq
  | .jmp => .jmp
  | .mod => .mod
  | .mul => .mul
  | .print => .print
  | .ret => .ret
  | .set => .set

/-- A handler does what the effect of its operation comes to. -/
theorem Operation.run_handler (operation : Operation) (strings : Array String)
    (lhs operand : UInt64) (store : Store) :
    (operation.handler strings lhs operand).run.run store =
      Effect.settle (operation.effect store.registers strings lhs operand) store := by
  cases operation with
  | add =>
    rw [handler, Handler.add, effect, map_eq_bind]
    exact Handler.run_update fun word => rfl
  | mul =>
    rw [handler, Handler.mul, effect, map_eq_bind]
    exact Handler.run_update fun word => rfl
  | div =>
    rw [handler, Handler.div, effect]
    refine Handler.run_update fun word => ?_
    split <;> rfl
  | mod =>
    rw [handler, Handler.mod, effect]
    refine Handler.run_update fun word => ?_
    split <;> rfl
  | set =>
    rw [handler, effect]
    exact Handler.run_set
  | eq =>
    rw [effect, map_eq_bind]
    refine Handler.run_read_bind fun word => ?_
    split <;> rfl
  | print => exact Handler.run_print
  | jmp => rfl
  | ret => rfl

/-! ## Opcodes -/

/-- The handler of an opcode.  Both forms of a return have the same one. -/
def Opcode.handler : Opcode → Handler
  | .nop => .nop
  | .op .ret _ => .ret
  | .op operation .register => .fromRegister operation.handler
  | .op operation .immediate => operation.handler

namespace Opcode

/-- The table has the handler of each opcode in its place, and no more. -/
theorem handlers_eq_map_all : handlers = all.map handler := rfl

theorem getElem?_handlers (opcode : Opcode) :
    handlers[opcode.tag.toNat]? = some opcode.handler := by
  have hentry : all[opcode.tag.toNat]? = some opcode := ofTag?_tag opcode
  rw [handlers_eq_map_all, List.getElem?_map, hentry, Option.map_some]

theorem handler_of_ne_ret {operation : Operation} (h : operation ≠ .ret) :
    (op operation .register).handler = .fromRegister operation.handler ∧
      (op operation .immediate).handler = operation.handler := by
  cases operation with
  | ret => exact absurd rfl h
  | add | div | eq | jmp | mod | mul | print | set => exact ⟨rfl, rfl⟩

end Opcode

namespace Instruction

/-- A handler does what the instructions of its opcode are dispatched to. -/
theorem run_handler (i : Instruction) (strings : Array String) (store : Store) :
    (i.opcode.handler strings i.lhs i.rhs).run.run store = i.dispatch strings store := by
  show _ = Effect.settle (i.effect store.registers strings) store
  rw [effect]
  split
  · rename_i hopcode
    rw [hopcode]
    rfl
  · rename_i hopcode
    rw [hopcode]
    rfl
  · rename_i operation kind hret hopcode
    obtain ⟨hregister, himmediate⟩ := Opcode.handler_of_ne_ret hret
    rw [operand, hopcode]
    cases kind with
    | immediate =>
      rw [himmediate]
      exact operation.run_handler strings i.lhs i.rhs store
    | register =>
      rw [hregister]
      exact Handler.run_read_bind fun operand => operation.run_handler strings i.lhs operand store

/-- There is a handler at the tag of each instruction, and with the fields of the instruction it
answers what the instruction is dispatched to and leaves the same store. -/
theorem dispatch_eq_handler (i : Instruction) :
    ∃ handler, handlers[i.opcode.tag.toNat]? = some handler ∧
      ∀ strings store, (handler strings i.lhs i.rhs).run.run store = i.dispatch strings store :=
  ⟨i.opcode.handler, i.opcode.getElem?_handlers, i.run_handler⟩

end Instruction

end RegisterMachine
