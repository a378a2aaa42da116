import RegisterMachine.Execution.Effect
import RegisterMachine.Proofs.Attempt

/-!
# What an instruction comes to

`Instruction.EffectRule` lists what finding out the effect of an instruction can come
to: six effects and four faults, each with what the opcode, the operand and the register
file have to be.  `effect_rule` says that there is nothing else.  A property of effects is
then shown rule by rule, with no look at the order in which things are found out.

An instruction names the registers that it reads and writes.  A register that does not
exist is one that the instruction names (`register_of_operand`), and so is the one that
it stores to.
-/

namespace RegisterMachine

open Attempt

/-- The word that an operation stores in place of another one, if it stores any. -/
def Operation.newWord? (operation : Operation) (word operand : UInt64) : Option UInt64 :=
  match operation with
  | .add => some (word + operand)
  | .mul => some (word * operand)
  | .div => if operand = 0 then none else some (word / operand)
  | .mod => if operand = 0 then none else some (word % operand)
  | .set => some operand
  | .eq | .jmp | .print | .ret => none

namespace Instruction

/-! ## Registers that are named -/

section Named

variable {i : Instruction}

theorem mem_registersNamed_of_source (h : i.opcode.kind = .register) :
    i.rhs ∈ i.registersNamed := by
  simp [registersNamed, source?, h]

theorem mem_registersNamed_of_destination (h : i.opcode.shape = .binary) :
    i.lhs ∈ i.registersNamed := by
  simp [registersNamed, destination?, h]

/-- An operand that cannot be read is in a register that does not exist. -/
theorem register_of_operand {registers : RegisterFile} {fault : Fault}
    (h : i.operand registers = .error fault) :
    i.opcode.kind = .register ∧ registers.count ≤ i.rhs.toNat ∧
      fault = .registerOutOfBounds i.rhs registers.count := by
  rw [operand] at h
  split at h
  · rename_i hkind
    exact ⟨hkind, RegisterFile.get_eq_error_iff.1 h⟩
  · cases h

end Named

/-! ## The rules of an effect -/

/-- What the effect of an instruction can be, or why there is none. -/
inductive EffectRule (i : Instruction) (registers : RegisterFile) (strings : Array String) :
    Except Fault Effect → Prop where
  | nop (hopcode : i.opcode = .nop) : i.EffectRule registers strings (.ok (.move 1))
  | halt {kind : OperandKind} (hopcode : i.opcode = .op .ret kind) :
      i.EffectRule registers strings (.ok .halt)
  /-- The register of the operand does not exist. -/
  | noSource {operation : Operation} (hopcode : i.opcode = .op operation .register)
      (hsource : registers.count ≤ i.rhs.toNat) :
      i.EffectRule registers strings (.error (.registerOutOfBounds i.rhs registers.count))
  /-- The destination register does not exist. -/
  | noDestination {operation : Operation} {kind : OperandKind}
      (hopcode : i.opcode = .op operation kind) (hshape : operation.shape = .binary)
      (hdestination : registers.count ≤ i.lhs.toNat) :
      i.EffectRule registers strings (.error (.registerOutOfBounds i.lhs registers.count))
  | division {operation : Operation} {kind : OperandKind}
      (hopcode : i.opcode = .op operation kind) (hdivides : operation = .div ∨ operation = .mod)
      (hoperand : i.operand registers = .ok 0) :
      i.EffectRule registers strings (.error .divisionByZero)
  | store {operation : Operation} {kind : OperandKind} {operand word new : UInt64}
      (hopcode : i.opcode = .op operation kind) (hoperand : i.operand registers = .ok operand)
      (hword : registers.get i.lhs = .ok word) (hnew : operation.newWord? word operand = some new) :
      i.EffectRule registers strings (.ok (.store i.lhs new))
  | compare {kind : OperandKind} {operand word : UInt64} (hopcode : i.opcode = .op .eq kind)
      (hoperand : i.operand registers = .ok operand) (hword : registers.get i.lhs = .ok word) :
      i.EffectRule registers strings (.ok (.move (if word = operand then 1 else 2)))
  | jump {kind : OperandKind} {operand : UInt64} (hopcode : i.opcode = .op .jmp kind)
      (hoperand : i.operand registers = .ok operand) :
      i.EffectRule registers strings (.ok (.move (jumpOffset operand)))
  | print {kind : OperandKind} {operand : UInt64} {text : String}
      (hopcode : i.opcode = .op .print kind) (hoperand : i.operand registers = .ok operand)
      (htext : strings[operand.toNat]? = some text) :
      i.EffectRule registers strings (.ok (.print text))
  /-- The pool has no such string. -/
  | noString {kind : OperandKind} {operand : UInt64} (hopcode : i.opcode = .op .print kind)
      (hoperand : i.operand registers = .ok operand) (hstring : strings.size ≤ operand.toNat) :
      i.EffectRule registers strings (.error (.stringOutOfBounds operand strings.size))

section Rules

variable {i : Instruction} {registers : RegisterFile} {strings : Array String}

theorem effect_rule_of_operand {operation : Operation} {kind : OperandKind} {operand : UInt64}
    (hopcode : i.opcode = .op operation kind) (hoperand : i.operand registers = .ok operand) :
    i.EffectRule registers strings (operation.effect registers strings i.lhs operand) := by
  -- A destination is looked for first, and all that is left depends on its word.
  have hdestination {f : UInt64 → Except Fault Effect} (hshape : operation.shape = .binary)
      (hf : ∀ word, registers.get i.lhs = .ok word → i.EffectRule registers strings (f word)) :
      i.EffectRule registers strings ((registers.get i.lhs).bind f) := by
    cases hword : registers.get i.lhs with
    | ok word => exact hf word hword
    | error fault =>
      obtain ⟨hcount, rfl⟩ := RegisterFile.get_eq_error_iff.1 hword
      exact .noDestination hopcode hshape hcount
  have hmap {f : UInt64 → Effect} (hshape : operation.shape = .binary)
      (hf : ∀ word, registers.get i.lhs = .ok word → i.EffectRule registers strings (.ok (f word))) :
      i.EffectRule registers strings ((registers.get i.lhs).map f) := by
    rw [map_eq_bind]
    exact hdestination hshape hf
  cases operation with
  | add => exact hmap rfl fun word hword => .store hopcode hoperand hword rfl
  | mul => exact hmap rfl fun word hword => .store hopcode hoperand hword rfl
  | set => exact hmap rfl fun word hword => .store hopcode hoperand hword rfl
  | eq => exact hmap rfl fun word hword => .compare hopcode hoperand hword
  | div =>
    refine hdestination rfl fun word hword => ?_
    split
    · rename_i hzero
      exact .division hopcode (.inl rfl) (hzero ▸ hoperand)
    · rename_i hzero
      exact .store hopcode hoperand hword (if_neg hzero)
  | mod =>
    refine hdestination rfl fun word hword => ?_
    split
    · rename_i hzero
      exact .division hopcode (.inr rfl) (hzero ▸ hoperand)
    · rename_i hzero
      exact .store hopcode hoperand hword (if_neg hzero)
  | jmp => exact .jump hopcode hoperand
  | ret => exact .halt hopcode
  | print =>
    simp only [Operation.effect]
    split
    · rename_i text htext
      exact .print hopcode hoperand htext
    · rename_i hnone
      exact .noString hopcode hoperand (Array.getElem?_eq_none_iff.1 hnone)

theorem effect_rule (i : Instruction) (registers : RegisterFile) (strings : Array String) :
    i.EffectRule registers strings (i.effect registers strings) := by
  rw [effect]
  split
  · rename_i hopcode
    exact .nop hopcode
  · rename_i kind hopcode
    exact .halt hopcode
  · rename_i operation kind _ hopcode
    cases hoperand : i.operand registers with
    | ok operand => exact effect_rule_of_operand hopcode hoperand
    | error fault =>
      obtain ⟨hkind, hcount, rfl⟩ := register_of_operand hoperand
      obtain rfl : kind = .register := by rwa [hopcode] at hkind
      exact .noSource hopcode hcount

theorem rule_of_effect {result : Except Fault Effect} (h : i.effect registers strings = result) :
    i.EffectRule registers strings result :=
  h ▸ i.effect_rule registers strings

/-! ## What the rules say -/

/-- A word is stored nowhere but in the destination register. -/
theorem mem_registersNamed_of_store {index word : UInt64}
    (h : i.effect registers strings = .ok (.store index word)) : index ∈ i.registersNamed := by
  cases rule_of_effect h with
  | @store operation kind operand old new hopcode hoperand hword hnew =>
    refine mem_registersNamed_of_destination ?_
    rw [hopcode]
    cases operation with
    | eq | jmp | print | ret => cases hnew
    | add | div | mod | mul | set => rfl

/-- Only a return halts. -/
theorem effect_eq_halt_iff : i.effect registers strings = .ok .halt ↔ i.opcode.isHalt = true := by
  rw [Opcode.isHalt_iff]
  constructor
  · intro h
    cases rule_of_effect h with
    | @halt kind hopcode => exact ⟨kind, hopcode⟩
  · rintro ⟨kind, hopcode⟩
    rw [effect, hopcode]

/-- The instruction that halts is a return, so it has a value to look up. -/
theorem haltValue_of_effect (h : i.effect registers strings = .ok .halt) :
    i.haltValue registers = i.operand registers := by
  obtain ⟨kind, hopcode⟩ := Opcode.isHalt_iff.1 (effect_eq_halt_iff.1 h)
  rw [haltValue, hopcode]

end Rules

end Instruction

end RegisterMachine
