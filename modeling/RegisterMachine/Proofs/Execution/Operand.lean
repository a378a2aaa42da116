import RegisterMachine.Proofs.Execution.Step
import RegisterMachine.Proofs.Registers

/-!
# Operands in registers

An operation has a form that names a register and a form that holds its operand.  Once the
register is read, nothing tells the two apart: two instructions with the same operation, the
same destination and the same operand take the same step (`step_congr`).  It does not matter
that a return looks its operand up only when it has halted, because halting changes nothing
(`of_dispatch_eq_halt`).

The register of the operand is the first thing that an instruction needs, so if it does not
exist, that is the fault of the step, whatever else is wrong (`step_of_operand_error`).
-/

namespace RegisterMachine

/-! ## Answers -/

/-- What the answer of a dispatched instruction and the store that it leaves come to, at a
counter of a program and with a value in case that it halts. -/
def Progress.ofAnswer (length pc : Nat) (value : Except Fault UInt64) :
    Except Fault Flow × Store → Progress
  | (.ok (.advance offset), store) =>
    match advance length pc offset with
    | some next => .running ⟨next, store⟩
    | none => .stopped (.error (.counterOutOfBounds pc offset length)) store
  | (.ok .halt, store) => .stopped value store
  | (.error fault, store) => .stopped (.error fault) store

namespace Progress

variable {length pc : Nat} {value : Except Fault UInt64} {answer : Except Fault Flow}
variable {s s' : Store}

@[simp]
theorem ofAnswer_halt : ofAnswer length pc value (.ok .halt, s) = .stopped value s := rfl

@[simp]
theorem ofAnswer_error {fault : Fault} :
    ofAnswer length pc value (.error fault, s) = .stopped (.error fault) s := rfl

@[simp]
theorem store_ofAnswer : (ofAnswer length pc value (answer, s)).store = s := by
  cases answer with
  | error fault => rfl
  | ok flow =>
    cases flow with
    | halt => rfl
    | advance offset =>
      rw [ofAnswer]
      split <;> rfl

/-- The store is passed on and shows in nothing else. -/
theorem ofAnswer_eq_running {next : Nat}
    (h : ofAnswer length pc value (answer, s) = .running ⟨next, s'⟩) (t : Store) :
    s' = s ∧ ofAnswer length pc value (answer, t) = .running ⟨next, t⟩ := by
  cases answer with
  | error fault => cases h
  | ok flow =>
    cases flow with
    | halt => cases h
    | advance offset =>
      simp only [ofAnswer] at h ⊢
      split at h
      · cases h
        exact ⟨rfl, rfl⟩
      · cases h

theorem ofAnswer_eq_stopped {result : Except Fault UInt64}
    (h : ofAnswer length pc value (answer, s) = .stopped result s') (t : Store) :
    s' = s ∧ ofAnswer length pc value (answer, t) = .stopped result t := by
  cases answer with
  | error fault =>
    cases h
    exact ⟨rfl, rfl⟩
  | ok flow =>
    cases flow with
    | halt =>
      cases h
      exact ⟨rfl, rfl⟩
    | advance offset =>
      simp only [ofAnswer] at h ⊢
      split at h
      · cases h
      · cases h
        exact ⟨rfl, rfl⟩

end Progress

namespace Instruction

variable {i j : Instruction} {strings : Array String} {length : Nat} {c : Configuration}

/-! ## Steps and operands -/

section Dispatch

variable {store : Store}

theorem dispatch_of_effect_eq_error {fault : Fault}
    (h : i.effect store.registers strings = .error fault) :
    i.dispatch strings store = (.error fault, store) := by
  rw [dispatch, h]

theorem dispatch_of_effect_eq_ok {effect : Effect}
    (h : i.effect store.registers strings = .ok effect) :
    i.dispatch strings store = effect.apply store := by
  rw [dispatch, h]

end Dispatch

/-- Halting changes nothing, so the value of a return is its operand before the step. -/
theorem of_dispatch_eq_halt {store after : Store}
    (h : i.dispatch strings store = (.ok .halt, after)) :
    after = store ∧ i.haltValue store.registers = i.operand store.registers := by
  cases heffect : i.effect store.registers strings with
  | error fault =>
    rw [dispatch_of_effect_eq_error heffect] at h
    cases h
  | ok effect =>
    rw [dispatch_of_effect_eq_ok heffect] at h
    obtain ⟨rfl, hstore⟩ := Effect.eq_halt_of_apply h
    exact ⟨hstore, haltValue_of_effect heffect⟩

/-- The value with which a step stops at a return is the operand, known before the step. -/
theorem step_eq (i : Instruction) (strings : Array String) (length : Nat) (c : Configuration) :
    i.step strings length c =
      .ofAnswer length c.pc (i.operand c.store.registers) (i.dispatch strings c.store) := by
  rw [step]
  cases hdispatch : i.dispatch strings c.store with
  | mk answer store =>
    cases answer with
    | error fault => rfl
    | ok flow =>
      cases flow with
      | advance offset => rfl
      | halt =>
        obtain ⟨rfl, hvalue⟩ := of_dispatch_eq_halt hdispatch
        rw [Progress.ofAnswer_halt, ← hvalue]

/-! ## Two forms of one operation -/

section Forms

variable {operation : Operation} {kind kind' : OperandKind} {store : Store}

theorem effect_congr_operand {registers : RegisterFile} (hi : i.opcode = .op operation kind)
    (hj : j.opcode = .op operation kind') (hlhs : i.lhs = j.lhs)
    (hoperand : i.operand registers = j.operand registers) :
    i.effect registers strings = j.effect registers strings := by
  rw [effect, effect, hi, hj, hlhs, hoperand]
  cases operation <;> rfl

theorem dispatch_congr (hi : i.opcode = .op operation kind) (hj : j.opcode = .op operation kind')
    (hlhs : i.lhs = j.lhs) (hoperand : i.operand store.registers = j.operand store.registers) :
    i.dispatch strings store = j.dispatch strings store := by
  rw [dispatch, dispatch, effect_congr_operand hi hj hlhs hoperand]

/-- A step depends on the operand alone and not on where it was read. -/
theorem step_congr (hi : i.opcode = .op operation kind) (hj : j.opcode = .op operation kind')
    (hlhs : i.lhs = j.lhs)
    (hoperand : i.operand c.store.registers = j.operand c.store.registers) :
    i.step strings length c = j.step strings length c := by
  rw [step_eq, step_eq, dispatch_congr hi hj hlhs hoperand, hoperand]

/-- Without its operand an instruction does nothing: a return has no value to stop with, and any
other one has no effect. -/
theorem step_of_operand_error {fault : Fault} (hi : i.opcode = .op operation kind)
    (hoperand : i.operand c.store.registers = .error fault) :
    i.step strings length c = .stopped (.error fault) c.store := by
  rw [step_eq, hoperand]
  by_cases hret : operation = .ret
  · have heffect : i.effect c.store.registers strings = .ok .halt := by
      rw [effect, hi, hret]
    rw [dispatch_of_effect_eq_ok heffect]
    rfl
  · have heffect : i.effect c.store.registers strings = .error fault := by
      rw [effect, hi, hoperand]
      cases operation with
      | ret => exact absurd rfl hret
      | _ => rfl
    rw [dispatch_of_effect_eq_error heffect, Progress.ofAnswer_error]

end Forms

/-- An instruction that names a register does just what the constant form of it does with the
word in the register, and it may name its own destination.  If there is no such register, that
is how its step fails, even if there is no destination register either, and nothing changes. -/
theorem step_register_eq_step_constant (operation : Operation) (lhs index : UInt64)
    (strings : Array String) (length : Nat) (c : Configuration) :
    let registers := c.store.registers
    let named : Instruction := ⟨.op operation .register, lhs, index⟩
    (index.toNat < registers.count →
      ∃ word, registers.word? index = some word ∧
        let constant : Instruction := ⟨.op operation .immediate, lhs, word⟩
        named.dispatch strings c.store = constant.dispatch strings c.store ∧
          named.step strings length c = constant.step strings length c) ∧
    (registers.count ≤ index.toNat →
      named.step strings length c =
        .stopped (.error (.registerOutOfBounds index registers.count)) c.store) := by
  intro registers named
  constructor
  · intro hindex
    obtain ⟨word, hword⟩ := RegisterFile.exists_word?_iff.2 hindex
    refine ⟨word, hword, ?_⟩
    intro constant
    have hoperand : named.operand registers = constant.operand registers :=
      RegisterFile.get_eq_ok_iff.2 hword
    exact ⟨dispatch_congr rfl rfl rfl hoperand, step_congr rfl rfl rfl hoperand⟩
  · intro hindex
    have hoperand : named.operand registers =
        .error (.registerOutOfBounds index registers.count) :=
      RegisterFile.get_eq_error_iff.2 ⟨hindex, rfl⟩
    exact step_of_operand_error rfl hoperand

/-- A register is multiplied by itself, and a sum has neither of its two registers. -/
theorem step_register_eq_step_constant_square :
    let c : Configuration := ⟨2, .ofList [7, 3], .unbounded⟩
    (mul 1 1).step #[] 5 c = (mulc 1 3).step #[] 5 c ∧
      (add 8 9).step #[] 5 c = .stopped (.error (.registerOutOfBounds 9 2)) c.store := by
  intro c
  obtain ⟨hsquare, -⟩ := step_register_eq_step_constant .mul 1 1 #[] 5 c
  obtain ⟨word, hword, -, hstep⟩ := hsquare (by decide)
  obtain rfl : 3 = word := Option.some.inj hword
  obtain ⟨-, hmissing⟩ := step_register_eq_step_constant .add 8 9 #[] 5 c
  exact ⟨hstep, hmissing (by decide)⟩

end Instruction

end RegisterMachine
