import RegisterMachine.Proofs.Assembly.Listing
import RegisterMachine.Proofs.Execution.Course

/-!
# Fields that are not read

The listing of a program shows only the fields that the opcodes read, so a program that
was listed and assembled again holds zero in the others.  No part of the machine looks
there: an instruction and its canonical form have the same effect and the same value to
return (`effect_canonical`, `haltValue_canonical`), so the two programs have the same
steps (`step_canonical`) and with them the same runs.
-/

namespace RegisterMachine

namespace Instruction

/-- Fields that are not read do not show in an effect. -/
@[simp]
theorem effect_canonical (i : Instruction) : i.canonical.effect = i.effect := by
  rcases i with ⟨opcode, lhs, rhs⟩
  cases opcode with
  | nop => rfl
  | op operation kind => cases operation <;> rfl

@[simp]
theorem haltValue_canonical (i : Instruction) : i.canonical.haltValue = i.haltValue := by
  rcases i with ⟨opcode, lhs, rhs⟩
  cases opcode with
  | nop => rfl
  | op operation kind => cases operation <;> rfl

/-- Neither do they in a step, or in the value of a return. -/
@[simp]
theorem step_canonical (i : Instruction) : i.canonical.step = i.step := by
  funext strings length c
  simp only [step, dispatch, effect_canonical, haltValue_canonical]

end Instruction

namespace Program

theorem step_canonical (p : Program) (c : Configuration) : p.canonical.step c = p.step c := by
  rw [step, step, fetch?_canonical]
  cases p.fetch? c.pc with
  | none => rw [Option.map_none, length_canonical]
  | some i =>
    have hcode := congrFun (congrFun (congrFun i.step_canonical p.strings) p.length) c
    rw [Option.map_some, length_canonical]
    exact hcode

end Program

/-- Programs that take the same steps have the same runs. -/
theorem Machine.run_congr {p q : Program} (hstep : ∀ c, q.step c = p.step c)
    (registers : RegisterFile) (limit : Option UInt64) (sink : Sink) :
    let after := Machine.run ⟨registers, p⟩ limit sink
    Machine.run ⟨registers, q⟩ limit sink =
      ⟨after.ending, ⟨after.machine.registers, q⟩, after.sink⟩ := by
  simp only [run, start, Program.run_congr hstep]
  cases p.run (budget limit) 0 ⟨0, registers, sink⟩ with
  | unfinished c => rfl
  | finished steps result store => rfl

namespace Program

/-- Registers are counted by the fields that are read, and those are kept. -/
theorem defaultRegisterCount_canonical (p : Program) :
    p.canonical.defaultRegisterCount = p.defaultRegisterCount := by
  rw [defaultRegisterCount, defaultRegisterCount, registersRequired_canonical]

/-- The program that the listing of a program assembles to takes the same steps.  On any
registers, under any limit and with any sink, its run ends the same way and leaves the same
registers and the same sink, and it requires the same registers. -/
theorem assemble_listing_preserves_runs (p : Program) :
    ∃ q, assemble p.listing = .ok q ∧
      (∀ (registers : RegisterFile) (limit : Option UInt64) (sink : Sink),
        let after := Machine.run ⟨registers, p⟩ limit sink
        Machine.run ⟨registers, q⟩ limit sink =
          ⟨after.ending, ⟨after.machine.registers, q⟩, after.sink⟩) ∧
      (∀ c, q.step c = p.step c) ∧
      (∀ n c d, q.Reaches n c d ↔ p.Reaches n c d) ∧
      q.registersRequired = p.registersRequired ∧
      q.defaultRegisterCount = p.defaultRegisterCount := by
  have hstep := p.step_canonical
  exact ⟨p.canonical, assemble_listing p, Machine.run_congr hstep, hstep,
    fun n c d => reaches_congr hstep, p.registersRequired_canonical,
    p.defaultRegisterCount_canonical⟩

end Program

end RegisterMachine
