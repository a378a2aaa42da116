import RegisterMachine.Proofs.Execution.Fault

/-!
# Programs without backward jumps

A jump by a register may go anywhere, and one by a constant goes where the program says.  A
program is *forward* if its jumps are all of the second kind and none of them goes back.  Then
every step with which a run goes on moves the counter on (`Forward.pc_lt_pc_of_step`).  The
counter stays inside the program, so from any place there are no more steps than instructions
(`Forward.exists_stops`).

So such a program ends, whatever is in its registers and whatever its sink does, and a limit that
allows for as many steps as it has instructions is never used up.
-/

namespace RegisterMachine

/-- The instruction does not jump by a register, and not by a negative displacement, which is a
word from 2⁶³ on. -/
def Instruction.GoesForward (i : Instruction) : Prop :=
  i.opcode ≠ .op .jmp .register ∧ (i.opcode = .op .jmp .immediate → i.rhs.toNat < 0x8000000000000000)

instance (i : Instruction) : Decidable i.GoesForward :=
  inferInstanceAs (Decidable (_ ∧ _))

def Program.Forward (p : Program) : Prop := ∀ i ∈ p.instructions, i.GoesForward

instance (p : Program) : Decidable p.Forward :=
  inferInstanceAs (Decidable (∀ i ∈ p.instructions, i.GoesForward))

/-! ## One step -/

theorem jumpOffset_pos_iff {word : UInt64} :
    0 < jumpOffset word ↔ word.toNat < 0x8000000000000000 := by
  have hword := word.toNat_lt_size
  simp only [jumpOffset, displacement_eq, maxOffset, UInt64.size] at *
  split <;> split <;> omega

theorem Effect.offset_of_apply {effect : Effect} {offset : Int} {store after : Store}
    (h : effect.apply store = (.ok (.advance offset), after)) :
    offset = 1 ∨ effect = .move offset := by
  cases effect with
  | move distance =>
    cases h
    exact .inr rfl
  | store index word =>
    cases h
    exact .inl rfl
  | halt => cases h
  | print text =>
    cases hwrite : store.sink.write text with
    | mk answer sink =>
      rw [apply, hwrite] at h
      cases answer with
      | error reason => cases h
      | ok taken =>
        cases h
        exact .inl rfl

theorem Instruction.GoesForward.offset_pos {i : Instruction} {registers : RegisterFile}
    {strings : Array String} {offset : Int} (h : i.GoesForward)
    (heffect : i.effect registers strings = .ok (.move offset)) : 0 < offset := by
  cases rule_of_effect heffect with
  | nop hopcode => decide
  | compare hopcode hoperand hword => split <;> decide
  | @jump kind operand hopcode hoperand =>
    cases kind with
    | register => exact absurd hopcode h.1
    | immediate =>
      obtain rfl : i.rhs = operand := by
        rw [Instruction.operand, hopcode] at hoperand
        exact Except.ok.inj hoperand
      exact jumpOffset_pos_iff.2 (h.2 hopcode)

/-! ## Runs -/

namespace Program

variable {p : Program} {n : Nat} {c d next : Configuration}

/-- With each step the counter grows. -/
theorem Forward.pc_lt_pc_of_step (hp : p.Forward) (h : p.step c = .running next) :
    c.pc < next.pc := by
  cases step_eq_iff.1 h with
  | @next i effect offset pc store hfetch heffect happly hadvance =>
    have hpos : 0 < offset := by
      rcases Effect.offset_of_apply happly with rfl | rfl
      · decide
      · exact (hp i (Array.mem_of_getElem? hfetch)).offset_pos heffect
    have htarget := (advance_eq_some_iff.1 hadvance).1
    show c.pc < pc
    omega

/-- So it is ahead by at least the number of steps. -/
theorem Forward.pc_add_le (hp : p.Forward) (h : p.Reaches n c d) : c.pc + n ≤ d.pc := by
  induction h with
  | refl c => exact Nat.le_refl _
  | step hnext rest ih =>
    have hstep := hp.pc_lt_pc_of_step hnext
    omega

/-- From a counter inside the program there are no more steps than instructions. -/
theorem Forward.exists_stops (hp : p.Forward) (hc : c.pc < p.length) :
    ∃ n result store, c.pc + n ≤ p.length ∧ p.Stops n c result store := by
  rcases p.reaches_or_stops (p.length - c.pc) c with
    ⟨d, hreaches⟩ | ⟨n, result, store, hn, hstops⟩
  · have hafter := hp.pc_add_le hreaches
    have hinside := hreaches.pc_lt hc
    omega
  · exact ⟨n, result, store, by omega, hstops⟩

/-- A program without backward jumps stops, with a result or with a fault, after at most as many
instructions as it has.  A run shows that with any limit that allows for so many, and without a
limit, where there are more steps than a program can have instructions.  It does not fail with the
limit, and if it halts, it reports no more steps. -/
theorem forward_run_terminates (p : Program) (hp : p.Forward) (registers : RegisterFile)
    (sink : Sink) :
    ∃ n result store, n ≤ p.length ∧ p.Stops n ⟨0, registers, sink⟩ result store ∧
      ∀ limit : Option UInt64, p.length ≤ Machine.budget limit →
        let after := Machine.run ⟨registers, p⟩ limit sink
        after = ⟨.ofResult n result, ⟨store.registers, p⟩, store.sink⟩ ∧
          (∀ l, after.ending ≠ .failed (.stepLimitExceeded l)) ∧
          ∀ report, after.ending = .halted report → report.steps ≤ p.length := by
  obtain ⟨n, result, store, hn, hstops⟩ := hp.exists_stops (c := ⟨0, registers, sink⟩) p.nonempty
  rw [Nat.zero_add] at hn
  refine ⟨n, result, store, hn, hstops, ?_⟩
  intro limit hlimit after
  have hafter : after = ⟨.ofResult n result, ⟨store.registers, p⟩, store.sink⟩ :=
    Machine.run_eq_of_stops hstops (Nat.le_trans hn hlimit)
  rw [hafter]
  refine ⟨rfl, hstops.ending_ne_stepLimitExceeded, ?_⟩
  intro report hhalted
  cases result with
  | error fault => cases hhalted
  | ok value =>
    cases hhalted
    exact hn

/-- Over a comparison that skips and a jump to the next instruction, to a return. -/
theorem forward_run_terminates_skip :
    let p : Program := ⟨#[.eqc 0 1, .nop, .jmpc 0, .printc 0, .retc 7], #["a"], by decide⟩
    p.Forward ∧ p.length ≤ Machine.budget (some 5) ∧ p.length ≤ Machine.budget none ∧
      ∃ n result store, n ≤ 5 ∧ p.Stops n ⟨0, .zeroed 1, .unbounded⟩ result store ∧
        Machine.run ⟨.zeroed 1, p⟩ (some 5) .unbounded =
          ⟨.ofResult n result, ⟨store.registers, p⟩, store.sink⟩ ∧
        Machine.run ⟨.zeroed 1, p⟩ none .unbounded =
          ⟨.ofResult n result, ⟨store.registers, p⟩, store.sink⟩ := by
  intro p
  have hforward : p.Forward := by decide
  have hfive : p.length ≤ Machine.budget (some 5) := by decide
  have hnone : p.length ≤ Machine.budget none := by decide
  obtain ⟨n, result, store, hn, hstops, hruns⟩ :=
    forward_run_terminates p hforward (.zeroed 1) .unbounded
  exact ⟨hforward, hfive, hnone, n, result, store, hn, hstops, (hruns (some 5) hfive).1,
    (hruns none hnone).1⟩

end Program

end RegisterMachine
