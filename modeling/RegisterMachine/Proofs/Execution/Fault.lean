import RegisterMachine.Proofs.Execution.Limit

/-!
# Runs stay inside, and their faults are true

A run starts inside its program, and a step that goes on moves the counter to a place
inside (`pc_lt_of_step`), so there is an instruction wherever a run comes to
(`Reaches.pc_lt`).  A run that ends does so with its last step: with a return if it has a
value (`Stops.exists_return`), else with a fault that is true of the instruction there
(`Stops.exists_stepFault`).  A fault that tells the number of registers tells that of the
machine, since a run neither adds nor removes any.
-/

namespace RegisterMachine

namespace Program

variable {p : Program} {n : Nat} {c d : Configuration} {store : Store}

/-! ## The counter -/

theorem pc_lt_of_step {next : Configuration} (h : p.step c = .running next) :
    next.pc < p.length := by
  cases step_eq_iff.1 h with
  | next hfetch heffect happly hadvance => exact (advance_eq_some_iff.1 hadvance).2

theorem Reaches.pc_lt (h : p.Reaches n c d) (hc : c.pc < p.length) : d.pc < p.length := by
  induction h with
  | refl c => exact hc
  | step hnext rest ih => exact ih (pc_lt_of_step hnext)

/-! ## The last step -/

/-- Only a return gives a result, and its operand is that result. -/
theorem Stops.exists_return {value : UInt64} (h : p.Stops n c (.ok value) store) :
    ∃ k d i kind, n = k + 1 ∧ p.Reaches k c d ∧ p.fetch? d.pc = some i ∧
      i.opcode = .op .ret kind ∧ i.operand d.store.registers = .ok value := by
  obtain ⟨k, d, hn, hreaches, hlast⟩ := h.last_step
  obtain ⟨i, kind, hfetch, hopcode, hoperand, -⟩ := return_of_step hlast
  exact ⟨k, d, i, kind, hn, hreaches, hfetch, hopcode, hoperand⟩

/-- A fault is that of the last instruction, at the configuration before it. -/
theorem Stops.exists_stepFault {fault : Fault} (h : p.Stops n c (.error fault) store)
    (hc : c.pc < p.length) :
    ∃ k d i, n = k + 1 ∧ p.Reaches k c d ∧ p.fetch? d.pc = some i ∧ i.StepFault p d fault := by
  obtain ⟨k, d, hn, hreaches, hlast⟩ := h.last_step
  rcases fault_of_step hlast with ⟨hfetch, -⟩ | ⟨i, hfetch, hfault⟩
  · have hlength : p.length ≤ d.pc := Array.getElem?_eq_none_iff.1 hfetch
    exact absurd (hreaches.pc_lt hc) (Nat.not_lt_of_le hlength)
  · exact ⟨k, d, i, hn, hreaches, hfetch, hfault⟩

end Program

namespace Machine

variable {m : Machine} {limit : Option UInt64} {sink : Sink}

theorem pc_start_lt (m : Machine) (sink : Sink) : (m.start sink).pc < m.program.length :=
  m.program.nonempty

/-- A run fails because its limit is used up or because a step fails. -/
theorem failed_cases {fault : Fault} (h : (m.run limit sink).ending = .failed fault) :
    (∃ L c, limit = some L ∧ fault = .stepLimitExceeded L ∧
      m.program.Reaches L.toNat (m.start sink) c) ∨
    ∃ n c i, n < budget limit ∧ m.program.Reaches n (m.start sink) c ∧
      m.program.fetch? c.pc = some i ∧ i.StepFault m.program c fault := by
  rcases m.program.reaches_or_stops (budget limit) (m.start sink) with
    ⟨c, hreaches⟩ | ⟨n, result, store, hn, hstops⟩
  · rw [run_eq_of_reaches hreaches] at h
    cases limit with
    | none => cases h
    | some L =>
      cases h
      exact .inl ⟨L, c, rfl, rfl, hreaches⟩
  · rw [run_eq_of_stops hstops hn] at h
    cases result with
    | ok value => cases h
    | error cause =>
      cases h
      obtain ⟨k, d, i, rfl, hreaches, hfetch, hfault⟩ :=
        hstops.exists_stepFault (m.pc_start_lt sink)
      exact .inr ⟨k, d, i, hn, hreaches, hfetch, hfault⟩

/-- Wherever a run comes to, the counter is inside the program.  A run that halts does so at a
return, with its operand.  A run that fails has used up its own limit, or it fails at an
instruction of which the fault is true; the registers are then as many as the machine's.
No run fails as if it had no program or had halted at anything but a return. -/
theorem run_faults_true (m : Machine) (limit : Option UInt64) (sink : Sink) :
    (∀ n c, m.program.Reaches n (m.start sink) c →
      c.pc < m.program.length ∧ c.store.registers.count = m.registerCount) ∧
    (∀ report, (m.run limit sink).ending = .halted report →
      ∃ n c i kind, report.steps = n + 1 ∧ m.program.Reaches n (m.start sink) c ∧
        m.program.fetch? c.pc = some i ∧ i.opcode = .op .ret kind ∧
        i.operand c.store.registers = .ok report.value) ∧
    (∀ fault, (m.run limit sink).ending = .failed fault →
      ((∃ L c, limit = some L ∧ fault = .stepLimitExceeded L ∧
          m.program.Reaches L.toNat (m.start sink) c) ∨
        ∃ n c i, n < budget limit ∧ m.program.Reaches n (m.start sink) c ∧
          m.program.fetch? c.pc = some i ∧ i.StepFault m.program c fault) ∧
      fault ≠ .emptyProgram ∧ ∀ opcode, fault ≠ .unexpectedHaltOpcode opcode) := by
  refine ⟨?_, ?_, ?_⟩
  · intro n c hreaches
    exact ⟨hreaches.pc_lt (m.pc_start_lt sink), hreaches.count⟩
  · intro report hending
    obtain ⟨-, store, hstops⟩ := stops_of_halted hending
    exact hstops.exists_return
  · intro fault hending
    have hcases := failed_cases hending
    refine ⟨hcases, ?_, ?_⟩
    · rintro rfl
      rcases hcases with ⟨L, c, -, hlimit, -⟩ | ⟨n, c, i, -, -, -, hfault⟩
      · cases hlimit
      · cases hfault
    · rintro opcode rfl
      rcases hcases with ⟨L, c, -, hlimit, -⟩ | ⟨n, c, i, -, -, -, hfault⟩
      · cases hlimit
      · cases hfault

/-- A remainder by a register that holds zero, in the second round of a loop. -/
theorem run_faults_true_division :
    let m : Machine :=
      ⟨⟨#[7, 1]⟩, ⟨#[.mod 0 1, .addc 1 (-1), .jmpc (-2), .ret 0], #[], by decide⟩⟩
    ∃ n c i, n < 9 ∧ m.program.Reaches n (m.start .unbounded) c ∧ c.pc < m.program.length ∧
      m.program.fetch? c.pc = some i ∧ i.StepFault m.program c .divisionByZero := by
  intro m
  have hending : (m.run (some 9) .unbounded).ending = .failed .divisionByZero := by
    decide +kernel
  obtain ⟨hinside, -, hfails⟩ := run_faults_true m (some 9) .unbounded
  rcases (hfails _ hending).1 with ⟨L, c, -, hlimit, -⟩ | ⟨n, c, i, hn, hreaches, hfetch, hfault⟩
  · cases hlimit
  · exact ⟨n, c, i, hn, hreaches, (hinside n c hreaches).1, hfetch, hfault⟩

end Machine

end RegisterMachine
