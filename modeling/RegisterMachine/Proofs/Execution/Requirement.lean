import RegisterMachine.Proofs.Execution.Dispatch
import RegisterMachine.Proofs.Execution.Fault
import RegisterMachine.Proofs.Execution.Isolation
import RegisterMachine.Proofs.Execution.Operand

/-!
# Registers that are required

How many registers a program requires is read off its instructions, without executing them.
The number is exact.  On a smaller register file each instruction that names a register beyond
the file fails for the lack of it, whatever the registers hold (`step_of_named`), and an
instruction fails for the lack of a register in no other way (`named_of_step`).  So a file that
holds what a program requires is large enough for all its runs, and any smaller one is too
small for some instruction of it (`lt_registersRequired_iff`).

If two registers are missing, the one that is reported is that of the operand
(`Instruction.missing`).
-/

namespace RegisterMachine

/-! ## Maxima -/

section Maxima

variable {α : Type} {f : α → Nat} {xs : List α} {n : Nat}

theorem lt_foldr_max_iff :
    n < xs.foldr (fun x bound => max (f x) bound) 0 ↔ ∃ x ∈ xs, n < f x := by
  induction xs with
  | nil => simp
  | cons y ys ih =>
    have hmax : ∀ bound, n < max (f y) bound ↔ n < f y ∨ n < bound := by omega
    rw [List.foldr_cons, hmax, ih]
    simp

/-- The maximum over some elements is reached by one of them. -/
theorem exists_foldr_max_eq (h : xs ≠ []) :
    ∃ x ∈ xs, f x = xs.foldr (fun x bound => max (f x) bound) 0 := by
  obtain ⟨y, hy⟩ := List.exists_mem_of_ne_nil xs h
  by_cases hzero : xs.foldr (fun x bound => max (f x) bound) 0 = 0
  · have hle := le_foldr_max (f := f) hy
    exact ⟨y, hy, by omega⟩
  · -- What is less by one than the maximum is less than some element.
    obtain ⟨x, hx, hlt⟩ := lt_foldr_max_iff.1 (Nat.sub_one_lt hzero)
    have hle := le_foldr_max (f := f) hx
    exact ⟨x, hx, by omega⟩

end Maxima

namespace Instruction

variable {i : Instruction} {n : Nat}

/-! ## Registers that are missing -/

theorem exists_named_of_lt_registersRequired (h : n < i.registersRequired) :
    ∃ index ∈ i.registersNamed, n ≤ index.toNat := by
  obtain ⟨index, hnamed, hlt⟩ := lt_foldr_max_iff.1 h
  exact ⟨index, hnamed, by omega⟩

/-- An instruction requires more than `n` registers if it names one that is not among them. -/
theorem lt_registersRequired_iff (hn : n < maxRegisterCount) :
    n < i.registersRequired ↔ ∃ index ∈ i.registersNamed, n ≤ index.toNat := by
  refine ⟨exists_named_of_lt_registersRequired, ?_⟩
  rintro ⟨index, hnamed, hle⟩
  have hlt : n < min (index.toNat + 1) maxRegisterCount := by omega
  exact lt_foldr_max_iff.2 ⟨index, hnamed, hlt⟩

theorem exists_named_iff :
    (∃ index ∈ i.registersNamed, n ≤ index.toNat) ↔
      (i.opcode.kind = .register ∧ n ≤ i.rhs.toNat) ∨
        (i.opcode.shape = .binary ∧ n ≤ i.lhs.toNat) := by
  constructor
  · rintro ⟨index, hnamed, hle⟩
    rcases List.mem_append.1 hnamed with hdestination | hsource
    · rw [destination?] at hdestination
      split at hdestination
      · rename_i hshape
        obtain rfl := List.mem_singleton.1 hdestination
        exact .inr ⟨hshape, hle⟩
      · cases hdestination
      · cases hdestination
    · rw [source?] at hsource
      split at hsource
      · rename_i hkind
        obtain rfl := List.mem_singleton.1 hsource
        exact .inl ⟨hkind, hle⟩
      · cases hsource
  · rintro (⟨hkind, hle⟩ | ⟨hshape, hle⟩)
    · exact ⟨_, mem_registersNamed_of_source hkind, hle⟩
    · exact ⟨_, mem_registersNamed_of_destination hshape, hle⟩

/-- The register for the lack of which an instruction fails on a file of `n` registers: that of
the operand if it is missing, and else the destination. -/
def missing (i : Instruction) (n : Nat) : UInt64 :=
  if i.opcode.kind = .register ∧ n ≤ i.rhs.toNat then i.rhs else i.lhs

section Step

variable {strings : Array String} {length : Nat} {c : Configuration}

theorem op_of_kind (h : i.opcode.kind = .register) :
    ∃ operation, i.opcode = .op operation .register := by
  cases hopcode : i.opcode with
  | nop =>
    rw [hopcode] at h
    cases h
  | op operation kind =>
    rw [hopcode] at h
    cases h
    exact ⟨operation, rfl⟩

theorem op_of_shape (h : i.opcode.shape = .binary) :
    ∃ operation kind, i.opcode = .op operation kind ∧ operation.shape = .binary := by
  cases hopcode : i.opcode with
  | nop =>
    rw [hopcode] at h
    cases h
  | op operation kind =>
    rw [hopcode] at h
    exact ⟨operation, kind, rfl, h⟩

/-- An instruction that names a register beyond the file fails for the lack of it. -/
theorem step_of_named (h : ∃ index ∈ i.registersNamed, c.store.registers.count ≤ index.toNat) :
    i.step strings length c =
      .stopped (.error (.registerOutOfBounds (i.missing c.store.registers.count)
        c.store.registers.count)) c.store := by
  rw [missing]
  by_cases hsource : i.opcode.kind = .register ∧ c.store.registers.count ≤ i.rhs.toNat
  · rw [if_pos hsource]
    obtain ⟨hkind, hcount⟩ := hsource
    obtain ⟨operation, hopcode⟩ := op_of_kind hkind
    refine step_of_operand_error hopcode ?_
    rw [operand, hkind]
    exact RegisterFile.get_eq_error_iff.2 ⟨hcount, rfl⟩
  · rw [if_neg hsource]
    obtain ⟨hshape, hcount⟩ := (exists_named_iff.1 h).resolve_left hsource
    obtain ⟨operation, kind, hopcode, hbinary⟩ := op_of_shape hshape
    cases hoperand : i.operand c.store.registers with
    | error fault =>
      obtain ⟨hkind, hmissing, -⟩ := register_of_operand hoperand
      exact absurd ⟨hkind, hmissing⟩ hsource
    | ok operand =>
      rw [step_eq, dispatch_of_missing_destination hopcode hoperand hbinary hcount,
        Progress.ofAnswer_error]

theorem named_of_dispatch {index : UInt64} {count : Nat} {store after : Store}
    (h : i.dispatch strings store = (.error (.registerOutOfBounds index count), after)) :
    ∃ index ∈ i.registersNamed, store.registers.count ≤ index.toNat := by
  cases heffect : i.effect store.registers strings with
  | ok effect =>
    rw [dispatch_of_effect_eq_ok heffect] at h
    obtain ⟨text, reason, sink, -, -, hfault, -⟩ := Effect.eq_print_of_apply h
    cases hfault
  | error fault =>
    rw [dispatch_of_effect_eq_error heffect] at h
    cases h
    cases rule_of_effect heffect with
    | noSource hopcode hcount =>
      exact exists_named_iff.2 (.inl ⟨by rw [hopcode]; rfl, hcount⟩)
    | noDestination hopcode hshape hcount =>
      exact exists_named_iff.2 (.inr ⟨by rw [hopcode]; exact hshape, hcount⟩)

/-- An instruction fails for the lack of a register only if it names one beyond the file. -/
theorem named_of_step {index : UInt64} {count : Nat} {store : Store}
    (h : i.step strings length c = .stopped (.error (.registerOutOfBounds index count)) store) :
    ∃ index ∈ i.registersNamed, c.store.registers.count ≤ index.toNat := by
  rw [step_eq] at h
  cases hdispatch : i.dispatch strings c.store with
  | mk answer after =>
    rw [hdispatch] at h
    cases answer with
    | error fault =>
      cases h
      exact named_of_dispatch hdispatch
    | ok flow =>
      cases flow with
      | halt =>
        -- The operand of a return is looked up after the halt.
        obtain ⟨hkind, hcount, -⟩ := register_of_operand (Progress.stopped.inj h).1
        exact exists_named_iff.2 (.inl ⟨hkind, hcount⟩)
      | advance offset =>
        simp only [Progress.ofAnswer] at h
        split at h
        · cases h
        · cases h

end Step

end Instruction

namespace Program

/-! ## What a program requires -/

/-- The program of one instruction. -/
def single (i : Instruction) (strings : Array String) : Program := ⟨#[i], strings, Nat.one_pos⟩

@[simp]
theorem registersRequired_single (i : Instruction) (strings : Array String) :
    (single i strings).registersRequired = i.registersRequired :=
  Nat.max_zero _

section Required

variable {p : Program} {n k : Nat} {c : Configuration} {store : Store}

theorem registersRequired_le_of_mem {i : Instruction} (h : i ∈ p.instructions) :
    i.registersRequired ≤ p.registersRequired :=
  le_foldr_max (Array.mem_toList_iff.2 h)

/-- A program has instructions, and one of them requires as much as the program. -/
theorem exists_registersRequired_eq (p : Program) :
    ∃ i ∈ p.instructions, i.registersRequired = p.registersRequired := by
  have hne : p.instructions.toList ≠ [] := by
    intro hnil
    have hlength : p.instructions.toList.length = 0 := by rw [hnil, List.length_nil]
    exact Nat.ne_of_gt p.nonempty hlength
  obtain ⟨i, hi, heq⟩ := exists_foldr_max_eq (f := Instruction.registersRequired) hne
  exact ⟨i, Array.mem_toList_iff.1 hi, heq⟩

/-- On a file that holds the registers a program names, no instruction of it lacks one. -/
theorem stepFault_ne_registerOutOfBounds {i : Instruction} {fault : Fault} (hp : p.NamesBelow k)
    (hk : k ≤ c.store.registers.count) (hfetch : p.fetch? c.pc = some i)
    (hfault : i.StepFault p c fault) (index : UInt64) (count : Nat) :
    fault ≠ .registerOutOfBounds index count := by
  rintro rfl
  cases hfault with
  | register hnamed hmissing =>
    have hbelow := hp i (mem_instructions_of_fetch? hfetch) index hnamed
    omega

theorem Stops.result_ne_registerOutOfBounds {result : Except Fault UInt64} (hp : p.NamesBelow k)
    (hk : k ≤ c.store.registers.count) (h : p.Stops n c result store) (index : UInt64)
    (count : Nat) : result ≠ .error (.registerOutOfBounds index count) := by
  obtain ⟨m, d, -, hreaches, hlast⟩ := h.last_step
  rintro rfl
  rcases fault_of_step hlast with ⟨-, hfault⟩ | ⟨i, hfetch, hfault⟩
  · cases hfault
  · have hd : k ≤ d.store.registers.count := hreaches.count ▸ hk
    exact stepFault_ne_registerOutOfBounds hp hd hfetch hfault index count rfl

end Required

end Program

namespace Machine

variable {p : Program} {k : Nat} {registers : RegisterFile}

theorem run_ne_registerOutOfBounds (hp : p.NamesBelow k) (hk : k ≤ registers.count)
    (limit : Option UInt64) (sink : Sink) (index : UInt64) (count : Nat) :
    (run ⟨registers, p⟩ limit sink).ending ≠ .failed (.registerOutOfBounds index count) := by
  intro hending
  rcases failed_cases hending with ⟨L, c, -, hfault, -⟩ | ⟨n, c, i, -, hreaches, hfetch, hfault⟩
  · cases hfault
  · have hc : k ≤ c.store.registers.count := hreaches.count ▸ hk
    exact Program.stepFault_ne_registerOutOfBounds hp hc hfetch hfault index count rfl

end Machine

namespace Program

/-- An instruction fails for the lack of a register just on the files that are smaller than what
it requires, and then the register is that of its operand if that is missing, else its
destination.  A program requires as much as one of its instructions and no less than any.  So
no run fails for the lack of a register on a file that holds what the program requires, and on
any smaller one there is an instruction that fails so whenever it is executed. -/
theorem registersRequired_exact :
    (∀ (i : Instruction) (strings : Array String) (length : Nat) (c : Configuration),
      c.store.registers.FitsMemory →
      let n := c.store.registers.count
      ((∃ index count store,
        i.step strings length c = .stopped (.error (.registerOutOfBounds index count)) store) ↔
          n < (single i strings).registersRequired) ∧
      ∀ index count store,
        i.step strings length c = .stopped (.error (.registerOutOfBounds index count)) store →
          index = i.missing n ∧ count = n ∧ store = c.store) ∧
    ∀ p : Program,
      (∀ i ∈ p.instructions, (single i p.strings).registersRequired ≤ p.registersRequired) ∧
      (∃ i ∈ p.instructions, (single i p.strings).registersRequired = p.registersRequired) ∧
      (∀ registers : RegisterFile, registers.FitsMemory → p.registersRequired ≤ registers.count →
        ∀ index count,
          (∀ limit sink, (Machine.run ⟨registers, p⟩ limit sink).ending ≠
            .failed (.registerOutOfBounds index count)) ∧
          ∀ steps sink result store, p.Stops steps ⟨0, registers, sink⟩ result store →
            result ≠ .error (.registerOutOfBounds index count)) ∧
      ∀ n < p.registersRequired, ∃ i ∈ p.instructions, ∀ c : Configuration,
        c.store.registers.count = n → p.fetch? c.pc = some i →
          p.step c = .stopped (.error (.registerOutOfBounds (i.missing n) n)) c.store := by
  constructor
  · intro i strings length c hfits n
    rw [registersRequired_single, Instruction.lt_registersRequired_iff hfits.count_lt]
    refine ⟨⟨?_, ?_⟩, ?_⟩
    · rintro ⟨index, count, store, hstep⟩
      exact Instruction.named_of_step hstep
    · intro hnamed
      exact ⟨_, _, _, Instruction.step_of_named hnamed⟩
    · intro index count store hstep
      rw [Instruction.step_of_named (Instruction.named_of_step hstep)] at hstep
      cases hstep
      exact ⟨rfl, rfl, rfl⟩
  · intro p
    simp only [registersRequired_single]
    refine ⟨fun i hi => registersRequired_le_of_mem hi, p.exists_registersRequired_eq, ?_, ?_⟩
    · intro registers hfits hcount index count
      have hp := namesBelow_registersRequired (Nat.lt_of_le_of_lt hcount hfits.count_lt)
      exact ⟨fun limit sink => Machine.run_ne_registerOutOfBounds hp hcount limit sink index count,
        fun steps sink result store hstops =>
          hstops.result_ne_registerOutOfBounds hp hcount index count⟩
    · intro n hn
      obtain ⟨i, hi, heq⟩ := p.exists_registersRequired_eq
      refine ⟨i, hi, ?_⟩
      rintro c rfl hfetch
      rw [step_of_fetch? hfetch]
      exact Instruction.step_of_named (Instruction.exists_named_of_lt_registersRequired (heq ▸ hn))

/-- A sum that lacks both its registers, and a program that requires ten. -/
theorem registersRequired_exact_sum :
    let c : Configuration := ⟨0, .ofList [1, 2], .unbounded⟩
    let p : Program := ⟨#[.setc 2 7, .add 2 9, .ret 2], #[], by decide⟩
    ((∃ index count store, (Instruction.add 2 9).step #[] 3 c =
      .stopped (.error (.registerOutOfBounds index count)) store) ∧
      (Instruction.add 2 9).missing 2 = 9) ∧
    (∀ limit sink, (Machine.run ⟨.zeroed 10, p⟩ limit sink).ending ≠
      .failed (.registerOutOfBounds 9 10)) ∧
    ∃ i ∈ p.instructions, ∀ c : Configuration, c.store.registers.count = 9 →
      p.fetch? c.pc = some i →
        p.step c = .stopped (.error (.registerOutOfBounds (i.missing 9) 9)) c.store := by
  intro c p
  obtain ⟨hinstruction, hprogram⟩ := registersRequired_exact
  have hlacks := (hinstruction (.add 2 9) #[] 3 c (by decide)).1.2 (by decide)
  obtain ⟨-, -, hlarge, hsmall⟩ := hprogram p
  have hruns := (hlarge (.zeroed 10) (by decide) (by decide) 9 10).1
  exact ⟨⟨hlacks, rfl⟩, hruns, hsmall 9 (by decide)⟩

end Program

end RegisterMachine
