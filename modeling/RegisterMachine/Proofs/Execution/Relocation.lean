import RegisterMachine.Proofs.Execution.Limit
import RegisterMachine.Proofs.Execution.Simulation

/-!
# Programs inside programs

A jump is relative to its own place, so a program does the same wherever it stands in a
longer one, as long as it stays within itself.  `surround` puts other instructions before
and behind a program.  The steps of the program are those of the longer one with the
counter shifted (`simulation_surround`), except for a step that leaves the program: there
the longer one has somewhere to go.

If what stands before is nothing but `nop`, then a run from the start comes to the program
after as many steps (`reaches_surround`), and all that it does later is late by those.
-/

namespace RegisterMachine

namespace Program

/-- A program with more instructions before and behind it. -/
def surround (p : Program) (before after : Array Instruction) : Program where
  instructions := before ++ p.instructions ++ after
  strings := p.strings
  nonempty := by
    have hp := p.nonempty
    simp only [Array.size_append]
    omega

section Surround

variable {p : Program} {before after : Array Instruction} {pc : Nat}

theorem length_surround :
    (p.surround before after).length = before.size + p.length + after.size := by
  simp only [length, surround, Array.size_append]

/-- The program has moved by the instructions before it. -/
theorem fetch?_surround {i : Instruction} (h : p.fetch? pc = some i) :
    (p.surround before after).fetch? (pc + before.size) = some i := by
  obtain ⟨hpc, hi⟩ := Array.getElem?_eq_some_iff.1 h
  rw [fetch?, surround, Array.getElem?_append_left (by rw [Array.size_append]; omega)]
  rw [Array.getElem?_append_right (Nat.le_add_left _ _), Nat.add_sub_cancel]
  exact h

theorem fetch?_before (h : pc < before.size) :
    (p.surround before after).fetch? pc = some before[pc] := by
  rw [fetch?, surround, Array.getElem?_append_left (by rw [Array.size_append]; omega)]
  rw [Array.getElem?_append_left h, Array.getElem?_eq_getElem h]

/-- A move within the program is a move of the same distance within the longer one. -/
theorem advance_surround {offset : Int} {next : Nat} (h : advance p.length pc offset = some next) :
    advance (p.surround before after).length (pc + before.size) offset =
      some (next + before.size) := by
  rw [advance_eq_some_iff] at h ⊢
  rw [length_surround]
  omega

/-- The result of a step that does not leave its program. -/
def StaysInside (result : Except Fault UInt64) : Prop :=
  ∀ pc offset length, result ≠ .error (.counterOutOfBounds pc offset length)

/-- Within a longer program, a program takes the same steps as on its own. -/
theorem simulation_surround (p : Program) (before after : Array Instruction) :
    Simulation p (p.surround before after) before.size (fun s t => t = s) StaysInside where
  running := by
    rintro pc next s s' t rfl hstep
    cases step_eq_iff.1 hstep with
    | next hfetch heffect happly hadvance =>
      have hrule : (p.surround before after).StepRule ⟨pc + before.size, t⟩ _ :=
        .next (fetch?_surround hfetch) heffect happly (advance_surround hadvance)
      exact ⟨s', hrule.step_eq, rfl⟩
  stopped := by
    rintro pc result s s' t rfl hstep hends
    cases step_eq_iff.1 hstep with
    | outside hfetch => exact absurd rfl (hends _ _ _)
    | leave hfetch heffect happly hadvance => exact absurd rfl (hends _ _ _)
    | fault hfetch heffect =>
      have hrule : (p.surround before after).StepRule ⟨pc + before.size, t⟩ _ :=
        .fault (fetch?_surround hfetch) heffect
      exact ⟨t, hrule.step_eq, rfl⟩
    | halt hfetch heffect =>
      have hrule : (p.surround before after).StepRule ⟨pc + before.size, t⟩ _ :=
        .halt (fetch?_surround hfetch) heffect
      exact ⟨t, hrule.step_eq, rfl⟩
    | refused hfetch heffect hwrite =>
      have hrule : (p.surround before after).StepRule ⟨pc + before.size, t⟩ _ :=
        .refused (fetch?_surround hfetch) heffect hwrite
      exact ⟨_, hrule.step_eq, rfl⟩

theorem step_nop {q : Program} {i : Instruction} {store : Store} (hfetch : q.fetch? pc = some i)
    (hnop : i.opcode = .nop) (hpc : pc + 1 < q.length) :
    q.step ⟨pc, store⟩ = .running ⟨pc + 1, store⟩ := by
  have heffect : i.effect store.registers q.strings = .ok (.move 1) := by
    rw [Instruction.effect, hnop]
  have hadvance : advance q.length pc 1 = some (pc + 1) := by
    rw [advance_eq_some_iff]
    omega
  exact step_eq_of_move hfetch heffect hadvance

/-- Over leading instructions that do nothing, a run comes to the program. -/
theorem reaches_surround (p : Program) (after : Array Instruction)
    (hnops : ∀ i ∈ before, i.opcode = .nop) (store : Store) :
    (p.surround before after).Reaches before.size ⟨0, store⟩ ⟨before.size, store⟩ := by
  have hround : ∀ j < before.size,
      (p.surround before after).Reaches 1 ⟨j, store⟩ ⟨j + 1, store⟩ := by
    intro j hj
    have hlength : j + 1 < (p.surround before after).length := by
      have hp : 0 < p.length := p.nonempty
      rw [length_surround]
      omega
    have hnop : before[j].opcode = .nop := hnops _ (Array.getElem_mem hj)
    exact .step (step_nop (fetch?_before hj) hnop hlength) (.refl _)
  have hrounds := Reaches.rounds hround
  rwa [Nat.one_mul] at hrounds

end Surround

end Program

/-! ## Late runs -/

/-- The same ending `k` steps later, under a limit that is higher by as much. -/
def Ending.delay (k : Nat) : Ending → Ending
  | .halted report => .halted ⟨report.value, report.steps + k⟩
  | .failed (.stepLimitExceeded limit) => .failed (.stepLimitExceeded (.ofNat (limit.toNat + k)))
  | .failed fault => .failed fault
  | .unfinished => .unfinished

theorem Ending.delay_ofResult {n k : Nat} {result : Except Fault UInt64}
    (h : ∀ limit, ofResult n result ≠ .failed (.stepLimitExceeded limit)) :
    (ofResult n result).delay k = ofResult (k + n) result := by
  cases result with
  | ok value => rw [ofResult, delay, ofResult, Nat.add_comm]
  | error fault =>
    cases fault with
    | stepLimitExceeded limit => exact absurd rfl (h limit)
    | _ => rfl

namespace Machine

open Program

/-- Between leading instructions that do nothing and any others behind, a program that stays
within itself does what it does on its own.  It is late by the number of leading
instructions, and so is a limit that allows for them. -/
theorem run_surround_delays (p : Program) (before after : Array Instruction)
    (hnops : ∀ i ∈ before, i.opcode = .nop) (registers : RegisterFile) (sink : Sink) (L : UInt64)
    (hL : L.toNat + before.size < UInt64.size)
    (hinside : ∀ pc offset length, (run ⟨registers, p⟩ (some L) sink).ending ≠
      .failed (.counterOutOfBounds pc offset length)) :
    let alone := run ⟨registers, p⟩ (some L) sink
    let late := run ⟨registers, p.surround before after⟩
      (some (.ofNat (L.toNat + before.size))) sink
    late.ending = alone.ending.delay before.size ∧
      late.machine.registers = alone.machine.registers ∧
      late.sink = alone.sink := by
  intro alone late
  have hlead := reaches_surround p after hnops ⟨registers, sink⟩
  have hbudget : budget (some (.ofNat (L.toNat + before.size))) = before.size + L.toNat := by
    rw [budget, UInt64.toNat_ofNat_of_lt' hL, Nat.add_comm]
  have hsimulation := simulation_surround p before after
  rcases p.reaches_or_stops (budget (some L)) ⟨0, registers, sink⟩ with
    ⟨c, hreaches⟩ | ⟨n, result, store, hn, hstops⟩
  · -- The limit is used up, and the other one after as many steps in the program.
    have halone : alone = _ := run_eq_of_reaches hreaches
    obtain ⟨t, hfollows, rfl⟩ := hsimulation.reaches rfl hreaches
    have hreaches' := hlead.trans (Nat.zero_add before.size ▸ hfollows)
    rw [budget, ← hbudget] at hreaches'
    have hlate : late = _ := run_eq_of_reaches hreaches'
    rw [halone, hlate]
    exact ⟨rfl, rfl, rfl⟩
  · have halone : alone = _ := run_eq_of_stops hstops hn
    have hends : StaysInside result := by
      rintro pc offset length rfl
      refine hinside pc offset length ?_
      exact congrArg Run.ending halone
    obtain ⟨t, hfollows, rfl⟩ := hsimulation.stops rfl hstops hends
    have hstops' := hlead.trans_stops (Nat.zero_add before.size ▸ hfollows)
    have hn' : before.size + n ≤ budget (some (.ofNat (L.toNat + before.size))) := by
      rw [hbudget]
      exact Nat.add_le_add_left hn before.size
    have hlate : late = _ := run_eq_of_stops hstops' hn'
    rw [halone, hlate]
    exact ⟨(Ending.delay_ofResult hstops.ending_ne_stepLimitExceeded).symm, rfl, rfl⟩

theorem run_surround_delays_loop :
    let p : Program := ⟨#[.addc 0 1, .jmpc (-1), .retc 7], #[], by decide⟩
    let before : Array Instruction := #[.nop, ⟨.nop, 3, 5⟩]
    (∀ i ∈ before, i.opcode = .nop) ∧
      (run ⟨.zeroed 1, p⟩ (some 3) .unbounded).ending = .failed (.stepLimitExceeded 3) ∧
      (run ⟨.zeroed 1, p.surround before #[.ret 0]⟩ (some 5) .unbounded).ending =
        .failed (.stepLimitExceeded 5) ∧
      (run ⟨.zeroed 1, p.surround before #[.ret 0]⟩ (some 5) .unbounded).machine.registers =
        (run ⟨.zeroed 1, p⟩ (some 3) .unbounded).machine.registers := by
  intro p before
  have hnops : ∀ i ∈ before, i.opcode = .nop := by decide
  have halone : (run ⟨.zeroed 1, p⟩ (some 3) .unbounded).ending =
      .failed (.stepLimitExceeded 3) := rfl
  have hinside : ∀ pc offset length, (run ⟨.zeroed 1, p⟩ (some 3) .unbounded).ending ≠
      .failed (.counterOutOfBounds pc offset length) := by
    intro pc offset length hleaves
    rw [halone] at hleaves
    cases hleaves
  have hlimit : UInt64.ofNat (UInt64.toNat 3 + before.size) = 5 := rfl
  have hdelay : (Ending.failed (.stepLimitExceeded 3)).delay before.size =
      .failed (.stepLimitExceeded 5) := rfl
  have hlate := run_surround_delays p before #[.ret 0] hnops (.zeroed 1) .unbounded 3
    (by decide) hinside
  rw [hlimit] at hlate
  obtain ⟨hending, hregisters, -⟩ := hlate
  rw [halone, hdelay] at hending
  exact ⟨hnops, halone, hending, hregisters⟩

end Machine

end RegisterMachine
