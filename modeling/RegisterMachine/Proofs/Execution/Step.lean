import RegisterMachine.Execution.Run
import RegisterMachine.Proofs.Execution.Effect

/-!
# What one step does

`Program.StepRule` lists the ways in which a step can go: one in which the run goes
on and five in which it stops.  `step_rule` says that every step is one of them, so
a property of steps is shown rule by rule, and no proof has to unfold the step.  In the
other direction a rule that applies tells the step (`StepRule.step_eq`), and that is how
a known program is executed.  The writes to a sink have rules of the same kind
(`Sink.WriteRule`).

Three such properties are here.  A step changes the registers and the sink only by the
effect of its instruction (`store_step`), so it takes no output back (`grows_step`).  It
stops with a result only at a return (`return_of_step`).  And it stops only with a fault that
is true of the instruction at the counter (`fault_of_step`), so never with that of a
used-up limit, which is not for a step to say.
-/

namespace RegisterMachine

/-! ## Writes -/

namespace Sink

/-- The ways in which a write can go. -/
inductive WriteRule (sink : Sink) (text : String) : Except String Unit × Sink → Prop where
  /-- A text without bytes is not offered. -/
  | empty (h : text.toUTF8 = .empty) : sink.WriteRule text (.ok (), sink)
  | whole (h : text.toUTF8 ≠ .empty)
      (hreceive : sink.receive sink.history text.toUTF8 = .whole) :
      sink.WriteRule text (.ok (), { sink with
        taken := sink.taken ++ text.toUTF8, history := .take text.toUTF8 :: sink.history })
  | cut {kept : Nat} {reason : String} (h : text.toUTF8 ≠ .empty)
      (hreceive : sink.receive sink.history text.toUTF8 = .cut kept reason) :
      sink.WriteRule text (.error reason, { sink with
        taken := sink.taken ++ text.toUTF8.extract 0 kept,
        history := .take text.toUTF8 :: sink.history })

variable {sink : Sink} {text : String}

theorem isEmpty_toUTF8_iff : text.toUTF8.isEmpty = true ↔ text.toUTF8 = .empty := by
  rw [← ByteArray.size_eq_zero_iff]
  simp [ByteArray.isEmpty]

/-- There is no other way for a write to end. -/
theorem write_rule (sink : Sink) (text : String) : sink.WriteRule text (sink.write text) := by
  rw [write]
  dsimp only
  by_cases hempty : text.toUTF8.isEmpty = true
  · rw [if_pos hempty]
    exact .empty (isEmpty_toUTF8_iff.1 hempty)
  · rw [if_neg hempty]
    have hbytes : text.toUTF8 ≠ .empty := fun h => hempty (isEmpty_toUTF8_iff.2 h)
    cases hreceive : sink.receive sink.history text.toUTF8 with
    | whole => exact .whole hbytes hreceive
    | cut kept reason => exact .cut hbytes hreceive

/-- One rule applies to a write, and it tells the outcome. -/
theorem WriteRule.write_eq {outcome : Except String Unit × Sink} (h : sink.WriteRule text outcome) :
    sink.write text = outcome := by
  cases h with
  | empty hbytes => simp only [write, if_pos (isEmpty_toUTF8_iff.2 hbytes)]
  | whole hbytes hreceive => simp only [write, if_neg (mt isEmpty_toUTF8_iff.1 hbytes), hreceive]
  | cut hbytes hreceive => simp only [write, if_neg (mt isEmpty_toUTF8_iff.1 hbytes), hreceive]

end Sink

/-! ## Output only grows -/

/-- What a sink has taken later begins with what it had taken before. -/
def Sink.Grows (before after : Sink) : Prop :=
  ∃ bytes, after.taken = before.taken ++ bytes

theorem Sink.Grows.refl (sink : Sink) : sink.Grows sink := ⟨.empty, by simp⟩

theorem Sink.Grows.trans {s t u : Sink} (h₁ : s.Grows t) (h₂ : t.Grows u) : s.Grows u := by
  obtain ⟨first, hfirst⟩ := h₁
  obtain ⟨second, hsecond⟩ := h₂
  exact ⟨first ++ second, by rw [hsecond, hfirst, ByteArray.append_assoc]⟩

theorem Sink.grows_write (sink : Sink) (text : String) : sink.Grows (sink.write text).2 := by
  have hrule := sink.write_rule text
  generalize sink.write text = outcome at hrule ⊢
  cases hrule with
  | empty hbytes => exact .refl sink
  | whole hbytes hreceive => exact ⟨_, rfl⟩
  | cut hbytes hreceive => exact ⟨_, rfl⟩

/-! ## The rules of a step -/

/-- What a step of a program from a configuration can lead to. -/
inductive Program.StepRule (p : Program) (c : Configuration) : Progress → Prop where
  /-- The counter is outside the program. -/
  | outside (h : p.fetch? c.pc = none) :
      p.StepRule c (.stopped (.error (.counterOutOfBounds c.pc 0 p.length)) c.store)
  /-- The instruction has no effect. -/
  | fault {i : Instruction} {fault : Fault} (h : p.fetch? c.pc = some i)
      (heffect : i.effect c.store.registers p.strings = .error fault) :
      p.StepRule c (.stopped (.error fault) c.store)
  /-- The instruction is a return. -/
  | halt {i : Instruction} (h : p.fetch? c.pc = some i)
      (heffect : i.effect c.store.registers p.strings = .ok .halt) :
      p.StepRule c (.stopped (i.operand c.store.registers) c.store)
  /-- The instruction is a print and the sink fails. -/
  | refused {i : Instruction} {text reason : String} {sink : Sink} (h : p.fetch? c.pc = some i)
      (heffect : i.effect c.store.registers p.strings = .ok (.print text))
      (hwrite : c.store.sink.write text = (.error reason, sink)) :
      p.StepRule c (.stopped (.error (.output reason)) { c.store with sink })
  /-- The counter would leave the program. -/
  | leave {i : Instruction} {effect : Effect} {offset : Int} {store : Store}
      (h : p.fetch? c.pc = some i) (heffect : i.effect c.store.registers p.strings = .ok effect)
      (happly : effect.apply c.store = (.ok (.advance offset), store))
      (hadvance : advance p.length c.pc offset = none) :
      p.StepRule c (.stopped (.error (.counterOutOfBounds c.pc offset p.length)) store)
  | next {i : Instruction} {effect : Effect} {offset : Int} {pc : Nat} {store : Store}
      (h : p.fetch? c.pc = some i) (heffect : i.effect c.store.registers p.strings = .ok effect)
      (happly : effect.apply c.store = (.ok (.advance offset), store))
      (hadvance : advance p.length c.pc offset = some pc) :
      p.StepRule c (.running ⟨pc, store⟩)

theorem Effect.eq_halt_of_apply {effect : Effect} {store store' : Store}
    (h : effect.apply store = (.ok .halt, store')) : effect = .halt ∧ store' = store := by
  cases effect with
  | move offset => cases h
  | store index word => cases h
  | print text =>
    cases hwrite : store.sink.write text with
    | mk answer sink => cases answer <;> simp [apply, hwrite] at h
  | halt =>
    cases h
    exact ⟨rfl, rfl⟩

/-- Only a print can fail to be applied, and then with the fault of the sink. -/
theorem Effect.eq_print_of_apply {effect : Effect} {store store' : Store} {fault : Fault}
    (h : effect.apply store = (.error fault, store')) :
    ∃ text reason sink, effect = .print text ∧ store.sink.write text = (.error reason, sink) ∧
      fault = .output reason ∧ store' = { store with sink } := by
  cases effect with
  | move offset => cases h
  | store index word => cases h
  | halt => cases h
  | print text =>
    cases hwrite : store.sink.write text with
    | mk answer sink =>
      cases answer with
      | ok taken => simp [apply, hwrite] at h
      | error reason =>
        simp only [apply, hwrite, Prod.mk.injEq, Except.error.injEq] at h
        exact ⟨text, reason, sink, rfl, hwrite, h.1.symm, h.2.symm⟩

/-- There is no other way for a step to end. -/
theorem Program.step_rule (p : Program) (c : Configuration) : p.StepRule c (p.step c) := by
  rw [step]
  split
  · rename_i i hfetch
    rw [Instruction.step, Instruction.dispatch]
    cases heffect : i.effect c.store.registers p.strings with
    | error fault => exact .fault hfetch heffect
    | ok effect =>
      dsimp only
      cases happly : effect.apply c.store with
      | mk answer store =>
        cases answer with
        | error fault =>
          obtain ⟨text, reason, sink, rfl, hwrite, rfl, rfl⟩ := Effect.eq_print_of_apply happly
          exact .refused hfetch heffect hwrite
        | ok flow =>
          cases flow with
          | halt =>
            obtain ⟨rfl, rfl⟩ := Effect.eq_halt_of_apply happly
            show p.StepRule c (.stopped (i.haltValue c.store.registers) c.store)
            rw [Instruction.haltValue_of_effect heffect]
            exact .halt hfetch heffect
          | advance offset =>
            cases hadvance : advance p.length c.pc offset with
            | none => simpa only [hadvance] using .leave hfetch heffect happly hadvance
            | some pc => simpa only [hadvance] using .next hfetch heffect happly hadvance
  · rename_i hfetch
    exact .outside hfetch

/-! ## Steps that are known -/

section Known

variable {p : Program} {i : Instruction}

/-- A configuration has one step, so it is the one that an applicable rule gives. -/
theorem Program.StepRule.step_eq {c : Configuration} {progress : Progress}
    (h : p.StepRule c progress) : p.step c = progress := by
  cases h with
  | outside hfetch => simp only [step, hfetch]
  | fault hfetch heffect =>
    simp only [step, hfetch, Instruction.step, Instruction.dispatch, heffect]
  | halt hfetch heffect =>
    simp only [step, hfetch, Instruction.step, Instruction.dispatch, heffect, Effect.apply,
      Instruction.haltValue_of_effect heffect]
  | refused hfetch heffect hwrite =>
    simp only [step, hfetch, Instruction.step, Instruction.dispatch, heffect, Effect.apply, hwrite]
  | leave hfetch heffect happly hadvance =>
    simp only [step, hfetch, Instruction.step, Instruction.dispatch, heffect, happly, hadvance]
  | next hfetch heffect happly hadvance =>
    simp only [step, hfetch, Instruction.step, Instruction.dispatch, heffect, happly, hadvance]

theorem Program.step_eq_iff {c : Configuration} {progress : Progress} :
    p.step c = progress ↔ p.StepRule c progress := by
  constructor
  · intro hstep
    rw [← hstep]
    exact p.step_rule c
  · exact StepRule.step_eq

theorem Program.step_eq_of_store {pc next : Nat} {before after : RegisterFile} {sink : Sink}
    {index word : UInt64} (hfetch : p.fetch? pc = some i)
    (heffect : i.effect before p.strings = .ok (.store index word))
    (hput : before.put index word = after) (hadvance : advance p.length pc 1 = some next) :
    p.step ⟨pc, before, sink⟩ = .running ⟨next, after, sink⟩ := by
  subst hput
  exact (StepRule.next hfetch heffect rfl hadvance).step_eq

theorem Program.step_eq_of_move {pc next : Nat} {store : Store} {offset : Int}
    (hfetch : p.fetch? pc = some i)
    (heffect : i.effect store.registers p.strings = .ok (.move offset))
    (hadvance : advance p.length pc offset = some next) :
    p.step ⟨pc, store⟩ = .running ⟨next, store⟩ :=
  (StepRule.next hfetch heffect rfl hadvance).step_eq

theorem Program.step_eq_of_halt {pc : Nat} {store : Store} {result : Except Fault UInt64}
    (hfetch : p.fetch? pc = some i)
    (heffect : i.effect store.registers p.strings = .ok .halt)
    (hvalue : i.operand store.registers = result) :
    p.step ⟨pc, store⟩ = .stopped result store := by
  rw [← hvalue]
  exact (StepRule.halt hfetch heffect).step_eq

end Known

/-! ## Stores -/

/-- The registers and the sink after a step. -/
def Progress.store : Progress → Store
  | .running next => next.store
  | .stopped _ store => store

/-- A step leaves the store as it was, or as the effect of the instruction makes it. -/
theorem Program.store_step (p : Program) (c : Configuration) :
    (p.step c).store = c.store ∨
      ∃ i effect, p.fetch? c.pc = some i ∧ i.effect c.store.registers p.strings = .ok effect ∧
        (p.step c).store = (effect.apply c.store).2 := by
  have hrule := p.step_rule c
  generalize p.step c = progress at hrule ⊢
  cases hrule with
  | outside hfetch => exact .inl rfl
  | fault hfetch heffect => exact .inl rfl
  | halt hfetch heffect => exact .inl rfl
  | @refused i text reason sink hfetch heffect hwrite =>
    refine .inr ⟨_, _, hfetch, heffect, ?_⟩
    simp only [Effect.apply, hwrite, Progress.store]
  | leave hfetch heffect happly hadvance =>
    exact .inr ⟨_, _, hfetch, heffect, congrArg Prod.snd happly.symm⟩
  | next hfetch heffect happly hadvance =>
    exact .inr ⟨_, _, hfetch, heffect, congrArg Prod.snd happly.symm⟩

/-- The sink is left alone but for a print. -/
theorem Effect.sink_apply (effect : Effect) (store : Store) :
    (effect.apply store).2.sink = store.sink ∨
      ∃ text, (effect.apply store).2.sink = (store.sink.write text).2 := by
  cases effect with
  | move offset => exact .inl rfl
  | store index word => exact .inl rfl
  | halt => exact .inl rfl
  | print text =>
    refine .inr ⟨text, ?_⟩
    cases hwrite : store.sink.write text with
    | mk answer sink => cases answer <;> simp only [apply, hwrite]

theorem Program.sink_step (p : Program) (c : Configuration) :
    (p.step c).store.sink = c.store.sink ∨
      ∃ text, (p.step c).store.sink = (c.store.sink.write text).2 := by
  rcases p.store_step c with hstore | ⟨i, effect, -, -, hstore⟩
  · exact .inl (by rw [hstore])
  · rw [hstore]
    exact effect.sink_apply c.store

/-- A step takes nothing back from the sink. -/
theorem Program.grows_step (p : Program) (c : Configuration) :
    c.store.sink.Grows (p.step c).store.sink := by
  rcases p.sink_step c with hsink | ⟨text, hsink⟩
  · rw [hsink]
    exact .refl _
  · rw [hsink]
    exact c.store.sink.grows_write text

/-- No effect adds or removes a register. -/
theorem Effect.count_apply (effect : Effect) (store : Store) :
    (effect.apply store).2.registers.count = store.registers.count := by
  cases effect with
  | move offset => rfl
  | store index word => exact RegisterFile.count_put _ _ _
  | halt => rfl
  | print text =>
    cases hwrite : store.sink.write text with
    | mk answer sink => cases answer <;> simp only [apply, hwrite]

/-- A step neither adds nor removes a register. -/
theorem Program.count_step (p : Program) (c : Configuration) :
    (p.step c).store.registers.count = c.store.registers.count := by
  rcases p.store_step c with hstore | ⟨i, effect, -, -, hstore⟩
  · rw [hstore]
  · rw [hstore, effect.count_apply]

/-! ## Stops -/

/-- A fault with which the instruction `i` can stop a run, and what is then true of it: of the
registers that it names, of its operand, of the place that it moves to or of the sink. -/
inductive Instruction.StepFault (i : Instruction) (p : Program) (c : Configuration) :
    Fault → Prop where
  | register {index : UInt64} (hnamed : index ∈ i.registersNamed)
      (hindex : c.store.registers.count ≤ index.toNat) :
      i.StepFault p c (.registerOutOfBounds index c.store.registers.count)
  | string {kind : OperandKind} {index : UInt64} (hopcode : i.opcode = .op .print kind)
      (hoperand : i.operand c.store.registers = .ok index)
      (hindex : p.strings.size ≤ index.toNat) :
      i.StepFault p c (.stringOutOfBounds index p.strings.size)
  | counter {offset : Int} (hflow : (i.dispatch p.strings c.store).1 = .ok (.advance offset))
      (htarget : c.pc + offset < 0 ∨ p.length ≤ c.pc + offset) :
      i.StepFault p c (.counterOutOfBounds c.pc offset p.length)
  | division {operation : Operation} {kind : OperandKind}
      (hopcode : i.opcode = .op operation kind) (hdivides : operation = .div ∨ operation = .mod)
      (hoperand : i.operand c.store.registers = .ok 0) : i.StepFault p c .divisionByZero
  | output {kind : OperandKind} {index : UInt64} {text reason : String} {sink : Sink}
      (hopcode : i.opcode = .op .print kind)
      (hoperand : i.operand c.store.registers = .ok index)
      (htext : p.strings[index.toNat]? = some text)
      (hwrite : c.store.sink.write text = (.error reason, sink)) :
      i.StepFault p c (.output reason)

namespace Instruction

variable {i : Instruction} {p : Program} {c : Configuration} {fault : Fault}

theorem stepFault_of_operand (h : i.operand c.store.registers = .error fault) :
    i.StepFault p c fault := by
  obtain ⟨hkind, hindex, rfl⟩ := register_of_operand h
  exact .register (mem_registersNamed_of_source hkind) hindex

theorem stepFault_of_effect (h : i.effect c.store.registers p.strings = .error fault) :
    i.StepFault p c fault := by
  cases rule_of_effect h with
  | noSource hopcode hindex =>
    exact .register (mem_registersNamed_of_source (by rw [hopcode]; rfl)) hindex
  | noDestination hopcode hshape hindex =>
    exact .register (mem_registersNamed_of_destination (by rw [hopcode]; exact hshape)) hindex
  | division hopcode hdivides hoperand => exact .division hopcode hdivides hoperand
  | noString hopcode hoperand hstring => exact .string hopcode hoperand hstring

end Instruction

section Stopped

variable {p : Program} {c : Configuration} {store : Store}

/-- A step that stops with a fault is one outside the program, or the fault is true. -/
theorem Program.fault_of_step {fault : Fault} (h : p.step c = .stopped (.error fault) store) :
    p.fetch? c.pc = none ∧ fault = .counterOutOfBounds c.pc 0 p.length ∨
      ∃ i, p.fetch? c.pc = some i ∧ i.StepFault p c fault := by
  have hrule := p.step_rule c
  rw [h] at hrule
  generalize hresult : Except.error fault = result at hrule
  cases hrule with
  | outside hfetch =>
    cases hresult
    exact .inl ⟨hfetch, rfl⟩
  | fault hfetch heffect =>
    cases hresult
    exact .inr ⟨_, hfetch, Instruction.stepFault_of_effect heffect⟩
  | halt hfetch heffect =>
    exact .inr ⟨_, hfetch, Instruction.stepFault_of_operand hresult.symm⟩
  | @refused i text reason sink hfetch heffect hwrite =>
    cases hresult
    cases Instruction.rule_of_effect heffect with
    | print hopcode hoperand htext =>
      exact .inr ⟨_, hfetch, .output hopcode hoperand htext hwrite⟩
  | leave hfetch heffect happly hadvance =>
    cases hresult
    refine .inr ⟨_, hfetch, .counter ?_ (advance_eq_none_iff.1 hadvance)⟩
    simp only [Instruction.dispatch, heffect, happly]

/-- A step that stops with a value is that of a return, and the value is its operand. -/
theorem Program.return_of_step {value : UInt64} (h : p.step c = .stopped (.ok value) store) :
    ∃ i kind, p.fetch? c.pc = some i ∧ i.opcode = .op .ret kind ∧
      i.operand c.store.registers = .ok value ∧ store = c.store := by
  have hrule := p.step_rule c
  rw [h] at hrule
  generalize hresult : Except.ok value = result at hrule
  cases hrule with
  | outside hfetch => cases hresult
  | fault hfetch heffect => cases hresult
  | refused hfetch heffect hwrite => cases hresult
  | leave hfetch heffect happly hadvance => cases hresult
  | halt hfetch heffect =>
    obtain ⟨kind, hopcode⟩ := Opcode.isHalt_iff.1 (Instruction.effect_eq_halt_iff.1 heffect)
    exact ⟨_, kind, hfetch, hopcode, rfl, rfl⟩

end Stopped

end RegisterMachine
