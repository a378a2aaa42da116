import RegisterMachine.Proofs.Execution.Dispatch
import RegisterMachine.Proofs.Execution.Simulation

/-!
# What a run prints

A print finds a number, and the pool has a string with that number or not (`printed?`).  With
a sink that takes all that it is offered, the output of a run is made of the strings with the
numbers that were found, one for each print in the order in which they were executed
(`taken_run`).

The strings themselves are of no account to anything but the output, so a program may have them
exchanged for as many others.  Its instructions have the same effects, except that they print
other texts (`effect_of_printed?`, `effect_congr_strings`).  So the two programs take the same
steps (`simulation_pools`), and their prints find the same numbers (`prints_eq`).
-/

namespace RegisterMachine

/-! ## Sinks that never fail -/

namespace Sink

/-- Whatever it is asked from now on, the sink takes all the bytes that it is offered. -/
def NeverFails (sink : Sink) : Prop :=
  ∀ later bytes, sink.receive (later ++ sink.history) bytes = .whole

theorem neverFails_unbounded : unbounded.NeverFails := fun _ _ => rfl

theorem NeverFails.write {sink : Sink} (h : sink.NeverFails) (text : String) :
    ∃ after, sink.write text = (.ok (), after) ∧ after.NeverFails := by
  by_cases hbytes : text.toUTF8 = .empty
  · exact ⟨sink, (WriteRule.empty hbytes).write_eq, h⟩
  · refine ⟨_, (WriteRule.whole hbytes (h [] _)).write_eq, ?_⟩
    intro later bytes
    have hboth := h (later ++ [.take text.toUTF8]) bytes
    rwa [List.append_assoc] at hboth

end Sink

/-! ## Prints and the strings that they find -/

/-- The number of the string that an instruction prints, with `count` strings in the pool.  There
is none if the instruction is no print, or finds no number, or one without a string. -/
def Instruction.printed? (i : Instruction) (registers : RegisterFile) (count : Nat) :
    Option UInt64 :=
  match i.opcode, i.operand registers with
  | .op .print _, .ok index => if index.toNat < count then some index else none
  | _, _ => none

namespace Instruction

variable {i : Instruction} {registers : RegisterFile} {strings others : Array String}
variable {count : Nat} {index : UInt64} {store : Store}

/-- An instruction prints the string of its operand, if the pool has one. -/
theorem printed?_eq_some_iff :
    i.printed? registers count = some index ↔
      (∃ kind, i.opcode = .op .print kind) ∧ i.operand registers = .ok index ∧
        index.toNat < count := by
  rw [printed?]
  split
  · rename_i kind found hopcode hoperand
    simp only [hopcode, hoperand, Option.ite_none_right_eq_some, Option.some.injEq,
      Except.ok.injEq]
    constructor
    · rintro ⟨hcount, rfl⟩
      exact ⟨⟨kind, rfl⟩, rfl, hcount⟩
    · rintro ⟨-, rfl, hcount⟩
      exact ⟨hcount, rfl⟩
  · rename_i hother
    simp only [reduceCtorEq, false_iff]
    rintro ⟨⟨kind, hopcode⟩, hoperand, -⟩
    exact hother kind index hopcode hoperand

theorem effect_of_printed? (h : i.printed? registers strings.size = some index) :
    i.effect registers strings = .ok (.print (strings.getD index.toNat "")) := by
  obtain ⟨⟨kind, hopcode⟩, hoperand, hindex⟩ := printed?_eq_some_iff.1 h
  rw [effect_of_operand hopcode hoperand, Operation.effect]
  simp only [Array.getElem?_eq_getElem hindex, Array.getD_eq_getD_getElem?, Option.getD_some]

/-- The effect of an instruction that prints nothing does not depend on the strings. -/
theorem effect_congr_strings (hsize : strings.size = others.size)
    (h : i.printed? registers strings.size = none) :
    i.effect registers others = i.effect registers strings := by
  rw [effect, effect]
  split
  · rfl
  · rfl
  · rename_i operation kind _ hopcode
    cases hoperand : i.operand registers with
    | error fault => rfl
    | ok operand =>
      show operation.effect registers others i.lhs operand =
        operation.effect registers strings i.lhs operand
      -- Only a print looks at the strings.  One that finds none fails with their number.
      cases operation with
      | print =>
        have hmissing : ¬ operand.toNat < strings.size := fun hlt =>
          Option.some_ne_none operand <|
            (printed?_eq_some_iff.2 ⟨⟨kind, hopcode⟩, hoperand, hlt⟩).symm.trans h
        rw [Operation.effect, Operation.effect, Array.getElem?_eq_none (by omega),
          Array.getElem?_eq_none (by omega), hsize]
      | _ => rfl

/-! ## Dispatched prints -/

theorem dispatch_of_printed? (hsink : store.sink.NeverFails)
    (h : i.printed? store.registers strings.size = some index) :
    ∃ after, i.dispatch strings store = (.ok (.advance 1), { store with sink := after }) ∧
      after.NeverFails ∧
      after.taken = store.sink.taken ++ (strings.getD index.toNat "").toUTF8 := by
  obtain ⟨after, hwrite, hafter⟩ := hsink.write (strings.getD index.toNat "")
  refine ⟨after, ?_, hafter, Sink.taken_of_write_eq_ok hwrite⟩
  rw [dispatch_of_effect_eq_ok (effect_of_printed? h), Effect.apply, hwrite]

theorem sink_of_printed?_eq_none
    (h : i.printed? store.registers strings.size = none) :
    (i.dispatch strings store).2.sink = store.sink := by
  cases heffect : i.effect store.registers strings with
  | error fault => rw [dispatch_of_effect_eq_error heffect]
  | ok effect =>
    rw [dispatch_of_effect_eq_ok heffect]
    cases effect with
    | move offset => rfl
    | store index word => rfl
    | halt => rfl
    | print text =>
      cases rule_of_effect heffect with
      | @print kind index text hopcode hoperand htext =>
        obtain ⟨hindex, -⟩ := Array.getElem?_eq_some_iff.1 htext
        rw [printed?_eq_some_iff.2 ⟨⟨kind, hopcode⟩, hoperand, hindex⟩] at h
        cases h

end Instruction

/-! ## What the sink has taken -/

section Taken

variable {p : Program} {c d : Configuration} {budget done k : Nat}

namespace Program

/-- The number of the string that is printed by the instruction at a configuration. -/
def printed? (p : Program) (c : Configuration) : Option UInt64 :=
  (p.fetch? c.pc).bind fun i => i.printed? c.store.registers p.strings.size

/-- The configurations at which a run executes its instructions, `budget` of them at most. -/
def executed (p : Program) : (budget : Nat) → Configuration → List Configuration
  | 0, _ => []
  | budget + 1, c =>
    c :: match p.step c with
      | .running next => p.executed budget next
      | .stopped _ _ => []

/-- The numbers of the strings that a run prints, one for each print that it executes and that
finds its string. -/
def prints (p : Program) (budget : Nat) (c : Configuration) : List UInt64 :=
  (p.executed budget c).filterMap p.printed?

/-- The strings with the given numbers, one behind the other. -/
def concatenation (p : Program) (indices : List UInt64) : String :=
  String.join (indices.map fun index => p.strings.getD index.toNat "")

/-- After `k` steps the run stands where it executes the next instruction. -/
theorem getElem?_executed :
    (p.executed budget c)[k]? = some d ↔ k < budget ∧ p.Reaches k c d := by
  induction budget generalizing k c with
  | zero => simp [executed]
  | succ budget ih =>
    rw [executed]
    cases k with
    | zero =>
      rw [List.getElem?_cons_zero, Option.some.injEq]
      constructor
      · rintro rfl
        exact ⟨budget.succ_pos, .refl c⟩
      · rintro ⟨-, h⟩
        cases h
        rfl
    | succ k =>
      rw [List.getElem?_cons_succ, Nat.add_lt_add_iff_right]
      cases hstep : p.step c with
      | running next =>
        rw [ih]
        refine and_congr_right fun _ => ⟨.step hstep, ?_⟩
        intro h
        cases h with
        | step hnext rest =>
          rw [hstep] at hnext
          cases hnext
          exact rest
      | stopped result store =>
        simp only [List.getElem?_nil, reduceCtorEq, false_iff]
        rintro ⟨-, h⟩
        cases h with
        | step hnext rest =>
          rw [hstep] at hnext
          cases hnext

theorem prints_of_running {next : Configuration} (h : p.step c = .running next) :
    p.prints (budget + 1) c = (p.printed? c).toList ++ p.prints budget next := by
  rw [prints, executed, h, List.filterMap_cons]
  cases p.printed? c with
  | none => rfl
  | some index => rfl

theorem prints_of_stopped {result : Except Fault UInt64} {store : Store}
    (h : p.step c = .stopped result store) :
    p.prints (budget + 1) c = (p.printed? c).toList := by
  rw [prints, executed, h, List.filterMap_cons]
  cases p.printed? c with
  | none => rfl
  | some index => rfl

theorem concatenation_append (p : Program) (first second : List UInt64) :
    (p.concatenation (first ++ second)).toUTF8 =
      (p.concatenation first).toUTF8 ++ (p.concatenation second).toUTF8 := by
  rw [concatenation, List.map_append, String.join_append]
  exact String.toByteArray_append

/-- A step gives the sink the string that it prints, if it prints one. -/
theorem taken_step (hsink : c.store.sink.NeverFails) :
    (p.step c).store.sink.NeverFails ∧
      (p.step c).store.sink.taken =
        c.store.sink.taken ++ (p.concatenation (p.printed? c).toList).toUTF8 := by
  cases hfetch : p.fetch? c.pc with
  | none =>
    have hstep : (p.step c).store = c.store := by simp only [step, hfetch, Progress.store]
    rw [hstep, printed?, hfetch]
    exact ⟨hsink, ByteArray.append_empty.symm⟩
  | some i =>
    have hprints : p.printed? c = i.printed? c.store.registers p.strings.size := by
      rw [printed?, hfetch, Option.bind_some]
    rw [store_step_of_fetch? hfetch, hprints]
    cases hprinted : i.printed? c.store.registers p.strings.size with
    | none =>
      rw [Instruction.sink_of_printed?_eq_none hprinted]
      exact ⟨hsink, ByteArray.append_empty.symm⟩
    | some index =>
      obtain ⟨after, hdispatch, hafter, htaken⟩ := Instruction.dispatch_of_printed? hsink hprinted
      rw [hdispatch]
      refine ⟨hafter, ?_⟩
      rw [Option.toList_some, concatenation, List.map_singleton, String.join_cons, String.join_nil,
        String.append_empty]
      exact htaken

end Program

/-- The store that a run leaves, whether or not it came to an end. -/
def Outcome.store : Outcome → Store
  | .unfinished c => c.store
  | .finished _ _ store => store

/-- The output of a run is the strings that it prints. -/
theorem Program.taken_run (hsink : c.store.sink.NeverFails) :
    (p.run budget done c).store.sink.taken =
      c.store.sink.taken ++ (p.concatenation (p.prints budget c)).toUTF8 := by
  induction budget generalizing done c with
  | zero => exact ByteArray.append_empty.symm
  | succ budget ih =>
    obtain ⟨hnever, htaken⟩ := p.taken_step hsink
    rw [run]
    cases hstep : p.step c with
    | running next =>
      rw [hstep] at hnever htaken
      rw [ih hnever, prints_of_running hstep, concatenation_append, ← ByteArray.append_assoc]
      exact congrArg (· ++ _) htaken
    | stopped result store =>
      rw [hstep] at htaken
      rw [prints_of_stopped hstep]
      exact htaken

end Taken

namespace Machine

theorem store_run (m : Machine) (limit : Option UInt64) (sink : Sink) :
    (m.program.run (budget limit) 0 (m.start sink)).store =
      ⟨(m.run limit sink).machine.registers, (m.run limit sink).sink⟩ := by
  rw [run]
  cases m.program.run (budget limit) 0 (m.start sink) with
  | unfinished c => rfl
  | finished steps result store => rfl

theorem taken_run (m : Machine) (limit : Option UInt64) {sink : Sink}
    (hsink : sink.NeverFails) :
    (m.run limit sink).sink.taken = sink.taken ++
      (m.program.concatenation (m.program.prints (budget limit) (m.start sink))).toUTF8 := by
  have htaken : (m.program.run (budget limit) 0 (m.start sink)).store.sink.taken = _ :=
    Program.taken_run hsink
  rwa [m.store_run] at htaken

end Machine

/-! ## Programs with other strings -/

/-- Stores with the same registers, and with sinks that never fail. -/
structure Store.Twin (s t : Store) : Prop where
  registers : t.registers = s.registers
  left : s.sink.NeverFails
  right : t.sink.NeverFails

namespace Store.Twin

variable {s s' t : Store} {answer : Except Fault Flow}

theorem write {text : String} {written : Except String Unit} {sink : Sink} (h : s.Twin t)
    (hwrite : s.sink.write text = (written, sink)) :
    ∃ sink', t.sink.write text = (written, sink') ∧
      { s with sink }.Twin { t with sink := sink' } := by
  obtain ⟨after, hsink, hafter⟩ := h.left.write text
  obtain ⟨after', hsink', hafter'⟩ := h.right.write text
  rw [hsink] at hwrite
  cases hwrite
  exact ⟨after', hsink', h.registers, hafter, hafter'⟩

theorem apply {effect : Effect} (h : s.Twin t) (hanswer : effect.apply s = (answer, s')) :
    ∃ t', effect.apply t = (answer, t') ∧ s'.Twin t' :=
  effect.apply_related h
    (fun index word => ⟨congrArg (RegisterFile.put · index word) h.registers, h.left, h.right⟩)
    (fun hwrite _ => h.write hwrite) hanswer

/-- An instruction gives the same answer with any pool of the same size. -/
theorem dispatch {i : Instruction} {strings others : Array String} (h : s.Twin t)
    (hsize : strings.size = others.size) (hanswer : i.dispatch strings s = (answer, s')) :
    ∃ t', i.dispatch others t = (answer, t') ∧ s'.Twin t' := by
  cases hprinted : i.printed? s.registers strings.size with
  | none =>
    refine Program.dispatch_of_apply ?_ h (fun effect => h.apply) hanswer
    rw [h.registers, Instruction.effect_congr_strings hsize hprinted]
  | some index =>
    obtain ⟨after, hdispatch, hafter, -⟩ := Instruction.dispatch_of_printed? h.left hprinted
    rw [← h.registers, hsize] at hprinted
    obtain ⟨after', hdispatch', hafter', -⟩ := Instruction.dispatch_of_printed? h.right hprinted
    rw [hdispatch] at hanswer
    cases hanswer
    exact ⟨_, hdispatch', h.registers, hafter, hafter'⟩

end Store.Twin

namespace Program

variable {p q : Program} {c : Configuration} {t : Store}

/-- With other texts of the same number in the pool, a program takes the same steps. -/
theorem simulation_pools (hcode : p.instructions = q.instructions)
    (hsize : p.strings.size = q.strings.size) :
    Simulation p q 0 Store.Twin fun _ => True := by
  refine .of_dispatch hcode (fun _ h => ?_) fun _ h hanswer _ => h.dispatch hsize hanswer
  rw [Instruction.operand, Instruction.operand, h.registers]

/-- With as many other strings, a program prints the strings with the same numbers. -/
theorem prints_eq (hcode : p.instructions = q.instructions)
    (hsize : p.strings.size = q.strings.size) (h : c.store.Twin t) (budget : Nat) :
    q.prints budget ⟨c.pc, t⟩ = p.prints budget c := by
  have hsimulation := simulation_pools hcode hsize
  induction budget generalizing c t with
  | zero => rfl
  | succ budget ih =>
    have hprinted : q.printed? ⟨c.pc, t⟩ = p.printed? c := by
      rw [printed?, printed?, fetch?, fetch?, hcode, hsize, h.registers]
    cases hstep : p.step c with
    | running next =>
      obtain ⟨t', hstep', htwin⟩ := hsimulation.running h hstep
      simp only [Nat.add_zero] at hstep'
      rw [prints_of_running hstep, prints_of_running hstep', hprinted, ih htwin]
    | stopped result store =>
      obtain ⟨t', hstep', -⟩ := hsimulation.stopped h hstep trivial
      rw [Nat.add_zero] at hstep'
      rw [prints_of_stopped hstep, prints_of_stopped hstep', hprinted]

/-- Only strings of the pool are printed. -/
theorem lt_of_mem_prints {budget : Nat} {index : UInt64} (h : index ∈ p.prints budget c) :
    index.toNat < p.strings.size := by
  obtain ⟨d, -, hprinted⟩ := List.mem_filterMap.1 h
  obtain ⟨i, -, hfound⟩ := Option.bind_eq_some_iff.1 hprinted
  exact (Instruction.printed?_eq_some_iff.1 hfound).2.2

/-- Of the strings of a program nothing shows in a run but their number and, in the output, their
text.  With as many other strings, and with any two sinks that never fail, the run ends the same
way and leaves the same registers.  Both runs print the strings with the same numbers, one for
each print that they execute and that finds its string. -/
theorem run_ignores_texts (p q : Program) (hcode : p.instructions = q.instructions)
    (hsize : p.strings.size = q.strings.size) (registers : RegisterFile) (limit : Option UInt64)
    (sink other : Sink) (hsink : sink.NeverFails) (hother : other.NeverFails) :
    let first := Machine.run ⟨registers, p⟩ limit sink
    let second := Machine.run ⟨registers, q⟩ limit other
    first.ending = second.ending ∧
      first.machine.registers = second.machine.registers ∧
      ∃ indices : List UInt64,
        indices = p.prints (Machine.budget limit) ⟨0, registers, sink⟩ ∧
        indices = q.prints (Machine.budget limit) ⟨0, registers, other⟩ ∧
        (∀ index ∈ indices, index.toNat < p.strings.size) ∧
        first.sink.taken = sink.taken ++ (p.concatenation indices).toUTF8 ∧
        second.sink.taken = other.taken ++ (q.concatenation indices).toUTF8 := by
  intro first second
  have hstart : Store.Twin ⟨registers, sink⟩ ⟨registers, other⟩ := ⟨rfl, hsink, hother⟩
  obtain ⟨hending, htwin⟩ := Machine.run_simulates (simulation_pools hcode hsize) hstart limit
  have hprints : q.prints (Machine.budget limit) ⟨0, registers, other⟩ =
      p.prints (Machine.budget limit) ⟨0, registers, sink⟩ :=
    prints_eq hcode hsize (c := ⟨0, registers, sink⟩) hstart _
  refine ⟨hending, htwin.registers.symm, _, rfl, hprints.symm, fun _ => lt_of_mem_prints, ?_, ?_⟩
  · exact Machine.taken_run ⟨registers, p⟩ limit hsink
  · rw [← hprints]
    exact Machine.taken_run ⟨registers, q⟩ limit hother

/-- A loop prints the strings 0 and 1, and behind it the string 0 is printed again. -/
theorem run_ignores_texts_loop :
    let code : Array Instruction :=
      #[.print 0, .addc 0 1, .eqc 0 2, .jmpc 1, .jmpc (-4), .printc 0, .ret 0]
    let p : Program := ⟨code, #["a", "bc"], by decide⟩
    let q : Program := ⟨code, #["", "é"], by decide⟩
    let other : Sink := { taken := "x".toUTF8 }
    p.instructions = q.instructions ∧ p.strings.size = q.strings.size ∧ other.NeverFails ∧
      (Machine.run ⟨.zeroed 1, p⟩ (some 20) .unbounded).ending = .halted ⟨2, 10⟩ ∧
      (Machine.run ⟨.zeroed 1, q⟩ (some 20) other).ending = .halted ⟨2, 10⟩ ∧
      (Machine.run ⟨.zeroed 1, p⟩ (some 20) .unbounded).sink.taken = "abca".toUTF8 ∧
      (Machine.run ⟨.zeroed 1, q⟩ (some 20) other).sink.taken = "xé".toUTF8 := by
  intro code p q other
  have hother : other.NeverFails := fun _ _ => rfl
  have hhalted : (Machine.run ⟨.zeroed 1, p⟩ (some 20) .unbounded).ending = .halted ⟨2, 10⟩ := by
    decide +kernel
  have hprints : p.prints 20 ⟨0, .zeroed 1, .unbounded⟩ = [0, 1, 0] := by decide +kernel
  have houtput : Sink.unbounded.taken ++ (p.concatenation [0, 1, 0]).toUTF8 = "abca".toUTF8 := by
    decide +kernel
  have houtput' : other.taken ++ (q.concatenation [0, 1, 0]).toUTF8 = "xé".toUTF8 := by
    decide +kernel
  obtain ⟨hending, -, indices, hindices, -, -, hfirst, hsecond⟩ :=
    run_ignores_texts p q rfl rfl (.zeroed 1) (some 20) .unbounded other Sink.neverFails_unbounded
      hother
  obtain rfl : indices = [0, 1, 0] := hindices.trans hprints
  exact ⟨rfl, rfl, hother, hhalted, hending.symm.trans hhalted, hfirst.trans houtput,
    hsecond.trans houtput'⟩

end Program

end RegisterMachine
