import RegisterMachine.Proofs.Execution.Limit
import RegisterMachine.Proofs.Execution.Simulation
import RegisterMachine.Proofs.Registers

/-!
# Registers that are not required

A program reads and writes only the registers that it names, and it requires all of them
(`namesBelow_registersRequired`).  So the registers beyond do not show in a run.  For one run that
is said by `keepsFrom_step`: a step leaves them as they were.  For two runs it is a
simulation (`simulation_agreeBelow`): from register files that agree on the registers
required, with sinks that behave alike, each step of the one is a step of the other.  An
effect is found out from words that are the same in both files, and a fault that carries
the number of registers does not come up, since every register that is named exists.
-/

namespace RegisterMachine

/-! ## Sinks that behave alike -/

namespace Sink

/-- Sinks that answer alike to whatever bytes they are offered from now on. -/
def Alike (s t : Sink) : Prop :=
  ∀ later, s.receive (later ++ s.history) = t.receive (later ++ t.history)

/-- What `s` and `t` had taken was added to by the same bytes. -/
def SameOutput (s t s' t' : Sink) : Prop :=
  ∃ bytes, s'.taken = s.taken ++ bytes ∧ t'.taken = t.taken ++ bytes

variable {s t s' t' s'' t'' : Sink}

theorem SameOutput.refl (s t : Sink) : SameOutput s t s t := ⟨.empty, by simp, by simp⟩

theorem SameOutput.trans (h₁ : SameOutput s t s' t') (h₂ : SameOutput s' t' s'' t'') :
    SameOutput s t s'' t'' := by
  obtain ⟨first, hs₁, ht₁⟩ := h₁
  obtain ⟨second, hs₂, ht₂⟩ := h₂
  refine ⟨first ++ second, ?_, ?_⟩
  · rw [hs₂, hs₁, ByteArray.append_assoc]
  · rw [ht₂, ht₁, ByteArray.append_assoc]

/-- Sinks that behave alike answer a write alike and go on to do so. -/
theorem Alike.write {text : String} {answer : Except String Unit} (h : s.Alike t)
    (hwrite : s.write text = (answer, s')) :
    ∃ t', t.write text = (answer, t') ∧ s'.Alike t' ∧ SameOutput s t s' t' := by
  -- Both histories grow by the same request.
  have hlater : ∀ later, s.receive (later ++ .take text.toUTF8 :: s.history) =
      t.receive (later ++ .take text.toUTF8 :: t.history) := by
    intro later
    have hboth := h (later ++ [.take text.toUTF8])
    rwa [List.append_assoc, List.append_assoc] at hboth
  have hanswer : s.receive s.history = t.receive t.history := h []
  have hrule := s.write_rule text
  rw [hwrite] at hrule
  cases hrule with
  | empty hbytes => exact ⟨t, (WriteRule.empty hbytes).write_eq, h, .refl _ _⟩
  | whole hbytes hreceive =>
    rw [hanswer] at hreceive
    exact ⟨_, (WriteRule.whole hbytes hreceive).write_eq, hlater, _, rfl, rfl⟩
  | cut hbytes hreceive =>
    rw [hanswer] at hreceive
    exact ⟨_, (WriteRule.cut hbytes hreceive).write_eq, hlater, _, rfl, rfl⟩

end Sink

/-! ## Instructions and the registers that they name -/

section Named

variable {r s : RegisterFile} {strings : Array String}

theorem Operation.effect_congr {operation : Operation} {lhs operand : UInt64}
    (h : operation.shape = .binary → r.get lhs = s.get lhs) :
    operation.effect r strings lhs operand = operation.effect s strings lhs operand := by
  cases operation with
  | jmp => rfl
  | print => rfl
  | ret => rfl
  | add => simp only [effect, h rfl]
  | div => simp only [effect, h rfl]
  | eq => simp only [effect, h rfl]
  | mod => simp only [effect, h rfl]
  | mul => simp only [effect, h rfl]
  | set => simp only [effect, h rfl]

namespace Instruction

variable {i : Instruction}

/-- An operand depends on no register but the one that is named for it. -/
theorem operand_congr (h : ∀ index ∈ i.registersNamed, r.get index = s.get index) :
    i.operand r = i.operand s := by
  rw [operand, operand]
  cases hkind : i.opcode.kind with
  | immediate => rfl
  | register => exact h i.rhs (mem_registersNamed_of_source hkind)

/-- The effect of an instruction is found out from the registers that it names. -/
theorem effect_congr (h : ∀ index ∈ i.registersNamed, r.get index = s.get index) :
    i.effect r strings = i.effect s strings := by
  rw [effect, effect]
  split
  · rfl
  · rfl
  · rename_i operation kind _ hopcode
    have hlhs : operation.shape = .binary → r.get i.lhs = s.get i.lhs := by
      intro hshape
      refine h i.lhs (mem_registersNamed_of_destination ?_)
      rw [hopcode]
      exact hshape
    rw [operand_congr h]
    exact congrArg _ (funext fun operand => Operation.effect_congr hlhs)

end Instruction

end Named

/-! ## Programs and the registers that they require -/

theorem le_foldr_max {α : Type} {f : α → Nat} {x : α} {xs : List α} (h : x ∈ xs) :
    f x ≤ xs.foldr (fun y bound => max (f y) bound) 0 := by
  induction xs with
  | nil => cases h
  | cons y ys ih =>
    rw [List.foldr_cons]
    rcases List.mem_cons.1 h with rfl | hys
    · exact Nat.le_max_left _ _
    · exact Nat.le_trans (ih hys) (Nat.le_max_right _ _)

namespace Program

/-- Every register that an instruction of the program names is below `k`. -/
def NamesBelow (p : Program) (k : Nat) : Prop :=
  ∀ i ∈ p.instructions, ∀ index ∈ i.registersNamed, index.toNat < k

/-- A program requires all registers that it names, if the count of them can be told. -/
theorem namesBelow_registersRequired {p : Program} (h : p.registersRequired < maxRegisterCount) :
    p.NamesBelow p.registersRequired := by
  intro i hi index hindex
  have hinstruction : i.registersRequired ≤ p.registersRequired :=
    le_foldr_max (Array.mem_toList_iff.2 hi)
  have hregister : min (index.toNat + 1) maxRegisterCount ≤ i.registersRequired :=
    le_foldr_max (f := fun index : UInt64 => min (index.toNat + 1) maxRegisterCount) hindex
  omega

theorem mem_instructions_of_fetch? {p : Program} {pc : Nat} {i : Instruction}
    (h : p.fetch? pc = some i) : i ∈ p.instructions :=
  Array.mem_of_getElem? h

end Program

/-! ## One run: registers beyond are left alone -/

/-- An effect that stores below `k`, if it stores, leaves the registers from there on alone. -/
theorem Effect.keepsFrom_apply {effect : Effect} {k : Nat} {store : Store}
    (h : ∀ index word, effect = .store index word → index.toNat < k) :
    store.registers.KeepsFrom k (effect.apply store).2.registers := by
  cases effect with
  | move offset => exact .refl k _
  | store index word => exact RegisterFile.keepsFrom_put (h index word rfl)
  | halt => exact .refl k _
  | print text =>
    cases hwrite : store.sink.write text with
    | mk answer sink =>
      cases answer with
      | ok taken => simpa only [apply, hwrite] using .refl k _
      | error reason => simpa only [apply, hwrite] using .refl k _

namespace Program

variable {p : Program} {k : Nat}

/-- A step writes to no register that the program does not name. -/
theorem keepsFrom_step (hp : p.NamesBelow k) (c : Configuration) :
    c.store.registers.KeepsFrom k (p.step c).store.registers := by
  rcases p.store_step c with hstore | ⟨i, effect, hfetch, heffect, hstore⟩
  · rw [hstore]
    exact .refl k _
  · rw [hstore]
    refine Effect.keepsFrom_apply ?_
    rintro index word rfl
    exact hp i (mem_instructions_of_fetch? hfetch) index
      (Instruction.mem_registersNamed_of_store heffect)

theorem keepsFrom_run (hp : p.NamesBelow k) (registers : RegisterFile) (limit : Option UInt64)
    (sink : Sink) :
    registers.KeepsFrom k (Machine.run ⟨registers, p⟩ limit sink).machine.registers :=
  Machine.run_related ⟨registers, p⟩ (R := fun s t => s.registers.KeepsFrom k t.registers)
    (fun s => .refl k s.registers) RegisterFile.KeepsFrom.trans (keepsFrom_step hp) limit sink

end Program

/-! ## Two runs: registers beyond do not show -/

/-- Stores that cannot be told apart through registers below `k`, in runs that began in the
stores `u` and `v`. -/
structure Store.Matches (k : Nat) (u v s t : Store) : Prop where
  agree : s.registers.AgreeBelow k t.registers
  left : k ≤ s.registers.count
  right : k ≤ t.registers.count
  sinks : s.sink.Alike t.sink
  output : u.sink.SameOutput v.sink s.sink t.sink

namespace Store.Matches

variable {k : Nat} {u v s s' t : Store}

/-- A print of both stores has the same answer and keeps the match. -/
theorem write {text : String} {answer : Except String Unit} {sink : Sink}
    (h : Matches k u v s t) (hwrite : s.sink.write text = (answer, sink)) :
    ∃ sink', t.sink.write text = (answer, sink') ∧
      Matches k u v { s with sink } { t with sink := sink' } := by
  obtain ⟨sink', hwrite', halike, houtput⟩ := h.sinks.write hwrite
  exact ⟨sink', hwrite', h.agree, h.left, h.right, halike, h.output.trans houtput⟩

/-- The same word put into both stores keeps the match, whatever the register. -/
theorem put (h : Matches k u v s t) (index word : UInt64) :
    Matches k u v { s with registers := s.registers.put index word }
      { t with registers := t.registers.put index word } where
  agree := h.agree.put h.left h.right index word
  left := (RegisterFile.count_put _ _ _).symm ▸ h.left
  right := (RegisterFile.count_put _ _ _).symm ▸ h.right
  sinks := h.sinks
  output := h.output

/-- The same effect on both stores has the same answer and keeps the match. -/
theorem apply {effect : Effect} {answer : Except Fault Flow} (h : Matches k u v s t)
    (happly : effect.apply s = (answer, s')) :
    ∃ t', effect.apply t = (answer, t') ∧ Matches k u v s' t' :=
  effect.apply_related h h.put (fun hwrite _ => h.write hwrite) happly

end Store.Matches

namespace Program

variable {p : Program} {k : Nat}

/-- From stores that match, a program that names no register from `k` on takes the same steps. -/
theorem simulation_agreeBelow (hp : p.NamesBelow k) (u v : Store) :
    Simulation p p 0 (Store.Matches k u v) fun _ => True := by
  -- An instruction of the program finds the same words in both files.
  have hget {pc : Nat} {i : Instruction} {s t : Store} (hfetch : p.fetch? pc = some i)
      (h : Store.Matches k u v s t) :
      ∀ index ∈ i.registersNamed, t.registers.get index = s.registers.get index := by
    intro index hindex
    have hbelow := hp i (mem_instructions_of_fetch? hfetch) index hindex
    exact (h.agree.get_eq h.left hbelow).symm
  exact .of_effects (fun hfetch h => Instruction.operand_congr (hget hfetch h))
    (fun hfetch h => Instruction.effect_congr (hget hfetch h))
    fun hmatches hanswer _ => hmatches.apply hanswer

end Program

/-- Two runs that began with the registers `r` and `s` and the sinks `sink` and `other`, and
that differ in nothing but the registers from `k` on, which they left alone. -/
structure Run.AlikeBelow (k : Nat) (r s : RegisterFile) (sink other : Sink) (first second : Run) :
    Prop where
  ending : first.ending = second.ending
  output : sink.SameOutput other first.sink second.sink
  agree : first.machine.registers.AgreeBelow k second.machine.registers
  keeps_first : r.KeepsFrom k first.machine.registers
  keeps_second : s.KeepsFrom k second.machine.registers

/-- A file whose words take less than 2⁶³ bytes. -/
def RegisterFile.FitsMemory (r : RegisterFile) : Prop := 8 * r.count < 9223372036854775808

instance (r : RegisterFile) : Decidable r.FitsMemory :=
  inferInstanceAs (Decidable (8 * r.count < 9223372036854775808))

theorem RegisterFile.FitsMemory.count_lt {r : RegisterFile} (h : r.FitsMemory) :
    r.count < maxRegisterCount := by
  rw [FitsMemory] at h
  rw [maxRegisterCount]
  omega

namespace Program

variable {p : Program} {k : Nat} {r s : RegisterFile} {sink other : Sink}

/-- Neither run sees or changes the registers from `k` on, so they differ in nothing else. -/
theorem run_alikeBelow (hp : p.NamesBelow k) (hr : k ≤ r.count) (hs : k ≤ s.count)
    (hagree : r.AgreeBelow k s) (halike : sink.Alike other) (limit : Option UInt64) :
    Run.AlikeBelow k r s sink other (Machine.run ⟨r, p⟩ limit sink)
      (Machine.run ⟨s, p⟩ limit other) := by
  have hstart : Store.Matches k ⟨r, sink⟩ ⟨s, other⟩ ⟨r, sink⟩ ⟨s, other⟩ :=
    ⟨hagree, hr, hs, halike, .refl _ _⟩
  obtain ⟨hending, hmatches⟩ :=
    Machine.run_simulates (simulation_agreeBelow hp ⟨r, sink⟩ ⟨s, other⟩) hstart limit
  exact ⟨hending, hmatches.output, hmatches.agree, keepsFrom_run hp r limit sink,
    keepsFrom_run hp s limit other⟩

/-- On two register files that hold all registers required, with the same words in them, a
program runs alike, whatever the registers beyond and however many there are.  In
particular the default register file, where it is not cut off, is as good as any larger. -/
theorem run_ignores_unrequired_registers (p : Program) (r s : RegisterFile)
    (hagree : r.AgreeBelow p.registersRequired s) (sink other : Sink) (halike : sink.Alike other)
    (limit : Option UInt64) :
    let first := Machine.run ⟨r, p⟩ limit sink
    let second := Machine.run ⟨s, p⟩ limit other
    (p.registersRequired ≤ r.count → p.registersRequired ≤ s.count → r.FitsMemory →
      Run.AlikeBelow p.registersRequired r s sink other first second) ∧
    (p.registersRequired ≤ maxDefaultRegisterCount → r.count = p.defaultRegisterCount →
      p.defaultRegisterCount ≤ s.count →
      Run.AlikeBelow p.registersRequired r s sink other first second) := by
  intro first second
  constructor
  · intro hr hs hfits
    have hcount : p.registersRequired < maxRegisterCount := Nat.lt_of_le_of_lt hr hfits.count_lt
    exact run_alikeBelow (namesBelow_registersRequired hcount) hr hs hagree halike limit
  · intro hrequired hr hs
    have hdefault : p.registersRequired ≤ p.defaultRegisterCount := by
      rw [defaultRegisterCount]
      omega
    have hcount : p.registersRequired < maxRegisterCount :=
      Nat.lt_of_le_of_lt hrequired (by decide)
    exact run_alikeBelow (namesBelow_registersRequired hcount) (hr ▸ hdefault)
      (Nat.le_trans hdefault hs) hagree halike limit

theorem run_ignores_unrequired_registers_print :
    let p : Program := ⟨#[.addc 0 2, .print 1, .ret 0], #["a", "b"], by decide⟩
    let r := RegisterFile.ofList [5, 1]
    let s := RegisterFile.ofList [5, 1, 9]
    let other : Sink := { taken := "x".toUTF8 }
    p.registersRequired = 2 ∧ p.defaultRegisterCount = r.count ∧
      (Machine.run ⟨r, p⟩ (some 3) .unbounded).ending = .halted ⟨7, 3⟩ ∧
      (Machine.run ⟨s, p⟩ (some 3) other).ending = .halted ⟨7, 3⟩ ∧
      Sink.SameOutput .unbounded other (Machine.run ⟨r, p⟩ none .unbounded).sink
        (Machine.run ⟨s, p⟩ none other).sink := by
  intro p r s other
  have hrequired : p.registersRequired = 2 := by decide
  have hdefault : p.defaultRegisterCount = r.count := by decide
  have hagree : r.AgreeBelow p.registersRequired s := by
    rw [hrequired]
    decide
  have halike : Sink.Alike .unbounded other := fun later => rfl
  have hr : p.registersRequired ≤ r.count := by decide
  have hs : p.registersRequired ≤ s.count := by decide
  have hfits : r.FitsMemory := by decide
  have hhalted : (Machine.run ⟨r, p⟩ (some 3) .unbounded).ending = .halted ⟨7, 3⟩ := rfl
  have hlimited := (run_ignores_unrequired_registers p r s hagree .unbounded other halike
    (some 3)).1 hr hs hfits
  have hunlimited := (run_ignores_unrequired_registers p r s hagree .unbounded other halike
    none).2 (by decide) hdefault.symm (by decide)
  exact ⟨hrequired, hdefault, hhalted, hlimited.ending ▸ hhalted, hunlimited.output⟩

end Program

end RegisterMachine
