import RegisterMachine.Proofs.Execution.Course
import RegisterMachine.Proofs.Execution.Operand

/-!
# Simulation

Two runs are compared step by step.  A relation between their stores is kept by every
step, and the counter of the second run is always the same number of instructions further
on than that of the first.  Then the second run follows the first over any number of steps
and stops with the same result (`Simulation.reaches`, `Simulation.stops`), and so the runs of two
machines end alike (`run_simulates`).

The programs may be two or one and the same.  Not every way to stop has to be followed:
the predicate `Ends` says which results are.

For programs with the same instructions it is enough to compare what each instruction answers
(`Simulation.of_dispatch`), and for one program, the effects of its instructions and what an effect
does when it is applied (`Simulation.of_effects`).
-/

namespace RegisterMachine

namespace Program

/-- Each step of `p` is also a step of `q`, with the counter `shift` further on and in stores
that `S` relates.  Where `p` stops with a result for which `Ends` holds, so does `q`. -/
structure Simulation (p q : Program) (shift : Nat) (S : Store → Store → Prop)
    (Ends : Except Fault UInt64 → Prop) : Prop where
  running : ∀ {pc next : Nat} {s s' t : Store}, S s t → p.step ⟨pc, s⟩ = .running ⟨next, s'⟩ →
    ∃ t', q.step ⟨pc + shift, t⟩ = .running ⟨next + shift, t'⟩ ∧ S s' t'
  stopped : ∀ {pc : Nat} {result : Except Fault UInt64} {s s' t : Store}, S s t →
    p.step ⟨pc, s⟩ = .stopped result s' → Ends result →
    ∃ t', q.step ⟨pc + shift, t⟩ = .stopped result t' ∧ S s' t'

namespace Simulation

variable {p q : Program} {shift n : Nat} {S : Store → Store → Prop}
variable {Ends : Except Fault UInt64 → Prop} {c d : Configuration} {t : Store}

theorem reaches (h : Simulation p q shift S Ends) (hS : S c.store t) (hreaches : p.Reaches n c d) :
    ∃ t', q.Reaches n ⟨c.pc + shift, t⟩ ⟨d.pc + shift, t'⟩ ∧ S d.store t' := by
  induction hreaches generalizing t with
  | refl c => exact ⟨t, .refl _, hS⟩
  | step hnext rest ih =>
    obtain ⟨u, hnext', hu⟩ := h.running hS hnext
    obtain ⟨t', hrest, ht'⟩ := ih hu
    exact ⟨t', .step hnext' hrest, ht'⟩

theorem stops {result : Except Fault UInt64} {store : Store} (h : Simulation p q shift S Ends)
    (hS : S c.store t) (hstops : p.Stops n c result store) (hends : Ends result) :
    ∃ t', q.Stops n ⟨c.pc + shift, t⟩ result t' ∧ S store t' := by
  induction hstops generalizing t with
  | last hlast =>
    obtain ⟨t', hlast', ht'⟩ := h.stopped hS hlast hends
    exact ⟨t', .last hlast', ht'⟩
  | step hnext rest ih =>
    obtain ⟨u, hnext', hu⟩ := h.running hS hnext
    obtain ⟨t', hrest, ht'⟩ := ih hu hends
    exact ⟨t', .step hnext' hrest, ht'⟩

end Simulation

end Program

/-- In related stores an effect gives the same answer and leaves related stores, if that is so of
a store into a register and of a write to the sink.  A write that fails is the answer. -/
theorem Effect.apply_related {S : Store → Store → Prop} {s s' t : Store}
    {answer : Except Fault Flow} (effect : Effect) (hS : S s t)
    (hput : ∀ index word, S { s with registers := s.registers.put index word }
      { t with registers := t.registers.put index word })
    (hwrite : ∀ {text : String} {written : Except String Unit} {sink : Sink},
      s.sink.write text = (written, sink) →
      (∀ reason, written = .error reason → answer = .error (.output reason)) →
      ∃ sink', t.sink.write text = (written, sink') ∧ S { s with sink } { t with sink := sink' })
    (h : effect.apply s = (answer, s')) :
    ∃ t', effect.apply t = (answer, t') ∧ S s' t' := by
  cases effect with
  | move offset =>
    cases h
    exact ⟨t, rfl, hS⟩
  | halt =>
    cases h
    exact ⟨t, rfl, hS⟩
  | store index word =>
    cases h
    exact ⟨_, rfl, hput index word⟩
  | print text =>
    cases hs : s.sink.write text with
    | mk written sink =>
      rw [apply, hs] at h
      cases written with
      | ok taken =>
        cases h
        obtain ⟨sink', ht, hS'⟩ := hwrite hs fun _ hfailed => by cases hfailed
        exact ⟨{ t with sink := sink' }, by rw [apply, ht], hS'⟩
      | error reason =>
        cases h
        obtain ⟨sink', ht, hS'⟩ := hwrite hs fun _ hfailed => by rw [Except.error.inj hfailed]
        exact ⟨{ t with sink := sink' }, by rw [apply, ht], hS'⟩

namespace Program

/-! ## Programs with the same instructions -/

theorem step_of_fetch? {p : Program} {i : Instruction} {c : Configuration}
    (h : p.fetch? c.pc = some i) : p.step c = i.step p.strings p.length c := by
  rw [step, h]

/-- A step leaves the store that the instruction leaves, wherever the counter goes. -/
theorem store_step_of_fetch? {p : Program} {i : Instruction} {c : Configuration}
    (h : p.fetch? c.pc = some i) : (p.step c).store = (i.dispatch p.strings c.store).2 := by
  rw [step_of_fetch? h, Instruction.step_eq, Progress.store_ofAnswer]

/-- Where the effect is the same, an instruction answers the same if the effect does. -/
theorem dispatch_of_apply {i : Instruction} {strings others : Array String} {s s' t : Store}
    {answer : Except Fault Flow} {S : Store → Store → Prop}
    (heffect : i.effect t.registers others = i.effect s.registers strings) (hS : S s t)
    (happly : ∀ effect : Effect, effect.apply s = (answer, s') →
      ∃ t', effect.apply t = (answer, t') ∧ S s' t')
    (h : i.dispatch strings s = (answer, s')) :
    ∃ t', i.dispatch others t = (answer, t') ∧ S s' t' := by
  cases hs : i.effect s.registers strings with
  | error fault =>
    rw [Instruction.dispatch_of_effect_eq_error hs] at h
    cases h
    exact ⟨t, Instruction.dispatch_of_effect_eq_error (heffect.trans hs), hS⟩
  | ok effect =>
    rw [Instruction.dispatch_of_effect_eq_ok hs] at h
    rw [Instruction.dispatch_of_effect_eq_ok (heffect.trans hs)]
    exact happly effect h

/-- A program simulates another one with the same instructions if in related stores each of them
has the same operand and gives the same answer, and leaves related stores. -/
theorem Simulation.of_dispatch {p q : Program} {S : Store → Store → Prop}
    {Ends : Except Fault UInt64 → Prop} (hcode : p.instructions = q.instructions)
    (hoperand : ∀ {pc : Nat} {i : Instruction} {s t : Store}, p.fetch? pc = some i → S s t →
      i.operand t.registers = i.operand s.registers)
    (hdispatch : ∀ {pc : Nat} {i : Instruction} {s s' t : Store} {answer : Except Fault Flow},
      p.fetch? pc = some i → S s t → i.dispatch p.strings s = (answer, s') →
      (∀ fault, answer = .error fault → Ends (.error fault)) →
      ∃ t', i.dispatch q.strings t = (answer, t') ∧ S s' t') :
    Simulation p q 0 S Ends := by
  have hfetches (pc : Nat) : q.fetch? pc = p.fetch? pc := by rw [fetch?, fetch?, hcode]
  have hlength : q.length = p.length := by rw [length, length, hcode]
  constructor
  · intro pc next s s' t hS hstep
    cases hfetch : p.fetch? pc with
    | none => simp [step, hfetch] at hstep
    | some i =>
      cases hanswer : i.dispatch p.strings s with
      | mk answer after =>
        rw [step_of_fetch? hfetch, Instruction.step_eq, hanswer] at hstep
        -- A step that goes on has not failed.
        have hends : ∀ fault, answer = .error fault → Ends (.error fault) := by
          rintro fault rfl
          cases hstep
        obtain ⟨t', hanswer', hS'⟩ := hdispatch hfetch hS hanswer hends
        obtain ⟨rfl, hstep'⟩ := Progress.ofAnswer_eq_running hstep t'
        refine ⟨t', ?_, hS'⟩
        rw [step_of_fetch? ((hfetches pc).trans hfetch), Instruction.step_eq, hanswer', hlength,
          hoperand hfetch hS]
        exact hstep'
  · intro pc result s s' t hS hstep hresult
    cases hfetch : p.fetch? pc with
    | none =>
      simp only [step, hfetch] at hstep
      cases hstep
      refine ⟨t, ?_, hS⟩
      simp only [step, Nat.add_zero, hfetches, hfetch, hlength]
    | some i =>
      cases hanswer : i.dispatch p.strings s with
      | mk answer after =>
        rw [step_of_fetch? hfetch, Instruction.step_eq, hanswer] at hstep
        have hends : ∀ fault, answer = .error fault → Ends (.error fault) := by
          rintro fault rfl
          cases hstep
          exact hresult
        obtain ⟨t', hanswer', hS'⟩ := hdispatch hfetch hS hanswer hends
        obtain ⟨rfl, hstep'⟩ := Progress.ofAnswer_eq_stopped hstep t'
        refine ⟨t', ?_, hS'⟩
        rw [step_of_fetch? ((hfetches pc).trans hfetch), Instruction.step_eq, hanswer', hlength,
          hoperand hfetch hS]
        exact hstep'

/-- A program simulates itself if in related stores an instruction has the same operand and the
same effect, and an effect gives the same answer and leaves related stores. -/
theorem Simulation.of_effects {p : Program} {S : Store → Store → Prop}
    {Ends : Except Fault UInt64 → Prop}
    (hoperand : ∀ {pc : Nat} {i : Instruction} {s t : Store}, p.fetch? pc = some i → S s t →
      i.operand t.registers = i.operand s.registers)
    (heffect : ∀ {pc : Nat} {i : Instruction} {s t : Store}, p.fetch? pc = some i → S s t →
      i.effect t.registers p.strings = i.effect s.registers p.strings)
    (happly : ∀ {effect : Effect} {s s' t : Store} {answer : Except Fault Flow}, S s t →
      effect.apply s = (answer, s') → (∀ fault, answer = .error fault → Ends (.error fault)) →
      ∃ t', effect.apply t = (answer, t') ∧ S s' t') :
    Simulation p p 0 S Ends :=
  .of_dispatch rfl hoperand fun hfetch hS hanswer hends =>
    dispatch_of_apply (heffect hfetch hS) hS (fun _ h => happly hS h hends) hanswer

end Program

/-! ## Two machines -/

namespace Machine

variable {p q : Program} {S : Store → Store → Prop}
variable {r s : RegisterFile} {sink other : Sink}

/-- If every way to stop is followed, the runs of two machines end alike and leave related
stores. -/
theorem run_simulates (h : Program.Simulation p q 0 S fun _ => True)
    (hS : S ⟨r, sink⟩ ⟨s, other⟩) (limit : Option UInt64) :
    let first := run ⟨r, p⟩ limit sink
    let second := run ⟨s, q⟩ limit other
    first.ending = second.ending ∧
      S ⟨first.machine.registers, first.sink⟩ ⟨second.machine.registers, second.sink⟩ := by
  intro first second
  rcases p.reaches_or_stops (budget limit) ⟨0, r, sink⟩ with
    ⟨c, hreaches⟩ | ⟨n, result, store, hn, hstops⟩
  · obtain ⟨t, hreaches', hstores⟩ := h.reaches hS hreaches
    have hfirst : first = _ := run_eq_of_reaches hreaches
    have hsecond : second = _ := run_eq_of_reaches hreaches'
    rw [hfirst, hsecond]
    exact ⟨rfl, hstores⟩
  · obtain ⟨t, hstops', hstores⟩ := h.stops hS hstops trivial
    have hfirst : first = _ := run_eq_of_stops hstops hn
    have hsecond : second = _ := run_eq_of_stops hstops' hn
    rw [hfirst, hsecond]
    exact ⟨rfl, hstores⟩

end Machine

end RegisterMachine
