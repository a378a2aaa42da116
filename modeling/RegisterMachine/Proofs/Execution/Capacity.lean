import RegisterMachine.Proofs.Execution.Limit
import RegisterMachine.Proofs.Execution.Simulation

/-!
# Sinks that fill up

A sink that takes so many bytes in all cuts the output of a run and does nothing else.  It is
compared with a sink that takes everything.  As long as both have taken the same, an effect does
the same with either, unless it is a print that does not fit any more (`Store.Level.apply`).  So
up to the first such print the two runs are one (`simulation_level`), and there the capped sink
keeps the part of the string that fits, and the run fails (`run_level`).

A sink is offered a string as often as it takes a part of it (`Sink.offerAll`).  For a capped
sink that comes to one answer (`receive_capped`).
-/

namespace RegisterMachine

namespace Sink

/-! ## Offers that are repeated -/

/-- The answer of a sink with room for `room` bytes to `pending` ones that it is offered until
it has taken them all or an offer fails, as one does when there is no room.  Otherwise it takes
as many as fit.  Of the same string it has kept `kept` bytes before. -/
def offerAll (reason : String) (room pending kept : Nat) : Reception :=
  if 0 < pending then
    if 0 < room then
      offerAll reason (room - min room pending) (pending - min room pending)
        (kept + min room pending)
    else .cut kept reason
  else .whole
termination_by pending

theorem offerAll_eq (reason : String) (room pending kept : Nat) :
    offerAll reason room pending kept =
      if pending ≤ room then .whole else .cut (kept + room) reason := by
  fun_induction offerAll with
  | case1 room pending kept hpending hroom ih =>
    rw [ih]
    by_cases hfits : pending ≤ room
    · rw [if_pos (by omega), if_pos hfits]
    · rw [if_neg (by omega), if_neg hfits]
      congr 1
      omega
  | case2 room pending kept hpending hroom =>
    rw [if_neg (by omega)]
    congr 1
    omega
  | case3 room pending kept hpending =>
    rw [if_pos (by omega)]

theorem receive_capped {capacity : Nat} {reason : String} {history : List Request}
    {bytes : ByteArray} (h : 0 < bytes.size) :
    (capped capacity reason).receive history bytes =
      offerAll reason (capacity - offered history) bytes.size 0 := by
  rw [offerAll_eq, capped]
  dsimp only
  by_cases hfits : offered history + bytes.size ≤ capacity
  · rw [if_pos hfits, if_pos (by omega)]
  · rw [if_neg hfits, if_neg (by omega), Nat.zero_add]

/-! ## Two sinks with the same output -/

/-- A capped sink that has taken all that it was offered, and one that takes everything and has
taken the same. -/
structure Level (capacity : Nat) (reason : String) (cut free : Sink) : Prop where
  receive : cut.receive = (capped capacity reason).receive
  offered : offered cut.history = cut.taken.size
  fits : cut.taken.size ≤ capacity
  whole : free.receive = fun _ _ => .whole
  taken : free.taken = cut.taken

theorem level_capped (capacity : Nat) (reason : String)
    (flushFailure : List Request → Option String) :
    Level capacity reason { capped capacity reason with flushFailure } unbounded :=
  ⟨rfl, rfl, Nat.zero_le capacity, rfl, rfl⟩

/-- A sink that takes everything takes a text.  One that is capped takes it too and is level
again, or it keeps the part that fits and fails. -/
theorem Level.write {capacity : Nat} {reason : String} {cut free : Sink}
    (h : Level capacity reason cut free) (text : String) :
    ∃ free', free.write text = (.ok (), free') ∧ free'.taken = free.taken ++ text.toUTF8 ∧
      ((∃ cut', cut.write text = (.ok (), cut') ∧ Level capacity reason cut' free') ∨
        capacity < free'.taken.size ∧
          ∃ cut', cut.write text = (.error reason, cut') ∧
            cut'.taken = free'.taken.extract 0 capacity) := by
  by_cases hempty : text.toUTF8 = .empty
  · have hfree : free.write text = (.ok (), free) := (WriteRule.empty hempty).write_eq
    have hcut : cut.write text = (.ok (), cut) := (WriteRule.empty hempty).write_eq
    exact ⟨free, hfree, by rw [hempty, ByteArray.append_empty], .inl ⟨cut, hcut, h⟩⟩
  · have hwhole : free.receive free.history text.toUTF8 = .whole := by rw [h.whole]
    have hfree := (WriteRule.whole hempty hwhole).write_eq
    refine ⟨_, hfree, rfl, ?_⟩
    have hreceive : cut.receive cut.history text.toUTF8 =
        if cut.taken.size + text.toUTF8.size ≤ capacity then .whole
        else .cut (capacity - cut.taken.size) reason := by
      rw [h.receive, ← h.offered]
      rfl
    by_cases hfits : cut.taken.size + text.toUTF8.size ≤ capacity
    · rw [if_pos hfits] at hreceive
      refine .inl ⟨_, (WriteRule.whole hempty hreceive).write_eq, h.receive, ?_, ?_, h.whole, ?_⟩
      · show text.toUTF8.size + Sink.offered cut.history = (cut.taken ++ text.toUTF8).size
        rw [h.offered, ByteArray.size_append, Nat.add_comm]
      · show (cut.taken ++ text.toUTF8).size ≤ capacity
        rwa [ByteArray.size_append]
      · show free.taken ++ text.toUTF8 = cut.taken ++ text.toUTF8
        rw [h.taken]
    · rw [if_neg hfits] at hreceive
      refine .inr ⟨?_, _, (WriteRule.cut hempty hreceive).write_eq, ?_⟩
      · show capacity < (free.taken ++ text.toUTF8).size
        rw [ByteArray.size_append, h.taken]
        omega
      · show cut.taken ++ text.toUTF8.extract 0 (capacity - cut.taken.size) =
          (free.taken ++ text.toUTF8).extract 0 capacity
        have hkept := ByteArray.extract_zero_max_size (a := cut.taken) (i := capacity)
        rw [Nat.max_eq_left h.fits] at hkept
        rw [h.taken, ByteArray.extract_append, hkept, Nat.zero_sub]

end Sink

/-! ## Two stores with the same output -/

/-- Stores with the same registers and level sinks. -/
structure Store.Level (capacity : Nat) (reason : String) (cut free : Store) : Prop where
  registers : free.registers = cut.registers
  sinks : cut.sink.Level capacity reason free.sink

theorem Store.Level.apply {capacity : Nat} {reason : String} {cut cut' free : Store}
    {effect : Effect} {answer : Except Fault Flow} (h : Level capacity reason cut free)
    (hanswer : effect.apply cut = (answer, cut'))
    (htaken : ∀ cause, answer ≠ .error (.output cause)) :
    ∃ free', effect.apply free = (answer, free') ∧ Level capacity reason cut' free' := by
  refine effect.apply_related h ?_ ?_ hanswer
  · intro index word
    exact ⟨congrArg (RegisterFile.put · index word) h.registers, h.sinks⟩
  · intro text written sink hwrite hfailed
    obtain ⟨sink', hfree, -, ⟨sink'', hcut, hlevel⟩ | ⟨-, sink'', hcut, -⟩⟩ := h.sinks.write text
    · rw [hcut] at hwrite
      cases hwrite
      exact ⟨sink', hfree, h.registers, hlevel⟩
    · rw [hcut] at hwrite
      cases hwrite
      exact absurd (hfailed reason rfl) (htaken reason)

namespace Program

variable {p : Program} {c : Configuration} {store : Store}

/-- Up to a print that does not fit, a run with a capped sink is a run without a cap. -/
theorem simulation_level (p : Program) (capacity : Nat) (reason : String) :
    Simulation p p 0 (Store.Level capacity reason)
      fun result => ∀ cause, result ≠ .error (.output cause) := by
  refine .of_effects (fun _ h => ?_) (fun _ h => by rw [h.registers]) ?_
  · rw [Instruction.operand, Instruction.operand, h.registers]
  · intro effect s s' t answer hlevel hanswer hends
    refine hlevel.apply hanswer ?_
    rintro cause rfl
    exact hends _ rfl cause rfl

/-- A step that stops for the fault of the sink is that of a print. -/
theorem refused_of_step {reason : String}
    (h : p.step c = .stopped (.error (.output reason)) store) :
    ∃ i text sink, p.fetch? c.pc = some i ∧
      i.effect c.store.registers p.strings = .ok (.print text) ∧
      c.store.sink.write text = (.error reason, sink) ∧ store = { c.store with sink } := by
  have hrule := p.step_rule c
  rw [h] at hrule
  generalize hresult : Except.error (Fault.output reason) = result at hrule
  cases hrule with
  | outside hfetch => cases hresult
  | fault hfetch heffect =>
    cases hresult
    cases Instruction.rule_of_effect heffect
  | halt hfetch heffect =>
    obtain ⟨-, -, hfault⟩ := Instruction.register_of_operand hresult.symm
    cases hfault
  | refused hfetch heffect hwrite =>
    cases hresult
    exact ⟨_, _, _, hfetch, heffect, hwrite, rfl⟩
  | leave hfetch heffect happly hadvance => cases hresult

/-- Whether or not the counter leaves the program behind a print, the string is printed. -/
theorem store_of_print {i : Instruction} {text : String} {sink : Sink}
    (hfetch : p.fetch? c.pc = some i)
    (heffect : i.effect c.store.registers p.strings = .ok (.print text))
    (hwrite : c.store.sink.write text = (.ok (), sink)) :
    (p.step c).store = { c.store with sink } := by
  rw [store_step_of_fetch? hfetch, Instruction.dispatch_of_effect_eq_ok heffect, Effect.apply,
    hwrite]

end Program

/-! ## Runs -/

theorem Sink.Grows.size_le {before after : Sink} (h : before.Grows after) :
    before.taken.size ≤ after.taken.size := by
  obtain ⟨bytes, hbytes⟩ := h
  rw [hbytes, ByteArray.size_append]
  exact Nat.le_add_right _ _

/-- The first bytes of the later output are those of the earlier one, as far as it goes. -/
theorem Sink.Grows.extract_eq {before after : Sink} (h : before.Grows after) {k : Nat}
    (hk : k ≤ before.taken.size) : after.taken.extract 0 k = before.taken.extract 0 k := by
  obtain ⟨bytes, hbytes⟩ := h
  rw [hbytes, ByteArray.extract_append, Nat.sub_eq_zero_of_le hk, Nat.zero_sub,
    ByteArray.extract_same, ByteArray.append_empty]

namespace Machine

/-- After `n` instructions, a run stands at the first print with which its output comes to more
than `capacity` bytes. -/
structure Overflows (m : Machine) (sink : Sink) (capacity n : Nat) (c : Configuration) :
    Prop where
  reaches : m.program.Reaches n (m.start sink) c
  first : ∀ k d, k ≤ n → m.program.Reaches k (m.start sink) d →
    d.store.sink.taken.size ≤ capacity
  print : ∃ i text, m.program.fetch? c.pc = some i ∧
    i.effect c.store.registers m.program.strings = .ok (.print text) ∧
    capacity < (c.store.sink.taken ++ text.toUTF8).size

variable {m : Machine} {limit : Option UInt64} {capacity : Nat} {reason : String} {cut free : Sink}

/-- If a run with a capped sink stops because the sink is full, then the run that is not cut
prints on at that place. -/
theorem overflows_of_stops (h : cut.Level capacity reason free) {n : Nat} {cause : String}
    {store : Store} (hstops : m.program.Stops n (m.start cut) (.error (.output cause)) store) :
    cause = reason ∧
      ∃ k c, n = k + 1 ∧ m.Overflows free capacity k c ∧
        store.registers = c.store.registers ∧
        capacity < (m.program.step c).store.sink.taken.size ∧
        store.sink.taken = (m.program.step c).store.sink.taken.extract 0 capacity := by
  have hstart : Store.Level capacity reason ⟨m.registers, cut⟩ ⟨m.registers, free⟩ := ⟨rfl, h⟩
  obtain ⟨k, d, rfl, hreaches, hlast⟩ := hstops.last_step
  obtain ⟨i, text, sink, hfetch, heffect, hwrite, rfl⟩ := Program.refused_of_step hlast
  obtain ⟨t, hreaches', hlevel⟩ :=
    (m.program.simulation_level capacity reason).reaches hstart hreaches
  have heffect' : i.effect t.registers m.program.strings = .ok (.print text) := by
    rw [hlevel.registers, heffect]
  obtain ⟨sink', hfree, htaken, ⟨cut', hcut, -⟩ | ⟨hfull, cut', hcut, hkept⟩⟩ :=
    hlevel.sinks.write text
  · rw [hcut] at hwrite
    cases hwrite
  · rw [hcut] at hwrite
    cases hwrite
    have hstep : (m.program.step ⟨d.pc, t⟩).store = { t with sink := sink' } :=
      Program.store_of_print hfetch heffect' hfree
    refine ⟨rfl, k, ⟨d.pc, t⟩, rfl, ⟨hreaches', ?_, i, text, hfetch, heffect', ?_⟩,
      hlevel.registers.symm, ?_, ?_⟩
    · -- Output only grows, and at the print it still fits.
      intro j e hj hearlier
      obtain ⟨l, rfl⟩ := Nat.exists_eq_add_of_le hj
      obtain ⟨e', hfirst, hrest⟩ := hreaches'.split
      rw [hearlier.unique hfirst]
      refine Nat.le_trans hrest.grows.size_le ?_
      show t.sink.taken.size ≤ capacity
      rw [hlevel.sinks.taken]
      exact hlevel.sinks.fits
    · show capacity < (t.sink.taken ++ text.toUTF8).size
      rwa [← htaken]
    · rwa [hstep]
    · rw [hstep, hkept]

/-- With level sinks, two runs do the same if the output fits.  If it does not, they part at the
first print with which it is too long. -/
theorem run_level (h : cut.Level capacity reason free) (limit : Option UInt64) :
    let short := m.run limit cut
    let long := m.run limit free
    (long.sink.taken.size ≤ capacity ∧ short.ending = long.ending ∧
      short.machine = long.machine ∧ short.sink.taken = long.sink.taken) ∨
    (capacity < long.sink.taken.size ∧ short.ending = .failed (.output reason) ∧
      short.sink.taken = long.sink.taken.extract 0 capacity ∧
      ∃ n c, n < budget limit ∧ m.Overflows free capacity n c ∧
        short.machine = ⟨c.store.registers, m.program⟩) := by
  intro short long
  have hsimulation := m.program.simulation_level capacity reason
  have hstart : Store.Level capacity reason ⟨m.registers, cut⟩ ⟨m.registers, free⟩ := ⟨rfl, h⟩
  have hsame {ending : Ending} {s t : Store} (hlevel : s.Level capacity reason t)
      (hshort : short = ⟨ending, ⟨s.registers, m.program⟩, s.sink⟩)
      (hlong : long = ⟨ending, ⟨t.registers, m.program⟩, t.sink⟩) :
      long.sink.taken.size ≤ capacity ∧ short.ending = long.ending ∧
        short.machine = long.machine ∧ short.sink.taken = long.sink.taken := by
    rw [hshort, hlong]
    dsimp only
    rw [hlevel.registers, hlevel.sinks.taken]
    exact ⟨hlevel.sinks.fits, rfl, rfl, rfl⟩
  rcases m.program.reaches_or_stops (budget limit) (m.start cut) with
    ⟨c, hreaches⟩ | ⟨n, result, store, hn, hstops⟩
  · obtain ⟨t, hreaches', hlevel⟩ := hsimulation.reaches hstart hreaches
    exact .inl (hsame hlevel (run_eq_of_reaches hreaches) (run_eq_of_reaches hreaches'))
  · by_cases hfull : ∃ cause, result = .error (.output cause)
    · obtain ⟨cause, rfl⟩ := hfull
      obtain ⟨rfl, k, c, rfl, hoverflows, hregisters, hsize, hkept⟩ := overflows_of_stops h hstops
      have hgrows : (m.program.step c).store.sink.Grows long.sink :=
        grows_run_of_step hoverflows.reaches hn
      have hshort : short = _ := run_eq_of_stops hstops hn
      rw [hshort]
      refine .inr ⟨Nat.lt_of_lt_of_le hsize hgrows.size_le, rfl, ?_, k, c, hn, hoverflows, ?_⟩
      · rw [hgrows.extract_eq (Nat.le_of_lt hsize), ← hkept]
      · rw [hregisters]
    · have hends : ∀ cause, result ≠ .error (.output cause) :=
        fun cause hresult => hfull ⟨cause, hresult⟩
      obtain ⟨t, hstops', hlevel⟩ := hsimulation.stops hstart hstops hends
      exact .inl (hsame hlevel (run_eq_of_stops hstops hn) (run_eq_of_stops hstops' hn))

end Machine

/-! ## Flushes -/

/-- Between the two nothing was flushed, and how a flush is answered has not changed. -/
structure Sink.Unflushed (before after : Sink) : Prop where
  flushFailure : after.flushFailure = before.flushFailure
  flushes : after.flushes = before.flushes

namespace Sink

theorem Unflushed.refl (sink : Sink) : sink.Unflushed sink := ⟨rfl, rfl⟩

theorem Unflushed.trans {s t u : Sink} (h₁ : s.Unflushed t) (h₂ : t.Unflushed u) :
    s.Unflushed u :=
  ⟨h₂.flushFailure.trans h₁.flushFailure, h₂.flushes.trans h₁.flushes⟩

theorem unflushed_write (sink : Sink) (text : String) : sink.Unflushed (sink.write text).2 := by
  have hrule := sink.write_rule text
  generalize sink.write text = outcome at hrule ⊢
  cases hrule with
  | empty hbytes => exact .refl sink
  | whole hbytes hreceive => exact ⟨rfl, rfl⟩
  | cut hbytes hreceive => exact ⟨rfl, rfl⟩

end Sink

theorem Program.unflushed_step (p : Program) (c : Configuration) :
    c.store.sink.Unflushed (p.step c).store.sink := by
  rcases p.sink_step c with hsink | ⟨text, hsink⟩
  · rw [hsink]
    exact .refl _
  · rw [hsink]
    exact c.store.sink.unflushed_write text

namespace Machine

variable {m : Machine} {limit : Option UInt64} {sink : Sink}

theorem unflushed_run (m : Machine) (limit : Option UInt64) (sink : Sink) :
    sink.Unflushed (m.run limit sink).sink :=
  m.run_related (R := fun s t => s.sink.Unflushed t.sink) (fun s => .refl s.sink)
    Sink.Unflushed.trans m.program.unflushed_step limit sink

/-- A flush is one more request, and all that it changes in a run is that it may fail. -/
theorem sink_runFlushed (m : Machine) (limit : Option UInt64) (sink : Sink) :
    let after := (m.run limit sink).sink
    (m.runFlushed limit sink).sink = { after with history := .flush :: after.history } := by
  intro after
  show after.flush.2 = _
  cases hflush : after.flushFailure after.history <;> simp only [Sink.flush, hflush]

theorem ending_runFlushed (m : Machine) (limit : Option UInt64) (sink : Sink) :
    (m.runFlushed limit sink).ending =
      match (m.run limit sink).ending, sink.flushFailure (m.run limit sink).sink.history with
      | .halted _, some cause => .failed (.output cause)
      | ending, _ => ending := by
  rw [← (m.unflushed_run limit sink).flushFailure]
  generalize hrun : m.run limit sink = result
  obtain ⟨ending, machine, after⟩ := result
  cases hflush : after.flushFailure after.history with
  | none => cases ending <;> simp only [runFlushed, Sink.flush, hrun, hflush]
  | some cause => cases ending <;> simp only [runFlushed, Sink.flush, hrun, hflush]

theorem flushes_runFlushed (m : Machine) (limit : Option UInt64) (sink : Sink) :
    (m.runFlushed limit sink).sink.flushes = sink.flushes + 1 := by
  rw [sink_runFlushed, ← (m.unflushed_run limit sink).flushes, Sink.flushes, Sink.flushes]
  simp

/-- A run with a sink that takes `capacity` bytes in all is compared with the run that is not cut.
The answers of the sink are those of one that is offered what is left of a text again and again.
If the output fits, the two end alike and leave the same registers and the same output.  If not,
the run fails at the first print with which the output is too long, with the registers that the
other run has there and with the first `capacity` bytes of its output.  A flush afterwards
happens once, and it shows only if it fails after a run that halted. -/
theorem run_capped_cuts (m : Machine) (limit : Option UInt64) (capacity : Nat) (reason : String)
    (flushFailure : List Sink.Request → Option String) :
    let sink : Sink := { Sink.capped capacity reason with flushFailure }
    let cut := m.run limit sink
    let free := m.run limit .unbounded
    let output := free.sink.taken
    let flushed := m.runFlushed limit sink
    (∀ history bytes, 0 < bytes.size →
      sink.receive history bytes =
        Sink.offerAll reason (capacity - Sink.offered history) bytes.size 0) ∧
    (output.size ≤ capacity →
      cut.ending = free.ending ∧ cut.machine = free.machine ∧ cut.sink.taken = output) ∧
    (capacity < output.size →
      cut.ending = .failed (.output reason) ∧ cut.sink.taken = output.extract 0 capacity ∧
        ∃ n c, n < budget limit ∧ m.Overflows .unbounded capacity n c ∧
          cut.machine = ⟨c.store.registers, m.program⟩) ∧
    (flushed.machine = cut.machine ∧ flushed.sink.taken = cut.sink.taken ∧
      flushed.sink.flushes = 1) ∧
    (∀ report cause, cut.ending = .halted report → flushFailure cut.sink.history = some cause →
      flushed.ending = .failed (.output cause)) ∧
    ((∀ report, cut.ending ≠ .halted report) ∨ flushFailure cut.sink.history = none →
      flushed.ending = cut.ending) := by
  intro sink cut free output flushed
  have hlevel := Sink.level_capped capacity reason flushFailure
  have hcases := m.run_level hlevel limit
  have hending : flushed.ending = _ := m.ending_runFlushed limit sink
  refine ⟨fun history bytes hbytes => Sink.receive_capped hbytes, ?_, ?_, ⟨rfl, ?_, ?_⟩, ?_, ?_⟩
  · intro hfits
    rcases hcases with ⟨-, hsame⟩ | ⟨hlong, -⟩
    · exact hsame
    · exact absurd hfits (Nat.not_le_of_lt hlong)
  · intro hlong
    rcases hcases with ⟨hfits, -⟩ | ⟨-, hcut⟩
    · exact absurd hfits (Nat.not_le_of_lt hlong)
    · exact hcut
  · show flushed.sink.taken = cut.sink.taken
    rw [show flushed.sink = _ from m.sink_runFlushed limit sink]
  · exact m.flushes_runFlushed limit sink
  · intro report cause hhalted (hfails : sink.flushFailure cut.sink.history = some cause)
    rw [hending, hhalted, hfails]
  · rintro (hends | (hflushes : sink.flushFailure cut.sink.history = none))
    · rw [hending]
      split
      · exact absurd ‹_› (hends _)
      · rfl
    · rw [hending, hflushes]
      split
      · contradiction
      · rfl

/-- A machine that prints the same two letters twice. -/
def twice : Machine :=
  ⟨.zeroed 1, ⟨#[.printc 0, .setc 0 5, .printc 0, .retc 7], #["ab"], by decide⟩⟩

/-- With room for three bytes, the run ends at the second print, and with room for four at the
flush. -/
theorem run_capped_cuts_twice :
    let sink (capacity : Nat) : Sink :=
      { Sink.capped capacity "full" with flushFailure := fun _ => some "late" }
    (sink 3).receive [] "abab".toUTF8 = Sink.offerAll "full" 3 4 0 ∧
    (∃ n c, n < 9 ∧ twice.Overflows .unbounded 3 n c ∧
      (twice.run (some 9) (sink 3)).machine = ⟨c.store.registers, twice.program⟩) ∧
    (twice.run (some 9) (sink 3)).sink.taken = "aba".toUTF8 ∧
    (twice.runFlushed (some 9) (sink 3)).ending = .failed (.output "full") ∧
    (twice.run (some 9) (sink 4)).ending = .halted ⟨7, 4⟩ ∧
    (twice.runFlushed (some 9) (sink 4)).ending = .failed (.output "late") := by
  intro sink
  have houtput : (twice.run (some 9) .unbounded).sink.taken = "abab".toUTF8 := by decide +kernel
  have hends : (twice.run (some 9) .unbounded).ending = .halted ⟨7, 4⟩ := by decide +kernel
  obtain ⟨hoffers, -, hthree, -, -, hfailed⟩ :=
    twice.run_capped_cuts (some 9) 3 "full" fun _ => some "late"
  obtain ⟨-, hfour, -, -, hflush, -⟩ :=
    twice.run_capped_cuts (some 9) 4 "full" fun _ => some "late"
  obtain ⟨hfull, htaken, hstands⟩ := hthree (by rw [houtput]; decide +kernel)
  obtain ⟨hhalts, -, -⟩ := hfour (by rw [houtput]; decide +kernel)
  refine ⟨hoffers [] "abab".toUTF8 (by decide +kernel), hstands, ?_, ?_, hhalts.trans hends,
    hflush _ _ (hhalts.trans hends) rfl⟩
  · rw [htaken, houtput]
    decide +kernel
  · rw [hfailed (.inl fun report hhalted => by rw [hfull] at hhalted; cases hhalted), hfull]

end Machine

end RegisterMachine
