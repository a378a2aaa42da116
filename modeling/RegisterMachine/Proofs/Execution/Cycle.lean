import RegisterMachine.Proofs.Execution.Limit
import RegisterMachine.Proofs.Execution.Printing

/-!
# Runs that repeat themselves

The counter and the registers are all that the further course of a run depends on, as long as
its sink never fails: what it has printed so far does not come back into it (`Reaches.repeats`).
So a run that comes to the same counter with the same registers again is in a loop, and each round
of it takes as many steps as the first one (`Reaches.cycle`).

Such a run never stops.  A limit uses itself up, and where it cuts the run is told by its remainder
modulo the length of a round.
-/

namespace RegisterMachine

/-- The first configuration has the counter and the registers of the second one. -/
structure Configuration.Repeats (d c : Configuration) : Prop where
  pc : d.pc = c.pc
  registers : d.store.registers = c.store.registers

namespace Program

variable {p : Program} {n k : Nat} {c d : Configuration}

theorem Reaches.neverFails (h : p.Reaches n c d) (hsink : c.store.sink.NeverFails) :
    d.store.sink.NeverFails := by
  induction h with
  | refl c => exact hsink
  | @step n c next d hnext rest ih =>
    have hstep := (p.taken_step hsink).1
    rw [hnext] at hstep
    exact ih hstep

/-- From a configuration with the same counter and registers, the course is the same. -/
theorem Reaches.repeats {c' : Configuration} (h : p.Reaches n c d) (hrepeats : c'.Repeats c)
    (hsink : c.store.sink.NeverFails) (hsink' : c'.store.sink.NeverFails) :
    ∃ d', p.Reaches n c' d' ∧ d'.Repeats d := by
  obtain ⟨pc, store⟩ := c'
  obtain rfl : pc = c.pc := hrepeats.pc
  obtain ⟨t, hreaches, htwin⟩ :=
    (simulation_pools (p := p) rfl rfl).reaches ⟨hrepeats.registers, hsink, hsink'⟩ h
  exact ⟨⟨d.pc, t⟩, hreaches, rfl, htwin.registers⟩

/-- A course that comes back after `k` steps goes on for ever, and after any number of steps it
stands where it stood after the remainder of them. -/
theorem Reaches.cycle (hk : 0 < k) (h : p.Reaches k c d) (hrepeats : d.Repeats c)
    (hsink : c.store.sink.NeverFails) (n : Nat) :
    ∃ e e', p.Reaches n c e ∧ p.Reaches (n % k) c e' ∧ e.Repeats e' := by
  induction n using Nat.strongRecOn with
  | ind n ih =>
    by_cases hn : n < k
    · obtain ⟨rest, rfl⟩ := Nat.exists_eq_add_of_le (Nat.le_of_lt hn)
      obtain ⟨e, he, -⟩ := h.split
      rw [Nat.mod_eq_of_lt hn]
      exact ⟨e, e, he, he, rfl, rfl⟩
    · -- The steps behind the first round are those from the beginning.
      have hkn : k ≤ n := Nat.le_of_not_lt hn
      obtain ⟨e, e', he, he', hsame⟩ := ih (n - k) (by omega)
      obtain ⟨f, hf, hrepeats'⟩ := he.repeats hrepeats hsink (h.neverFails hsink)
      have hround := h.trans hf
      rw [Nat.add_sub_cancel' hkn] at hround
      rw [Nat.mod_eq_sub_mod hkn]
      exact ⟨f, e', hround, he', hrepeats'.pc.trans hsame.pc,
        hrepeats'.registers.trans hsame.registers⟩

end Program

namespace Machine

/-- A run that after `j` instructions has the counter and the registers that it had after `i` of
them never stops.  After `n` instructions it has those that it had after
`i + (n - i) % (j - i)` of them, and a limit of `n` cuts it there. -/
theorem run_cycles (m : Machine) (sink : Sink) (hsink : sink.NeverFails) {i j : Nat}
    {c d : Configuration} (hij : i < j) (hi : m.program.Reaches i (m.start sink) c)
    (hj : m.program.Reaches j (m.start sink) d) (hrepeats : d.Repeats c) :
    (∀ n result store, ¬ m.program.Stops n (m.start sink) result store) ∧
    (∀ n, i ≤ n → ∃ e e', m.program.Reaches n (m.start sink) e ∧
      m.program.Reaches (i + (n - i) % (j - i)) (m.start sink) e' ∧ e.Repeats e') ∧
    ∀ L : UInt64,
      (m.run (some L) sink).ending = .failed (.stepLimitExceeded L) ∧
      (i ≤ L.toNat → ∃ e, m.program.Reaches (i + (L.toNat - i) % (j - i)) (m.start sink) e ∧
        (m.run (some L) sink).machine.registers = e.store.registers) := by
  have hround : m.program.Reaches (j - i) c d := by
    obtain ⟨k, rfl⟩ := Nat.exists_eq_add_of_le (Nat.le_of_lt hij)
    obtain ⟨c', hfirst, hrest⟩ := hj.split
    rw [hi.unique hfirst, Nat.add_sub_cancel_left]
    exact hrest
  have hcycle : ∀ n, i ≤ n → ∃ e e', m.program.Reaches n (m.start sink) e ∧
      m.program.Reaches (i + (n - i) % (j - i)) (m.start sink) e' ∧ e.Repeats e' := by
    intro n hn
    obtain ⟨e, e', he, he', hsame⟩ :=
      hround.cycle (Nat.sub_pos_of_lt hij) hrepeats (hi.neverFails hsink) (n - i)
    have hreaches := hi.trans he
    rw [Nat.add_sub_cancel' hn] at hreaches
    exact ⟨e, e', hreaches, hi.trans he', hsame⟩
  have hstops : ∀ n result store, ¬ m.program.Stops n (m.start sink) result store := by
    intro n result store hstops
    obtain ⟨e, -, he, -⟩ := hcycle (i + n) (Nat.le_add_right i n)
    have hlate := he.lt_of_stops hstops
    omega
  refine ⟨hstops, hcycle, fun L => ⟨?_, ?_⟩⟩
  · rcases m.program.reaches_or_stops (budget (some L)) (m.start sink) with
      ⟨e, he⟩ | ⟨n, result, store, -, hends⟩
    · rw [run_eq_of_reaches he]
      rfl
    · exact absurd hends (hstops n result store)
  · intro hL
    obtain ⟨e, e', he, he', hsame⟩ := hcycle L.toNat hL
    have hrun : m.run (some L) sink = _ := run_eq_of_reaches he
    rw [hrun]
    exact ⟨e', he', hsame.registers⟩

/-- A machine that counts modulo three, three steps for each number. -/
def counting : Machine := ⟨.ofList [5], ⟨#[.addc 0 1, .modc 0 3, .jmpc (-2)], #[], by decide⟩⟩

/-- The register holds zero after 3 steps and again after 12, so after 1000 steps it holds what it
holds after 10. -/
theorem run_cycles_counting :
    (∃ c d, counting.program.Reaches 3 (counting.start .unbounded) c ∧
      counting.program.Reaches 12 (counting.start .unbounded) d ∧ d.Repeats c) ∧
      (counting.run (some 1000) .unbounded).ending = .failed (.stepLimitExceeded 1000) ∧
      (counting.run (some 1000) .unbounded).machine.registers = .ofList [3] := by
  have hreaches {n : Nat} {c : Configuration}
      (h : counting.program.run n 0 (counting.start .unbounded) = .unfinished c) :
      counting.program.Reaches n (counting.start .unbounded) c :=
    Program.run_eq_unfinished_iff.1 h
  have hthree := hreaches (c := ⟨0, .ofList [0], .unbounded⟩) (n := 3) rfl
  have hten := hreaches (c := ⟨1, .ofList [3], .unbounded⟩) (n := 10) rfl
  have htwelve := hreaches (c := ⟨0, .ofList [0], .unbounded⟩) (n := 12) rfl
  obtain ⟨-, -, hlimits⟩ := counting.run_cycles .unbounded Sink.neverFails_unbounded (by decide)
    hthree htwelve ⟨rfl, rfl⟩
  obtain ⟨hending, hregisters⟩ := hlimits 1000
  obtain ⟨e, he, hstands⟩ := hregisters (by decide)
  obtain rfl := he.unique hten
  exact ⟨⟨_, _, hthree, htwelve, rfl, rfl⟩, hending, hstands⟩

end Machine

end RegisterMachine
