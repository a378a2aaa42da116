import RegisterMachine.Proofs.Execution.Course

/-!
# Step limits

A step limit does nothing but cut a run short.  The course of a run is there without
it.  If the course stops within the limit, then the limit does not show in anything
that the run leaves.  If it goes on as far as the limit, then the run fails where the
limit cuts it, with the registers that the course has there, and a larger limit only
adds to its output.

So a program that halts needs a number of steps that every limit is measured against:
no smaller limit is enough for it, and every other limit is.
-/

namespace RegisterMachine

theorem Program.Stops.ending_ne_stepLimitExceeded {p : Program} {n : Nat} {c : Configuration}
    {result : Except Fault UInt64} {store : Store} (h : p.Stops n c result store)
    (limit : UInt64) : Ending.ofResult n result ≠ .failed (.stepLimitExceeded limit) := by
  cases result with
  | ok value => exact fun hending => nomatch hending
  | error fault =>
    -- No step has this fault: only the run has it, when its budget is used up.
    obtain ⟨k, d, -, -, hlast⟩ := h.last_step
    intro hending
    cases hending
    rcases Program.fault_of_step hlast with ⟨-, hfault⟩ | ⟨i, -, hfault⟩
    · cases hfault
    · cases hfault

namespace Machine

variable {m : Machine} {sink : Sink} {limit : Option UInt64} {L : UInt64}

/-- A limit allows no more steps than a larger one or none. -/
theorem budget_le_budget (h : ∀ M ∈ limit, L ≤ M) : budget (some L) ≤ budget limit := by
  cases limit with
  | none => exact Nat.le_of_lt_succ L.toNat_lt
  | some M => exact UInt64.le_iff_toNat_le.1 (h M rfl)

/-! ## What an ending tells about the course -/

theorem stops_of_halted {report : Report} (h : (m.run limit sink).ending = .halted report) :
    report.steps ≤ budget limit ∧
      ∃ store, m.program.Stops report.steps (m.start sink) (.ok report.value) store := by
  rcases m.program.reaches_or_stops (budget limit) (m.start sink) with
    ⟨c, hreaches⟩ | ⟨n, result, store, hn, hstops⟩
  · rw [run_eq_of_reaches hreaches] at h
    cases limit <;> cases h
  · rw [run_eq_of_stops hstops hn] at h
    cases result with
    | error fault => cases h
    | ok value =>
      cases h
      exact ⟨hn, store, hstops⟩

theorem reaches_of_stepLimitExceeded {l : UInt64}
    (h : (m.run (some L) sink).ending = .failed (.stepLimitExceeded l)) :
    l = L ∧ ∃ c, m.program.Reaches L.toNat (m.start sink) c := by
  rcases m.program.reaches_or_stops (budget (some L)) (m.start sink) with
    ⟨c, hreaches⟩ | ⟨n, result, store, hn, hstops⟩
  · rw [run_eq_of_reaches hreaches] at h
    cases h
    exact ⟨rfl, c, hreaches⟩
  · rw [run_eq_of_stops hstops hn] at h
    exact absurd h (hstops.ending_ne_stepLimitExceeded l)

theorem stops_of_ne_stepLimitExceeded
    (h : ∀ l, (m.run (some L) sink).ending ≠ .failed (.stepLimitExceeded l)) :
    ∃ n result store, n ≤ budget (some L) ∧
      m.program.Stops n (m.start sink) result store := by
  rcases m.program.reaches_or_stops (budget (some L)) (m.start sink) with
    ⟨c, hreaches⟩ | hstops
  · have hending := h L
    rw [run_eq_of_reaches hreaches] at hending
    exact absurd rfl hending
  · exact hstops

/-! ## Larger budgets -/

/-- Limits that both let a course come to its end make no difference. -/
theorem run_eq_of_budget_le {limit' : Option UInt64} {n : Nat} {result : Except Fault UInt64}
    {store : Store} (h : m.program.Stops n (m.start sink) result store)
    (hn : n ≤ budget limit) (hn' : n ≤ budget limit') : m.run limit' sink = m.run limit sink := by
  rw [run_eq_of_stops h hn, run_eq_of_stops h hn']

/-- A limit that allows for a course that halts does not show in what the run leaves. -/
theorem run_eq_of_halts {n : Nat} {value : UInt64} {store : Store}
    (h : m.program.Stops n (m.start sink) (.ok value) store) (hL : n ≤ L.toNat) :
    m.run (some L) sink =
      ⟨.halted ⟨value, n⟩, ⟨store.registers, m.program⟩, store.sink⟩ :=
  run_eq_of_stops h hL

/-- A limit below the number of instructions after which the course stops is used up first. -/
theorem ending_of_lt_stops {n : Nat} {result : Except Fault UInt64} {store : Store}
    (h : m.program.Stops n (m.start sink) result store) (hL : L.toNat < n) :
    (m.run (some L) sink).ending = .failed (.stepLimitExceeded L) := by
  rcases m.program.reaches_or_stops (budget (some L)) (m.start sink) with
    ⟨c, hreaches⟩ | ⟨k, result', store', hk, hstops⟩
  · rw [run_eq_of_reaches hreaches]
    rfl
  · obtain ⟨rfl, -, -⟩ := h.unique hstops
    exact absurd hk (Nat.not_le_of_lt hL)

/-- Whatever the course has printed within the budget of a run, the run has printed. -/
theorem grows_run {n : Nat} {c : Configuration} (h : m.program.Reaches n (m.start sink) c)
    (hn : n ≤ budget limit) : c.store.sink.Grows (m.run limit sink).sink := by
  rcases m.program.reaches_or_stops (budget limit) (m.start sink) with
    ⟨d, hreaches⟩ | ⟨k, result, store, hk, hstops⟩
  · rw [run_eq_of_reaches hreaches]
    obtain ⟨j, hj⟩ := Nat.exists_eq_add_of_le hn
    rw [hj] at hreaches
    obtain ⟨c', hfirst, hrest⟩ := hreaches.split
    rw [h.unique hfirst]
    exact hrest.grows
  · rw [run_eq_of_stops hstops hk]
    obtain ⟨j, rfl⟩ := Nat.exists_eq_add_of_lt (h.lt_of_stops hstops)
    obtain ⟨c', hfirst, hrest⟩ := hstops.split
    rw [h.unique hfirst]
    exact hrest.grows

theorem grows_run_of_step {n : Nat} {c : Configuration}
    (h : m.program.Reaches n (m.start sink) c) (hn : n < budget limit) :
    (m.program.step c).store.sink.Grows (m.run limit sink).sink := by
  cases hstep : m.program.step c with
  | running next => exact grows_run (h.trans (.step hstep (.refl next))) hn
  | stopped result store =>
    rw [run_eq_of_stops (h.trans_stops (.last hstep)) hn]
    exact .refl _

/-! ## Limits -/

/-- A limit changes nothing in a run that it does not cut.  A run that it cuts fails with the
limit, after just as many instructions, and has printed a first part of what it prints under a
larger limit or none.  A run that halts does so under the limits from its own number of steps
on and under no other. -/
theorem run_limit_truncates (m : Machine) (sink : Sink) :
    (∀ (L : UInt64) (limit : Option UInt64), (∀ M ∈ limit, L ≤ M) →
      ((∀ l, (m.run (some L) sink).ending ≠ .failed (.stepLimitExceeded l)) →
        m.run limit sink = m.run (some L) sink) ∧
      ∀ l, (m.run (some L) sink).ending = .failed (.stepLimitExceeded l) →
        l = L ∧
        (∃ c, m.program.Reaches L.toNat (m.start sink) c ∧
          (m.run (some L) sink).machine = ⟨c.store.registers, m.program⟩ ∧
          (m.run (some L) sink).sink = c.store.sink) ∧
        (m.run (some L) sink).sink.Grows (m.run limit sink).sink) ∧
    ∀ (limit : Option UInt64) (report : Report), (m.run limit sink).ending = .halted report →
      1 ≤ report.steps ∧
      m.run none sink = m.run limit sink ∧
      (∀ L : UInt64, report.steps ≤ L.toNat → m.run (some L) sink = m.run limit sink) ∧
      ∀ L : UInt64, L.toNat < report.steps →
        (m.run (some L) sink).ending = .failed (.stepLimitExceeded L) := by
  constructor
  · intro L limit hlimit
    constructor
    · intro hending
      obtain ⟨n, result, store, hn, hstops⟩ := stops_of_ne_stepLimitExceeded hending
      exact run_eq_of_budget_le hstops hn (Nat.le_trans hn (budget_le_budget hlimit))
    · intro l hending
      obtain ⟨rfl, c, hreaches⟩ := reaches_of_stepLimitExceeded hending
      have hrun : m.run (some l) sink = ⟨exhausted (some l), ⟨c.store.registers, m.program⟩,
          c.store.sink⟩ := run_eq_of_reaches hreaches
      have hgrows := grows_run hreaches (budget_le_budget hlimit)
      rw [hrun]
      exact ⟨rfl, ⟨c, hreaches, rfl, rfl⟩, hgrows⟩
  · intro limit report hending
    obtain ⟨hsteps, store, hstops⟩ := stops_of_halted hending
    refine ⟨hstops.pos, ?_, ?_, ?_⟩
    · have hmax : budget limit ≤ budget none := by
        cases limit with
        | none => exact Nat.le_refl _
        | some M => exact budget_le_budget fun _ hmem => nomatch hmem
      exact run_eq_of_budget_le hstops hsteps (Nat.le_trans hsteps hmax)
    · intro L hL
      exact run_eq_of_budget_le hstops hsteps hL
    · intro L hL
      exact ending_of_lt_stops hstops hL

theorem run_limit_truncates_print :
    let m : Machine := ⟨.zeroed 1, ⟨#[.printc 0, .retc 7], #["ab"], by decide⟩⟩
    m.run (some 5) .unbounded = m.run (some 2) .unbounded ∧
      (m.run (some 1) .unbounded).sink.Grows (m.run none .unbounded).sink ∧
      (m.run (some 0) .unbounded).ending = .failed (.stepLimitExceeded 0) := by
  intro m
  have hhalted : (m.run (some 2) .unbounded).ending = .halted ⟨7, 2⟩ := rfl
  have hcut : (m.run (some 1) .unbounded).ending = .failed (.stepLimitExceeded 1) := rfl
  obtain ⟨hcuts, hhalts⟩ := run_limit_truncates m .unbounded
  refine ⟨(hcuts 2 (some 5) ?_).1 ?_, ((hcuts 1 none ?_).2 1 hcut).2.2, ?_⟩
  · intro M hM
    cases hM
    decide
  · intro l hl
    rw [hhalted] at hl
    cases hl
  · exact fun M hM => nomatch hM
  · exact (hhalts (some 2) ⟨7, 2⟩ hhalted).2.2.2 0 (by decide)

end Machine

end RegisterMachine
