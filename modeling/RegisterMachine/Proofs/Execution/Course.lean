import RegisterMachine.Machine
import RegisterMachine.Proofs.Execution.Step

/-!
# The course of a run

The course of a run does not depend on a budget.  From a configuration a program
*reaches* another one by a number of steps (`Program.Reaches`), or it *stops* with
one of its steps, which counts (`Program.Stops`).  A run with a budget follows this
course as far as the budget goes (`run_eq_unfinished_iff`, `run_eq_finished_iff`),
and so does a machine with a limit (`run_eq_of_reaches`, `run_eq_of_stops`).

Since a step has one result, two courses from the same configuration agree as far
as both go.  A course that stops stops once (`Stops.unique`), and one that reaches
a configuration passes through all that lie before (`Reaches.split`, `Stops.split`).
-/

namespace RegisterMachine

namespace Program

/-- From `c` the program comes to `d` by executing `n` instructions. -/
inductive Reaches (p : Program) : Nat → Configuration → Configuration → Prop where
  | refl (c : Configuration) : p.Reaches 0 c c
  | step {n : Nat} {c next d : Configuration} (h : p.step c = .running next)
      (rest : p.Reaches n next d) : p.Reaches (n + 1) c d

/-- From `c` the program stops with the `n`-th instruction that it executes. -/
inductive Stops (p : Program) : Nat → Configuration → Except Fault UInt64 → Store → Prop where
  | last {c : Configuration} {result : Except Fault UInt64} {store : Store}
      (h : p.step c = .stopped result store) : p.Stops 1 c result store
  | step {n : Nat} {c next : Configuration} {result : Except Fault UInt64} {store : Store}
      (h : p.step c = .running next) (rest : p.Stops n next result store) :
      p.Stops (n + 1) c result store

variable {p : Program} {c d : Configuration} {result : Except Fault UInt64} {store : Store}
variable {n m : Nat}

/-! ## Courses and budgets -/

/-- A run is unfinished exactly where its course has come to with the whole budget. -/
theorem run_eq_unfinished_iff {budget done : Nat} :
    p.run budget done c = .unfinished d ↔ p.Reaches budget c d := by
  induction budget generalizing done c with
  | zero =>
    rw [run]
    constructor
    · intro h
      cases h
      exact .refl _
    · intro h
      cases h
      rfl
  | succ budget ih =>
    rw [run]
    cases hstep : p.step c with
    | running next =>
      refine ih.trans ⟨.step hstep, ?_⟩
      intro h
      cases h with
      | step hnext rest =>
        rw [hstep] at hnext
        cases hnext
        exact rest
    | stopped result store =>
      refine ⟨fun h => (nomatch h), ?_⟩
      intro h
      cases h with
      | step hnext rest =>
        rw [hstep] at hnext
        cases hnext

/-- A run is finished exactly if its course stops within the budget. -/
theorem run_eq_finished_iff {budget done steps : Nat} :
    p.run budget done c = .finished steps result store ↔
      ∃ n, n ≤ budget ∧ steps = done + n ∧ p.Stops n c result store := by
  induction budget generalizing done c with
  | zero =>
    rw [run]
    refine ⟨fun h => (nomatch h), ?_⟩
    rintro ⟨n, hn, -, h⟩
    cases h <;> omega
  | succ budget ih =>
    rw [run]
    cases hstep : p.step c with
    | running next =>
      refine ih.trans ⟨?_, ?_⟩
      · rintro ⟨n, hn, rfl, h⟩
        exact ⟨n + 1, by omega, by omega, .step hstep h⟩
      · rintro ⟨n, hn, rfl, h⟩
        cases h with
        | last hlast =>
          rw [hstep] at hlast
          cases hlast
        | step hnext rest =>
          rw [hstep] at hnext
          cases hnext
          exact ⟨_, by omega, by omega, rest⟩
    | stopped result' store' =>
      constructor
      · intro h
        cases h
        exact ⟨1, by omega, rfl, .last hstep⟩
      · rintro ⟨n, hn, rfl, h⟩
        cases h with
        | last hlast =>
          rw [hstep] at hlast
          cases hlast
          rfl
        | step hnext rest =>
          rw [hstep] at hnext
          cases hnext

/-- Whatever the budget, a course uses it up or stops within it. -/
theorem reaches_or_stops (p : Program) (budget : Nat) (c : Configuration) :
    (∃ d, p.Reaches budget c d) ∨ ∃ n result store, n ≤ budget ∧ p.Stops n c result store := by
  cases h : p.run budget 0 c with
  | unfinished d => exact Or.inl ⟨d, run_eq_unfinished_iff.1 h⟩
  | finished steps result store =>
    obtain ⟨n, hn, -, hstops⟩ := run_eq_finished_iff.1 h
    exact Or.inr ⟨n, result, store, hn, hstops⟩

/-! ## One course from each configuration -/

theorem Reaches.unique {d' : Configuration} (h : p.Reaches n c d) (h' : p.Reaches n c d') :
    d = d' := by
  have hrun : p.run n 0 c = .unfinished d := run_eq_unfinished_iff.2 h
  have hrun' : p.run n 0 c = .unfinished d' := run_eq_unfinished_iff.2 h'
  exact Outcome.unfinished.inj (hrun.symm.trans hrun')

theorem Stops.pos (h : p.Stops n c result store) : 1 ≤ n := by
  cases h with
  | last hlast => exact Nat.le_refl 1
  | step hnext rest => exact Nat.le_add_left 1 _

/-- A course stops with one step only, and in one way. -/
theorem Stops.unique {result' : Except Fault UInt64} {store' : Store}
    (h : p.Stops n c result store) (h' : p.Stops m c result' store') :
    n = m ∧ result = result' ∧ store = store' := by
  induction h generalizing m with
  | last hlast =>
    cases h' with
    | last hlast' =>
      rw [hlast] at hlast'
      cases hlast'
      exact ⟨rfl, rfl, rfl⟩
    | step hnext' rest' =>
      rw [hlast] at hnext'
      cases hnext'
  | step hnext rest ih =>
    cases h' with
    | last hlast' =>
      rw [hnext] at hlast'
      cases hlast'
    | step hnext' rest' =>
      rw [hnext] at hnext'
      cases hnext'
      obtain ⟨rfl, rfl, rfl⟩ := ih rest'
      exact ⟨rfl, rfl, rfl⟩

/-- A course that stops reaches nothing with its last instruction or behind it. -/
theorem Reaches.lt_of_stops (h : p.Reaches n c d) (h' : p.Stops m c result store) : n < m := by
  induction h generalizing m with
  | refl c => exact h'.pos
  | step hnext rest ih =>
    cases h' with
    | last hlast' =>
      rw [hnext] at hlast'
      cases hlast'
    | step hnext' rest' =>
      rw [hnext] at hnext'
      cases hnext'
      exact Nat.succ_lt_succ (ih rest')

/-- A course passes through a configuration after each number of steps before its last. -/
theorem Reaches.split {e : Configuration} (h : p.Reaches (n + m) c e) :
    ∃ d, p.Reaches n c d ∧ p.Reaches m d e := by
  induction n generalizing c with
  | zero =>
    rw [Nat.zero_add] at h
    exact ⟨c, .refl c, h⟩
  | succ n ih =>
    rw [Nat.succ_add] at h
    cases h with
    | step hnext rest =>
      obtain ⟨d, hfirst, hsecond⟩ := ih rest
      exact ⟨d, .step hnext hfirst, hsecond⟩

theorem Stops.split (h : p.Stops (n + m + 1) c result store) :
    ∃ d, p.Reaches n c d ∧ p.Stops (m + 1) d result store := by
  induction n generalizing c with
  | zero =>
    rw [Nat.zero_add] at h
    exact ⟨c, .refl c, h⟩
  | succ n ih =>
    rw [Nat.succ_add] at h
    cases h with
    | step hnext rest =>
      obtain ⟨d, hfirst, hsecond⟩ := ih rest
      exact ⟨d, .step hnext hfirst, hsecond⟩

/-- A course that stops comes to the configuration at which it takes its last step. -/
theorem Stops.last_step (h : p.Stops n c result store) :
    ∃ k d, n = k + 1 ∧ p.Reaches k c d ∧ p.step d = .stopped result store := by
  induction h with
  | last hlast => exact ⟨0, _, rfl, .refl _, hlast⟩
  | step hnext rest ih =>
    obtain ⟨k, d, rfl, hreaches, hlast⟩ := ih
    exact ⟨k + 1, d, rfl, .step hnext hreaches, hlast⟩

/-! ## Courses in a row -/

theorem Reaches.trans {e : Configuration} (h : p.Reaches n c d) (h' : p.Reaches m d e) :
    p.Reaches (n + m) c e := by
  induction h with
  | refl c => rwa [Nat.zero_add]
  | step hnext rest ih =>
    rw [Nat.succ_add]
    exact .step hnext (ih h')

theorem Reaches.trans_stops (h : p.Reaches n c d) (h' : p.Stops m d result store) :
    p.Stops (n + m) c result store := by
  induction h with
  | refl c => rwa [Nat.zero_add]
  | step hnext rest ih =>
    rw [Nat.succ_add]
    exact .step hnext (ih h')

/-- A loop of `n` rounds, each of which takes `k` steps: `state j` is where the loop stands
after `j` rounds. -/
theorem Reaches.rounds {state : Nat → Configuration} {k : Nat}
    (hround : ∀ j < n, p.Reaches k (state j) (state (j + 1))) :
    p.Reaches (k * n) (state 0) (state n) := by
  induction n with
  | zero => exact .refl _
  | succ n ih =>
    have hfirst := ih fun j hj => hround j (Nat.lt_succ_of_lt hj)
    exact hfirst.trans (hround n (Nat.lt_succ_self n))

/-! ## What holds along a course -/

section Related

variable {R : Store → Store → Prop} (hrefl : ∀ s, R s s)
  (htrans : ∀ {s t u}, R s t → R t u → R s u) (hstep : ∀ c, R c.store (p.step c).store)

include htrans hstep

include hrefl in
/-- What each step does to the registers and the sink, a course does, if it adds up. -/
theorem Reaches.related (h : p.Reaches n c d) : R c.store d.store := by
  induction h with
  | refl c => exact hrefl _
  | @step n c next d hnext rest ih =>
    have hfirst := hstep c
    rw [hnext] at hfirst
    exact htrans hfirst ih

theorem Stops.related (h : p.Stops n c result store) : R c.store store := by
  induction h with
  | @last c result store hlast =>
    have hfirst := hstep c
    rwa [hlast] at hfirst
  | @step n c next result store hnext rest ih =>
    have hfirst := hstep c
    rw [hnext] at hfirst
    exact htrans hfirst ih

end Related

theorem Reaches.grows (h : p.Reaches n c d) : c.store.sink.Grows d.store.sink :=
  h.related (R := fun s t => s.sink.Grows t.sink) (fun s => .refl s.sink) Sink.Grows.trans
    p.grows_step

theorem Stops.grows (h : p.Stops n c result store) : c.store.sink.Grows store.sink :=
  h.related (R := fun s t => s.sink.Grows t.sink) Sink.Grows.trans p.grows_step

/-- A course has as many registers all along. -/
theorem Reaches.count (h : p.Reaches n c d) :
    d.store.registers.count = c.store.registers.count :=
  h.related (R := fun s t => t.registers.count = s.registers.count) (fun _ => rfl)
    (fun h₁ h₂ => h₂.trans h₁) p.count_step

/-! ## Programs with the same steps -/

section Congruence

variable {q : Program}

theorem Reaches.congr (hstep : ∀ c, q.step c = p.step c) (h : p.Reaches n c d) :
    q.Reaches n c d := by
  induction h with
  | refl c => exact .refl c
  | step hnext rest ih => exact .step ((hstep _).trans hnext) ih

theorem reaches_congr (hstep : ∀ c, q.step c = p.step c) :
    q.Reaches n c d ↔ p.Reaches n c d :=
  ⟨.congr fun c => (hstep c).symm, .congr hstep⟩

theorem run_congr (hstep : ∀ c, q.step c = p.step c) (budget done : Nat) (c : Configuration) :
    q.run budget done c = p.run budget done c := by
  induction budget generalizing done c with
  | zero => rfl
  | succ budget ih =>
    rw [run, run, hstep]
    cases p.step c with
    | running next => exact ih (done + 1) next
    | stopped result store => rfl

end Congruence

end Program

/-! ## The course of a machine -/

namespace Machine

variable {m : Machine} {sink : Sink} {limit : Option UInt64}

/-- A machine whose course goes on for as long as its limit allows ends where it is by then. -/
theorem run_eq_of_reaches {c : Configuration}
    (h : m.program.Reaches (budget limit) (m.start sink) c) :
    m.run limit sink = ⟨exhausted limit, ⟨c.store.registers, m.program⟩, c.store.sink⟩ := by
  simp only [run, Program.run_eq_unfinished_iff.2 h]

/-- A machine whose course stops within its limit ends as that does. -/
theorem run_eq_of_stops {n : Nat} {result : Except Fault UInt64} {store : Store}
    (h : m.program.Stops n (m.start sink) result store) (hn : n ≤ budget limit) :
    m.run limit sink = ⟨.ofResult n result, ⟨store.registers, m.program⟩, store.sink⟩ := by
  simp only [run, Program.run_eq_finished_iff.2 ⟨n, hn, (Nat.zero_add n).symm, h⟩]

/-- What each step does to the registers and the sink, a run does, if it adds up. -/
theorem run_related (m : Machine) {R : Store → Store → Prop} (hrefl : ∀ s, R s s)
    (htrans : ∀ {s t u}, R s t → R t u → R s u)
    (hstep : ∀ c, R c.store (m.program.step c).store) (limit : Option UInt64) (sink : Sink) :
    R ⟨m.registers, sink⟩ ⟨(m.run limit sink).machine.registers, (m.run limit sink).sink⟩ := by
  rcases m.program.reaches_or_stops (budget limit) (m.start sink) with
    ⟨c, hreaches⟩ | ⟨n, result, store, hn, hstops⟩
  · rw [run_eq_of_reaches hreaches]
    exact hreaches.related hrefl htrans hstep
  · rw [run_eq_of_stops hstops hn]
    exact hstops.related (R := R) htrans hstep

end Machine

end RegisterMachine
