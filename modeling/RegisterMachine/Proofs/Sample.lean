import Mathlib.Data.Nat.Fib.Basic
import RegisterMachine.Bench
import RegisterMachine.Proofs.Execution.Limit
import RegisterMachine.Proofs.Registers

/-!
# What the sample programs compute

Both sample programs set three registers, go round a loop that counts down to zero, and
leave it by a comparison, a jump and a return.  What one round does is found by executing
it (`multiplication_round`, `fibonacci_round`).  The rounds add up by the rule for loops
(`Program.Reaches.rounds`), for which the registers after each number of rounds are
written down as words of natural numbers.  That gives the course of the whole program
with its number of steps (`multiplication_stops`, `fibonacci_stops`), and a step limit
either allows for all of it or is used up.

The natural numbers are not bounded here.  It is their words that are taken modulo 2⁶⁴,
so nothing changes where a product or a Fibonacci number no longer fits a word.
-/

namespace RegisterMachine.Sample

open Instruction Program

/-- Where a run stands that has the given words in its first registers, and the words of
`rest` in the others. -/
def stateAt (rest : List UInt64) (sink : Sink) (pc : Nat) (words : List UInt64) : Configuration :=
  ⟨pc, .ofList (words ++ rest), sink⟩

/-! ## Counting down -/

theorem ofNat_sub_ne_zero {n : UInt64} {j : Nat} (h : j < n.toNat) :
    UInt64.ofNat (n.toNat - j) ≠ 0 := by
  intro hzero
  have hlt : n.toNat - j < UInt64.size := Nat.lt_of_le_of_lt (Nat.sub_le _ _) n.toNat_lt
  have hsub : (UInt64.ofNat (n.toNat - j)).toNat = n.toNat - j := UInt64.toNat_ofNat_of_lt' hlt
  rw [hzero] at hsub
  exact absurd hsub.symm (Nat.sub_ne_zero_of_lt h)

/-- Adding the word of minus one takes one away from a counter that is not used up. -/
theorem ofNat_sub_add_minusOne {n : UInt64} {j : Nat} (h : j < n.toNat) :
    UInt64.ofNat (n.toNat - j) + minusOne = .ofNat (n.toNat - (j + 1)) := by
  have hminusOne : (1 : UInt64) + minusOne = 0 := by decide
  obtain ⟨left, hleft⟩ := Nat.exists_eq_add_of_lt h
  calc UInt64.ofNat (n.toNat - j) + minusOne
      = UInt64.ofNat (left + 1) + minusOne := by rw [show n.toNat - j = left + 1 by omega]
    _ = UInt64.ofNat left + (1 + minusOne) := by
      rw [UInt64.ofNat_add, UInt64.add_assoc]
      rfl
    _ = UInt64.ofNat (n.toNat - (j + 1)) := by
      rw [hminusOne, UInt64.add_zero, show n.toNat - (j + 1) = left by omega]

/-- The comparison at the head of both loops skips the jump out of the loop as long as the
counter is not zero. -/
theorem effect_eqc_of_ne_zero {counter : UInt64} (h : counter ≠ 0) (x y : UInt64)
    (rest : List UInt64) :
    (eqc 2 0).effect (.ofList (x :: y :: counter :: rest)) #[] = .ok (.move 2) :=
  congrArg (fun offset => Except.ok (Effect.move offset)) (if_neg h)

theorem effect_eqc_zero (x y : UInt64) (rest : List UInt64) :
    (eqc 2 0).effect (.ofList (x :: y :: 0 :: rest)) #[] = .ok (.move 1) :=
  congrArg (fun offset => Except.ok (Effect.move offset)) (if_pos rfl)

/-! ## Multiplication -/

section Multiplication

variable (a b : UInt64) (rest : List UInt64) (sink : Sink)

theorem multiplication_setup (x y z : UInt64) :
    (multiplication a b).Reaches 3 (stateAt rest sink 0 [x, y, z])
      (stateAt rest sink 3 [0, a, b]) := by
  have hsum : (multiplication a b).step (stateAt rest sink 0 [x, y, z]) =
      .running (stateAt rest sink 1 [0, y, z]) := step_eq_of_store rfl rfl rfl rfl
  have hsummand : (multiplication a b).step (stateAt rest sink 1 [0, y, z]) =
      .running (stateAt rest sink 2 [0, a, z]) := step_eq_of_store rfl rfl rfl rfl
  have hcounter : (multiplication a b).step (stateAt rest sink 2 [0, a, z]) =
      .running (stateAt rest sink 3 [0, a, b]) := step_eq_of_store rfl rfl rfl rfl
  exact .step hsum <| .step hsummand <| .step hcounter <| .refl _

theorem multiplication_round (sum summand : UInt64) {counter : UInt64} (h : counter ≠ 0) :
    (multiplication a b).Reaches 4 (stateAt rest sink 3 [sum, summand, counter])
      (stateAt rest sink 3 [sum + summand, summand, counter + minusOne]) := by
  have hcompare : (multiplication a b).step (stateAt rest sink 3 [sum, summand, counter]) =
      .running (stateAt rest sink 5 [sum, summand, counter]) :=
    step_eq_of_move rfl (effect_eqc_of_ne_zero h sum summand rest) rfl
  have hadd : (multiplication a b).step (stateAt rest sink 5 [sum, summand, counter]) =
      .running (stateAt rest sink 6 [sum + summand, summand, counter]) :=
    step_eq_of_store rfl rfl rfl rfl
  have hcount : (multiplication a b).step (stateAt rest sink 6 [sum + summand, summand, counter]) =
      .running (stateAt rest sink 7 [sum + summand, summand, counter + minusOne]) :=
    step_eq_of_store rfl rfl rfl rfl
  have hback : (multiplication a b).step
        (stateAt rest sink 7 [sum + summand, summand, counter + minusOne]) =
      .running (stateAt rest sink 3 [sum + summand, summand, counter + minusOne]) :=
    step_eq_of_move rfl rfl rfl
  exact .step hcompare <| .step hadd <| .step hcount <| .step hback <| .refl _

theorem multiplication_exit (sum summand : UInt64) :
    (multiplication a b).Stops 3 (stateAt rest sink 3 [sum, summand, 0]) (.ok sum)
      (stateAt rest sink 8 [sum, summand, 0]).store := by
  have hcompare : (multiplication a b).step (stateAt rest sink 3 [sum, summand, 0]) =
      .running (stateAt rest sink 4 [sum, summand, 0]) :=
    step_eq_of_move rfl (effect_eqc_zero sum summand rest) rfl
  have heffect : (jmpc 3).effect (.ofList ([sum, summand, 0] ++ rest)) #[] = .ok (.move 4) := rfl
  have hjump : (multiplication a b).step (stateAt rest sink 4 [sum, summand, 0]) =
      .running (stateAt rest sink 8 [sum, summand, 0]) := step_eq_of_move rfl heffect rfl
  have hret : (multiplication a b).step (stateAt rest sink 8 [sum, summand, 0]) =
      .stopped (.ok sum) (stateAt rest sink 8 [sum, summand, 0]).store :=
    step_eq_of_halt rfl rfl rfl
  exact .step hcompare <| .step hjump <| .last hret

/-- A multiplication at its loop, after `j` rounds. -/
def multiplicationLoop (j : Nat) : Configuration :=
  stateAt rest sink 3 [.ofNat (a.toNat * j), a, .ofNat (b.toNat - j)]

theorem multiplication_rounds :
    (multiplication a b).Reaches (4 * b.toNat) (multiplicationLoop a b rest sink 0)
      (multiplicationLoop a b rest sink b.toNat) := by
  refine Reaches.rounds ?_
  intro j hj
  have hround := multiplication_round a b rest sink (.ofNat (a.toNat * j)) a
    (ofNat_sub_ne_zero hj)
  have hsum : UInt64.ofNat (a.toNat * j) + a = .ofNat (a.toNat * (j + 1)) := by
    rw [Nat.mul_succ, UInt64.ofNat_add, UInt64.ofNat_toNat]
  rwa [hsum, ofNat_sub_add_minusOne hj] at hround

/-- The course of a multiplication, with its number of steps and what it leaves. -/
theorem multiplication_stops (x y z : UInt64) :
    (multiplication a b).Stops (4 * b.toNat + 6) (stateAt rest sink 0 [x, y, z])
      (.ok (.ofNat (a.toNat * b.toNat)))
      (stateAt rest sink 8 [.ofNat (a.toNat * b.toNat), a, 0]).store := by
  have hsetup := multiplication_setup a b rest sink x y z
  have hrounds := multiplication_rounds a b rest sink
  have hexit := multiplication_exit a b rest sink (.ofNat (a.toNat * b.toNat)) a
  simp only [multiplicationLoop, Nat.mul_zero, Nat.sub_zero, Nat.sub_self, UInt64.ofNat_toNat]
    at hrounds
  have hstops := (hsetup.trans hrounds).trans_stops hexit
  rwa [show 3 + 4 * b.toNat + 3 = 4 * b.toNat + 6 by omega] at hstops

end Multiplication

/-- On any machine with the registers that it needs, and under any limit that allows for its
steps, the multiplication program halts with the product.  Apart from the three registers
that it uses, it leaves the machine and the sink as they were.  Any other limit is used up. -/
theorem multiplication_run (m : Machine) (hm : multiplicationRegisters ≤ m.registerCount)
    (a b L : UInt64) (sink : Sink) :
    ∃ loaded, m.load (multiplication a b).instructions = .ok loaded ∧
      (4 * b.toNat + 6 ≤ L.toNat →
        let run := loaded.run (some L) sink
        run.ending = .halted ⟨.ofNat (a.toNat * b.toNat), 4 * b.toNat + 6⟩ ∧
          run.machine.read 0 = .ok (.ofNat (a.toNat * b.toNat)) ∧
          run.machine.read 1 = .ok a ∧
          run.machine.read 2 = .ok 0 ∧
          m.registers.KeepsFrom 3 run.machine.registers ∧
          run.sink = sink) ∧
      (L.toNat < 4 * b.toNat + 6 →
        (loaded.run (some L) sink).ending = .failed (.stepLimitExceeded L)) := by
  obtain ⟨registers, program⟩ := m
  obtain ⟨front, rest, hfront, rfl⟩ := RegisterFile.exists_eq_ofList hm
  match front, hfront with
  | [x, y, z], _ =>
    let loaded : Machine := ⟨.ofList ([x, y, z] ++ rest), multiplication a b⟩
    have hstops : loaded.program.Stops _ (loaded.start sink) _ _ :=
      multiplication_stops a b rest sink x y z
    refine ⟨loaded, rfl, ?_, Machine.ending_of_lt_stops hstops⟩
    intro hlimit run
    have hrun : run = _ := Machine.run_eq_of_halts hstops hlimit
    have hkeeps : RegisterFile.KeepsFrom [x, y, z].length (.ofList ([x, y, z] ++ rest))
        (.ofList ([.ofNat (a.toNat * b.toNat), a, 0] ++ rest)) := RegisterFile.keepsFrom_ofList rfl
    rw [hrun]
    exact ⟨rfl, rfl, rfl, rfl, hkeeps, rfl⟩

/-- The product of `2⁶³ + 1` and two is two. -/
theorem multiplication_run_wraps :
    let m : Machine := ⟨⟨#[9, 9, 9, 4]⟩, .initial⟩
    ∃ loaded, m.load (multiplication 9223372036854775809 2).instructions = .ok loaded ∧
      (loaded.run (some 14) .unbounded).ending = .halted ⟨2, 14⟩ ∧
      (loaded.run (some 13) .unbounded).ending = .failed (.stepLimitExceeded 13) := by
  intro m
  have hm : multiplicationRegisters ≤ m.registerCount := by decide
  obtain ⟨loaded, hload, hhalts, -⟩ :=
    multiplication_run m hm 9223372036854775809 2 14 .unbounded
  obtain ⟨loaded', hload', -, hfails⟩ :=
    multiplication_run m hm 9223372036854775809 2 13 .unbounded
  obtain rfl : loaded = loaded' := Except.ok.inj (hload.symm.trans hload')
  exact ⟨loaded, hload, (hhalts (by decide)).1, hfails (by decide)⟩

theorem expected_multiplication (a b : UInt64) :
    (Job.multiplication a b).expected = .ofNat (a.toNat * b.toNat) := by
  rw [Job.expected, UInt64.ofNat_mul, UInt64.ofNat_toNat, UInt64.ofNat_toNat]

/-! ## Fibonacci numbers -/

section Fibonacci

variable (n : UInt64) (rest : List UInt64) (sink : Sink)

theorem fibonacci_setup (x y z w : UInt64) :
    (fibonacci n).Reaches 3 (stateAt rest sink 0 [x, y, z, w])
      (stateAt rest sink 3 [0, 1, n, w]) := by
  have hfirst : (fibonacci n).step (stateAt rest sink 0 [x, y, z, w]) =
      .running (stateAt rest sink 1 [0, y, z, w]) := step_eq_of_store rfl rfl rfl rfl
  have hsecond : (fibonacci n).step (stateAt rest sink 1 [0, y, z, w]) =
      .running (stateAt rest sink 2 [0, 1, z, w]) := step_eq_of_store rfl rfl rfl rfl
  have hcounter : (fibonacci n).step (stateAt rest sink 2 [0, 1, z, w]) =
      .running (stateAt rest sink 3 [0, 1, n, w]) := step_eq_of_store rfl rfl rfl rfl
  exact .step hfirst <| .step hsecond <| .step hcounter <| .refl _

theorem fibonacci_round (x y scratch : UInt64) {counter : UInt64} (h : counter ≠ 0) :
    (fibonacci n).Reaches 7 (stateAt rest sink 3 [x, y, counter, scratch])
      (stateAt rest sink 3 [y, x + y, counter + minusOne, x + y]) := by
  have hcompare : (fibonacci n).step (stateAt rest sink 3 [x, y, counter, scratch]) =
      .running (stateAt rest sink 5 [x, y, counter, scratch]) :=
    step_eq_of_move rfl (effect_eqc_of_ne_zero h x y (scratch :: rest)) rfl
  have hcopy : (fibonacci n).step (stateAt rest sink 5 [x, y, counter, scratch]) =
      .running (stateAt rest sink 6 [x, y, counter, x]) := step_eq_of_store rfl rfl rfl rfl
  have hadd : (fibonacci n).step (stateAt rest sink 6 [x, y, counter, x]) =
      .running (stateAt rest sink 7 [x, y, counter, x + y]) := step_eq_of_store rfl rfl rfl rfl
  have hfirst : (fibonacci n).step (stateAt rest sink 7 [x, y, counter, x + y]) =
      .running (stateAt rest sink 8 [y, y, counter, x + y]) := step_eq_of_store rfl rfl rfl rfl
  have hsecond : (fibonacci n).step (stateAt rest sink 8 [y, y, counter, x + y]) =
      .running (stateAt rest sink 9 [y, x + y, counter, x + y]) := step_eq_of_store rfl rfl rfl rfl
  have hcount : (fibonacci n).step (stateAt rest sink 9 [y, x + y, counter, x + y]) =
      .running (stateAt rest sink 10 [y, x + y, counter + minusOne, x + y]) :=
    step_eq_of_store rfl rfl rfl rfl
  have hback : (fibonacci n).step
        (stateAt rest sink 10 [y, x + y, counter + minusOne, x + y]) =
      .running (stateAt rest sink 3 [y, x + y, counter + minusOne, x + y]) :=
    step_eq_of_move rfl rfl rfl
  exact .step hcompare <| .step hcopy <| .step hadd <| .step hfirst <| .step hsecond <|
    .step hcount <| .step hback <| .refl _

theorem fibonacci_exit (x y scratch : UInt64) :
    (fibonacci n).Stops 3 (stateAt rest sink 3 [x, y, 0, scratch]) (.ok x)
      (stateAt rest sink 11 [x, y, 0, scratch]).store := by
  have hcompare : (fibonacci n).step (stateAt rest sink 3 [x, y, 0, scratch]) =
      .running (stateAt rest sink 4 [x, y, 0, scratch]) :=
    step_eq_of_move rfl (effect_eqc_zero x y (scratch :: rest)) rfl
  have heffect : (jmpc 6).effect (.ofList ([x, y, 0, scratch] ++ rest)) #[] = .ok (.move 7) := rfl
  have hjump : (fibonacci n).step (stateAt rest sink 4 [x, y, 0, scratch]) =
      .running (stateAt rest sink 11 [x, y, 0, scratch]) := step_eq_of_move rfl heffect rfl
  have hret : (fibonacci n).step (stateAt rest sink 11 [x, y, 0, scratch]) =
      .stopped (.ok x) (stateAt rest sink 11 [x, y, 0, scratch]).store :=
    step_eq_of_halt rfl rfl rfl
  exact .step hcompare <| .step hjump <| .last hret

/-- What the register for the exchange holds after a number of rounds: at first whatever was
there before the run, and then the larger of the two neighbours. -/
def fibonacciScratch (before : UInt64) : (rounds : Nat) → UInt64
  | 0 => before
  | rounds + 1 => .ofNat (Nat.fib (rounds + 2))

/-- The Fibonacci program at its loop, after `j` rounds. -/
def fibonacciLoop (before : UInt64) (j : Nat) : Configuration :=
  stateAt rest sink 3 [.ofNat (Nat.fib j), .ofNat (Nat.fib (j + 1)), .ofNat (n.toNat - j),
    fibonacciScratch before j]

theorem fibonacci_rounds (before : UInt64) :
    (fibonacci n).Reaches (7 * n.toNat) (fibonacciLoop n rest sink before 0)
      (fibonacciLoop n rest sink before n.toNat) := by
  refine Reaches.rounds ?_
  intro j hj
  have hround := fibonacci_round n rest sink (.ofNat (Nat.fib j)) (.ofNat (Nat.fib (j + 1)))
    (fibonacciScratch before j) (ofNat_sub_ne_zero hj)
  rwa [← UInt64.ofNat_add, ← Nat.fib_add_two, ofNat_sub_add_minusOne hj] at hround

/-- The course of the Fibonacci program, with its number of steps and what it leaves. -/
theorem fibonacci_stops (x y z w : UInt64) :
    (fibonacci n).Stops (7 * n.toNat + 6) (stateAt rest sink 0 [x, y, z, w])
      (.ok (.ofNat (Nat.fib n.toNat)))
      (stateAt rest sink 11 [.ofNat (Nat.fib n.toNat), .ofNat (Nat.fib (n.toNat + 1)), 0,
        fibonacciScratch w n.toNat]).store := by
  have hsetup := fibonacci_setup n rest sink x y z w
  have hrounds := fibonacci_rounds n rest sink w
  have hexit := fibonacci_exit n rest sink (.ofNat (Nat.fib n.toNat))
    (.ofNat (Nat.fib (n.toNat + 1))) (fibonacciScratch w n.toNat)
  simp only [fibonacciLoop, Nat.sub_zero, Nat.sub_self, UInt64.ofNat_toNat] at hrounds
  have hstops := (hsetup.trans hrounds).trans_stops hexit
  rwa [show 3 + 7 * n.toNat + 3 = 7 * n.toNat + 6 by omega] at hstops

end Fibonacci

/-- Plain arithmetic from two neighbouring Fibonacci numbers on. -/
theorem fibonacciFrom_fib (steps k : Nat) :
    fibonacciFrom steps (.ofNat (Nat.fib k)) (.ofNat (Nat.fib (k + 1))) =
      .ofNat (Nat.fib (k + steps)) := by
  induction steps generalizing k with
  | zero => rfl
  | succ steps ih =>
    rw [fibonacciFrom, ← UInt64.ofNat_add, ← Nat.fib_add_two, ih (k + 1)]
    rw [Nat.add_right_comm, Nat.add_assoc]

theorem expected_fibonacci (n : UInt64) :
    (Job.fibonacci n).expected = .ofNat (Nat.fib n.toNat) := by
  have hfrom : (Job.fibonacci n).expected = .ofNat (Nat.fib (0 + n.toNat)) :=
    fibonacciFrom_fib n.toNat 0
  rwa [Nat.zero_add] at hfrom

/-- On any machine with the registers that it needs, and under any limit that allows for its
steps, the Fibonacci program halts with the Fibonacci number, which is also what plain
arithmetic gives.  Apart from the four registers that it uses, it leaves the machine and
the sink as they were.  Any other limit is used up. -/
theorem fibonacci_run (m : Machine) (hm : fibonacciRegisters ≤ m.registerCount) (n L : UInt64)
    (sink : Sink) :
    ∃ loaded, m.load (fibonacci n).instructions = .ok loaded ∧
      (7 * n.toNat + 6 ≤ L.toNat →
        let run := loaded.run (some L) sink
        run.ending = .halted ⟨.ofNat (Nat.fib n.toNat), 7 * n.toNat + 6⟩ ∧
          run.machine.read 0 = .ok (.ofNat (Nat.fib n.toNat)) ∧
          run.machine.read 1 = .ok (.ofNat (Nat.fib (n.toNat + 1))) ∧
          run.machine.read 2 = .ok 0 ∧
          m.registers.KeepsFrom 4 run.machine.registers ∧
          run.sink = sink) ∧
      (L.toNat < 7 * n.toNat + 6 →
        (loaded.run (some L) sink).ending = .failed (.stepLimitExceeded L)) ∧
      (Job.fibonacci n).expected = .ofNat (Nat.fib n.toNat) := by
  obtain ⟨registers, program⟩ := m
  obtain ⟨front, rest, hfront, rfl⟩ := RegisterFile.exists_eq_ofList hm
  match front, hfront with
  | [x, y, z, w], _ =>
    let loaded : Machine := ⟨.ofList ([x, y, z, w] ++ rest), fibonacci n⟩
    have hstops : loaded.program.Stops _ (loaded.start sink) _ _ :=
      fibonacci_stops n rest sink x y z w
    refine ⟨loaded, rfl, ?_, Machine.ending_of_lt_stops hstops, expected_fibonacci n⟩
    intro hlimit run
    have hrun : run = _ := Machine.run_eq_of_halts hstops hlimit
    have hkeeps : RegisterFile.KeepsFrom [x, y, z, w].length (.ofList ([x, y, z, w] ++ rest))
        (.ofList ([.ofNat (Nat.fib n.toNat), .ofNat (Nat.fib (n.toNat + 1)), 0,
          fibonacciScratch w n.toNat] ++ rest)) := RegisterFile.keepsFrom_ofList rfl
    rw [hrun]
    exact ⟨rfl, rfl, rfl, rfl, hkeeps, rfl⟩

/-- The first Fibonacci number that does not fit a word is that of 94. -/
theorem fibonacci_run_wraps :
    let m : Machine := ⟨⟨#[9, 9, 9, 9, 4]⟩, .initial⟩
    ∃ loaded, m.load (fibonacci 94).instructions = .ok loaded ∧
      (loaded.run (some 664) .unbounded).ending = .halted ⟨1293530146158671551, 664⟩ ∧
      (loaded.run (some 663) .unbounded).ending = .failed (.stepLimitExceeded 663) := by
  intro m
  have hm : fibonacciRegisters ≤ m.registerCount := by decide
  have hfib : Nat.fib (94 : UInt64).toNat = 19740274219868223167 := by decide
  obtain ⟨loaded, hload, hhalts, -⟩ := fibonacci_run m hm 94 664 .unbounded
  obtain ⟨loaded', hload', -, hfails, -⟩ := fibonacci_run m hm 94 663 .unbounded
  obtain rfl : loaded = loaded' := Except.ok.inj (hload.symm.trans hload')
  rw [hfib] at hhalts
  exact ⟨loaded, hload, (hhalts (by decide)).1, hfails (by decide)⟩

end RegisterMachine.Sample
