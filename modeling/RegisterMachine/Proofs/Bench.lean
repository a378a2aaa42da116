import RegisterMachine.Proofs.Sample

/-!
# What a benchmark reports

A job needs a number of steps that its arguments tell (`Job.need`).  Its machine halts with
the result of plain arithmetic after just as many (`Job.stops`), so under a limit the job
counts its steps if the limit allows for them, and is a mismatch if it does not
(`Job.execute_eq`).  The report of a benchmark is the sum of that over the jobs that were
drawn (`Bench.run_eq_results`).

The results may be added up in any order of pairs, as when jobs are run side by side.  A
`Grouping` says how: it is a tree over the results in their order, with zeros anywhere.  If
the sum of all steps fits a word, then so does every sum on the way, and each grouping comes
to the same (`Grouping.total?_eq_some`).
-/

namespace RegisterMachine

/-! ## Jobs -/

namespace Job

/-- The number of instructions that a job executes if no limit cuts it short. -/
def need : Job → Nat
  | .multiplication _ b => 4 * b.toNat + 6
  | .fibonacci n => 7 * n.toNat + 6

/-- The machine of a job, ready to run. -/
def machine (job : Job) : Machine := (Machine.new job.registerCount).loadProgram job.program

/-- A job halts with what plain arithmetic gives, after the steps that it needs. -/
theorem stops (job : Job) :
    ∃ store, job.machine.program.Stops job.need (job.machine.start .unbounded)
      (.ok job.expected) store := by
  cases job with
  | multiplication a b =>
    rw [Sample.expected_multiplication]
    exact ⟨_, Sample.multiplication_stops a b [] .unbounded 0 0 0⟩
  | fibonacci n =>
    rw [Sample.expected_fibonacci]
    exact ⟨_, Sample.fibonacci_stops n [] .unbounded 0 0 0 0⟩

theorem execute_eq (job : Job) (L : UInt64) :
    job.execute (some L) = if job.need ≤ L.toNat then (job.need, true) else (0, false) := by
  obtain ⟨store, hstops⟩ := job.stops
  rw [execute, ← machine]
  by_cases hL : job.need ≤ L.toNat
  · rw [if_pos hL, Machine.run_eq_of_halts hstops hL]
    simp only [decide_true]
  · simp only [if_neg hL, Machine.ending_of_lt_stops hstops (Nat.lt_of_not_le hL)]

end Job

/-! ## Sums in any grouping -/

/-- How the results of jobs are grouped to be added up. -/
inductive Grouping where
  /-- No job: no steps and no mismatch. -/
  | zero
  | single (result : Nat × Bool)
  | join (left right : Grouping)

namespace Grouping

/-- The results that are added up, in their order. -/
def results : Grouping → List (Nat × Bool)
  | .zero => []
  | .single result => [result]
  | .join left right => left.results ++ right.results

/-- The steps and the mismatches of a grouping.  There is no sum of steps that does not fit a
word.  Mismatches are no more than the jobs, and the number of jobs always fits. -/
def total? : Grouping → Option (Nat × Nat)
  | .zero => some (0, 0)
  | .single (steps, matched) => some (steps, if matched then 0 else 1)
  | .join left right =>
    match left.total?, right.total? with
    | some (steps, mismatches), some (steps', mismatches') =>
      if steps + steps' < UInt64.size then some (steps + steps', mismatches + mismatches') else none
    | _, _ => none

theorem total?_eq_some (grouping : Grouping)
    (h : (grouping.results.map Prod.fst).sum < UInt64.size) :
    grouping.total? = some ((grouping.results.map Prod.fst).sum,
      grouping.results.countP fun result => !result.2) := by
  induction grouping with
  | zero => rfl
  | single result =>
    rcases result with ⟨steps, matched⟩
    cases matched <;> rfl
  | join left right ihl ihr =>
    rw [results, List.map_append, List.sum_append] at h
    have hleft := ihl (Nat.lt_of_le_of_lt (Nat.le_add_right _ _) h)
    have hright := ihr (Nat.lt_of_le_of_lt (Nat.le_add_left _ _) h)
    rw [total?, hleft, hright]
    simp only [if_pos h, results, List.map_append, List.sum_append, List.countP_append]

end Grouping

/-! ## Reports -/

namespace Bench

theorem size_drawJobsFrom (maxOperand : UInt64) (count : Nat) (drawn : Array Job)
    (g : Random.Xoshiro) : (drawJobsFrom maxOperand count drawn g).size = drawn.size + count := by
  induction count generalizing drawn g with
  | zero => rfl
  | succ count ih =>
    rw [drawJobsFrom]
    dsimp only
    rw [ih, Array.size_push]
    omega

theorem size_drawJobs (bench : Bench) : bench.drawJobs.size = bench.jobs := by
  rw [drawJobs, size_drawJobsFrom, Array.size_empty, Nat.zero_add]

/-- The results of the jobs of a benchmark, in the order in which the jobs were drawn. -/
def results (bench : Bench) : List (Nat × Bool) :=
  bench.drawJobs.toList.map fun job => job.execute bench.stepLimit

theorem run_eq_results (bench : Bench) :
    bench.run = ⟨bench.jobs, (bench.results.map Prod.fst).sum,
      bench.results.countP fun result => !result.2⟩ := by
  simp only [run, results, size_drawJobs, ← Array.toList_map, Array.countP_toList,
    List.sum_eq_foldl, Array.foldl_toList, Array.foldl_map]

variable {bench : Bench} {L : UInt64}

/-- The steps that are reported are those of the jobs that the limit allows for. -/
theorem sum_results (h : bench.stepLimit = some L) :
    (bench.results.map Prod.fst).sum =
      ((bench.drawJobs.toList.filter fun job => job.need ≤ L.toNat).map Job.need).sum := by
  have hsteps : (Prod.fst ∘ fun job : Job => job.execute (some L)) =
      fun job => if job.need ≤ L.toNat then job.need else 0 := by
    funext job
    rw [Function.comp_apply, Job.execute_eq]
    split <;> rfl
  rw [results, h, List.map_map, hsteps, List.sum_map_ite, List.map_const', List.sum_replicate,
    Nat.nsmul_eq_mul, Nat.mul_zero, Nat.add_zero]

/-- The mismatches are the jobs that the limit cuts short. -/
theorem countP_results (h : bench.stepLimit = some L) :
    (bench.results.countP fun result => !result.2) =
      bench.drawJobs.toList.countP fun job => L.toNat < job.need := by
  rw [results, h, List.countP_map]
  refine List.countP_congr fun job _ => ?_
  rw [Function.comp_apply, Job.execute_eq]
  split <;> simp <;> omega

/-- Under a step limit, a benchmark reports all its jobs, the steps of those that need no more
than the limit, and the others as mismatches, if the sum of the steps fits a word.  However
the results are grouped for the sum, they come to the same.  A job that needs no more than the
limit is no mismatch, and a larger limit makes no more mismatches. -/
theorem run_determined (bench : Bench) (L : UInt64) (hlimit : bench.stepLimit = some L) :
    let jobs := bench.drawJobs.toList
    let steps := ((jobs.filter fun job => job.need ≤ L.toNat).map Job.need).sum
    let mismatches := jobs.countP fun job => L.toNat < job.need
    (steps < UInt64.size →
      bench.run = ⟨bench.jobs, steps, mismatches⟩ ∧
        ∀ grouping : Grouping, grouping.results = bench.results →
          grouping.total? = some (steps, mismatches)) ∧
    jobs.length = bench.jobs ∧
    (∀ job : Job, job.need ≤ L.toNat → job.execute (some L) = (job.need, true)) ∧
    (∀ M, L ≤ M → ({ bench with stepLimit := some M } : Bench).run.mismatches ≤
      bench.run.mismatches) := by
  intro jobs steps mismatches
  have hsteps : (bench.results.map Prod.fst).sum = steps := sum_results hlimit
  have hmismatches : (bench.results.countP fun result => !result.2) = mismatches :=
    countP_results hlimit
  refine ⟨?_, ?_, ?_, ?_⟩
  · intro hfits
    constructor
    · rw [run_eq_results, hsteps, hmismatches]
    · intro grouping hgrouping
      rw [Grouping.total?_eq_some, hgrouping, hsteps, hmismatches]
      rw [hgrouping, hsteps]
      exact hfits
  · exact bench.size_drawJobs
  · intro job hneed
    rw [Job.execute_eq, if_pos hneed]
  · intro M hM
    rw [run_eq_results, run_eq_results, hmismatches, countP_results rfl]
    refine List.countP_mono_left fun job _ hcut => ?_
    rw [decide_eq_true_eq] at hcut ⊢
    exact Nat.lt_of_le_of_lt (UInt64.le_iff_toNat_le.1 hM) hcut

/-- Four jobs of which the limit cuts two, and one that needs just the limit. -/
theorem run_determined_cut :
    let bench : Bench := { jobs := 4, seed := 7, maxOperand := 9, stepLimit := some 20 }
    let grouping : Grouping :=
      .join (.join (.single (0, false)) (.single (20, true)))
        (.join .zero (.join (.single (0, false)) (.single (13, true))))
    bench.run = ⟨4, 33, 2⟩ ∧ grouping.total? = some (33, 2) := by
  intro bench grouping
  have hjobs : bench.drawJobs.toList =
      [.multiplication 3 4, .fibonacci 2, .multiplication 4 5, .fibonacci 1] := by
    decide +kernel
  have hgrouping : grouping.results = bench.results := by
    rw [results, hjobs]
    simp only [bench, List.map_cons, List.map_nil, Job.execute_eq]
    decide
  have hdetermined := (run_determined bench 20 rfl).1
  rw [hjobs] at hdetermined
  obtain ⟨hrun, htotal⟩ := hdetermined (by decide)
  exact ⟨hrun, htotal grouping hgrouping⟩

end Bench

end RegisterMachine
