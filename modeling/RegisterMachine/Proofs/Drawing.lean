import RegisterMachine.Proofs.Bench
import RegisterMachine.Proofs.Random

/-!
# Drawing jobs

The jobs of a benchmark are drawn one behind the other, each from the state in which the one
before has left the generator.  `Bench.jobsFrom` gives them as a list, from any position and any
state.  The first jobs of a longer list are a shorter one (`take_jobsFrom`), and the position of a
job tells which program it is for (`fitsAt_jobsFrom`).

What a benchmark reports is added up over its jobs, so it only grows with their number.
-/

namespace RegisterMachine

/-- The jobs that can be drawn at a position: multiplications at the even ones and Fibonacci
numbers at the odd ones, with operands up to the bound. -/
inductive Job.FitsAt (maxOperand : UInt64) (position : Nat) : Job → Prop where
  | multiplication {a b : UInt64} (heven : position % 2 = 0) (ha : a ≤ maxOperand)
      (hb : b ≤ maxOperand) : FitsAt maxOperand position (.multiplication a b)
  | fibonacci {n : UInt64} (hodd : position % 2 = 1) (hn : n ≤ maxOperand) :
      FitsAt maxOperand position (.fibonacci n)

namespace Bench

variable {maxOperand : UInt64} {position count m n k : Nat} {g : Random.Xoshiro} {job : Job}

/-! ## The list of jobs -/

theorem fitsAt_drawJob (maxOperand : UInt64) (position : Nat) (g : Random.Xoshiro) :
    (drawJob maxOperand position g).1.FitsAt maxOperand position := by
  have hfirst := Random.Xoshiro.uniform_le maxOperand g
  rw [drawJob]
  generalize g.uniform maxOperand = first at hfirst ⊢
  obtain ⟨a, g⟩ := first
  have hsecond := Random.Xoshiro.uniform_le maxOperand g
  dsimp only at hfirst ⊢
  generalize g.uniform maxOperand = second at hsecond ⊢
  split
  · rename_i heven
    exact .multiplication heven hfirst hsecond
  · rename_i hodd
    exact .fibonacci (by omega) hfirst

/-- The jobs drawn from a state of the generator, the first one for the given position. -/
def jobsFrom (maxOperand : UInt64) (position : Nat) : (count : Nat) → Random.Xoshiro → List Job
  | 0, _ => []
  | count + 1, g =>
    let (job, g) := drawJob maxOperand position g
    job :: jobsFrom maxOperand (position + 1) count g

theorem jobsFrom_succ :
    jobsFrom maxOperand position (count + 1) g =
      (drawJob maxOperand position g).1 ::
        jobsFrom maxOperand (position + 1) count (drawJob maxOperand position g).2 := by
  rw [jobsFrom]

/-- Drawing adds to what was drawn, and depends on it by the number of jobs only. -/
theorem toList_drawJobsFrom (drawn : Array Job) :
    (drawJobsFrom maxOperand count drawn g).toList =
      drawn.toList ++ jobsFrom maxOperand drawn.size count g := by
  induction count generalizing drawn g with
  | zero => exact (List.append_nil _).symm
  | succ count ih =>
    rw [drawJobsFrom, jobsFrom_succ]
    dsimp only
    rw [ih, Array.toList_push, Array.size_push, List.append_assoc, List.singleton_append]

theorem toList_drawJobs (bench : Bench) :
    bench.drawJobs.toList = jobsFrom bench.maxOperand 0 bench.jobs (.ofSeed bench.seed) := by
  rw [drawJobs, toList_drawJobsFrom, Array.toList_empty, List.nil_append, Array.size_empty]

/-- The first jobs do not depend on how many follow. -/
theorem take_jobsFrom (h : m ≤ n) :
    (jobsFrom maxOperand position n g).take m = jobsFrom maxOperand position m g := by
  induction m generalizing position n g with
  | zero => exact List.take_zero
  | succ m ih =>
    cases n with
    | zero => omega
    | succ n =>
      rw [jobsFrom_succ, jobsFrom_succ, List.take_succ_cons, ih (Nat.le_of_succ_le_succ h)]

/-- The kind of a job alternates with its position, and its operands keep to their bound. -/
theorem fitsAt_jobsFrom (h : (jobsFrom maxOperand position count g)[k]? = some job) :
    job.FitsAt maxOperand (position + k) := by
  induction count generalizing position k g with
  | zero =>
    rw [jobsFrom, List.getElem?_nil] at h
    cases h
  | succ count ih =>
    rw [jobsFrom_succ] at h
    cases k with
    | zero =>
      rw [List.getElem?_cons_zero, Option.some.injEq] at h
      rw [← h]
      exact fitsAt_drawJob maxOperand position g
    | succ k =>
      rw [List.getElem?_cons_succ] at h
      have hfits := ih h
      rwa [Nat.add_right_comm] at hfits

/-! ## More jobs -/

theorem take_drawJobs (bench : Bench) (h : m ≤ n) :
    ({ bench with jobs := n } : Bench).drawJobs.toList.take m =
      ({ bench with jobs := m } : Bench).drawJobs.toList := by
  rw [toList_drawJobs, toList_drawJobs]
  exact take_jobsFrom h

/-- A job has the same result however many are drawn behind it. -/
theorem take_results (bench : Bench) (h : m ≤ n) :
    ({ bench with jobs := n } : Bench).results.take m =
      ({ bench with jobs := m } : Bench).results := by
  rw [results, results, ← List.map_take, take_drawJobs bench h]

theorem steps_run_le (bench : Bench) (h : m ≤ n) :
    ({ bench with jobs := m } : Bench).run.steps ≤
      ({ bench with jobs := n } : Bench).run.steps := by
  rw [run_eq_results, run_eq_results, ← take_results bench h]
  dsimp only
  generalize ({ bench with jobs := n } : Bench).results = results
  calc ((results.take m).map Prod.fst).sum
      ≤ ((results.take m).map Prod.fst).sum + ((results.drop m).map Prod.fst).sum :=
        Nat.le_add_right _ _
    _ = (results.map Prod.fst).sum := by
        rw [← List.sum_append, ← List.map_append, List.take_append_drop]

theorem mismatches_run_le (bench : Bench) (h : m ≤ n) :
    ({ bench with jobs := m } : Bench).run.mismatches ≤
      ({ bench with jobs := n } : Bench).run.mismatches := by
  rw [run_eq_results, run_eq_results, ← take_results bench h]
  exact (List.take_sublist m _).countP_le

/-- If the steps that are reported fit a word, then every grouping of the results adds up to the
report. -/
theorem total?_of_results {bench : Bench} {grouping : Grouping}
    (hresults : grouping.results = bench.results) (hword : bench.run.steps < UInt64.size) :
    grouping.total? = some (bench.run.steps, bench.run.mismatches) := by
  rw [run_eq_results, ← hresults] at hword ⊢
  exact grouping.total?_eq_some hword

/-- With one seed, one bound and one limit, the jobs of a benchmark are the first ones of any
larger benchmark.  There are as many as asked for, a multiplication at each even position and a
Fibonacci number at each odd one.  No operand is above the bound, and each is what the search for
an accepted word comes to, wherever that ends.  So a larger benchmark reports no fewer steps and
no fewer mismatches, and if the sum of its steps fits a word, then both reports are what their
results add up to, however they are grouped. -/
theorem draws_extend (bench : Bench) (m n : Nat) (h : m ≤ n) :
    let few : Bench := { bench with jobs := m }
    let many : Bench := { bench with jobs := n }
    few.drawJobs.toList = many.drawJobs.toList.take m ∧
    few.drawJobs.size = m ∧ many.drawJobs.size = n ∧
    (∀ (position : Nat) (job : Job), many.drawJobs[position]? = some job →
      job.FitsAt bench.maxOperand position) ∧
    (∀ (rejected value : Nat) (g after : Random.Xoshiro),
      Random.Xoshiro.Accepts (bench.maxOperand.toNat + 1) rejected g (value, after) →
      g.uniform bench.maxOperand = (UInt64.ofNat value, after)) ∧
    few.run.steps ≤ many.run.steps ∧ few.run.mismatches ≤ many.run.mismatches ∧
    (many.run.steps < UInt64.size →
      ∀ fewer more : Grouping, fewer.results = few.results → more.results = many.results →
        fewer.total? = some (few.run.steps, few.run.mismatches) ∧
          more.total? = some (many.run.steps, many.run.mismatches)) := by
  intro few many
  have hsteps : few.run.steps ≤ many.run.steps := steps_run_le bench h
  refine ⟨(take_drawJobs bench h).symm, size_drawJobs few, size_drawJobs many, ?_,
    fun _ _ _ _ => Random.Xoshiro.uniform_of_accepts, hsteps, mismatches_run_le bench h, ?_⟩
  · intro position job hjob
    rw [← Array.getElem?_toList, toList_drawJobs] at hjob
    have hfits := fitsAt_jobsFrom hjob
    rwa [Nat.zero_add] at hfits
  · intro hword fewer more hfewer hmore
    exact ⟨total?_of_results hfewer (Nat.lt_of_le_of_lt hsteps hword),
      total?_of_results hmore hword⟩

/-- Of four jobs the first two are those of the smaller benchmark.  The limit cuts the first and
the third of them. -/
theorem draws_extend_four :
    let few : Bench := { jobs := 2, seed := 7, maxOperand := 9, stepLimit := some 20 }
    let many : Bench := { few with jobs := 4 }
    let fewer : Grouping := .join (.single (0, false)) (.join .zero (.single (20, true)))
    let more : Grouping := .join fewer (.join (.single (0, false)) (.single (13, true)))
    2 ≤ 4 ∧
      many.drawJobs.toList =
        [.multiplication 3 4, .fibonacci 2, .multiplication 4 5, .fibonacci 1] ∧
      few.drawJobs.toList = [.multiplication 3 4, .fibonacci 2] ∧
      (Job.fibonacci 1).FitsAt 9 3 ∧
      few.run.steps ≤ many.run.steps ∧ few.run.mismatches ≤ many.run.mismatches ∧
      fewer.total? = some (few.run.steps, few.run.mismatches) ∧
      more.total? = some (many.run.steps, many.run.mismatches) := by
  intro few many fewer more
  have hjobs : many.drawJobs.toList =
      [.multiplication 3 4, .fibonacci 2, .multiplication 4 5, .fibonacci 1] := by
    decide +kernel
  obtain ⟨hfirst, -, -, hfits, -, hsteps, hmismatches, htotals⟩ := draws_extend few 2 4 (by decide)
  have hfew : few.drawJobs.toList = [.multiplication 3 4, .fibonacci 2] := by
    rw [hfirst, hjobs]
    rfl
  have hlast : many.drawJobs[3]? = some (.fibonacci 1) := by
    rw [← Array.getElem?_toList, hjobs]
    rfl
  have hfewer : fewer.results = few.results := by
    rw [results, hfew]
    simp only [few, List.map_cons, List.map_nil, Job.execute_eq]
    decide
  have hmore : more.results = many.results := by
    rw [results, hjobs]
    simp only [many, few, List.map_cons, List.map_nil, Job.execute_eq]
    decide
  obtain ⟨htotal, htotal'⟩ := htotals (by decide +kernel) fewer more hfewer hmore
  exact ⟨by decide, hjobs, hfew, hfits 3 _ hlast, hsteps, hmismatches, htotal, htotal'⟩

end Bench

end RegisterMachine
