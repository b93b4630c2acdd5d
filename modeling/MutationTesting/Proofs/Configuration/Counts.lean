import MutationTesting.Configuration.Configuration

/-! Worker counts without zeros. Replacing zeros leaves every other count as it is, and doing it
again changes nothing, so that it does not matter whether it has been done before.
-/

namespace MutationTesting

namespace WorkerCounts

/-- How the counts that are used follow from those that are given: a count that is not zero is used
unchanged, the general pool has a worker for each core otherwise, and a pool of its own takes the
size of the general one.
-/
structure Replaced (given : WorkerCounts) (cores : Nat) (used : WorkerCounts) : Prop where
  workers : given.workers ≠ 0 → used.workers = given.workers
  testExecution : given.testExecution ≠ 0 → used.testExecution = given.testExecution
  mutantExecution : given.mutantExecution ≠ 0 → used.mutantExecution = given.mutantExecution
  noWorkers : given.workers = 0 → used.workers = cores
  noTestExecution : given.testExecution = 0 → used.testExecution = used.workers
  noMutantExecution : given.mutantExecution = 0 → used.mutantExecution = used.workers

/-- No pool is empty. -/
structure Staffed (counts : WorkerCounts) : Prop where
  workers : 0 < counts.workers
  testExecution : 0 < counts.testExecution
  mutantExecution : 0 < counts.mutantExecution

variable {cores : Nat}

theorem normalize_workers (counts : WorkerCounts) (cores : Nat)
    : (counts.normalize cores).workers
      = if counts.workers = 0 then cores else counts.workers :=
  rfl

theorem normalize_testExecution (counts : WorkerCounts) (cores : Nat)
    : (counts.normalize cores).testExecution
      = if counts.testExecution = 0 then
          (counts.normalize cores).workers
        else
          counts.testExecution :=
  rfl

theorem normalize_mutantExecution (counts : WorkerCounts) (cores : Nat)
    : (counts.normalize cores).mutantExecution
      = if counts.mutantExecution = 0 then
          (counts.normalize cores).workers
        else
          counts.mutantExecution :=
  rfl

theorem normalize_replaced (counts : WorkerCounts) (cores : Nat)
    : counts.Replaced cores (counts.normalize cores) where
  workers given := (normalize_workers counts cores).trans (if_neg given)
  testExecution given := (normalize_testExecution counts cores).trans (if_neg given)
  mutantExecution given := (normalize_mutantExecution counts cores).trans (if_neg given)
  noWorkers none := (normalize_workers counts cores).trans (if_pos none)
  noTestExecution none := (normalize_testExecution counts cores).trans (if_pos none)
  noMutantExecution none := (normalize_mutantExecution counts cores).trans (if_pos none)

/-- A machine with cores has workers for every pool. The general pool comes first, since the others
may take its size.
-/
theorem normalize_staffed (counts : WorkerCounts) (someCores : 0 < cores)
    : (counts.normalize cores).Staffed := by
  have workers : 0 < (counts.normalize cores).workers := by
    rw [normalize_workers]
    split <;> omega
  refine ⟨workers, ?_, ?_⟩
  · rw [normalize_testExecution]
    split <;> omega
  · rw [normalize_mutantExecution]
    split <;> omega

/-- Replacing zeros again changes nothing, even on a machine without cores: zeros that are left then
are replaced by the same number.
-/
theorem normalize_normalize (counts : WorkerCounts) (cores : Nat)
    : (counts.normalize cores).normalize cores = counts.normalize cores := by
  rcases counts with ⟨workers, testExecution, mutantExecution⟩
  simp only [normalize, mk.injEq]
  grind

end WorkerCounts

namespace Configuration

theorem normalize_normalize (configuration : Configuration) (cores : Nat)
    : (configuration.normalize cores).normalize cores = configuration.normalize cores :=
  congrArg (fun counts => { configuration with counts })
    (configuration.counts.normalize_normalize cores)

end Configuration

end MutationTesting
