/-!
How many workers there are. Zero stands for a number that depends on other settings: one worker
for every core, or as many as there are in general.
-/

namespace MutationTesting

/-- The sizes of the worker pools. -/
structure WorkerCounts where
  /-- How many workers a pool without a size of its own has. -/
  workers : Nat := 0
  /-- How many workers run the tests of the unmutated program. -/
  testExecution : Nat := 0
  /-- How many workers run mutants. -/
  mutantExecution : Nat := 0
deriving DecidableEq, Repr, Inhabited

namespace WorkerCounts

/-- Replaces zeros: the general size by the number of cores, the others by the general size. -/
def normalize (counts : WorkerCounts) (cores : Nat) : WorkerCounts :=
  let workers := if counts.workers = 0 then cores else counts.workers
  {
    workers
    testExecution := if counts.testExecution = 0 then workers else counts.testExecution
    mutantExecution := if counts.mutantExecution = 0 then workers else counts.mutantExecution
  }

/-- The same size for every pool. -/
def uniform (workers cores : Nat) : WorkerCounts :=
  normalize { workers, testExecution := workers, mutantExecution := workers } cores

end WorkerCounts

end MutationTesting
