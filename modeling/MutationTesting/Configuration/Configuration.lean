import MutationTesting.Configuration.Workers
import MutationTesting.Sandbox.Kind
import MutationTesting.Time.Duration

/-!
The settings of a run and their defaults. They say how long a test may run: slow tests get more time
than fast ones, and every test gets at least the same least time.
-/

namespace MutationTesting

/-- Timeouts in proportion to what a test took without a mutant. -/
structure TimeoutPolicy where
  multiplier : Nat
  floor : Duration
deriving DecidableEq, Inhabited

/-- The timeout of a test that took the given time; the longest duration when the product is too
large for one.
-/
def TimeoutPolicy.timeoutFor (policy : TimeoutPolicy) (baseline : Duration) : Duration :=
  ((baseline.mul? policy.multiplier).getD .longest).max policy.floor

structure RunSettings where
  /-- Skip the tests of a mutant after the first one that kills it. -/
  failFast : Bool := false
  /-- Only plan the runs of mutants. -/
  dryRun : Bool := false
  sandbox : SandboxKind := .fork
  timeoutMultiplier : UInt32 := 10
  /-- The least timeout of a mutant, in milliseconds. -/
  minTimeout : UInt64 := 30
  /-- The timeout of a test without a mutant, in milliseconds. -/
  testTimeout : UInt64 := 3000
  showProgress : Bool := true
deriving DecidableEq, Inhabited

namespace RunSettings

def timeouts (settings : RunSettings) : TimeoutPolicy :=
  {
    multiplier := settings.timeoutMultiplier.toNat
    floor := .ofMillis settings.minTimeout
  }

end RunSettings

structure Configuration where
  counts : WorkerCounts
  run : RunSettings
deriving DecidableEq, Inhabited

namespace Configuration

/-- The settings that hold when nothing is said, on a machine with the given number of cores.
-/
def standard (cores : Nat) : Configuration :=
  { counts := WorkerCounts.normalize {} cores, run := {} }

/-- The same settings without zeros among the worker counts. -/
def normalize (configuration : Configuration) (cores : Nat) : Configuration :=
  { configuration with counts := configuration.counts.normalize cores }

end Configuration

end MutationTesting
