import MutationTesting.Scheduling.TaskError

/-!
Tasks: what a worker does with its shard. Most tasks take one item after the other and stop at
the first one that fails.
-/

namespace MutationTesting

/-- What a task leaves behind: its outputs, how many items it finished, and why it stopped when
it did not reach the end.
-/
structure TaskOutcome (β : Type) where
  outputs : List β := []
  finished : Nat := 0
  stop : Option TaskStop := none
deriving DecidableEq, Inhabited

/-- A worker's share of a run. -/
abbrev Task (σ α β : Type) : Type := List α → StateM σ (TaskOutcome β)

/-- What one item contributes: outputs, and a reason to stop after it. -/
structure ItemOutcome (β : Type) where
  outputs : List β := []
  stop : Option TaskStop := none
deriving DecidableEq, Inhabited

/-- The task that treats items one after the other up to the first that stops it. An item that
stops the task does not count as finished.
-/
def Task.ofItems (item : α → StateM σ (ItemOutcome β)) : Task σ α β
  | [] => pure {}
  | first :: rest => do
      let outcome ← item first
      match outcome.stop with
      | some stop => pure { outputs := outcome.outputs, stop := some stop }
      | none => do
          let others ← Task.ofItems item rest
          pure
            {
              outputs := outcome.outputs ++ others.outputs
              finished := others.finished + 1
              stop := others.stop
            }

end MutationTesting
