import MutationTesting.Scheduling.Shards
import MutationTesting.Scheduling.Task

/-!
Sharing a list of items among workers. Every worker that has items runs its task; the outputs
are joined in the order of the shards. When any task stops early nothing is kept, and the error
is that of the first shard that stopped.
-/

namespace MutationTesting

/-- The outcome of sharing items among workers. -/
structure Execution (β : Type) where
  outputs : Except TaskError (List β)
  /-- How many items were finished; none when no task was started. -/
  finished : Option Nat

namespace Execution

/-- Runs every task on its shard, also after an earlier task stopped; empty shards are passed
over.
-/
def runShards : List (Task σ α β × List α) → StateM σ (List (TaskOutcome β))
  | [] => pure []
  | (task, items) :: rest => do
      if items.isEmpty then
        runShards rest
      else
        let outcome ← task items
        let outcomes ← runShards rest
        pure (outcome :: outcomes)

/-- All outputs in order, or the error of the first task that stopped early. -/
def merge : List (TaskOutcome β) → Except TaskError (List β)
  | [] => .ok []
  | outcome :: rest =>
      match outcome.stop with
      | some stop => .error stop.error
      | none => (merge rest).map (outcome.outputs ++ ·)

/-- Adds the outputs to those that are there already. Nothing is added when the items were given up.
-/
def addTo (execution : Execution β) (output : List β) : Except TaskError Unit × List β :=
  match execution.outputs with
  | .ok outputs => (.ok (), output ++ outputs)
  | .error error => (.error error, output)

end Execution

/-- Shares items among workers with the given tasks. -/
def execute (tasks : List (Task σ α β)) (items : List α) : StateM σ (Execution β) :=
  if items.isEmpty then
    pure { outputs := .ok [], finished := none }
  else if tasks.isEmpty then
    pure { outputs := .error (.noWorkers items.length), finished := none }
  else do
    let parts := (shards items.length tasks.length).map (·.slice items)
    let outcomes ← Execution.runShards (tasks.zip parts)
    pure
      {
        outputs := Execution.merge outcomes
        finished := some (outcomes.foldl (· + ·.finished) 0)
      }

/-- The last line that a progress display shows, with its blanks and the end of the line. -/
def progressLine (description : String) (finished total : Nat) : String :=
  description ++ ": " ++ toString finished ++ "/" ++ toString total ++ "   \n"

end MutationTesting
