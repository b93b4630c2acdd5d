/-!
Cutting a list of items into contiguous shards, one for every worker, whose sizes differ by at
most one. The first shards get the items that are left over.
-/

namespace MutationTesting

/-- A range of positions: from the first one up to, but not with, the last one. -/
structure Shard where
  first : Nat
  last : Nat
deriving DecidableEq, Repr, Inhabited

namespace Shard

def isEmpty (shard : Shard) : Bool := shard.last ≤ shard.first

/-- The items of a list in a shard. -/
def slice (shard : Shard) (items : List α) : List α :=
  (items.drop shard.first).take (shard.last - shard.first)

/-- Where the shard of a worker starts when `count` items are shared by `workers` workers. -/
def start (count workers worker : Nat) : Nat :=
  worker * (count / workers) + min worker (count % workers)

end Shard

def shards (count workers : Nat) : List Shard :=
  (List.range workers).map fun worker =>
    { first := Shard.start count workers worker, last := Shard.start count workers (worker + 1) }

end MutationTesting
