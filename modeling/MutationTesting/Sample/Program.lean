import MutationTesting.Run.Pipeline

/-!
A small program to try things on: five arithmetic functions, four tests and six mutants. All
functions are instrumented, and the arithmetic functions are reached through trampolines.
-/

namespace MutationTesting.Sample

/-- The instrumented functions; the first has number 1. -/
def functions : List String :=
  ["test_sum", "test_max", "test_count_down", "test_div", "sum", "max", "count_down",
    "decrement", "checked_div"]

/-- The functions that are reached through trampolines. -/
def trampolined : List String := ["sum", "max", "count_down", "decrement", "checked_div"]

def numberOf (function : String) : Nat := functions.idxOf function + 1

/-- The code of one of the functions, instrumented. -/
def instrumented (function : String) (body : Body) : Body :=
  .instrumented (numberOf function) body

/-- A call through a trampoline. -/
def callThrough (function : String) (args : List Body) : Body :=
  .call (trampolineName function) args

/-- The greater of two arguments, where the operator says when the first one is taken. -/
def chosenBy (op : Operator) : Body :=
  .select (.checked op (.operand 0) (.operand 1)) (.operand 0) (.operand 1)

/-- How many decrements it takes to get from the argument to zero. -/
def countDown : Body := .countSteps (.operand 0) (callThrough "decrement" [.operand 0])

def less (amount : Int64) : Body := .checked .sub (.operand 0) (.const amount)

/-- Tells whether the second argument is zero. -/
def dividesByZero : Body := .checked .eq (.operand 1) (.const 0)

def quotient : Body := .checked .div (.operand 0) (.operand 1)

def program : ObjectFile :=
  ({ name := "arith.o" } : ObjectFile)
    |>.define "sum" (instrumented "sum" (.checked .add (.operand 0) (.operand 1)))
    |>.define "max" (instrumented "max" (chosenBy .gt))
    |>.define "count_down" (instrumented "count_down" countDown)
    |>.define "decrement" (instrumented "decrement" (less 1))
    |>.define "checked_div"
      (instrumented "checked_div" (.select dividesByZero (.const 0) quotient))
    |>.reference (trampolineName "decrement")
    |>.reference Hooks.enterSymbol
    |>.reference Hooks.leaveSymbol

/-- What a test expects of one call through a trampoline. -/
structure Expectation where
  function : String
  args : List Int64
  result : Int64

/-- The code of a test: zero when all expectations are met, and one otherwise. All calls are
made in any case.
-/
def testBody (expectations : List Expectation) : Body :=
  let met (expectation : Expectation) : Body :=
    .wrapping .eq (callThrough expectation.function (expectation.args.map .const))
      (.const expectation.result)
  match expectations.map met with
  | [] => .const 0
  | first :: rest => .wrapping .eq (rest.foldl (.wrapping .mul) first) (.const 0)

def tests : ObjectFile :=
  let test (object : ObjectFile) (name : String) (expectations : List Expectation) :=
    object.define name (instrumented name (testBody expectations))
  let defined : ObjectFile := { name := "arith_tests.o" }
  let defined := test defined "test_sum" [⟨"sum", [2, 3], 5⟩]
  let defined := test defined "test_max" [⟨"max", [3, 7], 7⟩, ⟨"max", [4, 4], 4⟩]
  let defined := test defined "test_count_down" [⟨"count_down", [3], 3⟩]
  let defined := test defined "test_div" [⟨"checked_div", [8, 2], 4⟩, ⟨"checked_div", [1, 0], 0⟩]
  (["sum", "max", "count_down", "checked_div"].map trampolineName
      ++ [Hooks.enterSymbol, Hooks.leaveSymbol]).foldl
    ObjectFile.reference defined

/-- How long the mutant that counts nothing is busy, in nanoseconds. -/
def spinTime : Nat := 200000000

/-- A mutation point with the code of its mutant. -/
structure Mutant where
  point : MutationPoint
  body : Body

def mutant (function : String) (address : InstructionAddress) (mutator : Mutator)
    (instruction : String) (line column : Nat) (body : Body)
    : Mutant :=
  {
    point :=
      {
        module := "arith.bc"
        function
        address
        mutator
        instruction
        location := some { file := "arith.c", line, column }
      }
    body := instrumented function body
  }

def mutants : List Mutant :=
  [
    mutant "sum" ⟨0, 0, 2⟩ .mathAdd "%add = add nsw i64 %a, %b" 3 14
      (.checked .sub (.operand 0) (.operand 1)),
    mutant "max" ⟨1, 0, 1⟩ .conditionalsBoundary "%cmp = icmp sgt i64 %a, %b" 7 12
      (chosenBy .ge),
    mutant "max" ⟨1, 0, 1⟩ .negateCondition "%cmp = icmp sgt i64 %a, %b" 7 12 (chosenBy .le),
    mutant "count_down" ⟨2, 1, 0⟩ .removeVoidCall "%dec = call i64 @decrement(i64 %n)" 13 9
      (.sequence
        [
          .wait spinTime,
          .countSteps
            (.select (.checked .lt (.operand 0) (.const 0)) (.operand 0) (.const 0))
            (.operand 0)
        ]),
    mutant "decrement" ⟨3, 0, 0⟩ .scalarValue "%sub = sub nsw i64 %n, 1" 19 14 (less 2),
    mutant "checked_div" ⟨4, 0, 1⟩ .negateCondition "%iszero = icmp eq i64 %b, 0" 23 9
      (.select dividesByZero quotient (.const 0))
  ]

/-- The mutation points of the program, not yet reached by any test. -/
def points : List MutationPoint := mutants.map (·.point)

/-- The code of the mutants. -/
def mutantCode : ObjectFile :=
  let references :=
    ({ name := "arith_mutants.o" } : ObjectFile)
      |>.reference (trampolineName "decrement")
      |>.reference Hooks.enterSymbol
      |>.reference Hooks.leaveSymbol
  mutants.foldl (fun object mutant => object.define mutant.point.mutatedFunctionName mutant.body)
    references

/-- Everything that is linked. -/
def objects : List ObjectFile := [program, tests, mutantCode]

/-- The tests, named after the functions that they are about. -/
def unitTests : List UnitTest :=
  [
    { id := "sum", entry := "test_sum" },
    { id := "max", entry := "test_max" },
    { id := "count_down", entry := "test_count_down" },
    { id := "div", entry := "test_div" }
  ]

/-- The mutation points of the program, each reached by all of the tests. -/
def reachedPoints : List MutationPoint :=
  points.map (·.withReachableTests (unitTests.map ({ test := ·, distance := 1 })))

/-- Where the program runs while nothing is recorded. -/
def runner : Runner := Hooks.silent.install {}

/-- A whole run of the program with the given tests. -/
def pipeline (tests : List UnitTest) : Pipeline :=
  {
    objects
    trampolined
    recordingRunner := Hooks.recording.install {}
    discovery := { functions, maxDistance := 128 }
    tests
    points
  }

end MutationTesting.Sample
