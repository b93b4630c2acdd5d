import MutationTesting.Run.Engine

/-!
The smallest program on which something can be seen: one function behind a trampoline, a mutant
of it, and two tests that expect what the function returns.
-/

namespace MutationTesting.Sample.Single

/-- The place where the function is changed, not yet reached by any test. -/
def point : MutationPoint :=
  { module := "m", function := "one", address := ⟨0, 0, 0⟩, mutator := .mathAdd }

/-- Everything that is linked. The tests share an entry point. -/
def objects : List ObjectFile :=
  [
    {
      name := "single.o"
      definitions :=
        [
          ⟨"one", .const 1⟩,
          ⟨point.mutatedFunctionName, .const 2⟩,
          ⟨"check", .wrapping .sub (.call "_one_trampoline" []) (.const 1)⟩
        ]
      references := ["_one_trampoline"]
    }
  ]

def source : ProgramSource := { runner := {}, objects, trampolined := ["one"] }

def linkedImage : Image :=
  {
    functions :=
      [.const 1, .const 2, .wrapping .sub (.call "_one_trampoline" []) (.const 1)]
    symbols :=
      [
        ("one", .function (.ofIndex 0)),
        ("_tamper_3one_1m_math_add_mutator_0_0_0", .function (.ofIndex 1)),
        ("check", .function (.ofIndex 2)),
        ("_one_trampoline", .slot (.own "_one_trampoline"))
      ]
  }

/-- The slot of the function, pointing at it. -/
def slot : Slot :=
  {
    name := "_one_trampoline"
    function := "one"
    target := some (.ofIndex 0)
    fixup := some (.ofIndex 0)
  }

def program : LoadedProgram := { image := linkedImage, trampolines := { slots := [slot] } }

/-- The point with both tests. -/
def reachedPoint : MutationPoint :=
  point.withReachableTests
    [
      { test := { id := "first", entry := "check" }, distance := 1 },
      { test := { id := "second", entry := "check" }, distance := 1 }
    ]

/-- Runs of the mutant in the process of the host. -/
def runs : MutantRuns Host :=
  {
    source
    sandbox := .inProcess
    timeouts := { multiplier := 10, floor := .ofMillis 30 }
    failFast := false
  }

/-- A sandbox that only looks at the names of tests: the first one fails, any other one passes. -/
def sandboxByName : Sandbox Unit where
  name := "by name"
  run trial _ := pure (.ok { status := if trial.test.id = "first" then .failed else .passed })

/-- An engine with that sandbox. -/
def engineByName : Engine Unit :=
  { configuration := .standard 2, runner := {}, sandbox := sandboxByName }

/-- The same sandbox on a machine on which every test takes seven milliseconds. -/
def slowSandboxByName : Sandbox Unit where
  name := "slow, by name"
  run trial _ :=
    pure (.ok {
      status := if trial.test.id = "first" then .failed else .passed
      runningTime := .ofMillis 7
    })

end MutationTesting.Sample.Single
