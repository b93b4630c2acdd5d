import MutationTesting.Proofs.Report.Grouping

/-! What the identity of a point tells. Neither a mutator nor an address has a colon in its text,
so that they are cut off at the first and at the last colon, and what is left between these is
the module, whatever its name looks like. So a summary has a mutant of its own for every mutator,
module and address among its results.
-/

namespace MutationTesting

-----------------------------------------------------------------------------------------
-- Cutting at marks
-----------------------------------------------------------------------------------------

namespace Text

/-- What stands in front of the first mark, and what behind it. -/
def cutAtFirst? (mark : Char) (letters : List Char) : Option (List Char × List Char) :=
  match letters.dropWhile (· ≠ mark) with
  | [] => none
  | _ :: back => some (letters.takeWhile (· ≠ mark), back)

/-- What stands in front of the last mark, and what behind it. -/
def cutAtLast? (mark : Char) (letters : List Char) : Option (List Char × List Char) :=
  (cutAtFirst? mark letters.reverse).map fun (back, front) => (front.reverse, back.reverse)

theorem cutAtFirst?_append {mark : Char} {front : List Char} (clear : mark ∉ front)
    (back : List Char)
    : cutAtFirst? mark (front ++ mark :: back) = some (front, back) := by
  have others : ∀ letter ∈ front, decide (letter ≠ mark) = true := by
    intro letter member
    simpa using ne_of_mem_of_not_mem member clear
  unfold cutAtFirst?
  rw [List.dropWhile_append_of_pos others, List.takeWhile_append_of_pos others]
  simp

theorem cutAtLast?_append {mark : Char} {back : List Char} (clear : mark ∉ back)
    (front : List Char)
    : cutAtLast? mark (front ++ mark :: back) = some (front, back) := by
  have mirrored : (front ++ mark :: back).reverse = back.reverse ++ mark :: front.reverse := by
    simp
  rw [cutAtLast?, mirrored, cutAtFirst?_append (by simpa using clear)]
  simp

end Text

-----------------------------------------------------------------------------------------
-- Mutators and addresses
-----------------------------------------------------------------------------------------

namespace Mutator

/-- The mutator that is known by a text. -/
def ofId? (text : String) : Option Mutator := all.find? (·.id == text)

theorem ofId?_id (mutator : Mutator) : ofId? mutator.id = some mutator := by
  cases mutator <;> decide

theorem colon_not_mem_id (mutator : Mutator) : ':' ∉ mutator.id.toList := by
  cases mutator <;> decide

end Mutator

namespace InstructionAddress

/-- Reads three numbers with underscores between them. -/
def read? (letters : List Char) : Option InstructionAddress :=
  match (letters.splitOn '_').map (Nat.ofDigitChars 10 · 0) with
  | [function, block, instruction] => some { function, block, instruction }
  | _ => none

theorem toList_identifier (address : InstructionAddress)
    : address.identifier.toList
      = ['_'].intercalate
          [
            Nat.toDigits 10 address.function, Nat.toDigits 10 address.block,
            Nat.toDigits 10 address.instruction
          ] := by
  simp [identifier, String.toList_append, List.intercalate]

theorem read?_identifier (address : InstructionAddress)
    : read? address.identifier.toList = some address := by
  unfold read?
  rw [toList_identifier, List.splitOn_intercalate]
  · simp [Nat.ofDigitChars_ten_toDigits]
  · simp [Nat.underscore_not_in_toDigits]
  · simp

theorem colon_not_mem_identifier (address : InstructionAddress)
    : ':' ∉ address.identifier.toList := by
  have clear (number : Nat) : ':' ∉ Nat.toDigits 10 number := fun member =>
    absurd (Nat.isDigit_of_mem_toDigits (by decide) (by decide) member) (by decide)
  simp [toList_identifier, List.intercalate, clear]

end InstructionAddress

-----------------------------------------------------------------------------------------
-- Identities
-----------------------------------------------------------------------------------------

/-- What a point is known by in reports. -/
structure PointIdentity where
  mutator : Mutator
  module : String
  address : InstructionAddress
deriving DecidableEq

namespace PointIdentity

/-- Mutator, module and address with colons between them. -/
def text (identity : PointIdentity) : String :=
  identity.mutator.id ++ ":" ++ identity.module ++ ":" ++ identity.address.identifier

/-- Reads an identity from a text that is spelled like it. -/
def read? (text : String) : Option PointIdentity := do
  let (mutator, rest) ← Text.cutAtFirst? ':' text.toList
  let (module, address) ← Text.cutAtLast? ':' rest
  let mutator ← Mutator.ofId? (.ofList mutator)
  let address ← InstructionAddress.read? address
  let identity : PointIdentity := { mutator, module := .ofList module, address }
  if identity.text = text then some identity else none

/-- Reading gives back what was written, from both ends: module names may look like anything. -/
theorem read?_text (identity : PointIdentity) : read? identity.text = some identity := by
  have letters : identity.text.toList
      = identity.mutator.id.toList
        ++ ':' :: (identity.module.toList ++ ':' :: identity.address.identifier.toList) := by
    simp [text, String.toList_append]
  unfold read?
  rw [letters, Text.cutAtFirst?_append identity.mutator.colon_not_mem_id]
  simp [Text.cutAtLast?_append identity.address.colon_not_mem_identifier, Mutator.ofId?_id,
    InstructionAddress.read?_identifier]

/-- A module may be named like an identity. -/
example : read? "math_add_mutator:math_mul_mutator:m:0_0_1:2_0_5"
    = some { mutator := .mathAdd, module := "math_mul_mutator:m:0_0_1", address := ⟨2, 0, 5⟩ } := by
  decide +kernel

theorem text_of_read? {written : String} {identity : PointIdentity}
    (read : read? written = some identity)
    : written = identity.text := by
  simp only [read?, Option.bind_eq_bind, Option.bind_eq_some_iff, Option.ite_none_right_eq_some,
    Option.some.injEq] at read
  obtain ⟨_, -, _, -, _, -, _, -, spelled, rfl⟩ := read
  exact spelled.symm

theorem text_injective {first second : PointIdentity} (same : first.text = second.text)
    : first = second := by
  have read := read?_text first
  rw [same, read?_text] at read
  exact (Option.some.inj read).symm

end PointIdentity

-----------------------------------------------------------------------------------------
-- Points
-----------------------------------------------------------------------------------------

namespace MutationPoint

/-- What a point is known by. -/
def identity (point : MutationPoint) : PointIdentity :=
  { mutator := point.mutator, module := point.module, address := point.address }

theorem uniqueId_eq_iff (point : MutationPoint) (identity : PointIdentity)
    : point.uniqueId = identity.text ↔ point.identity = identity :=
  ⟨fun same => PointIdentity.text_injective same, fun same => same ▸ rfl⟩

/-- Mutants are listed with what their identities say and with their results, in the order in which
mutator, module and address first appear together.
-/
theorem mutants_by_identity (results : List MutationResult)
    : (Summary.ofResults results).mutants.map (fun mutant =>
        (PointIdentity.read? mutant.id, mutant.tests))
      = (results.map (·.point.identity)).eraseDups.map fun identity =>
          (some identity, (results.filter (·.point.identity = identity)).map .ofResult) := by
  let known (id : String) : Option PointIdentity × List TestOutcome :=
    (PointIdentity.read? id, (results.filter (·.point.uniqueId == id)).map .ofResult)
  have texts : results.map (·.point.uniqueId)
      = (results.map (·.point.identity)).map (·.text) := by
    rw [List.map_map]
    rfl
  calc (Summary.ofResults results).mutants.map (fun mutant =>
        (PointIdentity.read? mutant.id, mutant.tests))
    _ = ((Summary.ofResults results).mutants.map (·.id)).map known := by
        rw [List.map_map]
        refine List.map_congr_left fun mutant member => ?_
        simp only [known, Function.comp_apply, Summary.tests_of_mem member]
    _ = ((results.map (·.point.identity)).eraseDups.map (·.text)).map known := by
        rw [Summary.ids_ofResults, Summary.identities, texts,
          eraseDups_map_of_injective fun _ _ => PointIdentity.text_injective]
    _ = (results.map (·.point.identity)).eraseDups.map fun identity =>
          (some identity, (results.filter (·.point.identity = identity)).map .ofResult) := by
        rw [List.map_map]
        refine List.map_congr_left fun identity _ => ?_
        have own : results.filter (·.point.uniqueId == identity.text)
            = results.filter (·.point.identity = identity) :=
          List.filter_congr fun result _ => by
            rw [beq_eq_decide, decide_eq_decide]
            exact uniqueId_eq_iff result.point identity
        simp only [known, Function.comp_apply, PointIdentity.read?_text, own]

/-- Identities tell mutator, module and address, and nothing else. They are read back from the
text of an identity, and from no other text, so that two points share theirs exactly if all these
are equal. A summary therefore keeps apart what differs in any of them: it has one mutant for
every mutator, module and address that appear together, with all their results and no others.
-/
theorem uniqueId_tells
    : (∀ written identity, PointIdentity.read? written = some identity ↔ written = identity.text)
      ∧ (∀ point : MutationPoint,
          PointIdentity.read? point.uniqueId
          = some { mutator := point.mutator, module := point.module, address := point.address })
      ∧ (∀ first second : MutationPoint,
          first.uniqueId = second.uniqueId
          ↔ first.mutator = second.mutator
            ∧ first.module = second.module
            ∧ first.address.function = second.address.function
            ∧ first.address.block = second.address.block
            ∧ first.address.instruction = second.address.instruction)
      ∧ ∀ results : List MutationResult,
          (Summary.ofResults results).mutants.map (fun mutant =>
            (PointIdentity.read? mutant.id, mutant.tests))
          = (results.map (·.point.identity)).eraseDups.map fun identity =>
              (some identity, (results.filter (·.point.identity = identity)).map .ofResult) := by
  refine ⟨fun written identity => ⟨PointIdentity.text_of_read?, ?_⟩, fun point => ?_, ?_,
    mutants_by_identity⟩
  · rintro rfl
    exact PointIdentity.read?_text identity
  · exact PointIdentity.read?_text point.identity
  · intro first second
    have parts : first.uniqueId = second.uniqueId ↔ first.identity = second.identity :=
      uniqueId_eq_iff first second.identity
    have indices (left right : InstructionAddress)
        : left = right
          ↔ left.function = right.function
            ∧ left.block = right.block
            ∧ left.instruction = right.instruction := by
      cases left
      cases right
      simp only [InstructionAddress.mk.injEq]
    rw [parts, identity, identity, PointIdentity.mk.injEq, indices]

end MutationPoint

end MutationTesting
