/-!
Mutators: the kinds of small changes that are made to a function.
-/

namespace MutationTesting

/-- A kind of change. -/
inductive Mutator where
  | mathAdd
  | mathSub
  | mathMul
  | mathDiv
  | negateCondition
  | conditionalsBoundary
  | replaceAssignment
  | replaceCall
  | removeVoidCall
  | andOrReplacement
  | scalarValue
deriving DecidableEq, Repr, Inhabited

namespace Mutator

def all : List Mutator :=
  [.mathAdd, .mathSub, .mathMul, .mathDiv, .negateCondition, .conditionalsBoundary,
    .replaceAssignment, .replaceCall, .removeVoidCall, .andOrReplacement, .scalarValue]

def name : Mutator → String
  | .mathAdd => "math-add"
  | .mathSub => "math-sub"
  | .mathMul => "math-mul"
  | .mathDiv => "math-div"
  | .negateCondition => "negate-condition"
  | .conditionalsBoundary => "conditionals-boundary"
  | .replaceAssignment => "replace-assignment"
  | .replaceCall => "replace-call"
  | .removeVoidCall => "remove-void-call"
  | .andOrReplacement => "and-or-replacement"
  | .scalarValue => "scalar-value"

def ofName? (text : String) : Option Mutator := all.find? (·.name == text)

def label : Mutator → String
  | .mathAdd => "MathAdd"
  | .mathSub => "MathSub"
  | .mathMul => "MathMul"
  | .mathDiv => "MathDiv"
  | .negateCondition => "NegateCondition"
  | .conditionalsBoundary => "ConditionalsBoundary"
  | .replaceAssignment => "ReplaceAssignment"
  | .replaceCall => "ReplaceCall"
  | .removeVoidCall => "RemoveVoidCall"
  | .andOrReplacement => "AndOrReplacement"
  | .scalarValue => "ScalarValue"

/-- The part of identifiers and symbols that stands for a mutator. -/
def id : Mutator → String
  | .mathAdd => "math_add_mutator"
  | .mathSub => "math_sub_mutator"
  | .mathMul => "math_mul_mutator"
  | .mathDiv => "math_div_mutator"
  | .negateCondition => "negate_mutator"
  | .conditionalsBoundary => "conditionals_boundary_mutator"
  | .replaceAssignment => "replace_assignment_mutator"
  | .replaceCall => "replace_call_mutator"
  | .removeVoidCall => "remove_void_function_mutator"
  | .andOrReplacement => "and_or_replacement_mutator"
  | .scalarValue => "scalar_value_mutator"

def description : Mutator → String
  | .mathAdd => "Replaces + with -"
  | .mathSub => "Replaces - with +"
  | .mathMul => "Replaces * with /"
  | .mathDiv => "Replaces / with *"
  | .negateCondition => "Negates a conditional"
  | .conditionalsBoundary => "Moves a comparison boundary (< to <=, > to >=)"
  | .replaceAssignment => "Replaces an assigned value with a constant"
  | .replaceCall => "Replaces a call with a constant"
  | .removeVoidCall => "Removes a call to a function returning void"
  | .andOrReplacement => "Swaps && and ||"
  | .scalarValue => "Replaces a scalar constant"

end Mutator

end MutationTesting
