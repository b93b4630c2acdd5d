import MutationTesting.Execution.Status

/-!
The byte form in which a status crosses a process boundary: the number of the status, written
with as few bytes as its size needs. A first byte below 251 is the number itself; the markers
251 and 252 announce two and four bytes, the lowest one first.
-/

namespace MutationTesting.StatusCode

/-- Why bytes hold no status. -/
inductive DecodeError where
  /-- The bytes end before the number does. -/
  | unexpectedEnd
  /-- The number is that of no status. -/
  | unknownNumber
  /-- The first byte announces a number wider than a status can have. -/
  | tooWide
deriving DecidableEq, Repr

def encode (status : ExecutionStatus) : List UInt8 := [UInt8.ofNat status.number]

/-- The number at the front of the bytes and how many bytes it takes. -/
def readNumber : List UInt8 → Except DecodeError (Nat × Nat)
  | [] => .error .unexpectedEnd
  | marker :: rest =>
      if marker < 251 then
        .ok (marker.toNat, 1)
      else if marker = 251 then
        match rest with
        | b₀ :: b₁ :: _ => .ok (b₀.toNat + 256 * b₁.toNat, 3)
        | _ => .error .unexpectedEnd
      else if marker = 252 then
        match rest with
        | b₀ :: b₁ :: b₂ :: b₃ :: _ =>
            .ok (b₀.toNat + 256 * (b₁.toNat + 256 * (b₂.toNat + 256 * b₃.toNat)), 5)
        | _ => .error .unexpectedEnd
      else
        .error .tooWide

/-- The status at the front of the bytes and how many bytes it takes; later bytes are ignored.
-/
def decode (bytes : List UInt8) : Except DecodeError (ExecutionStatus × Nat) := do
  let (number, used) ← readNumber bytes
  match ExecutionStatus.all[number]? with
  | some status => .ok (status, used)
  | none => .error .unknownNumber

/-- What is written is read back, and all of it is used. -/
theorem decode_encode (status : ExecutionStatus) : decode (encode status) = .ok (status, 1) := by
  cases status <;> rfl

end MutationTesting.StatusCode
