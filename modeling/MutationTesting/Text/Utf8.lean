/-!
Text from bytes. `decode` reads bytes that may be broken: every maximal part that no character
starts with is read as one replacement character. `decode?` accepts well-formed text only.
-/

namespace MutationTesting.Utf8

/-- The character that stands for bytes that are no text. -/
def replacement : Char := Char.ofNat 0xFFFD

/-- A byte that can follow the first one of a character. -/
def isContinuation (byte : UInt8) : Bool := 0x80 ≤ byte && byte ≤ 0xBF

/-- How many bytes follow a first byte and which second bytes are allowed: overlong forms,
surrogates and numbers beyond the last character are excluded there. None for bytes that start
no character.
-/
def leadRange? (byte : UInt8) : Option (Nat × UInt8 × UInt8) :=
  if byte ≤ 0x7F then some (0, 0, 0)
  else if byte < 0xC2 then none
  else if byte ≤ 0xDF then some (1, 0x80, 0xBF)
  else if byte = 0xE0 then some (2, 0xA0, 0xBF)
  else if byte = 0xED then some (2, 0x80, 0x9F)
  else if byte ≤ 0xEF then some (2, 0x80, 0xBF)
  else if byte = 0xF0 then some (3, 0x90, 0xBF)
  else if byte ≤ 0xF3 then some (3, 0x80, 0xBF)
  else if byte = 0xF4 then some (3, 0x80, 0x8F)
  else none

/-- The payload bits of a first byte that `count` bytes follow. -/
def leadBits (byte : UInt8) (count : Nat) : Nat :=
  match count with
  | 0 => byte.toNat
  | 1 => byte.toNat % 32
  | 2 => byte.toNat % 16
  | _ => byte.toNat % 8

/-- How many of the next bytes continue a character of which `missing` bytes are missing; the
first of them must lie between the given bounds.
-/
def continuationLength : (missing : Nat) → (low high : UInt8) → List UInt8 → Nat
  | 0, _, _, _ => 0
  | _, _, _, [] => 0
  | missing + 1, low, high, byte :: rest =>
      if low ≤ byte && byte ≤ high then 1 + continuationLength missing 0x80 0xBF rest else 0

/-- The number that a first part and continuation bytes spell. -/
def assemble (lead : Nat) (continuation : List UInt8) : Nat :=
  continuation.foldl (fun number byte => number * 64 + byte.toNat % 64) lead

/-- The character at the front of the bytes, none where they are broken, and how many bytes
follow the first one in that character or broken part.
-/
def front (byte : UInt8) (rest : List UInt8) : Option Char × Nat :=
  match leadRange? byte with
  | none => (none, 0)
  | some (count, low, high) =>
      let taken := continuationLength count low high rest
      if taken = count then
        (some (Char.ofNat (assemble (leadBits byte count) (rest.take count))), count)
      else
        (none, taken)

/-- All characters of the bytes, none standing for each broken part. -/
def scan (bytes : List UInt8) : List (Option Char) :=
  match bytes with
  | [] => []
  | byte :: rest => (front byte rest).1 :: scan (rest.drop (front byte rest).2)
termination_by bytes.length
decreasing_by simp only [List.length_drop, List.length_cons]; omega

/-- Text of possibly broken bytes. -/
def decode (bytes : List UInt8) : String :=
  String.ofList ((scan bytes).map (·.getD replacement))

def decode? (bytes : List UInt8) : Option String :=
  ((scan bytes).mapM id).map String.ofList

def encode (text : String) : List UInt8 := text.toUTF8.toList

end MutationTesting.Utf8
