/-!
Addresses of code. The functions of an image lie one after the other from a fixed base on, each
at a multiple of the alignment; no function has address zero.
-/

namespace MutationTesting

/-- A number that can be the address of code. -/
structure Address where
  raw : Nat
  raw_ne_zero : raw ≠ 0
deriving DecidableEq

namespace Address

/-- Where the first function of an image lies. -/
def base : Nat := 0x1000

/-- The distance between neighbouring functions. -/
def alignment : Nat := 16

/-- The address of a number other than zero. -/
def ofRaw? (raw : Nat) : Option Address :=
  if h : raw = 0 then none else some { raw, raw_ne_zero := h }

/-- The address of the function at a position of an image. -/
def ofIndex (index : Nat) : Address where
  raw := base + alignment * index
  raw_ne_zero := by unfold base; omega

/-- The position whose function would lie at the given number. -/
def index? (raw : Nat) : Option Nat :=
  if raw < base ∨ (raw - base) % alignment ≠ 0 then none else some ((raw - base) / alignment)

instance : Inhabited Address := ⟨ofIndex 0⟩

end Address

end MutationTesting
