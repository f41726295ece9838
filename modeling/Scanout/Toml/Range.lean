import Scanout.Toml.Value

/-!
# Values that no reader could take

A reader that looks at a value only to skip it still wants numbers that are numbers, integers of at
most 128 bits, and floats that do not round to infinity.
-/

namespace Scanout.Toml

/-- The least number that rounds to infinity: half a step above the greatest double. -/
def doubleBound : Nat := Nat.pow 2 1024 - Nat.pow 2 970

/-- A float that is not infinite but rounds to infinity. Only numbers with 309 digits before the
point need a closer look. -/
def FloatLiteral.overflows : FloatLiteral → Bool
  | .infinity | .nan => false
  | .decimal mantissa exponent =>
    let magnitude := (Nat.toDigits 10 mantissa).length + exponent
    if mantissa = 0 ∨ magnitude ≤ 308 then false
    else if 310 ≤ magnitude then true
    else if 0 ≤ exponent then decide (doubleBound ≤ mantissa * Nat.pow 10 exponent.toNat)
    else decide (doubleBound * Nat.pow 10 (-exponent).toNat ≤ mantissa)

mutual

def Value.isSkippable : Value → Bool
  | .string _ | .boolean _ | .dateTime _ => true
  | .misspelt => false
  | .integer value => -2 ^ 127 ≤ value && value < 2 ^ 128
  | .float literal => !literal.overflows
  | .array items | .tables items => areSkippable items
  | .table _ entries => entriesAreSkippable entries

def areSkippable : List Value → Bool
  | [] => true
  | first :: rest => first.isSkippable && areSkippable rest

def entriesAreSkippable : List (String × Value) → Bool
  | [] => true
  | (_, value) :: rest => value.isSkippable && entriesAreSkippable rest

end

end Scanout.Toml
