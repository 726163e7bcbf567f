/-
# ComposeSite.Text.Numeral -- unsigned decimal numerals

A numeral is an optional plus sign and one or more ASCII digits; leading zeros
do not matter, and a value above the limit of the wanted width is no value.
-/

set_option autoImplicit false

namespace ComposeSite.Text.Numeral

def digit? (c : Char) : Option Nat :=
  if '0' ≤ c ∧ c ≤ '9' then some (c.toNat - 48) else none

/-- The value of a digit string read after digits of a given value. -/
def digitsFrom? : Nat → List Char → Option Nat
  | value, [] => some value
  | value, c :: cs => do
      let d ← digit? c
      digitsFrom? (10 * value + d) cs

/-- The value of one or more digits. -/
def digits? : List Char → Option Nat
  | [] => none
  | cs => digitsFrom? 0 cs

/-- The value of a numeral, at most `limit`. -/
def unsigned? (limit : Nat) (cs : List Char) : Option Nat := do
  let value ← digits? (match cs with
    | '+' :: rest => rest
    | _ => cs)
  if value ≤ limit then some value else none

/-- Largest 16-bit and 64-bit values. -/
def max16 : Nat := 65535

@[inherit_doc max16]
def max64 : Nat := 18446744073709551615

end ComposeSite.Text.Numeral
