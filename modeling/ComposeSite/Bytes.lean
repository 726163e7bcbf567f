/-
# ComposeSite.Bytes -- octet strings and their hexadecimal spelling

A byte string is a plain list, so that statements about streams are statements
about lists.  Hexadecimal spelling is one of the forms keys and answers use.
-/

set_option autoImplicit false

namespace ComposeSite

abbrev Bytes := List UInt8

namespace Hex

/-- The digit of a value below sixteen, in lower case. -/
def digit (n : Nat) : Char :=
  if n < 10 then Char.ofNat (48 + n) else Char.ofNat (87 + n)

def encodeChars (bs : Bytes) : List Char :=
  bs.flatMap fun b => [digit (b.toNat / 16), digit (b.toNat % 16)]

/-- Two lower-case digits per octet. -/
def encode (bs : Bytes) : String :=
  String.ofList (encodeChars bs)

/-- The value of a digit of either case. -/
def value? (c : Char) : Option Nat :=
  if '0' ≤ c ∧ c ≤ '9' then some (c.toNat - 48)
  else if 'a' ≤ c ∧ c ≤ 'f' then some (c.toNat - 87)
  else if 'A' ≤ c ∧ c ≤ 'F' then some (c.toNat - 55)
  else none

/-- Reads pairs of digits; `none` for a character that is no digit or a digit left over. -/
def decode? : List Char → Option Bytes
  | [] => some []
  | [_] => none
  | h :: l :: rest => do
      let h ← value? h
      let l ← value? l
      let bs ← decode? rest
      pure (UInt8.ofNat (16 * h + l) :: bs)

end Hex

end ComposeSite
