/-
# ComposeSite.Json.Value -- JSON values and their written form

Objects keep their members in the order of the text.  The written form has no
blanks and escapes only what must be escaped.
-/
import ComposeSite.Decimal

set_option autoImplicit false

namespace ComposeSite.Json

/-- A number as written: its decimal value, and whether it was written without fraction
and exponent. -/
structure Number where
  decimal : Decimal
  integral : Bool
  deriving DecidableEq, Repr

namespace Number

def ofNat (n : Nat) : Number := ⟨⟨false, n, 0⟩, true⟩

def ofInt : Int → Number
  | .ofNat n => ofNat n
  | .negSucc n => ⟨⟨true, n + 1, 0⟩, true⟩

/-- The whole number written, if it was written as one. -/
def toInt? (n : Number) : Option Int :=
  if n.integral then
    some (if n.decimal.negative then -(Int.ofNat n.decimal.mantissa)
      else Int.ofNat n.decimal.mantissa)
  else none

/-- The whole number that a 64-bit word holds, if the number was written as one. Negative
zero is none. -/
def toWord? (n : Number) : Option Int :=
  if n.decimal.negative && n.decimal.mantissa = 0 then none
  else n.toInt?.filter fun i => -0x8000000000000000 ≤ i && i < 0x10000000000000000

def render (n : Number) : String :=
  match n.toInt? with
  | some i => toString i
  | none => n.decimal.shown

end Number

inductive Value where
  | null
  | bool (b : Bool)
  | number (n : Number)
  | text (s : String)
  | array (items : List Value)
  | object (members : List (String × Value))
  deriving Repr, Inhabited

namespace Value

def nat (n : Nat) : Value := number (.ofNat n)

def int (i : Int) : Value := number (.ofInt i)

def texts (ss : List String) : Value := array (ss.map text)

/-- The first member of that name, if the value is an object that has one. -/
def get? (v : Value) (key : String) : Option Value :=
  match v with
  | object members => members.lookup key
  | _ => none

def text? : Value → Option String
  | text s => some s
  | _ => none

def items? : Value → Option (List Value)
  | array items => some items
  | _ => none

def members? : Value → Option (List (String × Value))
  | object members => some members
  | _ => none

def int? : Value → Option Int
  | number n => n.toInt?
  | _ => none

def bool? : Value → Option Bool
  | bool b => some b
  | _ => none

end Value

/-! ## Written form -/

def hexFour (n : Nat) : List Char :=
  let ds := Nat.toDigits 16 n
  List.replicate (4 - ds.length) '0' ++ ds

def renderChar (c : Char) : List Char :=
  if c = '"' then ['\\', '"']
  else if c = '\\' then ['\\', '\\']
  else if c = '\n' then ['\\', 'n']
  else if c = '\r' then ['\\', 'r']
  else if c = '\t' then ['\\', 't']
  else if c = '\x08' then ['\\', 'b']
  else if c = '\x0c' then ['\\', 'f']
  else if c.toNat < 0x20 then ['\\', 'u'] ++ hexFour c.toNat
  else [c]

def quotedChars (s : String) : List Char := '"' :: s.toList.flatMap renderChar ++ ['"']

mutual

def Value.chars : Value → List Char
  | .null => ['n', 'u', 'l', 'l']
  | .bool true => ['t', 'r', 'u', 'e']
  | .bool false => ['f', 'a', 'l', 's', 'e']
  | .number n => n.render.toList
  | .text s => quotedChars s
  | .array [] => ['[', ']']
  | .array (v :: items) => '[' :: v.chars ++ itemChars items
  | .object [] => ['\x7b', '\x7d']
  | .object ((key, v) :: members) =>
      '\x7b' :: quotedChars key ++ ':' :: v.chars ++ memberChars members

/-- The written form of the items after another one, and of the end of the array. -/
def itemChars : List Value → List Char
  | [] => [']']
  | v :: items => ',' :: v.chars ++ itemChars items

/-- The written form of the members after another one, and of the end of the object. -/
def memberChars : List (String × Value) → List Char
  | [] => ['\x7d']
  | (key, v) :: members => ',' :: quotedChars key ++ ':' :: v.chars ++ memberChars members

end

def Value.render (v : Value) : String := String.ofList v.chars

end ComposeSite.Json
