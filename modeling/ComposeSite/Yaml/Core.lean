/-
# ComposeSite.Yaml.Core -- what a plain scalar stands for

A plain scalar is nothing, a truth value, a number or, if it is none of these, a text.
A tag may ask for one of these kinds.
-/
import ComposeSite.Decimal
import ComposeSite.Text.Numeral
import ComposeSite.Text.Quoted
import ComposeSite.Text.Split
import ComposeSite.Yaml.Node
import ComposeSite.Yaml.Scalar

set_option autoImplicit false

namespace ComposeSite.Yaml

/-! ## Kinds of scalars -/

def isNull (s : String) : Bool := ["null", "Null", "NULL", "~"].contains s

def truth? (s : String) : Option Bool :=
  if ["true", "True", "TRUE"].contains s then some true
  else if ["false", "False", "FALSE"].contains s then some false
  else none

def radixValue? (radix : Nat) (cs : List Char) : Option Nat :=
  if cs.isEmpty then none
  else cs.foldlM (fun value c => do
    let digit ← Scalar.hexDigit? c
    if digit < radix then pure (radix * value + digit) else none) 0

def radixNumber? : List Char → Option Nat
  | '0' :: 'x' :: rest => radixValue? 16 rest
  | '0' :: 'o' :: rest => radixValue? 8 rest
  | '0' :: 'b' :: rest => radixValue? 2 rest
  | _ => none

def dropPlus : List Char → List Char
  | '+' :: rest => rest
  | cs => cs

def isSigned (cs : List Char) : Bool := cs.head?.any fun c => c = '+' || c = '-'

/-- Whether digits after a sign start with a needless zero, which makes them a text. -/
def isZeroLed (cs : List Char) : Bool :=
  let digits := if isSigned cs then cs.drop 1 else cs
  digits.length > 1 && digits.head? = some '0' && digits.all Char.isDigit

/-- The number that a text without a minus sign spells, up to a limit. -/
def unsigned? (limit : Nat) (cs : List Char) : Option Nat :=
  let within (n : Option Nat) : Option Nat := n.filter (· ≤ limit)
  (within (radixNumber? (dropPlus cs))).or
    (if isSigned (dropPlus cs) || isZeroLed cs then none
      else within (radixValue? 10 (dropPlus cs)))

/-- The size of the number that a text with a minus sign spells, up to a limit. -/
def negated? (limit : Nat) : List Char → Option Nat
  | '-' :: rest =>
      let within (n : Option Nat) : Option Nat := n.filter (· ≤ limit)
      (within (radixNumber? rest)).or
        (if isZeroLed ('-' :: rest) then none else within (radixValue? 10 rest))
  | _ => none

def takeDigits (cs : List Char) : List Char × List Char :=
  (cs.takeWhile Char.isDigit, cs.dropWhile Char.isDigit)

/-- The exponent that ends a number; none is nought. -/
def exponent? : List Char → Option Int
  | [] => some 0
  | c :: rest =>
      if c = 'e' || c = 'E' then
        match rest with
        | '-' :: digits => (radixValue? 10 digits).map fun n => -(Int.ofNat n)
        | digits => (radixValue? 10 (dropPlus digits)).map Int.ofNat
      else none

def decimal? (cs : List Char) : Option Decimal := do
  let negative := cs.head? = some '-'
  let (whole, rest) := takeDigits (if isSigned cs then cs.drop 1 else cs)
  let (fraction, rest) := if rest.head? = some '.' then takeDigits (rest.drop 1)
    else ([], rest)
  let mantissa ← radixValue? 10 (whole ++ fraction)
  let exponent ← exponent? rest
  pure ⟨negative, mantissa, exponent - fraction.length⟩

/-- The wording of the number with a fraction or exponent that a text spells. -/
def float? (s : String) : Option String :=
  let positive := dropPlus s.toList
  if positive.length < s.length && isSigned positive then none
  else if [".inf", ".Inf", ".INF"].contains (String.ofList positive) then some "inf"
  else if ["-.inf", "-.Inf", "-.INF"].contains s then some "-inf"
  else if [".nan", ".NaN", ".NAN"].contains s then some "NaN"
  else ((decimal? positive).filter fun d => !d.overflows).map Decimal.shown

def max128 : Nat := 0xFFFFFFFFFFFFFFFFFFFFFFFFFFFFFFFF

/-- The wording of the whole number that a text spells. -/
def integer? (cs : List Char) : Option String :=
  let shown (n : Nat) : String := s!"integer `{n}`"
  let negative (n : Nat) : String := s!"integer `{-(Int.ofNat n)}`"
  ((unsigned? Text.Numeral.max64 cs).map shown).or <|
    ((negated? 0x8000000000000000 cs).map negative).or <|
      ((unsigned? max128 cs).map fun n => shown n ++ " as u128").or <|
        (negated? 0x80000000000000000000000000000000 cs).map fun n => negative n ++ " as i128"

/-! ## Tags -/

/-- The start of the tags that name kinds of scalars. -/
def coreTag (name : String) : String := "tag:yaml.org,2002:" ++ name

/-- The name of a tag of one's own. -/
def ownTag? (tag : Option String) : Option String :=
  match tag.map String.toList with
  | some ('!' :: name) => some (String.ofList name)
  | _ => none

/-! ## Wording -/

def shownText (s : String) : String := "string " ++ Text.quoted s

def shownUnit : String := "unit value"

/-- The wording of a truth value as a kind of value. -/
def shownTruth (b : Bool) : String := s!"boolean `{b}`"

/-- The wording of a number with a fraction as a kind of value. -/
def shownFloat (s : String) : String := s!"floating point `{s}`"

def shownPlain (s : String) : String :=
  if s.isEmpty || isNull s then shownUnit
  else
    match truth? s, integer? s.toList, float? s with
    | some b, _, _ => shownTruth b
    | none, some i, _ => i
    | none, none, some f => if isZeroLed s.toList then shownText s else shownFloat f
    | none, none, none => shownText s

/-- What is wrong with a scalar that should have been something else. -/
def scalarMismatch (tag : Option String) (style : Style) (s expected : String) : DataFault :=
  let asked (shown : Option String) (kind : String) : DataFault :=
    match shown with
    | some found => .invalidType found expected
    | none => .invalidValue (shownText s) kind
  if tag = some (coreTag "bool") then asked ((truth? s).map shownTruth) "a boolean"
  else if tag = some (coreTag "int") then asked (integer? s.toList) "an integer"
  else if tag = some (coreTag "float") then asked ((float? s).map shownFloat) "a float"
  else if tag = some (coreTag "null") then
    asked (if isNull s then some shownUnit else none) "null"
  else if style = .plain && (tag.isNone || (ownTag? tag).isSome) then
    .invalidType (shownPlain s) expected
  else .invalidType (shownText s) expected

end ComposeSite.Yaml
