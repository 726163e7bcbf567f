/-
# ComposeSite.Json.Fault -- what is wrong with a JSON text, and where

A fault is either in the text itself (`Defect`) or in the data it spells
(`DataFault`).  Faults carry the line and column at which the reader stood; a
fault of line zero has no place.
-/

set_option autoImplicit false

namespace ComposeSite

/-- A line, counted from one, and the number of octets read on it. -/
structure Position where
  line : Nat
  column : Nat
  deriving DecidableEq, Repr

namespace Position

def none : Position := ⟨0, 0⟩

end Position

/-- What a value was expected to be, and is not: the faults of data that is well-formed. -/
inductive DataFault where
  | invalidType (found expected : String)
  | invalidValue (found expected : String)
  | invalidLength (length : Nat) (expected : String)
  | missingField (field : String)
  | duplicateField (field : String)
  | unknownVariant (found : String) (known : List String)
  | stated (text : String)
  deriving DecidableEq, Repr

namespace DataFault

/-- Names between backquotes, the last two joined by "or". -/
def alternatives : List String → String
  | [] => ""
  | [a] => "`" ++ a ++ "`"
  | [a, b] => "`" ++ a ++ "` or `" ++ b ++ "`"
  | names => "one of " ++ ", ".intercalate (names.map fun n => "`" ++ n ++ "`")

def message : DataFault → String
  | invalidType found expected => "invalid type: " ++ found ++ ", expected " ++ expected
  | invalidValue found expected => "invalid value: " ++ found ++ ", expected " ++ expected
  | invalidLength length expected => s!"invalid length {length}, expected {expected}"
  | missingField field => "missing field `" ++ field ++ "`"
  | duplicateField field => "duplicate field `" ++ field ++ "`"
  | unknownVariant found known =>
      "unknown variant `" ++ found ++ "`, expected " ++ alternatives known
  | stated text => text

end DataFault

namespace Json

inductive Defect where
  | endInList
  | endInObject
  | endInString
  | endInValue
  | expectedColon
  | expectedListSeparator
  | expectedObjectSeparator
  | expectedWord
  | expectedValue
  | invalidEscape
  | invalidNumber
  | numberOutOfRange
  | controlCharacter
  | keyMustBeText
  | loneSurrogate
  | endOfHexEscape
  | trailingComma
  | trailingCharacters
  | tooDeep
  deriving DecidableEq, Repr

namespace Defect

def message : Defect → String
  | endInList => "EOF while parsing a list"
  | endInObject => "EOF while parsing an object"
  | endInString => "EOF while parsing a string"
  | endInValue => "EOF while parsing a value"
  | expectedColon => "expected `:`"
  | expectedListSeparator => "expected `,` or `]`"
  | expectedObjectSeparator => "expected `,` or `\x7d`"
  | expectedWord => "expected ident"
  | expectedValue => "expected value"
  | invalidEscape => "invalid escape"
  | invalidNumber => "invalid number"
  | numberOutOfRange => "number out of range"
  | controlCharacter =>
      "control character (\\u0000-\\u001F) found while parsing a string"
  | keyMustBeText => "key must be a string"
  | loneSurrogate => "lone leading surrogate in hex escape"
  | endOfHexEscape => "unexpected end of hex escape"
  | trailingComma => "trailing comma"
  | trailingCharacters => "trailing characters"
  | tooDeep => "recursion limit exceeded"

/-- Whether the text stopped too early. -/
def isEnd : Defect → Bool
  | endInList | endInObject | endInString | endInValue => true
  | _ => false

end Defect

/-- What is wrong: the text, or the data it spells. -/
inductive Cause where
  | defect (d : Defect)
  | data (f : DataFault)
  deriving DecidableEq, Repr

structure Fault where
  cause : Cause
  position : Position
  deriving DecidableEq, Repr

namespace Fault

def ofDefect (d : Defect) (p : Position) : Fault := ⟨.defect d, p⟩

def ofData (f : DataFault) (p : Position) : Fault := ⟨.data f, p⟩

/-- The wording of a fault, with its place if it has one. -/
def message (f : Fault) : String :=
  let text := match f.cause with
    | .defect d => d.message
    | .data d => d.message
  if f.position.line = 0 then text
  else s!"{text} at line {f.position.line} column {f.position.column}"

end Fault

end Json

end ComposeSite
