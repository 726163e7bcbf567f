/-
# ComposeSite.Yaml.Fault -- what is wrong with a YAML text, and where

The text itself may make no sense (`Problem`), or what it says may not be what is
wanted; then the fault tells the way to it from the root.
-/
import ComposeSite.Json.Fault
import ComposeSite.Yaml.Cursor

set_option autoImplicit false

namespace ComposeSite.Yaml

/-- Why a text makes no sense: what is wrong at a place, or at an octet, and what was being
read since another place. -/
structure Problem where
  text : String
  mark : Mark := {}
  octet : Nat := 0
  within : Option (String × Mark) := none
  deriving DecidableEq, Repr

namespace Problem

def message (p : Problem) : String :=
  let place :=
    if !p.mark.isStart then " at " ++ p.mark.message
    else if p.octet ≠ 0 then s!" at position {p.octet}"
    else ""
  let context := match p.within with
    | none => ""
    | some (text, since) =>
        let differs := since.line ≠ p.mark.line ∨ since.column ≠ p.mark.column
        ", " ++ text ++ (if !since.isStart ∧ differs then " at " ++ since.message else "")
  p.text ++ place ++ context

end Problem

/-- One step on the way from the root. -/
inductive Segment where
  | item (index : Nat)
  | member (key : String)
  | unknown
  deriving DecidableEq, Repr

/-- The way from the root, the last step first. -/
abbrev Way := List Segment

def showWay : Way → String
  | [] => "."
  | .item i :: above => s!"{showWay above}[{i}]"
  | .member key :: above => (if above.isEmpty then "" else showWay above ++ ".") ++ key
  | .unknown :: above => (if above.isEmpty then "" else showWay above ++ ".") ++ "?"

/-- What is wrong with a text or with what it says. -/
inductive Fault where
  | problem (p : Problem)
  | unknownAnchor (mark : Mark)
  | data (cause : DataFault) (place : Option (Way × Mark))
  | nothing
  | severalDocuments
  deriving DecidableEq, Repr

namespace Fault

/-- A wording with its place, unless that is the start of the text. -/
def placed (text : String) (mark : Mark) : String :=
  if mark.isStart then text else s!"{text} at {mark.message}"

def message : Fault → String
  | problem p => p.message
  | unknownAnchor mark => placed "unknown anchor" mark
  | data cause none => cause.message
  | data cause (some (way, mark)) =>
      placed (if way.isEmpty then cause.message else showWay way ++ ": " ++ cause.message) mark
  | nothing => "EOF while parsing a value"
  | severalDocuments =>
      "deserializing from YAML containing more than one document is not supported"

/-- Gives a fault of data the place where it was noticed, unless it has one. -/
def settle (f : Fault) (way : Way) (mark : Mark) : Fault :=
  match f with
  | data cause none => data cause (some (way, mark))
  | f => f

end Fault

end ComposeSite.Yaml
