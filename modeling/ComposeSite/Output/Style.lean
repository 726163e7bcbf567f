/-
# ComposeSite.Output.Style -- text in colour

A styled text has its style's codes before it and the code that resets them after it.
Output that no terminal shows has neither, unless a variable asks for them.
-/
import ComposeSite.Environment

set_option autoImplicit false

namespace ComposeSite.Output

inductive Style where
  | heading
  | value
  | place
  | aside
  | agreed
  | alarm
  deriving DecidableEq, Repr

namespace Style

def codes : Style → List Nat
  | heading => [36, 1]
  | value => [37]
  | place => [36]
  | aside => [2]
  | agreed => [32]
  | alarm => [31, 1]

def code (n : Nat) : String := s!"\x1b[{n}m"

def apply (s : Style) (enabled : Bool) (text : String) : String :=
  if enabled then String.join (s.codes.map code) ++ text ++ code 0 else text

/-- Whether variables ask for styles where output is not shown by a terminal. -/
def isForced (e : Environment) : Bool :=
  match e.get? "CLICOLOR_FORCE" with
  | some v => v ≠ "0"
  | none => false

end Style

end ComposeSite.Output
