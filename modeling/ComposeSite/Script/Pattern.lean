/-
# ComposeSite.Script.Pattern -- patterns for names

A star stands for any text, a question mark for one character and brackets for one
character of a set.  A quoted character stands for itself.
-/

set_option autoImplicit false

namespace ComposeSite.Script

/-- Text of which every character says whether it was quoted. -/
abbrev Marked := List (Char × Bool)

def Marked.text (m : Marked) : List Char := m.map (·.1)

inductive Atom where
  | char (c : Char)
  | anyText
  | anyChar
  | oneOf (negated : Bool) (ranges : List (Char × Char))
  deriving DecidableEq, Repr

namespace Atom

/-- Whether a character fits a part that stands for one character. -/
def fits (a : Atom) (c : Char) : Bool :=
  match a with
  | char d => c = d
  | anyChar => true
  | oneOf negated ranges => (ranges.any fun (low, high) => low ≤ c && c ≤ high) != negated
  | anyText => false

def ranges : List Char → List (Char × Char)
  | low :: '-' :: high :: rest => (low, high) :: ranges rest
  | c :: rest => (c, c) :: ranges rest
  | [] => []

def ofBrackets (inside : List Char) : Atom :=
  match inside with
  | '!' :: rest => oneOf true (ranges rest)
  | inside => oneOf false (ranges inside)

end Atom

abbrev Pattern := List Atom

namespace Pattern

/-- Splits marked text at the bracket that closes a set; a bracket right at the start is
part of the set. -/
def closeSet? (m : Marked) : Option (List Char × Marked) :=
  let start := match m with
    | ('!', _) :: (_, _) :: _ => 2
    | _ => 1
  let (first, rest) := (m.take start, m.drop start)
  let inside := rest.takeWhile (· ≠ (']', false))
  match rest.drop inside.length with
  | _ :: rest => some (Marked.text (first ++ inside), rest)
  | [] => none

/-- Reads a pattern; the number bounds its length. -/
def read : Nat → Marked → Pattern
  | 0, _ => []
  | n + 1, ('*', false) :: rest => .anyText :: read n rest
  | n + 1, ('?', false) :: rest => .anyChar :: read n rest
  | n + 1, ('[', false) :: rest =>
      match closeSet? rest with
      | some (inside, rest) => .ofBrackets inside :: read n rest
      | none => .char '[' :: read n rest
  | n + 1, (c, _) :: rest => .char c :: read n rest
  | _ + 1, [] => []

def ofMarked (m : Marked) : Pattern := read m.length m

/-- Whether a pattern is more than text. -/
def isOpen (p : Pattern) : Bool :=
  p.any fun
    | .char _ => false
    | _ => true

def fits : Pattern → List Char → Bool
  | [], cs => cs.isEmpty
  | .anyText :: p, cs => (List.range (cs.length + 1)).any fun n => fits p (cs.drop n)
  | a :: p, c :: cs => a.fits c && fits p cs
  | _ :: _, [] => false

/-- A text without the shortest, or longest, part at its start that fits a pattern. -/
def dropStart (p : Pattern) (longest : Bool) (cs : List Char) : List Char :=
  let sizes := List.range (cs.length + 1)
  match (if longest then sizes.reverse else sizes).find? fun n => fits p (cs.take n) with
  | some n => cs.drop n
  | none => cs

/-- A text without the shortest, or longest, part at its end that fits a pattern. -/
def dropEnd (p : Pattern) (longest : Bool) (cs : List Char) : List Char :=
  let sizes := List.range (cs.length + 1)
  match (if longest then sizes else sizes.reverse).find? fun n => fits p (cs.drop n) with
  | some n => cs.take n
  | none => cs

end Pattern

end ComposeSite.Script
