/-
# ComposeSite.Yaml.Cursor -- a place in a YAML text

A mark counts the characters, lines and columns before a place.  A cursor is the text
that is left together with the mark of where it starts; moving it forward moves the mark.
-/

set_option autoImplicit false

namespace ComposeSite.Yaml

/-- A place, by what is before it: characters, line breaks, and characters on its line. -/
structure Mark where
  index : Nat := 0
  line : Nat := 0
  column : Nat := 0
  deriving DecidableEq, Repr

namespace Mark

def isStart (m : Mark) : Bool := m.line = 0 && m.column = 0

def message (m : Mark) : String :=
  let line := m.line + 1
  let column := m.column + 1
  s!"line {line} column {column}"

end Mark

/-! ## Characters -/

/-- A space or a tab. -/
def isBlank (c : Char) : Bool := c = ' ' || c = '\t'

def isBreak (c : Char) : Bool :=
  c = '\n' || c = '\r' || c = '\u0085' || c = '\u2028' || c = '\u2029'

def isName (c : Char) : Bool := c.isAlphanum || c = '_' || c = '-'

/-- Whether a word ends here: at a blank, a line break or the end of the text. -/
def endsWord : Option Char → Bool
  | none => true
  | some c => isBlank c || isBreak c

def endsLine : Option Char → Bool
  | none => true
  | some c => isBreak c

/-! ## Cursors -/

/-- The text that is left, and where it starts. -/
structure Cursor where
  rest : List Char
  mark : Mark := {}
  deriving DecidableEq, Repr

namespace Cursor

def next? (c : Cursor) : Option Char := c.rest.head?

def after? (c : Cursor) (n : Nat) : Option Char := c.rest[n]?

def is (c : Cursor) (ch : Char) : Bool := c.next? = some ch

def skip (c : Cursor) (n : Nat := 1) : Cursor :=
  let m := c.mark
  { rest := c.rest.drop n, mark := { m with index := m.index + n, column := m.column + n } }

/-- Goes over all characters of a class that come next on a line. -/
def skipWhile (c : Cursor) (p : Char → Bool) : Cursor := c.skip (c.rest.takeWhile p).length

/-- The characters of a class that come next on a line, and what is left. -/
def takeWhile (c : Cursor) (p : Char → Bool) : List Char × Cursor :=
  let taken := c.rest.takeWhile p
  (taken, c.skip taken.length)

/-- Goes over a line break, and gives what it stands for. -/
def readBreak (c : Cursor) : List Char × Cursor :=
  let down (n : Nat) : Mark := { index := c.mark.index + n, line := c.mark.line + 1 }
  match c.rest with
  | '\r' :: '\n' :: rest => (['\n'], ⟨rest, down 2⟩)
  | ch :: rest =>
      if ch = '\u2028' || ch = '\u2029' then ([ch], ⟨rest, down 1⟩)
      else if isBreak ch then (['\n'], ⟨rest, down 1⟩)
      else ([], c)
  | [] => ([], c)

def skipBreak (c : Cursor) : Cursor := c.readBreak.2

/-- Goes over blanks, and a comment after them. -/
def skipComment (c : Cursor) : Cursor :=
  let c := c.skipWhile isBlank
  if c.is '#' then c.skipWhile fun ch => !isBreak ch else c

/-- Whether one character, three times at the start of a line and before a blank, is next. -/
def isMarker (c : Cursor) (ch : Char) : Bool :=
  c.mark.column = 0 && [ch, ch, ch].isPrefixOf c.rest && endsWord (c.after? 3)

/-- Whether a document starts or ends here. -/
def isDocumentMarker (c : Cursor) : Bool := c.isMarker '-' || c.isMarker '.'

end Cursor

end ComposeSite.Yaml
