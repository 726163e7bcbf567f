/-
# ComposeSite.Shell.Token -- the words and operators of a line

A line is read character by character.  Blanks that are not quoted end a word, and
operators stand for themselves.  Single quotes make everything up to the next one
literal, a backslash makes one character literal, and between double quotes only a
dollar, a backquote and a backslash keep their meaning.  Every character of a word says
whether it was quoted; an expansion is kept as its text, to be looked at when the word
is used.
-/

set_option autoImplicit false

namespace ComposeSite.Shell

/-! ## Words -/

inductive Expansion where
  | parameter
  | command
  | arithmetic
  deriving DecidableEq, Repr

inductive Piece where
  | char (c : Char) (quoted : Bool)
  | expansion (kind : Expansion) (text : List Char) (quoted : Bool)
  deriving DecidableEq, Repr

/-- A word. One with quotes is there even if nothing is in it. -/
structure Word where
  pieces : List Piece := []
  hasQuotes : Bool := false
  deriving DecidableEq, Repr

namespace Word

def add (w : Word) (p : Piece) : Word := { w with pieces := w.pieces ++ [p] }

/-- The characters of a word without expansions, and whether they were quoted. -/
def chars? (w : Word) : Option (List (Char × Bool)) :=
  w.pieces.mapM fun
    | .char c quoted => some (c, quoted)
    | .expansion .. => none

/-- The text of a word without expansions, its quotes removed. -/
def text? (w : Word) : Option (List Char) := w.chars?.map fun cs => cs.map (·.1)

/-- The text of a word in which nothing is quoted. -/
def bare? (w : Word) : Option (List Char) :=
  if w.hasQuotes then none
  else w.chars?.bind fun cs => if cs.any (·.2) then none else some (cs.map (·.1))

end Word

/-! ## Tokens -/

inductive Operator where
  | both
  | either
  | background
  | semicolon
  | caseEnd
  | pipe
  | opening
  | closing
  | input
  | output
  | append
  | overwrite
  | duplicateInput
  | duplicateOutput
  deriving DecidableEq, Repr

namespace Operator

def spellings : List (String × Operator) :=
  [("&&", both), ("||", either), ("&", background), (";", semicolon), (";;", caseEnd),
   ("|", pipe), ("(", opening), (")", closing), ("<", input), (">", output), (">>", append),
   (">|", overwrite), ("<&", duplicateInput), (">&", duplicateOutput)]

def ofChars? (cs : List Char) : Option Operator := spellings.lookup (String.ofList cs)

def text (o : Operator) : String :=
  ((spellings.find? fun (_, other) => other = o).map (·.1)).getD ""

end Operator

/-- A token of a line. A number that touches a redirection after it names a
descriptor. -/
inductive Token where
  | word (w : Word)
  | operator (o : Operator)
  | descriptor (n : Nat)
  | newline
  deriving DecidableEq, Repr

/-! ## Reading -/

/-- What closes a part of an expansion's text. -/
inductive Closer where
  | paren
  | brace
  | single
  | double
  | backquote
  | escaped
  deriving DecidableEq, Repr

/-- What the next character is part of. An expansion that stands between double quotes is
quoted. -/
inductive Mode where
  | outside
  | single
  | double
  | escape (quoted : Bool)
  | comment
  | operator (text : List Char)
  | dollar (quoted : Bool)
  | name (text : List Char) (quoted : Bool)
  | nested (kind : Expansion) (closers : List Closer) (text : List Char) (quoted : Bool)
  deriving DecidableEq, Repr

/-- What has been read of a line. -/
structure Scanner where
  done : List Token := []
  word : Option Word := none
  mode : Mode := .outside
  deriving DecidableEq, Repr

def isBlank (c : Char) : Bool := c = ' ' || c = '\t'

def startsName (c : Char) : Bool :=
  ('a' ≤ c && c ≤ 'z') || ('A' ≤ c && c ≤ 'Z') || c = '_'

def continuesName (c : Char) : Bool := startsName c || ('0' ≤ c && c ≤ '9')

/-- Whether a character after a dollar is a parameter of its own. -/
def isSpecialParameter (c : Char) : Bool :=
  ('0' ≤ c && c ≤ '9') || ['@', '*', '#', '?', '-', '$', '!'].contains c

/-- The operators that another character may follow, or that stand alone. -/
def startsOperator (c : Char) : Bool := ['&', '|', ';', '<', '>', '(', ')'].contains c

namespace Scanner

def emit (s : Scanner) (t : Token) : Scanner := { s with done := s.done ++ [t] }

/-- The word that is being read, begun if there is none. -/
def current (s : Scanner) : Word := s.word.getD {}

def add (s : Scanner) (p : Piece) : Scanner := { s with word := some (s.current.add p) }

/-- Notes that the word has quotes. -/
def quoting (s : Scanner) (mode : Mode) : Scanner :=
  { s with word := some { s.current with hasQuotes := true }, mode }

def endWord (s : Scanner) : Scanner :=
  match s.word with
  | some w => { s with done := s.done ++ [.word w], word := none }
  | none => s

/-- The descriptor that a word names before a redirection. -/
def descriptor? (w : Word) : Option Nat :=
  w.bare?.bind fun cs =>
    if !cs.isEmpty && cs.all Char.isDigit then (String.ofList cs).toNat? else none

def endBefore (s : Scanner) (c : Char) : Scanner :=
  if c = '<' || c = '>' then
    match s.word.bind descriptor? with
    | some n => { s.emit (.descriptor n) with word := none }
    | none => s.endWord
  else s.endWord

def takeOutside (s : Scanner) (c : Char) : Scanner :=
  if isBlank c then { s.endWord with mode := .outside }
  else if c = '\n' then { s.endWord.emit .newline with mode := .outside }
  else if c = '\'' then s.quoting .single
  else if c = '"' then s.quoting .double
  else if c = '\\' then { s with mode := .escape false }
  else if c = '$' then { s with mode := .dollar false }
  else if c = '`' then { s with mode := .nested .command [.backquote] [] false }
  else if c = '#' && s.word.isNone then { s with mode := .comment }
  else if startsOperator c then { s.endBefore c with mode := .operator [c] }
  else { s.add (.char c false) with mode := .outside }

def takeDouble (s : Scanner) (c : Char) : Scanner :=
  if c = '"' then { s with mode := .outside }
  else if c = '\\' then { s with mode := .escape true }
  else if c = '$' then { s with mode := .dollar true }
  else if c = '`' then { s with mode := .nested .command [.backquote] [] true }
  else { s.add (.char c true) with mode := .double }

def takeBase (s : Scanner) (quoted : Bool) (c : Char) : Scanner :=
  if quoted then s.takeDouble c else s.takeOutside c

/-- The mode around an expansion. -/
def baseMode (quoted : Bool) : Mode := if quoted then .double else .outside

def takeEscaped (s : Scanner) (quoted : Bool) (c : Char) : Scanner :=
  let s := { s with mode := baseMode quoted }
  if c = '\n' then s
  else if quoted && ! ['$', '`', '"', '\\'].contains c then
    (s.add (.char '\\' true)).add (.char c true)
  else s.add (.char c true)

def takeDollar (s : Scanner) (quoted : Bool) (c : Char) : Scanner :=
  if c = '(' then { s with mode := .nested .command [.paren] [] quoted }
  else if c = '{' then { s with mode := .nested .parameter [.brace] [] quoted }
  else if startsName c then { s with mode := .name [c] quoted }
  else if isSpecialParameter c then
    { s.add (.expansion .parameter [c] quoted) with mode := baseMode quoted }
  else { s.add (.char '$' quoted) with mode := baseMode quoted }.takeBase quoted c

def closersAfter (closers : List Closer) (text : List Char) (c : Char) : List Closer :=
  let inner := text.getLast? = some '$'
  match closers with
  | [] => []
  | .escaped :: rest => rest
  | .single :: rest => if c = '\'' then rest else closers
  | .double :: rest =>
      if c = '"' then rest else if c = '\\' then .escaped :: closers
      else if c = '(' && inner then .paren :: closers
      else if c = '{' && inner then .brace :: closers else closers
  | .backquote :: rest =>
      if c = '`' then rest else if c = '\\' then .escaped :: closers else closers
  | .paren :: rest =>
      if c = ')' then rest else if c = '(' then .paren :: closers
      else if c = '\'' then .single :: closers else if c = '"' then .double :: closers
      else if c = '\\' then .escaped :: closers else closers
  | .brace :: rest =>
      if c = '}' then rest else if c = '{' && inner then .brace :: closers
      else if c = '(' && inner then .paren :: closers
      else if c = '\'' then .single :: closers else if c = '"' then .double :: closers
      else if c = '\\' then .escaped :: closers else closers

/-- The text of a substitution between backquotes, without the backslashes that only keep
it together. -/
def unescape : List Char → List Char
  | '\\' :: c :: rest =>
      if ['$', '`', '\\'].contains c then c :: unescape rest else '\\' :: c :: unescape rest
  | c :: rest => c :: unescape rest
  | [] => []

/-- An expansion whose text has been read: two pairs of parentheses make it arithmetic. -/
def expansion (kind : Expansion) (last : Option Closer) (text : List Char) (quoted : Bool) :
    Piece :=
  if last = some .backquote then .expansion kind (unescape text) quoted
  else if kind = .command && text.head? = some '(' && text.getLast? = some ')' then
    .expansion .arithmetic (text.drop 1).dropLast quoted
  else .expansion kind text quoted

def takeNested (s : Scanner) (kind : Expansion) (closers : List Closer) (text : List Char)
    (quoted : Bool) (c : Char) : Scanner :=
  match closersAfter closers text c with
  | [] => { s.add (expansion kind closers.head? text quoted) with mode := baseMode quoted }
  | closers => { s with mode := .nested kind closers (text ++ [c]) quoted }

/-- Takes the character after some of an operator. -/
def takeOperator (s : Scanner) (text : List Char) (c : Char) : Scanner :=
  if (Operator.ofChars? (text ++ [c])).isSome then { s with mode := .operator (text ++ [c]) }
  else
    match Operator.ofChars? text with
    | some o => { s.emit (.operator o) with mode := .outside }.takeOutside c
    | none => { s with mode := .outside }.takeOutside c

def take (s : Scanner) (c : Char) : Scanner :=
  match s.mode with
  | .outside => s.takeOutside c
  | .single =>
      if c = '\'' then { s with mode := .outside } else s.add (.char c true)
  | .double => s.takeDouble c
  | .escape quoted => s.takeEscaped quoted c
  | .comment => if c = '\n' then { s with mode := .outside }.takeOutside c else s
  | .operator text => s.takeOperator text c
  | .dollar quoted => s.takeDollar quoted c
  | .name text quoted =>
      if continuesName c then { s with mode := .name (text ++ [c]) quoted }
      else { s.add (.expansion .parameter text quoted) with
        mode := baseMode quoted }.takeBase quoted c
  | .nested kind closers text quoted => s.takeNested kind closers text quoted c

end Scanner

inductive Unfinished where
  | quotes
  | backquote
  | brace
  | paren
  deriving DecidableEq, Repr

/-- What an expansion that does not end lacks. -/
def Unfinished.ofClosers (closers : List Closer) : Unfinished :=
  match closers.getLast? with
  | some .backquote => .backquote
  | some .brace => .brace
  | some .paren => .paren
  | _ => .quotes

namespace Scanner

/-- The tokens of a line that has been read to its end. -/
def finish (s : Scanner) : Except Unfinished (List Token) :=
  match s.mode with
  | .outside | .comment => .ok s.endWord.done
  | .operator text =>
      match Operator.ofChars? text with
      | some o => .ok (s.emit (.operator o)).done
      | none => .ok s.done
  | .escape false => .ok (s.add (.char '\\' false)).endWord.done
  | .dollar false => .ok (s.add (.char '$' false)).endWord.done
  | .name text false => .ok (s.add (.expansion .parameter text false)).endWord.done
  | .nested _ closers _ _ => .error (.ofClosers closers)
  | .single | .double | .escape true | .dollar true | .name _ true => .error .quotes

end Scanner

def tokens (text : List Char) : Except Unfinished (List Token) :=
  (text.foldl Scanner.take {}).finish

/-- The pieces of some text that stands between double quotes. -/
def quotedPieces (text : List Char) : List Piece :=
  let s := (text ++ ['"']).foldl Scanner.take { mode := .double }
  s.current.pieces

end ComposeSite.Shell
