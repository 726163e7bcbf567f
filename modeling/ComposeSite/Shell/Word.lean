/-
# ComposeSite.Shell.Word -- words as a POSIX shell reads them back

A word of harmless characters stands for itself; any other word goes between
single quotes, where only a single quote needs care: the quotes are closed, the
quote is written after a backslash, and the quotes are opened again.
-/

set_option autoImplicit false

namespace ComposeSite.Shell

/-- Whether a character has no meaning of its own to the shell. -/
def isPlain (c : Char) : Bool :=
  ('a' ≤ c && c ≤ 'z') || ('A' ≤ c && c ≤ 'Z') || ('0' ≤ c && c ≤ '9') ||
    ['-', '_', '.', '/', '=', ':', ',', '+', '@', '%'].contains c

/-- How a character is written between single quotes. -/
def quoteChar (c : Char) : List Char :=
  if c = '\'' then ['\'', '\\', '\'', '\''] else [c]

def quoteChars (cs : List Char) : List Char :=
  if cs.isEmpty then ['\'', '\'']
  else if cs.all isPlain then cs
  else '\'' :: cs.flatMap quoteChar ++ ['\'']

/-- The written form of a word. -/
def quote (word : String) : String :=
  String.ofList (quoteChars word.toList)

/-- A program and its arguments. -/
structure Command where
  program : String
  args : List String
  deriving DecidableEq, Repr

namespace Command

def words (c : Command) : List String := c.program :: c.args

/-- The command as a line: every word written so that it is read back. -/
def line (c : Command) : String :=
  " ".intercalate (c.words.map quote)

end Command

end ComposeSite.Shell
