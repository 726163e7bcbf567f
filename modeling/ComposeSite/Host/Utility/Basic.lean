/-
# ComposeSite.Host.Utility.Basic -- programs that every machine has

A utility looks at its arguments, its input and the files, writes output and ends with
a status.  It changes nothing else.
-/
import ComposeSite.Environment
import ComposeSite.Host.FileTree

set_option autoImplicit false

namespace ComposeSite.Host

structure Invocation where
  name : String
  args : List String
  files : FileTree
  environment : Environment
  input : Bytes

/-- What a program leaves behind: its output, its status and the input that it did not
read. -/
structure Report where
  stdout : Bytes := []
  stderr : Bytes := []
  status : Nat := 0
  rest : Bytes := []
  deriving DecidableEq, Repr

/-- A program that every machine has. -/
abbrev Utility := Invocation → Report

namespace Invocation

def ends (i : Invocation) (status : Nat) : Report := { status, rest := i.input }

def writes (i : Invocation) (output : Bytes) : Report := { stdout := output, rest := i.input }

def line (i : Invocation) (text : String) : Report :=
  i.writes (Text.Utf8.encode (text ++ "\n"))

def complains (i : Invocation) (text : String) (status : Nat) : Report :=
  { stderr := Text.Utf8.encode s!"{i.name}: {text}\n", status, rest := i.input }

end Invocation

end ComposeSite.Host
