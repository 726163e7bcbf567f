/-
# ComposeSite.Path -- paths as text

A path is kept exactly as written.  Joining puts one separator between two parts
and starts anew at an absolute part; the parent drops the last part together with
the separators and single dots around it.
-/
import ComposeSite.Text.Split

set_option autoImplicit false

namespace ComposeSite.Path

def isAbsoluteChars : List Char → Bool
  | '/' :: _ => true
  | _ => false

def joinChars (path part : List Char) : List Char :=
  if isAbsoluteChars part || path.isEmpty then part
  else if path.getLast? = some '/' then path ++ part
  else path ++ '/' :: part

/-- Puts a part after a path. -/
def join (path part : String) : String :=
  String.ofList (joinChars path.toList part.toList)

/-- Drops separators and single dots from the end of a path given backwards; the root
stays. -/
def trimBackwards : List Char → List Char
  | '/' :: rest => if rest.all (· = '/') then ['/'] else trimBackwards rest
  | '.' :: '/' :: rest => trimBackwards ('/' :: rest)
  | cs => cs
termination_by structural cs => cs

/-- The path without its last part; the empty path and the root have none. -/
def parentChars? (path : List Char) : Option (List Char) :=
  match trimBackwards path.reverse with
  | [] => none
  | ['/'] => none
  | cs => some (trimBackwards (cs.dropWhile (· ≠ '/'))).reverse

/-- The path without its last part; the empty path and the root have none. -/
def parent? (path : String) : Option String :=
  (parentChars? path.toList).map String.ofList

/-- A leading tilde that stands alone or before a separator is the home directory. -/
def expandTilde (home : String) (path : String) : String :=
  match path.toList with
  | ['~'] => home
  | '~' :: '/' :: rest => home ++ String.ofList ('/' :: rest)
  | _ => path

/-- The parts of a path between its separators, without empty parts. -/
def parts (path : String) : List String :=
  (Text.parts '/' path).filter (· ≠ "")

end ComposeSite.Path
