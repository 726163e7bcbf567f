/-
# ComposeSite.Script.Statement -- what a script tells the shell to do
-/
import ComposeSite.Shell.Token

set_option autoImplicit false

namespace ComposeSite.Script

open Shell (Word)

/-- What a redirection does with a descriptor. -/
inductive Redirection where
  | input
  | output
  | append
  | duplicate
  deriving DecidableEq, Repr

structure Redirect where
  descriptor : Nat
  action : Redirection
  target : Word
  deriving DecidableEq, Repr

/-- A command of a script, with the line that it stands on where messages name it. -/
inductive Statement where
  | simple (line : Nat) (assignments : List (String × Word)) (words : List Word)
      (redirects : List Redirect)
  | sequence (first second : Statement)
  | both (first second : Statement)
  | either (first second : Statement)
  | negated (body : Statement)
  | pipe (source target : Statement)
  | branch (test body : Statement) (otherwise : Option Statement)
  | loop (untilTrue : Bool) (test body : Statement)
  | forEach (name : String) (words : Option (List Word)) (body : Statement)
  | choose (subject : Word) (arms : List (List Word × Option Statement))
  | group (body : Statement)
  | subshell (body : Statement)
  | redirected (body : Statement) (redirects : List Redirect)
  | define (name : String) (body : Statement)

namespace Statement

def nothing : Statement := .simple 1 [] [] []

end Statement

end ComposeSite.Script
