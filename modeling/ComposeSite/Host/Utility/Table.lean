/-
# ComposeSite.Host.Utility.Table -- the utilities by name
-/
import ComposeSite.Host.Utility.Condition
import ComposeSite.Host.Utility.Printing
import ComposeSite.Host.Utility.Streams

set_option autoImplicit false

namespace ComposeSite.Host

def succeed (i : Invocation) : Report := i.ends 0

def giveUp (i : Invocation) : Report := i.ends 1

def fileUtilities : List (String × Utility) :=
  [("basename", basename), ("cat", concatenate), ("dirname", dirname), ("false", giveUp),
   ("head", head), ("ls", list), ("pwd", printDirectory), ("seq", sequence),
   ("sleep", succeed), ("sort", sort), ("tail", tail), ("tr", translate), ("true", succeed),
   ("wc", count), ("yes", repeatLine)]

def utility? (name : String) : Option Utility :=
  match name with
  | "echo" => some echo
  | "printf" => some (printf .program)
  | "test" | "[" => some test
  | name => fileUtilities.lookup name

/-- The programs that every machine has and that are no utilities: they start other
programs. -/
inductive Launcher where
  | shell
  | environment
  deriving DecidableEq, Repr

def launcher? (name : String) : Option Launcher :=
  match name with
  | "sh" | "dash" => some .shell
  | "env" => some .environment
  | _ => none

inductive Program where
  | utility (run : Utility)
  | launcher (kind : Launcher)
  | file (content : Bytes)

/-- The program that every machine has at a path. -/
def systemProgram? (path : String) : Option Program :=
  let name? := match Path.parts path with
    | ["bin", name] | ["usr", "bin", name] => if Path.isAbsoluteChars path.toList then
        some name else none
    | _ => none
  name?.bind fun name =>
    ((utility? name).map Program.utility).or ((launcher? name).map Program.launcher)

def programAt (files : FileTree) (path : String) : Except IoFailure Program :=
  match files.resolve path with
  | .ok (_, .file content executable) =>
      if executable then .ok (.file content) else .error .denied
  | .ok _ => .error .denied
  | .error f =>
      match systemProgram? path with
      | some p => .ok p
      | none => .error f

/-- Where programs are looked for when no variable says so. -/
def usualSearchPath : String := "/bin:/usr/bin"

/-- Looks for a program in directories; one that must not be started is told of only if no
other is found. -/
def searchProgram (files : FileTree) (name : String) (denied : Bool) :
    List String → Except IoFailure (String × Program)
  | [] => .error (if denied then .denied else .notFound)
  | directory :: rest =>
      let path := Path.join directory name
      match programAt files path with
      | .ok p => .ok (path, p)
      | .error f =>
          if f = .denied then searchProgram files name true rest
          else if f = .notFound ∨ f = .notDirectory then searchProgram files name denied rest
          else .error f

/-- The program that a name stands for, and its path: one with a slash is a path, and others
are looked for. -/
def findProgram (files : FileTree) (e : Environment) (name : String) :
    Except IoFailure (String × Program) :=
  if name.isEmpty then .error .notFound
  else if name.toList.contains '\x00' then .error (.other "nul byte found in provided data")
  else if name.toList.contains '/' then (programAt files name).map fun p => (name, p)
  else searchProgram files name false
    (Text.parts ':' ((e.get? "PATH").getD usualSearchPath))

end ComposeSite.Host
