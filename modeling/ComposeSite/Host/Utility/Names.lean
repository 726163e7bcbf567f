/-
# ComposeSite.Host.Utility.Names -- the parts of paths, and what a directory holds
-/
import ComposeSite.Host.Utility.Basic

set_option autoImplicit false

namespace ComposeSite.Host

/-! ## Paths -/

/-- The options in front of the operands, without their hyphens, and the operands. -/
def optionLetters (args : List String) : List Char × List String :=
  let isOption (arg : String) : Bool := arg.startsWith "-" && arg ≠ "-" && arg ≠ "--"
  let rest := args.dropWhile isOption
  ((args.takeWhile isOption).flatMap fun a => a.toList.drop 1,
    if rest.head? = some "--" then rest.drop 1 else rest)

def lastPart (path : String) : String :=
  if path.isEmpty then "" else ((Path.parts path).getLast?).getD "/"

def partsBefore (path : String) : String :=
  let cs := (path.toList.reverse.dropWhile (· = '/')).dropWhile (· ≠ '/')
  let above := (cs.dropWhile (· = '/')).reverse
  if !above.isEmpty then String.ofList above else if cs.isEmpty &&
    !(path.startsWith "/") then "." else "/"

/-- Writes the last part of a path, without an ending if one is given. -/
def basename (i : Invocation) : Report :=
  match i.args with
  | [path] => i.line (lastPart path)
  | [path, ending] =>
      let name := lastPart path
      i.line (if name.endsWith ending && name ≠ ending then
        String.ofList (name.toList.take (name.length - ending.length)) else name)
  | [] => i.complains "missing operand\nTry 'basename --help' for more information." 1
  | _ => i.complains "extra operand" 1

def dirname (i : Invocation) : Report :=
  if i.args.isEmpty then
    i.complains "missing operand\nTry 'dirname --help' for more information." 1
  else i.writes (Text.Utf8.encode (String.join (i.args.map fun a => partsBefore a ++ "\n")))

def absolutePath (l : Location) : String := "/" ++ "/".intercalate l

def printDirectory (i : Invocation) : Report := i.line (absolutePath i.files.workDirectory)

/-! ## Directories -/

def sorted (texts : List String) : List String := texts.mergeSort fun a b => a ≤ b

def listing (files : FileTree) (letters : List Char) (l : Location) : List String :=
  let names := sorted (files.names l)
  let shown := if letters.contains 'a' then "." :: ".." :: names
    else if letters.contains 'A' then names
    else names.filter fun name => !name.startsWith "."
  if letters.contains 'r' then shown.reverse else shown

/-- Lists files and directories, one name on a line. -/
def list (i : Invocation) : Report :=
  let (letters, operands) := optionLetters i.args
  let operands := if operands.isEmpty then ["."] else sorted operands
  let found := operands.map fun path => (path, i.files.resolve path)
  let missing := found.filterMap fun (path, r) => match r with
    | .error f =>
        let text := match f with
          | .system code => IoFailure.systemText code
          | f => f.message
        some s!"{i.name}: cannot access '{path}': {text}\n"
    | .ok _ => none
  let isDirectory (e : Entry) : Bool := e = .directory && !letters.contains 'd'
  let plain := found.filterMap fun (path, r) => match r with
    | .ok (_, e) => if isDirectory e then none else some (path ++ "\n")
    | .error _ => none
  let directories := found.filterMap fun (path, r) => match r with
    | .ok (l, e) =>
        if isDirectory e then
          let lines := String.join ((listing i.files letters l).map (· ++ "\n"))
          some (if operands.length > 1 then path ++ ":\n" ++ lines else lines)
        else none
    | .error _ => none
  let sections := (if plain.isEmpty then [] else [String.join plain]) ++ directories
  { stdout := Text.Utf8.encode ("\n".intercalate sections),
    stderr := Text.Utf8.encode (String.join missing),
    status := if missing.isEmpty then 0 else 2, rest := i.input }

end ComposeSite.Host
