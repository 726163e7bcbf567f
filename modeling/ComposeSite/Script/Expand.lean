/-
# ComposeSite.Script.Expand -- what words stand for

The pieces of a word are replaced one after the other.  What stands for an expansion
that is not quoted is cut at blanks, so that a word may become several or none, and
patterns that are not quoted stand for the names of files that fit them.
-/
import ComposeSite.Script.Arithmetic
import ComposeSite.Script.Pattern
import ComposeSite.Script.State

set_option autoImplicit false

namespace ComposeSite.Script

open Host (FileTree Location)
open Shell (Word Piece Expansion)

/-! ## Parameters -/

inductive Use where
  | value
  | length
  | orElse (nonEmpty : Bool) (text : List Char)
  | orAssign (nonEmpty : Bool) (text : List Char)
  | orComplain (nonEmpty : Bool) (text : List Char)
  | andInstead (nonEmpty : Bool) (text : List Char)
  | dropStart (longest : Bool) (text : List Char)
  | dropEnd (longest : Bool) (text : List Char)
  deriving DecidableEq, Repr

/-- How a parameter's value is used, by what follows the name. -/
def Use.ofChars? : List Char → Option Use
  | [] => some .value
  | ':' :: '-' :: text => some (.orElse true text)
  | '-' :: text => some (.orElse false text)
  | ':' :: '=' :: text => some (.orAssign true text)
  | '=' :: text => some (.orAssign false text)
  | ':' :: '?' :: text => some (.orComplain true text)
  | '?' :: text => some (.orComplain false text)
  | ':' :: '+' :: text => some (.andInstead true text)
  | '+' :: text => some (.andInstead false text)
  | '#' :: '#' :: text => some (.dropStart true text)
  | '#' :: text => some (.dropStart false text)
  | '%' :: '%' :: text => some (.dropEnd true text)
  | '%' :: text => some (.dropEnd false text)
  | _ => none

/-- The name of a parameter and what follows it. -/
def splitParameter (text : List Char) : List Char × List Char :=
  match text with
  | c :: rest =>
      if Shell.startsName c then
        (c :: rest.takeWhile Shell.continuesName, rest.dropWhile Shell.continuesName)
      else if c.isDigit then (c :: rest.takeWhile Char.isDigit, rest.dropWhile Char.isDigit)
      else ([c], rest)
  | [] => ([], [])

/-- The parameter and its use that an expansion's text names. -/
def parameterUse? (text : List Char) : Option (String × Use) :=
  let plain : Option (String × Use) :=
    let (name, rest) := splitParameter text
    if name.isEmpty then none else (Use.ofChars? rest).map fun u => (String.ofList name, u)
  match text with
  | '#' :: c :: rest =>
      match splitParameter (c :: rest) with
      | (name, []) => some (String.ofList name, .length)
      | _ => plain
  | _ => plain

namespace State

/-- The number that a shell shows as its own. -/
def processId : Nat := 1

def parameter? (s : State) (name : String) : Option String :=
  match name with
  | "?" => some (toString s.status)
  | "#" => some (toString s.arguments.length)
  | "$" => some (toString processId)
  | "-" => some (if s.stopOnFailure then "e" else "")
  | "!" => some ""
  | "@" | "*" => some (" ".intercalate s.arguments)
  | name =>
      match name.toNat? with
      | some 0 => some s.name
      | some n => s.arguments[n - 1]?
      | none => s.valueOf? name

end State

/-! ## Fields -/

/-- Fields that are complete, and one that is not. -/
structure Fields where
  done : List Marked := []
  unfinished : Option Marked := none

namespace Fields

def add (f : Fields) (m : Marked) : Fields := { f with unfinished := some ((f.unfinished.getD []) ++ m) }

def cut (f : Fields) : Fields :=
  match f.unfinished with
  | some m => { done := f.done ++ [m], unfinished := none }
  | none => f

def all (f : Fields) : List Marked := f.cut.done

/-- Puts text that is cut at separators. -/
def addCut (isSeparator : Char → Bool) (f : Fields) (text : List Char) : Fields :=
  text.foldl (fun f c => if isSeparator c then f.cut else f.add [(c, false)]) f

def addQuoted (f : Fields) (text : List Char) : Fields := f.add (text.map fun c => (c, true))

/-- Puts quoted texts, each of which ends a field but the last. -/
def addEach (f : Fields) : List (List Char) → Fields
  | [] => f
  | [text] => f.addQuoted text
  | text :: rest => addEach (f.addQuoted text).cut rest

end Fields

/-- The characters that cut what an expansion stands for. -/
def separators (s : State) : List Char := ((s.valueOf? "IFS").getD " \t\n").toList

/-! ## Expansion -/

/-- Why a word stands for nothing. -/
inductive ExpansionFault where
  | badSubstitution
  | stated (text : String)
  deriving DecidableEq, Repr

def ExpansionFault.message : ExpansionFault → String
  | badSubstitution => "Bad substitution"
  | stated text => text

def SumFault.shown (text : String) : SumFault → String
  | malformed => s!"arithmetic expression: expecting primary: \"{text}\""
  | divisionByZero => s!"arithmetic expression: division by zero: \"{text}\""
  | badNumber value => s!"Illegal number: {value}"

/-- Runs the text of a command substitution: its output and the shell afterwards. -/
abbrev Substitute := List Char → State → Bytes × State

/-- A step that may find a word that stands for nothing. -/
abbrev Expanding (α : Type) := StateT State (Except (ExpansionFault × State)) α

namespace Expanding

def fail {α : Type} (f : ExpansionFault) : Expanding α := fun s => .error (f, s)

end Expanding

/-- Output as the text of a substitution: line ends at its end are dropped. -/
def substituted (output : Bytes) : List Char :=
  let cs := (Text.Utf8.decodeLossy (output.filter (· ≠ 0))).toList
  (cs.reverse.dropWhile (· = '\n')).reverse

/-- The pieces of a pattern, in which quotes protect what they enclose. -/
def patternPieces (text : List Char) : List Piece :=
  match Shell.tokens text with
  | .ok [.word w] => w.pieces
  | _ => text.map fun c => .char c false

/-- Replaces the text after a parameter's name; a pattern keeps its quotes. -/
abbrev Inner := Bool → List Char → Expanding Marked

/-- The value of a parameter as it is used. -/
def useParameter (inner : Inner) (name : String) (u : Use) : Expanding (List Char) := do
  let s ← get
  let value := s.parameter? name
  let chars := (value.getD "").toList
  let isThere (nonEmpty : Bool) : Bool := value.any fun v => !(nonEmpty && v.isEmpty)
  match u with
  | .value => pure chars
  | .length => pure (toString chars.length).toList
  | .orElse nonEmpty text =>
      if isThere nonEmpty then pure chars else return (← inner false text).text
  | .andInstead nonEmpty text =>
      if isThere nonEmpty then return (← inner false text).text else pure []
  | .orAssign nonEmpty text =>
      if isThere nonEmpty then pure chars
      else
        let text := (← inner false text).text
        modify fun s => s.assign name (String.ofList text)
        pure text
  | .orComplain nonEmpty text =>
      if isThere nonEmpty then pure chars
      else
        let text := String.ofList (← inner false text).text
        let text := if text.isEmpty then "parameter not set" else text
        .fail (.stated s!"{name}: {text}")
  | .dropStart longest text => return Pattern.dropStart (.ofMarked (← inner true text)) longest chars
  | .dropEnd longest text => return Pattern.dropEnd (.ofMarked (← inner true text)) longest chars

def expandPiece (substitute : Substitute) (inner : Inner) (p : Piece) : Expanding Marked := do
  match p with
  | .char c quoted => pure [(c, quoted)]
  | .expansion .parameter text quoted =>
      match parameterUse? text with
      | some (name, u) => return (← useParameter inner name u).map fun c => (c, quoted)
      | none => .fail .badSubstitution
  | .expansion .command text quoted => do
      let (output, s) := substitute text (← get)
      set s
      pure ((substituted output).map fun c => (c, quoted))
  | .expansion .arithmetic text quoted => do
      let text := (← inner false text).text
      let s ← get
      match (Sum.ofText text).bind (Sum.value fun name => (s.valueOf? name).getD "") with
      | .ok v => pure ((toString v).toList.map fun c => (c, quoted))
      | .error f => .fail (.stated (f.shown (String.ofList text)))

/-- What text inside an expansion stands for; the number bounds how deep expansions
nest. -/
def expandInner (substitute : Substitute) : Nat → Inner
  | 0, _, _ => .fail .badSubstitution
  | n + 1, asPattern, text => do
      let pieces := if asPattern then patternPieces text else Shell.quotedPieces text
      let parts ← pieces.mapM (expandPiece substitute (expandInner substitute n))
      pure parts.flatten

/-- How deep expansions nest at most. -/
def deepest : Nat := 32

/-- Whether a piece stands for all arguments, and whether each of them is a field. -/
def allArguments? : Piece → Option Bool
  | .expansion .parameter ['@'] quoted => some quoted
  | .expansion .parameter ['*'] false => some false
  | _ => none

def expandInto (substitute : Substitute) (f : Fields) (p : Piece) : Expanding Fields := do
  let s ← get
  let cuts := (separators s).contains
  match allArguments? p with
  | some true => pure (f.addEach (s.arguments.map String.toList))
  | some false =>
      pure (s.arguments.foldl (fun f a => (f.addCut cuts a.toList).cut) f)
  | none =>
      let m ← expandPiece substitute (expandInner substitute deepest) p
      match p with
      | .char .. => pure (f.add m)
      | .expansion _ _ true => pure (f.add m)
      | .expansion _ _ false => pure (f.addCut cuts m.text)

/-- Puts the home directory for a tilde at the start of a word. -/
def expandTilde (s : State) (w : Word) : Word :=
  match w.pieces with
  | .char '~' false :: rest =>
      let alone := match rest with
        | [] | .char '/' false :: _ => true
        | _ => false
      match s.valueOf? "HOME" with
      | some home =>
          if alone then { w with pieces := home.toList.map (.char · true) ++ rest } else w
      | none => w
  | _ => w

def expandFields (substitute : Substitute) (w : Word) : Expanding (List Marked) := do
  let w := expandTilde (← get) w
  let f ← w.pieces.foldlM (expandInto substitute) {}
  let all := f.all
  pure (if all.isEmpty && w.hasQuotes && !w.pieces.any fun p => (allArguments? p).isSome
    then [[]] else all)

/-- What a word stands for where it is not cut. -/
def expandWhole (substitute : Substitute) (w : Word) : Expanding Marked := do
  let w := expandTilde (← get) w
  let parts ← w.pieces.mapM (expandPiece substitute (expandInner substitute deepest))
  pure parts.flatten

/-! ## File names -/

/-- The parts of marked text between separators. -/
def splitPath (m : Marked) : List Marked :=
  m.foldr (fun (c, quoted) parts =>
    match parts with
    | part :: rest => if c = '/' then [] :: part :: rest else ((c, quoted) :: part) :: rest
    | [] => [[(c, quoted)]]) [[]]

/-- The paths that fit a pattern, part by part, in a directory that is written like
this. -/
def fittingPaths (files : FileTree) (written : String) (l : Location) :
    List Marked → List String
  | [] => [written]
  | part :: rest =>
      let pattern := Pattern.ofMarked part
      let name := String.ofList part.text
      let slash := if rest.isEmpty then "" else "/"
      if name.isEmpty then fittingPaths files (written ++ slash) l rest
      else
        let names := if pattern.isOpen then
            (files.names l).filter fun n =>
              pattern.fits n.toList && (!n.startsWith "." || name.startsWith ".")
          else [name]
        let there := names.filter fun n => (files.entry? (l ++ [n])).isSome
        there.flatMap fun n => fittingPaths files (written ++ n ++ slash) (l ++ [n]) rest

/-- The names of files that a field stands for, or the field's own text. -/
def fileNames (files : FileTree) (m : Marked) : List String :=
  let found := if (Pattern.ofMarked m).isOpen then
      fittingPaths files "" (if m.text.head? = some '/' then [] else files.workDirectory)
        (splitPath m)
    else []
  if found.isEmpty then [String.ofList m.text]
  else found.mergeSort fun a b => a ≤ b

def expandWords (substitute : Substitute) (ws : List Word) : Expanding (List String) := do
  let fields ← ws.mapM (expandFields substitute)
  let s ← get
  pure (fields.flatten.flatMap (fileNames s.files))

end ComposeSite.Script
