/-
# ComposeSite.Script.Grammar -- reading a script

Tokens are read into commands.  A word is reserved only where a command may start and
only if nothing in it is quoted.  What cannot be read is refused with the token at which
reading stopped.
-/
import ComposeSite.Script.Statement

set_option autoImplicit false

namespace ComposeSite.Script

open Shell (Token Operator Word Piece)

/-! ## Faults -/

/-- Why a script cannot be read: a token that must not stand where it does, with what was
expected instead, or an end that came too early. -/
inductive Fault where
  | unexpected (line : Nat) (found : Option Token) (expected : Option String)
  | unfinished (line : Nat) (what : Shell.Unfinished)
  | tooDeep
  deriving DecidableEq, Repr

/-- The words that have a meaning of their own where a command may start. -/
def reservedWords : List String :=
  ["!", "case", "do", "done", "elif", "else", "esac", "fi", "for", "if", "in", "then", "until",
   "while", "\x7b", "\x7d"]

def reserved? (t : Token) : Option String :=
  match t with
  | .word w => w.bare?.bind fun cs =>
      let text := String.ofList cs
      if reservedWords.contains text then some text else none
  | _ => none

def doubleQuoted (text : String) : String := "\"" ++ text ++ "\""

/-- What a redirection does when it is written like this, and with which descriptor. -/
def redirection? : Operator → Option (Redirection × Nat)
  | .input => some (.input, 0)
  | .output | .overwrite => some (.output, 1)
  | .append => some (.append, 1)
  | .duplicateInput => some (.duplicate, 0)
  | .duplicateOutput => some (.duplicate, 1)
  | _ => none

namespace Fault

/-- How messages call what was found. -/
def tokenName (found : Option Token) : String :=
  match found with
  | none => "end of file"
  | some .newline => "newline"
  | some (.descriptor _) => "redirection"
  | some (.operator o) =>
      if (redirection? o).isSome then "redirection" else doubleQuoted o.text
  | some (.word w) => ((reserved? (.word w)).map doubleQuoted).getD "word"

def message : Fault → String
  | unexpected _ found (some expected) =>
      "Syntax error: " ++ tokenName found ++ " unexpected (expecting " ++
        doubleQuoted expected ++ ")"
  | unexpected _ found none => "Syntax error: " ++ tokenName found ++ " unexpected"
  | unfinished _ .quotes => "Syntax error: Unterminated quoted string"
  | unfinished _ .backquote => "Syntax error: EOF in backquote substitution"
  | unfinished _ .brace => "Syntax error: Missing '\x7d'"
  | unfinished _ .paren => "Syntax error: end of file unexpected (expecting \")\")"
  | tooDeep => "Syntax error: nested too deeply"

def line : Fault → Nat
  | unexpected line _ _ => line
  | unfinished line _ => line
  | tooDeep => 1

end Fault

/-! ## Tokens with lines -/

abbrev Tokens := List (Token × Nat)

/-- Numbers the lines from one on. -/
def numbered (line : Nat) : List Token → Tokens
  | [] => []
  | .newline :: rest => (.newline, line) :: numbered (line + 1) rest
  | t :: rest => (t, line) :: numbered line rest

/-- Something that is read from the front of some tokens. -/
abbrev Parse := StateT Tokens (Except Fault)

namespace Parse

def peek : Parse (Option Token) := do return (← get).head?.map (·.1)

def advance : Parse Unit := modify (·.drop 1)

def peekReserved : Parse (Option String) := do return (← peek).bind reserved?

def refuse {α : Type} (expected : Option String) : Parse α := do
  let ts ← get
  throw (.unexpected ((ts.head?.map (·.2)).getD 1) (ts.head?.map (·.1)) expected)

def expectWord (text : String) : Parse Unit := do
  if (← peekReserved) = some text then advance else refuse (some text)

def expectOperator (o : Operator) : Parse Unit := do
  if (← peek) = some (.operator o) then advance else refuse (some o.text)

def word : Parse Word := do
  match ← peek with
  | some (.word w) => advance; pure w
  | _ => refuse none

def words : Parse (List Word) := do
  let ts ← get
  let isWord : Token × Nat → Bool
    | (.word _, _) => true
    | _ => false
  set (ts.dropWhile isWord)
  pure ((ts.takeWhile isWord).filterMap fun
    | (.word w, _) => some w
    | _ => none)

def skipNewlines : Parse Unit := modify fun ts => ts.dropWhile fun (t, _) => t = .newline

end Parse

/-! ## Simple commands -/

/-- A word that assigns to a variable: the name, and the word after the sign. -/
def assignment? (w : Word) : Option (String × Word) :=
  let isName : Piece → Bool
    | .char c false => Shell.continuesName c
    | _ => false
  match w.pieces.takeWhile isName, w.pieces.dropWhile isName with
  | .char c q :: name, .char '=' false :: value =>
      if Shell.startsName c then
        some (String.ofList ((Piece.char c q :: name).filterMap fun
            | .char c _ => some c
            | .expansion .. => none),
          { w with pieces := value })
      else none
  | _, _ => none

/-- What a simple command is made of. -/
structure Parts where
  assignments : List (String × Word) := []
  words : List Word := []
  redirects : List Redirect := []

def Parts.addWord (p : Parts) (w : Word) : Parts :=
  match if p.words.isEmpty then assignment? w else none with
  | some a => { p with assignments := p.assignments ++ [a] }
  | none => { p with words := p.words ++ [w] }

def Parts.addRedirect (p : Parts) (r : Redirect) : Parts :=
  { p with redirects := p.redirects ++ [r] }

def readParts (allowWords : Bool) (p : Parts) : Tokens → Except Fault (Parts × Tokens)
  | (.word w, line) :: rest =>
      if allowWords then readParts allowWords (p.addWord w) rest
      else .ok (p, (.word w, line) :: rest)
  | (.descriptor n, _) :: (.operator o, line) :: (.word w, _) :: rest =>
      match redirection? o with
      | some (action, _) => readParts allowWords (p.addRedirect ⟨n, action, w⟩) rest
      | none => .error (.unexpected line (some (.operator o)) none)
  | (.operator o, line) :: (.word w, wordLine) :: rest =>
      match redirection? o with
      | some (action, n) => readParts allowWords (p.addRedirect ⟨n, action, w⟩) rest
      | none => .ok (p, (.operator o, line) :: (.word w, wordLine) :: rest)
  | (.operator o, line) :: rest =>
      match redirection? o with
      | some _ => .error (.unexpected ((rest.head?.map (·.2)).getD line) (rest.head?.map (·.1)) none)
      | none => .ok (p, (.operator o, line) :: rest)
  | ts => .ok (p, ts)

namespace Parse

def redirects : Parse (List Redirect) := fun ts =>
  (readParts false {} ts).map fun (p, rest) => (p.redirects, rest)

def simple : Parse Statement := fun ts =>
  let line := (ts.head?.map (·.2)).getD 1
  (readParts true {} ts).bind fun (p, rest) =>
    if p.assignments.isEmpty && p.words.isEmpty && p.redirects.isEmpty then
      .error (.unexpected line (ts.head?.map (·.1)) none)
    else .ok (.simple line p.assignments p.words p.redirects, rest)

end Parse

/-! ## Commands -/

/-- The words that end a list of commands. -/
def endWords : List String := ["do", "done", "elif", "else", "esac", "fi", "then", "\x7d"]

inductive Goal where
  | list
  | chain
  | chainAfter (left : Statement)
  | pipeline
  | stages
  | command
  | branch
  | arms (subject : Word) (arms : List (List Word × Option Statement))
  | patterns (subject : Word) (arms : List (List Word × Option Statement))
      (patterns : List Word)

namespace Parse

/-- Whether a command may start with the next token. -/
def atCommand : Parse Bool := do
  match ← peek with
  | none | some (.operator .closing) | some (.operator .caseEnd) => pure false
  | some t => pure (!((reserved? t).any endWords.contains))

/-- Reads what a goal names; the number bounds how deep reading goes. -/
def read : Nat → Goal → Parse Statement
  | 0, _ => throw .tooDeep
  | n + 1, .list => do
      skipNewlines
      let first ← read n .chain
      match ← peek with
      | some (.operator .semicolon) | some (.operator .background) | some .newline =>
          advance
          skipNewlines
          if ← atCommand then return .sequence first (← read n .list) else pure first
      | _ => pure first
  | n + 1, .chain => do read n (.chainAfter (← read n .pipeline))
  | n + 1, .chainAfter left => do
      match ← peek with
      | some (.operator .both) =>
          advance
          skipNewlines
          read n (.chainAfter (.both left (← read n .pipeline)))
      | some (.operator .either) =>
          advance
          skipNewlines
          read n (.chainAfter (.either left (← read n .pipeline)))
      | _ => pure left
  | n + 1, .pipeline => do
      if (← peekReserved) = some "!" then
        advance
        return .negated (← read n .pipeline)
      else read n .stages
  | n + 1, .stages => do
      let first ← read n .command
      if (← peek) = some (.operator .pipe) then
        advance
        skipNewlines
        return .pipe first (← read n .stages)
      else pure first
  | n + 1, .command => do
      let compound (body : Statement) : Parse Statement := do
        let rs ← redirects
        pure (if rs.isEmpty then body else .redirected body rs)
      match ← peekReserved with
      | some "if" => advance; compound (← read n .branch)
      | some "while" | some "until" =>
          let untilTrue := (← peekReserved) = some "until"
          advance
          let test ← read n .list
          expectWord "do"
          let body ← read n .list
          expectWord "done"
          compound (.loop untilTrue test body)
      | some "for" =>
          advance
          let name ← word
          skipNewlines
          let items ← if (← peekReserved) = some "in" then do
              advance
              some <$> words
            else pure none
          if (← peek) = some (.operator .semicolon) then advance
          skipNewlines
          expectWord "do"
          let body ← read n .list
          expectWord "done"
          compound (.forEach (String.ofList (name.text?.getD [])) items body)
      | some "case" =>
          advance
          let subject ← word
          skipNewlines
          expectWord "in"
          compound (← read n (.arms subject []))
      | some "\x7b" =>
          advance
          let body ← read n .list
          expectWord "\x7d"
          compound (.group body)
      | some _ => refuse none
      | none =>
          match ← get with
          | (.operator .opening, _) :: _ =>
              advance
              let body ← read n .list
              expectOperator .closing
              compound (.subshell body)
          | (.word w, _) :: (.operator .opening, _) :: _ =>
              advance
              advance
              expectOperator .closing
              skipNewlines
              return .define (String.ofList (w.text?.getD [])) (← read n .command)
          | _ => simple
  | n + 1, .branch => do
      let test ← read n .list
      expectWord "then"
      let body ← read n .list
      match ← peekReserved with
      | some "elif" => advance; return .branch test body (some (← read n .branch))
      | some "else" =>
          advance
          let otherwise ← read n .list
          expectWord "fi"
          pure (.branch test body (some otherwise))
      | _ => expectWord "fi"; pure (.branch test body none)
  | n + 1, .arms subject arms => do
      skipNewlines
      if (← peekReserved) = some "esac" then
        advance
        pure (.choose subject arms)
      else
        if (← peek) = some (.operator .opening) then advance
        read n (.patterns subject arms [])
  | n + 1, .patterns subject arms patterns => do
      let patterns := patterns ++ [← word]
      if (← peek) = some (.operator .pipe) then
        advance
        read n (.patterns subject arms patterns)
      else
        expectOperator .closing
        skipNewlines
        let body ← if ← atCommand then some <$> read n .list else pure none
        let arms := arms ++ [(patterns, body)]
        if (← peek) = some (.operator .caseEnd) then
          advance
          read n (.arms subject arms)
        else
          skipNewlines
          expectWord "esac"
          pure (.choose subject arms)

/-- Reads the commands up to the end of a line; the number bounds how many tokens there
are. -/
def line : Nat → Parse Statement
  | 0 => throw .tooDeep
  | n + 1 => do
      let first ← read (8 * (n + 2)) .chain
      match ← peek with
      | none => pure first
      | some .newline => advance; pure first
      | some (.operator .semicolon) | some (.operator .background) =>
          advance
          match ← peek with
          | none => pure first
          | some .newline => advance; pure first
          | _ => return .sequence first (← line n)
      | _ => refuse none

end Parse

end ComposeSite.Script
