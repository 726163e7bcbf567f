/-
# ComposeSite.Yaml.Scanner -- cutting a YAML text into tokens

A key is only known to be one by the colon after it.  Until then it is a candidate
(`Candidate`), and when the colon comes, the token that announces a key is put before it.
A token is certain once no candidate stands at or before it; if the text turns out to make
no sense, the certain tokens are all there is (`tokens`).
-/
import ComposeSite.Yaml.Property

set_option autoImplicit false

namespace ComposeSite.Yaml

/-- What may turn out to be a key: the number of its first token, where it starts, and
whether it must be a key. -/
structure Candidate where
  number : Nat
  mark : Mark
  required : Bool
  deriving DecidableEq, Repr

/-- The state between two tokens. A candidate is kept for each nesting of flow collections,
the innermost first. -/
structure Scanner where
  cursor : Cursor
  tokens : List Token := []
  indent : Int := -1
  outerIndents : List Int := []
  candidates : List (Option Candidate) := [none]
  keyAllowed : Bool := true
  deriving Repr

namespace Scanner

def inFlow (s : Scanner) : Bool := s.candidates.length > 1

def mark (s : Scanner) : Mark := s.cursor.mark

def column (s : Scanner) : Int := s.mark.column

def push (s : Scanner) (t : Token) : Scanner := { s with tokens := s.tokens ++ [t] }

/-- Appends a token without extent. -/
def pushEmpty (s : Scanner) (l : Lexeme) : Scanner := s.push ⟨l, s.mark, s.mark⟩

def pushIndicator (s : Scanner) (l : Lexeme) (length : Nat := 1) : Scanner :=
  let last := s.cursor.skip length
  { s.push ⟨l, s.mark, last.mark⟩ with cursor := last }

/-- Puts a token before the token of a number. -/
def insert (s : Scanner) (number : Nat) (t : Token) : Scanner :=
  { s with tokens := s.tokens.take number ++ t :: s.tokens.drop number }

/-! ## Candidates -/

def inKey : String := "while scanning a simple key"

/-- The problem of a candidate that must be a key and is none. -/
def lostKey (s : Scanner) (k : Candidate) : Problem :=
  Scalar.problem inKey k.mark "could not find expected ':'" s.cursor

/-- Whether a candidate has been left behind: a key stands on one line and is not long. -/
def isStale (s : Scanner) (k : Candidate) : Bool :=
  k.mark.line < s.mark.line || k.mark.index + 1024 < s.mark.index

/-- Drops the candidates that have been left behind, the outermost first. -/
def dropStale (s : Scanner) : Except Problem Scanner :=
  match (s.candidates.reverse.filterMap id).find? fun k => k.required && s.isStale k with
  | some k => .error (s.lostKey k)
  | none => .ok { s with candidates := s.candidates.map (·.filter fun k => !s.isStale k) }

def dropCandidate (s : Scanner) : Except Problem Scanner :=
  match s.candidates with
  | some k :: rest =>
      if k.required then .error (s.lostKey k) else .ok { s with candidates := none :: rest }
  | _ => .ok s

/-- Makes what comes next a candidate, if a key may stand here. -/
def saveCandidate (s : Scanner) : Except Problem Scanner :=
  if s.keyAllowed then do
    let required := !s.inFlow && s.indent = s.column
    let s ← s.dropCandidate
    pure { s with candidates := some ⟨s.tokens.length, s.mark, required⟩ ::
      s.candidates.drop 1 }
  else .ok s

/-- How many tokens are certain. -/
def certain (s : Scanner) : Nat :=
  (s.candidates.filterMap id).foldl (fun n k => min n k.number) s.tokens.length

/-! ## Indentation -/

/-- Starts a block collection at a column, unless it has started already. Its first token is
put before the token of a number, if one is given. -/
def rollIndent (s : Scanner) (column : Int) (number : Option Nat) (l : Lexeme) (m : Mark) :
    Scanner :=
  if !s.inFlow && s.indent < column then
    let t : Token := ⟨l, m, m⟩
    let s := match number with
      | some n => s.insert n t
      | none => s.push t
    { s with outerIndents := s.indent :: s.outerIndents, indent := column }
  else s

/-- Ends the block collections that are indented further than a column. -/
def unrollFrom (column : Int) : List Int → Scanner → Scanner
  | [], s => s
  | outer :: rest, s =>
      if s.indent > column then
        unrollFrom column rest
          { s.pushEmpty .blockEnd with indent := outer, outerIndents := rest }
      else s

/-- Ends the block collections that are indented further than a column. -/
def unrollIndent (s : Scanner) (column : Int) : Scanner :=
  if s.inFlow then s else unrollFrom column s.outerIndents s

/-! ## One token -/

def toNextToken : Nat → Scanner → Scanner
  | 0, s => s
  | fuel + 1, s =>
      let c := s.cursor
      let c := if c.mark.index = 0 && c.is '\uFEFF' then c.skip else c
      let c := c.skipWhile fun ch => ch = ' ' || ((s.inFlow || !s.keyAllowed) && ch = '\t')
      let c := if c.is '#' then c.skipWhile fun ch => !isBreak ch else c
      if c.next?.any isBreak then
        toNextToken fuel
          { s with cursor := c.skipBreak, keyAllowed := s.keyAllowed || !s.inFlow }
      else { s with cursor := c }

/-- Leaves all block collections, as a line without indentation for a document does. -/
def leaveBlocks (s : Scanner) : Except Problem Scanner := do
  let s ← (s.unrollIndent (-1)).dropCandidate
  pure { s with keyAllowed := false }

def take (s : Scanner) (r : Except Problem (Token × Cursor)) : Except Problem Scanner := do
  let (t, cursor) ← r
  pure { s.push t with cursor }

def fetchEnd (s : Scanner) : Except Problem Scanner := do
  let m := s.mark
  let m := if m.column = 0 then m else { m with line := m.line + 1, column := 0 }
  let s ← { s with cursor := { s.cursor with mark := m } }.leaveBlocks
  pure (s.pushEmpty .streamEnd)

def fetchFlowStart (s : Scanner) (l : Lexeme) : Except Problem Scanner := do
  let s ← s.saveCandidate
  pure { s.pushIndicator l with candidates := none :: s.candidates, keyAllowed := true }

def fetchFlowEnd (s : Scanner) (l : Lexeme) : Except Problem Scanner := do
  let s ← s.dropCandidate
  let candidates := if s.inFlow then s.candidates.drop 1 else s.candidates
  pure { s.pushIndicator l with candidates, keyAllowed := false }

/-- A comma. -/
def fetchFlowEntry (s : Scanner) : Except Problem Scanner := do
  let s ← s.dropCandidate
  pure { s.pushIndicator .flowEntry with keyAllowed := true }

/-- A problem at the cursor that nothing is read within. -/
def misplaced (s : Scanner) (text : String) : Problem := { text, mark := s.mark }

/-- Starts a block collection here, which only a place for a key allows. -/
def startBlock (s : Scanner) (l : Lexeme) (refusal : String) : Except Problem Scanner :=
  if s.inFlow then .ok s
  else if !s.keyAllowed then .error (s.misplaced refusal)
  else .ok (s.rollIndent s.column none l s.mark)

/-- A dash. -/
def fetchBlockEntry (s : Scanner) : Except Problem Scanner := do
  let s ← s.startBlock .blockSequenceStart
    "block sequence entries are not allowed in this context"
  let s ← s.dropCandidate
  pure { s.pushIndicator .blockEntry with keyAllowed := true }

/-- A question mark. -/
def fetchKey (s : Scanner) : Except Problem Scanner := do
  let s ← s.startBlock .blockMappingStart "mapping keys are not allowed in this context"
  let s ← s.dropCandidate
  pure { s.pushIndicator .key with keyAllowed := !s.inFlow }

/-- A colon: it makes the candidate before it a key. -/
def fetchValue (s : Scanner) : Except Problem Scanner :=
  match s.candidates with
  | some k :: rest =>
      let s := s.insert k.number ⟨.key, k.mark, k.mark⟩
      let s := s.rollIndent k.mark.column (some k.number) .blockMappingStart k.mark
      .ok { s.pushIndicator .value with candidates := none :: rest, keyAllowed := false }
  | _ => do
      let s ← s.startBlock .blockMappingStart "mapping values are not allowed in this context"
      pure { s.pushIndicator .value with keyAllowed := !s.inFlow }

/-- An anchor, an alias, a tag or a quoted scalar. -/
def fetchKeyPart (s : Scanner) (read : Cursor → Except Problem (Token × Cursor)) :
    Except Problem Scanner := do
  let s ← s.saveCandidate
  ({ s with keyAllowed := false }).take (read s.cursor)

def fetchBlockScalar (s : Scanner) (literal : Bool) : Except Problem Scanner := do
  let s ← s.dropCandidate
  ({ s with keyAllowed := true }).take (Scalar.block literal s.indent s.cursor)

def fetchPlain (s : Scanner) : Except Problem Scanner := do
  let s ← s.saveCandidate
  let (t, reachedNextLine, cursor) ← Scalar.plain s.inFlow (s.indent + 1).toNat s.cursor
  pure { s.push t with cursor, keyAllowed := reachedNextLine }

/-- The characters that no plain scalar starts with. -/
def indicators : List Char :=
  ['-', '?', ':', ',', '[', ']', '\x7b', '\x7d', '#', '&', '*', '!', '|', '>', '\'', '"', '%',
   '@', '\x60']

def startsPlain (s : Scanner) (ch : Char) : Bool :=
  let next := s.cursor.after? 1
  !(isBlank ch || isBreak ch || indicators.contains ch) ||
    (ch = '-' && !next.any isBlank) ||
    (!s.inFlow && (ch = '?' || ch = ':') && !endsWord next)

def fetchAt (s : Scanner) : Except Problem Scanner :=
  let c := s.cursor
  let apart := endsWord (c.after? 1)
  match c.next? with
  | none => s.fetchEnd
  | some ch =>
      if ch = '%' && c.mark.column = 0 then do
        let s ← s.leaveBlocks
        s.take (Property.directive s.cursor)
      else if c.isMarker '-' then (·.pushIndicator .documentStart 3) <$> s.leaveBlocks
      else if c.isMarker '.' then (·.pushIndicator .documentEnd 3) <$> s.leaveBlocks
      else if ch = '[' then s.fetchFlowStart .flowSequenceStart
      else if ch = '\x7b' then s.fetchFlowStart .flowMappingStart
      else if ch = ']' then s.fetchFlowEnd .flowSequenceEnd
      else if ch = '\x7d' then s.fetchFlowEnd .flowMappingEnd
      else if ch = ',' then s.fetchFlowEntry
      else if ch = '-' && apart then s.fetchBlockEntry
      else if ch = '?' && (s.inFlow || apart) then s.fetchKey
      else if ch = ':' && (s.inFlow || apart) then s.fetchValue
      else if ch = '*' then s.fetchKeyPart (Property.anchor true)
      else if ch = '&' then s.fetchKeyPart (Property.anchor false)
      else if ch = '!' then s.fetchKeyPart (Property.tag s.inFlow)
      else if ch = '|' && !s.inFlow then s.fetchBlockScalar true
      else if ch = '>' && !s.inFlow then s.fetchBlockScalar false
      else if ch = '\'' then s.fetchKeyPart (Scalar.quoted true)
      else if ch = '"' then s.fetchKeyPart (Scalar.quoted false)
      else if s.startsPlain ch then s.fetchPlain
      else .error (Scalar.problem "while scanning for the next token" s.mark
        "found character that cannot start any token" c)

def fetch (s : Scanner) : Except Problem Scanner := do
  let s ← (toNextToken (s.cursor.rest.length + 1) s).dropStale
  (s.unrollIndent s.column).fetchAt

def isDone (s : Scanner) : Bool :=
  (s.tokens.getLast?).any fun t => t.lexeme = .streamEnd

/-- Reads tokens to the end of the stream or to a problem: the tokens that are certain by
then, and the problem. -/
def readAll : Nat → (known : Nat) → Scanner → List Token × Option Problem
  | 0, known, s => (s.tokens.take known, none)
  | fuel + 1, known, s =>
      if s.isDone then (s.tokens, none)
      else
        match s.dropStale with
        | .error p => (s.tokens.take known, some p)
        | .ok s =>
            match s.fetch with
            | .error p => (s.tokens.take s.certain, some p)
            | .ok next => readAll fuel s.certain next

end Scanner

/-! ## Whole texts -/

def isAllowed (c : Char) : Bool :=
  let n := c.toNat
  n = 0x09 || n = 0x0A || n = 0x0D || (0x20 ≤ n && n ≤ 0x7E) || n = 0x85 ||
    (0xA0 ≤ n && n ≤ 0xD7FF) || (0xE000 ≤ n && n ≤ 0xFFFD) || 0x10000 ≤ n

/-- The tokens of a text, and why there are no more if the text makes no sense. -/
def tokens (cs : List Char) : List Token × Option Problem :=
  let allowed := cs.takeWhile isAllowed
  if allowed.length < cs.length then
    let octet := (Text.Utf8.encode (String.ofList allowed)).length
    ([], some { text := "control characters are not allowed", octet })
  else
    let start : Scanner := { cursor := ⟨cs, {}⟩ }
    Scanner.readAll (cs.length + 2) 0 (start.pushEmpty .streamStart)

end ComposeSite.Yaml
