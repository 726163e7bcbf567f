/-
# ComposeSite.Yaml.Scalar -- reading scalars

Plain and quoted scalars may go on over several lines: what stands between two words is
kept within a line, while line breaks are folded (`Gap.text`).  Block scalars are read
line by line at an indentation that their first line shows.
-/
import ComposeSite.Yaml.Fault
import ComposeSite.Yaml.Token

set_option autoImplicit false

namespace ComposeSite.Yaml.Scalar

/-- A problem at a place, met while something was read since another place. -/
def problem (within : String) (since : Mark) (text : String) (c : Cursor) : Problem :=
  { text, mark := c.mark, within := some (within, since) }

/-! ## Gaps -/

/-- What stands between two words: blanks, or line breaks, of which the first is kept
apart. -/
structure Gap where
  blanks : List Char := []
  isBroken : Bool := false
  first : List Char := []
  more : List Char := []
  deriving DecidableEq, Repr

/-- What a gap stands for: a single line break is a space, and of several the first is left
out. -/
def Gap.text (g : Gap) : List Char :=
  if !g.isBroken then g.blanks
  else if g.first = ['\n'] then (if g.more.isEmpty then [' '] else g.more)
  else g.first ++ g.more

/-- Reads a gap, with up to some number of characters. A tab may be refused at the start of
a line. -/
def readGap (refusesTab : Mark → Bool) : Nat → Gap → Cursor → Except Cursor (Gap × Cursor)
  | 0, g, c => .ok (g, c)
  | fuel + 1, g, c =>
      match c.next? with
      | none => .ok (g, c)
      | some ch =>
          if isBlank ch then
            if ch = '\t' && g.isBroken && refusesTab c.mark then .error c
            else
              let g := if g.isBroken then g else { g with blanks := g.blanks ++ [ch] }
              readGap refusesTab fuel g c.skip
          else if isBreak ch then
            let (text, c) := c.readBreak
            let g : Gap := if g.isBroken then { g with more := g.more ++ text }
              else { isBroken := true, first := text }
            readGap refusesTab fuel g c
          else .ok (g, c)

/-! ## Plain scalars -/

def inPlain : String := "while scanning a plain scalar"

/-- The characters that end a plain scalar in a flow collection. -/
def endsFlowWord (c : Char) : Bool := [',', '[', ']', '\x7b', '\x7d'].contains c

/-- The next word of a plain scalar, and whether a colon that may not stand there follows. -/
def plainWord (flow : Bool) : List Char → List Char × Bool
  | [] => ([], false)
  | ch :: rest =>
      if isBlank ch || isBreak ch then ([], false)
      else if flow && ch = ':' && rest.head?.any (fun n => n = '?' || endsFlowWord n) then
        ([], true)
      else if ch = ':' && endsWord rest.head? || flow && endsFlowWord ch then ([], false)
      else
        let (word, misplaced) := plainWord flow rest
        (ch :: word, misplaced)

/-- What a plain scalar was found to be: its text, where it stops, and whether the lines
after it have been reached. -/
structure Plain where
  text : List Char := []
  stop : Mark
  reachedNextLine : Bool := false

/-- Reads a plain scalar from a word on. -/
def readPlain (flow : Bool) (indent : Nat) (start : Mark) :
    Nat → Plain → Gap → Cursor → Except Problem (Plain × Cursor)
  | 0, p, _, c => .ok (p, c)
  | fuel + 1, p, gap, c =>
      let ended : Plain := { p with reachedNextLine := gap.isBroken }
      if c.isDocumentMarker || c.is '#' then .ok (ended, c)
      else
        let (word, misplaced) := plainWord flow c.rest
        let c := c.skip word.length
        if misplaced then .error (problem inPlain start "found unexpected ':'" c)
        else
          let (p, gap) : Plain × Gap :=
            if word.isEmpty then (ended, gap)
            else ({ text := p.text ++ gap.text ++ word, stop := c.mark }, {})
          if !c.next?.any (fun ch => isBlank ch || isBreak ch) then .ok (p, c)
          else
            match readGap (fun m => m.column < indent) c.rest.length gap c with
            | .error c =>
                .error (problem inPlain start
                  "found a tab character that violates indentation" c)
            | .ok (gap, c) =>
                if !flow && c.mark.column < indent then
                  .ok ({ p with reachedNextLine := gap.isBroken }, c)
                else readPlain flow indent start fuel p gap c

def plain (flow : Bool) (indent : Nat) (c : Cursor) : Except Problem (Token × Bool × Cursor) := do
  let (p, last) ← readPlain flow indent c.mark (c.rest.length + 1) { stop := c.mark } {} c
  pure (⟨.scalar (String.ofList p.text) .plain, c.mark, p.stop⟩, p.reachedNextLine, last)

/-! ## Quoted scalars -/

def inQuoted : String := "while scanning a quoted scalar"

def inEscape : String := "while parsing a quoted scalar"

/-- The character that an escape of one letter stands for. -/
def escape? : Char → Option Char
  | '0' => some '\x00'
  | 'a' => some '\x07'
  | 'b' => some '\x08'
  | 't' | '\t' => some '\t'
  | 'n' => some '\n'
  | 'v' => some '\x0b'
  | 'f' => some '\x0c'
  | 'r' => some '\r'
  | 'e' => some '\x1b'
  | ' ' => some ' '
  | '"' => some '"'
  | '/' => some '/'
  | '\\' => some '\\'
  | 'N' => some '\u0085'
  | '_' => some '\u00a0'
  | 'L' => some '\u2028'
  | 'P' => some '\u2029'
  | _ => none

def escapeDigits? : Char → Option Nat
  | 'x' => some 2
  | 'u' => some 4
  | 'U' => some 8
  | _ => none

def hexDigit? (c : Char) : Option Nat :=
  if c.isDigit then some (c.toNat - '0'.toNat)
  else if 'a' ≤ c ∧ c ≤ 'f' then some (c.toNat - 'a'.toNat + 10)
  else if 'A' ≤ c ∧ c ≤ 'F' then some (c.toNat - 'A'.toNat + 10)
  else none

/-- The value of hexadecimal digits, if there are as many as wanted. -/
def hexValue? (count : Nat) (cs : List Char) : Option Nat :=
  if cs.length < count then none
  else (cs.take count).foldlM (fun value ch => (hexDigit? ch).map (16 * value + ·)) 0

def readEscape (start : Mark) (c : Cursor) : Except Problem (Char × Cursor) :=
  let letter := (c.after? 1).getD '\x00'
  match c.after? 1, escape? letter, escapeDigits? letter with
  | none, _, _ | _, none, none =>
      .error (problem inEscape start "found unknown escape character" c)
  | _, some ch, _ => .ok (ch, c.skip 2)
  | _, none, some count =>
      let c := c.skip 2
      match hexValue? count c.rest with
      | none => .error (problem inEscape start "did not find expected hexdecimal number" c)
      | some value =>
          if value.isValidChar then .ok (Char.ofNat value, c.skip count)
          else
            .error (problem inEscape start "found invalid Unicode character escape code" c)

/-- Reads the characters up to a blank, the closing quote or an escaped line break, and tells
whether it was the latter. -/
def readQuotedRun (single : Bool) (start : Mark) :
    Nat → Cursor → Except Problem (List Char × Bool × Cursor)
  | 0, c => .ok ([], false, c)
  | fuel + 1, c =>
      match c.rest with
      | [] => .ok ([], false, c)
      | ch :: rest =>
          if isBlank ch || isBreak ch then .ok ([], false, c)
          else if single && ch = '\'' && rest.head? = some '\'' then do
            let (more, broken, last) ← readQuotedRun single start fuel (c.skip 2)
            pure ('\'' :: more, broken, last)
          else if ch = (if single then '\'' else '"') then .ok ([], false, c)
          else if !single && ch = '\\' && rest.head?.any isBreak then
            .ok ([], true, c.skip.skipBreak)
          else if !single && ch = '\\' then do
            let (escaped, c) ← readEscape start c
            let (more, broken, last) ← readQuotedRun single start fuel c
            pure (escaped :: more, broken, last)
          else do
            let (more, broken, last) ← readQuotedRun single start fuel c.skip
            pure (ch :: more, broken, last)

/-- Reads a quoted scalar from a run of characters on. -/
def readQuoted (single : Bool) (start : Mark) :
    Nat → List Char → Cursor → Except Problem (List Char × Cursor)
  | 0, text, c => .ok (text, c)
  | fuel + 1, text, c => do
      if c.isDocumentMarker then
        throw (problem inQuoted start "found unexpected document indicator" c)
      if c.rest.isEmpty then
        throw (problem inQuoted start "found unexpected end of stream" c)
      let (run, broken, c) ← readQuotedRun single start c.rest.length c
      let text := text ++ run
      if c.is (if single then '\'' else '"') then pure (text, c.skip)
      else
        match readGap (fun _ => false) c.rest.length { isBroken := broken } c with
        | .error c => throw (problem inQuoted start "found unexpected end of stream" c)
        | .ok (gap, c) => readQuoted single start fuel (text ++ gap.text) c

def quoted (single : Bool) (c : Cursor) : Except Problem (Token × Cursor) := do
  let (text, last) ← readQuoted single c.mark (c.rest.length + 1) [] c.skip
  let style : Style := if single then .singleQuoted else .doubleQuoted
  pure (⟨.scalar (String.ofList text) style, c.mark, last.mark⟩, last)

/-! ## Block scalars -/

def inBlock : String := "while scanning a block scalar"

/-- Which of the last line breaks belong to a block scalar. -/
inductive Chomping where
  | strip
  | clip
  | keep
  deriving DecidableEq, Repr

def chomping? (c : Cursor) : Option Chomping :=
  if c.is '+' then some .keep else if c.is '-' then some .strip else none

/-- Reads a digit that tells the indentation; nought stands for none. -/
def readIncrement (start : Mark) (c : Cursor) : Except Problem (Nat × Cursor) :=
  match c.next? with
  | some ch =>
      if ch = '0' then
        .error (problem inBlock start "found an indentation indicator equal to 0" c)
      else if ch.isDigit then .ok (ch.toNat - '0'.toNat, c.skip)
      else .ok (0, c)
  | none => .ok (0, c)

/-- Reads the indicators of a block scalar, which come in either order. -/
def readIndicators (start : Mark) (c : Cursor) : Except Problem (Chomping × Nat × Cursor) := do
  match chomping? c with
  | some chomping => do
      let (increment, c) ← readIncrement start c.skip
      pure (chomping, increment, c)
  | none => do
      let (increment, c) ← readIncrement start c
      match chomping? c with
      | some chomping => pure (chomping, increment, c.skip)
      | none => pure (.clip, increment, c)

/-- Empty lines before the next line of a block scalar: the line breaks, where the last of
them stops, the widest indentation seen, and the cursor at the next line. -/
structure Empty where
  breaks : List Char := []
  stop : Mark
  widest : Nat := 0

/-- Goes over empty lines and the indentation of the next line. An indentation of nought is
not known yet. -/
def readEmpty (start : Mark) (indent : Nat) :
    Nat → Empty → Cursor → Except Problem (Empty × Cursor)
  | 0, e, c => .ok (e, c)
  | fuel + 1, e, c =>
      let spaces := (c.rest.takeWhile (· = ' ')).length
      let c := c.skip (if indent = 0 then spaces else min spaces (indent - c.mark.column))
      let e := { e with widest := max e.widest c.mark.column }
      if (indent = 0 || c.mark.column < indent) && c.is '\t' then
        .error (problem inBlock start
          "found a tab character where an indentation space is expected" c)
      else if c.next?.any isBreak then
        let (text, c) := c.readBreak
        readEmpty start indent fuel { e with breaks := e.breaks ++ text, stop := c.mark } c
      else .ok (e, c)

/-- Reads the lines of a block scalar: the text, the line break after the last line, and the
empty lines after it. -/
def readLines (literal : Bool) (start : Mark) (indent : Nat) :
    Nat → (text lineBreak : List Char) → (wasBlank : Bool) → Empty → Cursor →
      Except Problem (List Char × List Char × Empty × Cursor)
  | 0, text, lineBreak, _, e, c => .ok (text, lineBreak, e, c)
  | fuel + 1, text, lineBreak, wasBlank, e, c =>
      if c.mark.column ≠ indent || c.rest.isEmpty then .ok (text, lineBreak, e, c)
      else do
        let isBlank := c.next?.any isBlank
        let joint :=
          if !literal && lineBreak.head? = some '\n' && !wasBlank && !isBlank then
            if e.breaks.isEmpty then [' '] else []
          else lineBreak
        let (line, c) := c.takeWhile fun ch => !isBreak ch
        let (lineBreak, c) := c.readBreak
        let text := text ++ joint ++ e.breaks ++ line
        let (e, c) ← readEmpty start indent (c.rest.length + 1) { stop := c.mark } c
        readLines literal start indent fuel text lineBreak isBlank e c

/-- Reads a block scalar at the cursor, inside a block of some indentation. -/
def block (literal : Bool) (outer : Int) (c : Cursor) : Except Problem (Token × Cursor) := do
  let start := c.mark
  let (chomping, increment, c) ← readIndicators start c.skip
  let c := c.skipComment
  if !endsLine c.next? then
    throw (problem inBlock start "did not find expected comment or line break" c)
  let c := c.skipBreak
  let given : Nat :=
    if increment = 0 then 0 else if outer ≥ 0 then outer.toNat + increment else increment
  let (e, c) ← readEmpty start given (c.rest.length + 1) { stop := c.mark } c
  let indent := if given = 0 then max e.widest (max (outer + 1).toNat 1) else given
  let (text, lineBreak, e, last) ←
    readLines literal start indent (c.rest.length + 1) [] [] false e c
  let text := text ++ (if chomping = .strip then [] else lineBreak) ++
    (if chomping = .keep then e.breaks else [])
  let style : Style := if literal then .literal else .folded
  pure (⟨.scalar (String.ofList text) style, start, e.stop⟩, last)

end ComposeSite.Yaml.Scalar
