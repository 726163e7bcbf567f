/-
# ComposeSite.Proofs.Shell.RemoteLine -- a remote line is read back as its command

The reader of lines (`Shell.tokens`) goes over a quoted word and comes out between
words with exactly that word, whatever is in it.  `Reads` follows the reader over a
piece of text and keeps the characters that have a meaning to the shell and are not
quoted (`Scanner.exposed`); pieces are put together by `Reads.append`.

* `reads_quoteChars`: a quoted word is one word, with nothing exposed;
* `reads_blank`, `reads_both`: what stands between words ends them;
* `remoteLine_read_back`: the whole line.
-/
import ComposeSite.Shell.RemoteLine
import ComposeSite.Shell.Token

set_option autoImplicit false

namespace ComposeSite.Shell

/-! ## What a shell makes of a line -/

/-- A word without its quotes, or an operator. -/
inductive Lexeme where
  | word (text : String)
  | operator (o : Operator)
  deriving DecidableEq, Repr

/-- A token with its quotes removed, unless it is none of a plain line. -/
def Token.lexeme? : Token → Option Lexeme
  | .word w => w.text?.map fun cs => .word (String.ofList cs)
  | .operator o => some (.operator o)
  | .descriptor _ | .newline => none

/-- The words and operators of a line, if nothing else is in it. -/
def readBack (line : String) : Option (List Lexeme) :=
  match tokens line.toList with
  | .ok ts => ts.mapM Token.lexeme?
  | .error _ => none

/-- Whether a character has a meaning of its own to the shell: it is part of an operator,
starts an expansion, quotes, a pattern, a comment or a home directory, or ends the line. -/
def isSpecial (c : Char) : Bool :=
  startsOperator c ||
    ['$', '`', '"', '*', '?', '[', ']', '#', '~', '{', '}', '\n'].contains c

/-- Whether a character keeps its meaning where it stands. -/
def Mode.exposes (m : Mode) (c : Char) : Bool :=
  match m with
  | .single | .escape _ => false
  | .double => c = '$' || c = '`'
  | _ => isSpecial c

/-- The characters of a text that keep a meaning of their own to the shell. -/
def Scanner.exposed (s : Scanner) : List Char → List Char
  | [] => []
  | c :: rest => (if s.mode.exposes c then [c] else []) ++ (s.take c).exposed rest

/-! ## Reading piece by piece -/

/-- Reading a text takes the reader from one state to another with some characters exposed. -/
structure Reads (s : Scanner) (text : List Char) (next : Scanner) (exposed : List Char) :
    Prop where
  state : text.foldl Scanner.take s = next
  exposed : s.exposed text = exposed

theorem Reads.append {s middle last : Scanner} {a b x y : List Char} (first : Reads s a middle x)
    (second : Reads middle b last y) : Reads s (a ++ b) last (x ++ y) := by
  refine ⟨by rw [List.foldl_append, first.state, second.state], ?_⟩
  have later := second.exposed
  obtain ⟨rfl, rfl⟩ := first
  induction a generalizing s with
  | nil => exact later
  | cons c a ih =>
      simp only [List.cons_append, Scanner.exposed, List.append_assoc, ih second later]

/-- Reading on after a text in which nothing is exposed. -/
theorem Reads.quiet {s middle last : Scanner} {a b y : List Char} (first : Reads s a middle [])
    (second : Reads middle b last y) : Reads s (a ++ b) last y := first.append second

/-- A reader between words. -/
def between (done : List Token) : Scanner := ⟨done, none, .outside⟩

/-- A reader behind a word. -/
def behind (done : List Token) (w : Word) : Scanner := ⟨done, some w, .outside⟩

/-- The word that the written form of some characters is. -/
def writtenWord (cs : List Char) : Word :=
  if !cs.isEmpty && cs.all isPlain then ⟨cs.map (Piece.char · false), false⟩
  else ⟨cs.map (Piece.char · true), true⟩

theorem text?_of_chars (cs : List Char) (quoted hasQuotes : Bool) :
    (Word.mk (cs.map (Piece.char · quoted)) hasQuotes).text? = some cs := by
  have pairs : (Word.mk (cs.map (Piece.char · quoted)) hasQuotes).chars? =
      some (cs.map (·, quoted)) := by
    simp only [Word.chars?]
    induction cs with
    | nil => rfl
    | cons c cs ih => rw [List.map_cons, List.mapM_cons, ih]; rfl
  simp [Word.text?, pairs, Function.comp_def]

/-- Quote removal gives the characters back. -/
theorem writtenWord_text? (cs : List Char) : (writtenWord cs).text? = some cs := by
  unfold writtenWord
  split <;> exact text?_of_chars cs _ _

/-! ## Quoted words -/

/-- A plain character stands for itself. -/
theorem takeOutside_plain {c : Char} (plain : isPlain c = true) (s : Scanner) :
    s.takeOutside c = { s.add (.char c false) with mode := .outside } ∧
      isSpecial c = false := by
  have other : ∀ d, isPlain d = false → c ≠ d := by
    rintro d special rfl
    rw [plain] at special
    cases special
  simp (disch := decide) [Scanner.takeOutside, isBlank, startsOperator, isSpecial, other]

theorem reads_plain {cs : List Char} (plain : cs.all isPlain = true) (done : List Token)
    (w : Word) : Reads (behind done w) cs
      (behind done { w with pieces := w.pieces ++ cs.map (Piece.char · false) }) [] := by
  induction cs generalizing w with
  | nil => exact ⟨by simp, rfl⟩
  | cons c cs ih =>
      simp only [List.all_cons, Bool.and_eq_true] at plain
      obtain ⟨taken, harmless⟩ := takeOutside_plain plain.1 (behind done w)
      have first : Reads (behind done w) [c] (behind done (w.add (.char c false))) [] :=
        ⟨taken, by simp [Scanner.exposed, behind, Mode.exposes, harmless]⟩
      have both := first.quiet (ih plain.2 (w.add (.char c false)))
      simpa [Word.add] using both

/-- A reader between single quotes. -/
def inside (done : List Token) (pieces : List Piece) : Scanner :=
  ⟨done, some ⟨pieces, true⟩, .single⟩

/-- A character as it is written between single quotes is read as itself. -/
theorem reads_quoteChar (c : Char) (done : List Token) (pieces : List Piece) :
    Reads (inside done pieces) (quoteChar c) (inside done (pieces ++ [.char c true])) [] := by
  unfold quoteChar
  split
  · rename_i quote
    subst quote
    exact ⟨rfl, rfl⟩
  · rename_i other
    exact ⟨by simp [Scanner.take, inside, other, Scanner.add, Scanner.current, Word.add],
      by simp [Scanner.exposed, inside, Mode.exposes]⟩

theorem reads_flatMap_quoteChar (cs : List Char) (done : List Token) (pieces : List Piece) :
    Reads (inside done pieces) (cs.flatMap quoteChar)
      (inside done (pieces ++ cs.map (Piece.char · true))) [] := by
  induction cs generalizing pieces with
  | nil => exact ⟨by simp, rfl⟩
  | cons c cs ih =>
      have both := (reads_quoteChar c done pieces).quiet (ih (pieces ++ [.char c true]))
      simpa using both

/-- A quoted word is read as one word, with nothing exposed. -/
theorem reads_quoteChars (cs : List Char) (done : List Token) :
    Reads (between done) (quoteChars cs) (behind done (writtenWord cs)) [] := by
  unfold quoteChars
  split
  · rename_i empty
    rw [List.isEmpty_iff.mp empty]
    exact ⟨rfl, rfl⟩
  · rename_i nonempty
    split
    · rename_i plain
      obtain ⟨c, cs, rfl⟩ : ∃ c rest, cs = c :: rest := by
        cases cs with
        | nil => simp at nonempty
        | cons c rest => exact ⟨c, rest, rfl⟩
      have each := plain
      rw [List.all_cons, Bool.and_eq_true] at each
      obtain ⟨taken, harmless⟩ := takeOutside_plain each.1 (between done)
      have first : Reads (between done) [c] (behind done ⟨[.char c false], false⟩) [] :=
        ⟨taken, by simp [Scanner.exposed, between, Mode.exposes, harmless]⟩
      have whole := first.quiet (reads_plain each.2 done ⟨[.char c false], false⟩)
      simpa [writtenWord, plain] using whole
    · rename_i quoted
      have opened : Reads (between done) ['\''] (inside done []) [] := ⟨rfl, rfl⟩
      have closed : Reads (inside done (cs.map (Piece.char · true))) ['\'']
          (behind done ⟨cs.map (Piece.char · true), true⟩) [] := ⟨rfl, rfl⟩
      have whole := (opened.quiet (reads_flatMap_quoteChar cs done [])).quiet closed
      simpa [writtenWord, quoted] using whole

/-! ## Lines -/

/-- A blank ends a word. -/
theorem reads_blank (done : List Token) (w : Word) :
    Reads (behind done w) [' '] (between (done ++ [.word w])) [] := ⟨rfl, rfl⟩

/-- The operator between two commands is the one thing exposed. -/
theorem reads_both (done : List Token) :
    Reads (between done) ['&', '&', ' '] (between (done ++ [.operator .both])) ['&', '&'] :=
  ⟨rfl, rfl⟩

theorem reads_quote_blank (word : String) (done : List Token) :
    Reads (between done) ((quote word).toList ++ [' '])
      (between (done ++ [.word (writtenWord word.toList)])) [] := by
  rw [quote, String.toList_ofList]
  exact (reads_quoteChars word.toList done).quiet (reads_blank done _)

/-- The words of a command are read one by one, the last one being left unfinished. -/
theorem reads_words (w : String) (ws : List String) (done : List Token) :
    ∃ finished last, done ++ (w :: ws).map (fun word => Token.word (writtenWord word.toList)) =
        finished ++ [.word last] ∧
      Reads (between done) (" ".intercalate ((w :: ws).map quote)).toList
        (behind finished last) [] := by
  induction ws generalizing w done with
  | nil =>
      refine ⟨done, writtenWord w.toList, rfl, ?_⟩
      simpa [quote] using reads_quoteChars w.toList done
  | cons next ws ih =>
      obtain ⟨finished, last, same, rest⟩ := ih next (done ++ [.word (writtenWord w.toList)])
      refine ⟨finished, last, by simpa using same, ?_⟩
      have whole := (reads_quote_blank w done).quiet rest
      simpa [String.intercalate_cons_cons] using whole

/-- The tokens that a line starts with. -/
def leadingTokens (c : Context) : List Token :=
  (if c.projectDir.isEmpty then []
    else [.word (writtenWord ['c', 'd']), .word (writtenWord c.projectDir.toList),
      .operator .both]) ++
  (if c.useSudo then [.word (writtenWord ['s', 'u', 'd', 'o'])] else [])

/-- What stands before the command is read as its words, with the operator exposed. -/
theorem reads_leading (c : Context) :
    Reads (between [])
      ((if c.projectDir.isEmpty then "" else "cd " ++ quote c.projectDir ++ " && ") ++
        (if c.useSudo then "sudo " else "")).toList (between (leadingTokens c))
      (if c.projectDir.isEmpty then [] else ['&', '&']) := by
  have superuser (done : List Token) :
      Reads (between done) (if c.useSudo then "sudo " else "").toList
        (between (done ++ if c.useSudo then [.word (writtenWord ['s', 'u', 'd', 'o'])] else []))
        [] := by
    split
    · exact reads_quote_blank "sudo" done
    · exact ⟨by simp, rfl⟩
  rw [String.toList_append]
  unfold leadingTokens
  split
  · exact superuser []
  · have change := ((reads_quote_blank "cd" []).quiet (reads_quote_blank c.projectDir _)).quiet
      (reads_both _)
    have whole := change.append (superuser _)
    have text : ((quote "cd").toList ++ [' ']) ++ ((quote c.projectDir).toList ++ [' ']) ++
        ['&', '&', ' '] = ("cd " ++ quote c.projectDir ++ " && ").toList := by
      have cd : (quote "cd").toList ++ [' '] = "cd ".toList := by decide
      have both : " && ".toList = ' ' :: ['&', '&', ' '] := by decide
      rw [String.toList_append, String.toList_append, cd, both]
      simp only [List.append_assoc, List.singleton_append]
    rw [← text]
    simpa using whole

/-- The line of a command is read to its tokens, and the operator is all that is exposed. -/
theorem reads_remoteLine (c : Context) (command : Command) :
    tokens (remoteLine c command).toList = .ok (leadingTokens c ++
        command.words.map (fun word => Token.word (writtenWord word.toList))) ∧
      Scanner.exposed {} (remoteLine c command).toList =
        if c.projectDir.isEmpty then [] else ['&', '&'] := by
  obtain ⟨finished, last, same, words⟩ :=
    reads_words command.program command.args (leadingTokens c)
  have whole := (reads_leading c).append words
  rw [← String.toList_append, List.append_nil] at whole
  refine ⟨?_, whole.exposed⟩
  have read : (remoteLine c command).toList.foldl Scanner.take {} = behind finished last :=
    whole.state
  rw [tokens, read, Command.words, same]
  rfl

/-- Quote removal gives back the words that were written. -/
theorem lexemes_words (words : List String) :
    (words.map fun word => Token.word (writtenWord word.toList)).mapM Token.lexeme? =
      some (words.map .word) := by
  induction words with
  | nil => rfl
  | cons w words ih =>
      rw [List.map_cons, List.mapM_cons, ih, Token.lexeme?, writtenWord_text?]
      simp

theorem lexemes_leading (c : Context) :
    (leadingTokens c).mapM Token.lexeme? = some (
      (if c.projectDir.isEmpty then []
        else [.word "cd", .word c.projectDir, .operator .both]) ++
      (if c.useSudo then [.word "sudo"] else [])) := by
  have dir : Token.lexeme? (.word (writtenWord c.projectDir.toList)) =
      some (.word c.projectDir) := by
    rw [Token.lexeme?, writtenWord_text?]
    simp
  have cd : Token.lexeme? (.word (writtenWord ['c', 'd'])) = some (.word "cd") := by decide
  have superuser : Token.lexeme? (.word (writtenWord ['s', 'u', 'd', 'o'])) =
      some (.word "sudo") := by decide
  have both : Token.lexeme? (.operator .both) = some (.operator .both) := rfl
  unfold leadingTokens
  split <;> split <;> simp [List.mapM_cons, dir, cd, superuser, both]

/-- **A remote line is read back as the command it was made from.** The one operator is the one
after the change of directory, and nothing else in the line has a meaning to the shell. -/
theorem remoteLine_read_back (c : Context) (command : Command) :
    readBack (remoteLine c command) = some (
        (if c.projectDir.isEmpty then []
          else [.word "cd", .word c.projectDir, .operator .both]) ++
        (if c.useSudo then [.word "sudo"] else []) ++
        command.words.map .word) ∧
      Scanner.exposed {} (remoteLine c command).toList =
        if c.projectDir.isEmpty then [] else ['&', '&'] := by
  obtain ⟨line, exposed⟩ := reads_remoteLine c command
  refine ⟨?_, exposed⟩
  simp only [readBack, line, List.mapM_append, lexemes_leading, lexemes_words]
  rfl

end ComposeSite.Shell
