/-
# ComposeSite.CommandLine.Reading -- reading a command line

A command line is read word by word.  A word is the value of the option before it, an
option, a command, or it fills a slot; after a double dash, and in a slot that takes words
as they are, it only fills slots.  Values are checked late: an option is settled when the
next one starts or a slot is filled, or else at the end.
-/
import ComposeSite.CommandLine.Grammar
import ComposeSite.Text.Split

set_option autoImplicit false

namespace ComposeSite.CommandLine

/-- What has been read at a place: options with their values, an option that is not settled
yet, whether the next word is its value, the words of slots, and which slot is next. -/
structure Reading where
  given : List (Key × String) := []
  pending : Option (Flag × Option String) := none
  awaitsValue : Bool := false
  words : List (Nat × String) := []
  slot : Nat := 0
  inSlot : Bool := false
  wordsOnly : Bool := false
  deriving DecidableEq, Repr

namespace Reading

def has (r : Reading) (k : Key) : Bool := r.given.any fun g => g.1 = k

/-- The last value of an option. -/
def value? (r : Reading) (k : Key) : Option String := r.given.reverse.lookup k

def values (r : Reading) (k : Key) : List String :=
  (r.given.filter fun g => g.1 = k).map Prod.snd

def slotWords (r : Reading) (slot : Nat) : List String :=
  (r.words.filter fun w => w.1 = slot).map Prod.snd

def give (r : Reading) (f : Flag) (value : String) : Except Refusal Reading :=
  if r.has f.key && !f.repeats then .error .repeated
  else .ok { r with given := r.given ++ [(f.key, value)] }

/-- Settles the option before. -/
def settle (r : Reading) : Except Refusal Reading :=
  match r.pending with
  | none => .ok r
  | some (_, none) => .error .missingValue
  | some (f, some value) => { r with pending := none }.give f value

/-- The reading after an option has been dealt with. -/
def between (r : Reading) : Reading := { r with awaitsValue := false, inSlot := false }

/-- Takes an option with the value attached to it, if there is one. -/
def takeFlag (r : Reading) (f : Flag) (attached : Option String) : Except Refusal Reading := do
  if f.takesValue then
    let r ← r.settle
    match attached with
    | some value => r.between.give f value
    | none => pure { r with pending := some (f, none), awaitsValue := true, inSlot := false }
  else if attached.isSome then throw .needlessValue
  else do
    let r ← r.settle
    match f.key with
    | .help => throw .help
    | .version => throw .version
    | _ => r.between.give f "true"

def nextSlot? (r : Reading) (p : Place) : Option Slot := p.slots[r.slot]?

/-- Whether the next slot also takes words that look like options. -/
def takesAnything (r : Reading) (p : Place) : Bool := (r.nextSlot? p).any (·.verbatim)

/-- Takes a word with two dashes, unless it is to be taken as any other word. -/
def takeLong (p : Place) (r : Reading) (body : List Char) : Except Refusal (Option Reading) :=
  let (name, attached) := match Text.splitOnce? '=' body with
    | some (name, value) => (name, some (String.ofList value))
    | none => (body, none)
  match p.long? (String.ofList name) with
  | some f => some <$> r.takeFlag f attached
  | none => if r.takesAnything p then .ok none else .error .unknownWord

/-- Takes the short options of a word one by one. The rest of the word is the value of an
option that takes one. -/
def takeShorts (p : Place) : Reading → List Char → Except Refusal Reading
  | r, [] => .ok r
  | r, c :: rest =>
      match p.short? c with
      | none => .error .unknownWord
      | some f =>
          if f.takesValue then
            r.takeFlag f (match rest with
              | [] => none
              | '=' :: value => some (String.ofList value)
              | value => some (String.ofList value))
          else do
            let r ← r.takeFlag f none
            takeShorts p r rest

/-- Takes a word with one dash, unless it is to be taken as any other word. -/
def takeShort (p : Place) (r : Reading) (body : List Char) : Except Refusal (Option Reading) :=
  if r.takesAnything p && body.any (fun c => (p.short? c).isNone) then .ok none
  else some <$> takeShorts p r body

/-- Why a word that no slot takes is refused. -/
def misfit (p : Place) (r : Reading) (word : String) : Refusal :=
  if !p.needsCommand then .unknownWord
  else if r.wordsOnly && (p.commands.lookup word).isSome then .unknownWord
  else .unknownCommand

def takeWord (p : Place) (r : Reading) (word : String) : Except Refusal Reading :=
  match r.nextSlot? p with
  | none => .error (misfit p r word)
  | some s => do
      let r ← r.settle
      pure { r with
        words := r.words ++ [(r.slot, word)],
        slot := if s.many then r.slot else r.slot + 1,
        awaitsValue := false, inSlot := s.many,
        wordsOnly := r.wordsOnly || s.verbatim }

/-- Takes a word as an option, if it looks like one and is to be taken as one. -/
def takeOption (p : Place) (r : Reading) (word : String) : Except Refusal (Option Reading) :=
  match word.toList with
  | '-' :: '-' :: body => takeLong p r body
  | '-' :: c :: body => takeShort p r (c :: body)
  | _ => .ok none

/-- Takes a word that is no option: the value of the option before it, or a word of a
slot. -/
def takeOther (p : Place) (r : Reading) (word : String) : Except Refusal Reading :=
  match r.awaitsValue, r.pending with
  | true, some (f, _) => .ok { r with pending := some (f, some word), awaitsValue := false }
  | _, _ => takeWord p r word

/-- The names that lead to help instead of a command. -/
def isHelp (p : Place) (word : String) : Bool := p.needsCommand && word = "help"

/-- Follows the names of commands after a request for help. -/
def helpFor : Place → List String → Refusal
  | _, [] => .help
  | p, word :: rest =>
      match p.commands.lookup word with
      | some next => helpFor next rest
      | none => if isHelp p word && rest.isEmpty then .help else .unknownCommand

/-- Reads words at a place up to a command, and gives where that leads and what is left. -/
def scan (p : Place) : Reading → List String →
    Except Refusal (Reading × Option (Place × List String))
  | r, [] => .ok (r, none)
  | r, word :: rest =>
      if r.wordsOnly then do
        let r ← takeWord p r word
        scan p r rest
      else
        let atCommand := !r.awaitsValue && !r.inSlot
        match p.commands.lookup word with
        | some next =>
            if atCommand then .ok (r, some (next, rest))
            else do
              let r ← takeOther p r word
              scan p r rest
        | none =>
            if atCommand && isHelp p word then .error (helpFor p rest)
            else if word = "--" then scan p { r with wordsOnly := true } rest
            else do
              match ← takeOption p r word with
              | some r => scan p r rest
              | none => do
                  let r ← takeOther p r word
                  scan p r rest

/-- Checks what has been read at a place: that there is a command where one is needed, and
that the slots that must be are filled. A place that is told nothing at all shows help. -/
def check (p : Place) (told : Bool) (hasCommand : Bool) (r : Reading) : Except Refusal Unit :=
  if p.needsCommand && !hasCommand then
    .error (if told || !r.given.isEmpty then .missingCommand else .helpForMissing)
  else if p.slots.zipIdx.any fun (s, i) => s.required && (r.slotWords i).isEmpty then
    .error .missingWord
  else .ok ()

/-- Reads a command line from a place on: what was read at each place, the last one first.
`told` says that variables set options. The depth bounds how many commands follow each
other. -/
def readFrom (told : Bool) : (depth : Nat) → Place → List String →
    Except Refusal (List (Place × Reading))
  | 0, _, _ => .error .unknownCommand
  | depth + 1, p, words => do
      let (r, next) ← scan p {} words
      let deeper ← match next with
        | some (place, rest) => readFrom told depth place rest
        | none => pure []
      let r ← r.settle
      check p told next.isSome r
      pure (deeper ++ [(p, r)])

end Reading

end ComposeSite.CommandLine
