/-
# ComposeSite.CommandLine.Grammar -- what may stand on a command line

Each place of a command line, which is the program itself or one of its commands, has
options, slots for words without an option, and commands that lead to another place.
-/

set_option autoImplicit false

namespace ComposeSite.CommandLine

inductive Key where
  | context
  | logLevel
  | help
  | version
  | noTty
  | user
  | workdir
  | env
  deriving DecidableEq, Repr

/-- An option: its long name, its short name, whether it takes a value and whether it may be
given more than once. -/
structure Flag where
  key : Key
  long : String
  short : Option Char := none
  takesValue : Bool := false
  repeats : Bool := false
  deriving DecidableEq, Repr

/-- A slot for words: whether it must be filled, whether it takes more than one word, and
whether everything after its first word belongs to it as it is. -/
structure Slot where
  required : Bool := true
  many : Bool := false
  verbatim : Bool := false
  deriving DecidableEq, Repr

inductive Place where
  | top
  | compose
  | exec
  | portForward
  | secret
  | env
  | make
  | dbUri
  | config
  | configShow
  deriving DecidableEq, Repr

namespace Place

def commands : Place → List (String × Place)
  | top =>
      [("compose", compose), ("exec", exec), ("port-forward", portForward),
       ("secret", secret), ("env", env), ("make", make), ("db-uri", dbUri),
       ("config", config)]
  | config => [("show", configShow)]
  | _ => []

/-- Whether a command must follow. -/
def needsCommand (p : Place) : Bool := !p.commands.isEmpty

def slots : Place → List Slot
  | compose => [{ many := true, verbatim := true }]
  | exec => [{}, { required := false, many := true, verbatim := true }]
  | portForward => [{ many := true }]
  | secret | env => [{}, {}]
  | make => [{ required := false, many := true, verbatim := true }]
  | _ => []

def commonFlags : List Flag :=
  [{ key := .context, long := "context", takesValue := true },
   { key := .logLevel, long := "log-level", takesValue := true },
   { key := .help, long := "help", short := some 'h' }]

def flags : Place → List Flag
  | top => commonFlags ++ [{ key := .version, long := "version", short := some 'V' }]
  | exec => commonFlags ++
      [{ key := .noTty, long := "no-tty", short := some 'T' },
       { key := .user, long := "user", short := some 'u', takesValue := true },
       { key := .workdir, long := "workdir", short := some 'w', takesValue := true },
       { key := .env, long := "env", short := some 'e', takesValue := true, repeats := true }]
  | _ => commonFlags

def long? (p : Place) (name : String) : Option Flag := p.flags.find? fun f => f.long = name

def short? (p : Place) (c : Char) : Option Flag := p.flags.find? fun f => f.short = some c

end Place

/-- What ends the reading of a command line: a request for help or the version, or something
that is wrong with it. -/
inductive Refusal where
  | help
  | version
  | helpForMissing
  | missingCommand
  | unknownCommand
  | missingWord
  | missingValue
  | unknownWord
  | repeated
  | needlessValue
  deriving DecidableEq, Repr

/-- Whether a refusal is what was asked for. -/
def Refusal.isAnswer : Refusal → Bool
  | help | version => true
  | _ => false

end ComposeSite.CommandLine
