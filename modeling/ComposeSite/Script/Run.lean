/-
# ComposeSite.Script.Run -- what a script does

A shell goes from command to command.  Programs that it starts are utilities or scripts
again.  Everything happens in order: the two sides of a pipe run one after the other, and
a number bounds how many commands run in all.
-/
import ComposeSite.Host.Utility.Table
import ComposeSite.Script.Expand
import ComposeSite.Script.Grammar
import ComposeSite.Script.Start

set_option autoImplicit false

namespace ComposeSite.Script

open Host (FileTree Invocation Report Utility Program Launcher)
open Shell (Word)

/-! ## Programs -/

/-- What a program leaves behind. -/
structure Outcome where
  stdout : Bytes := []
  stderr : Bytes := []
  status : ExitStatus := .code 0
  rest : Bytes := []
  files : FileTree

/-- Starts a program, which may not be possible. -/
abbrev Launch := Start → Except IoFailure Outcome

/-- What is to be done: a command, or the rounds of a loop after one with a status. -/
inductive Task where
  | perform (c : Statement)
  | rounds (untilTrue : Bool) (test body : Statement) (status : Nat)

abbrev Recur := Task → State → State

namespace Outcome

def ofReport (files : FileTree) (r : Report) : Outcome :=
  { stdout := r.stdout, stderr := r.stderr, status := .code r.status, rest := r.rest, files }

def shellStatus (o : Outcome) : Nat :=
  match o.status with
  | .code n => n
  | .signal n => 128 + n

end Outcome

/-! ## Lines of a script -/

/-- Reads the lines of a script and runs each before the next one is read. -/
def runTokens (recur : Recur) (fault : Option Fault) : Nat → Tokens → State → State
  | 0, _, s => s
  | n + 1, ts, s =>
      if !s.goesOn then s
      else
        match ts.dropWhile fun (t, _) => t = .newline with
        | [] =>
            match fault with
            | some f => (s.complain f.line f.message).leave 2
            | none => s
        | ts =>
            match (Parse.line (ts.length + 1)).run ts with
            | .ok (c, rest) => runTokens recur fault n rest (recur (.perform c) s)
            | .error f => (s.complain f.line f.message).leave 2

def runText (recur : Recur) (text : List Char) (s : State) : State :=
  let read := text.foldl Shell.Scanner.take {}
  match read.finish with
  | .ok ts => runTokens recur none (ts.length + 1) (numbered 1 ts) s
  | .error what =>
      let whole := (read.done.reverse.dropWhile (· ≠ .newline)).reverse
      runTokens recur (some (.unfinished (1 + text.count '\n') what)) (whole.length + 1)
        (numbered 1 whole) s

/-- Runs what is to be done at the end of a shell. -/
def runAtExit (recur : Recur) (s : State) : State :=
  match s.atExit, s.flow with
  | some text, .onward | some text, .leaveShell =>
      let t := runText recur text.toList { s with atExit := none, flow := .onward }
      match t.flow with
      | .onward => { t with status := s.status }
      | _ => t
  | _, _ => s

/-- Runs something in a shell of its own, of which only output and status remain. -/
def inSubshell (recur : Recur) (run : State → State) (s : State) : State :=
  let t := runAtExit recur (run { s with atExit := none })
  { s with
    pipes := t.pipes, status := t.status,
    files := { t.files with workDirectory := s.files.workDirectory },
    flow := match t.flow with
      | .killed n => .killed n
      | _ => s.flow }

def substitute (recur : Recur) : Substitute := fun text s =>
  let (pipe, t) := s.addPipe []
  let t := inSubshell recur (fun t => runText recur text (t.connect 1 (.pipe pipe))) t
  (t.contents pipe, { t with status := s.status, substituted := some t.status })

/-! ## Starting programs -/

/-- The words after the first line's mark: the program that reads a script, and at most one
argument. -/
def interpreter? (content : Bytes) : Option (String × List String) :=
  match content with
  | 35 :: 33 :: rest =>
      let line := Text.trim (Text.Utf8.decodeLossy (rest.takeWhile (· ≠ 10)))
      let name := line.toList.takeWhile fun c => !Shell.isBlank c
      let arg := Text.trim (String.ofList (line.toList.drop name.length))
      some (String.ofList name, if arg.isEmpty then [] else [arg])
  | _ => none

/-- The options and operands of a shell's command line: whether its text is an operand, whether
it stops on failures, and the operands. -/
def shellOptions : List String → Bool × Bool × List String
  | "-c" :: rest =>
      let (_, stops, operands) := shellOptions rest
      (true, stops, operands)
  | "-e" :: rest =>
      let (isText, _, operands) := shellOptions rest
      (isText, true, operands)
  | "-ec" :: rest =>
      let (_, _, operands) := shellOptions rest
      (true, true, operands)
  | "-u" :: rest => shellOptions rest
  | "--" :: rest => (false, false, rest)
  | rest => (false, false, rest)

def runShell (recur : Recur) (st : Start) (name : String) (arguments : List String)
    (stops : Bool) (text : Bytes) (input : Bytes) : Outcome :=
  let s : State :=
    { name, arguments, files := st.files, stopOnFailure := stops,
      bindings := st.environment.entries.map fun (name, value) => ⟨name, value, true⟩,
      descriptors := [(0, .pipe 0), (1, .pipe 1), (2, .pipe 2)],
      pipes := [(0, [input]), (1, []), (2, [])] }
  let s := runAtExit recur (runText recur (Text.Utf8.decodeLossy text).toList s)
  { stdout := s.contents 1, stderr := s.contents 2, status := s.ending, rest := s.contents 0,
    files := { s.files with workDirectory := st.files.workDirectory } }

def launchShell (recur : Recur) (st : Start) : Outcome :=
  let (isText, stops, operands) := shellOptions st.args
  match isText, operands with
  | true, text :: rest =>
      runShell recur st (rest.headD st.program) (rest.drop 1) stops (Text.Utf8.encode text)
        st.input
  | true, [] =>
      { stderr := Text.Utf8.encode s!"{st.program}: 0: -c requires an argument\n",
        status := .code 2, rest := st.input, files := st.files }
  | false, path :: rest =>
      match st.files.readOctets path with
      | .ok text => runShell recur st path rest stops text st.input
      | .error _ =>
          { stderr := Text.Utf8.encode s!"{st.program}: 0: cannot open {path}: No such file\n",
            status := .code 2, rest := st.input, files := st.files }
  | false, [] => runShell recur st st.program [] stops st.input []

/-- The variables that env sets, and the command after them. -/
def splitEnvironment (words : List String) : List (String × String) × List String :=
  let isSetting (w : String) : Bool := w.toList.contains '='
  ((words.takeWhile isSetting).map fun w =>
      (String.ofList (w.toList.takeWhile (· ≠ '=')),
        String.ofList ((w.toList.dropWhile (· ≠ '=')).drop 1)),
    words.dropWhile isSetting)

def withSettings (e : Environment) (settings : List (String × String)) : Environment :=
  ⟨(e.entries.filter fun (name, _) => !settings.any (·.1 = name)) ++ settings⟩

/-- Starts a program; the number bounds how many programs stand for one another. -/
def launch (recur : Recur) : Nat → Launch
  | 0, _ => .error (.system 40)
  | n + 1, st => do
      let (path, program) ← Host.findProgram st.files st.environment st.program
      match program with
      | .utility run =>
          pure (.ofReport st.files
            (run ⟨st.program, st.args, st.files, st.environment, st.input⟩))
      | .launcher .shell => pure (launchShell recur st)
      | .launcher .environment =>
          let (settings, command) := splitEnvironment st.args
          let environment := withSettings st.environment settings
          match command with
          | [] =>
              pure { stdout := Text.Utf8.encode (String.join (environment.entries.map
                      fun (name, value) => s!"{name}={value}\n")),
                     rest := st.input, files := st.files }
          | program :: args =>
              match launch recur n { st with program, args, environment } with
              | .ok o => pure o
              | .error f =>
                  let text := match f with
                    | .system code => IoFailure.systemText code
                    | f => f.message
                  pure { stderr := Text.Utf8.encode s!"env: '{program}': {text}\n",
                         status := .code (if f = .notFound then 127 else 126),
                         rest := st.input, files := st.files }
      | .file content =>
          match interpreter? content with
          | some (program, args) =>
              launch recur n { st with program, args := args ++ path :: st.args }
          | none => .error (.system 8)

/-- How many programs stand for one another at most. -/
def deepestLaunch : Nat := 8

/-- What the shell says of a program that it cannot start. -/
def launchComplaint (f : IoFailure) : String × Nat :=
  if f = .notFound ∨ f = .notDirectory then ("not found", 127)
  else
    (match f with
      | .system code => IoFailure.systemText code
      | f => f.message, 126)

/-- What the shell says of a program that a signal ended. -/
def signalText : Nat → String
  | 1 => "Hangup"
  | 6 => "Aborted"
  | 9 => "Killed"
  | 11 => "Segmentation fault"
  | 14 => "Alarm clock"
  | 15 => "Terminated"
  | n => s!"Signal {n}"

/-- Runs a program in the place of a command. -/
def runProgram (recur : Recur) (line : Nat) (program : String) (args : List String)
    (settings : List (String × String)) (s : State) : State :=
  let st : Start :=
    { program, args, files := s.files, environment := withSettings s.environment settings,
      input := s.input }
  let outcome := match launch recur deepestLaunch st with
    | .error (.system 8) =>
        (Host.findProgram st.files st.environment program).bind fun (path, p) =>
          match p with
          | .file content => .ok (runShell recur st path args false content st.input)
          | _ => .error (.system 8)
    | outcome => outcome
  match outcome with
  | .error f =>
      let (text, status) := launchComplaint f
      (s.complain line s!"{program}: {text}").ended status
  | .ok o =>
      let s := ((s.write 1 o.stdout).write 2 o.stderr).setInput o.rest
      let s := { s with files := { o.files with workDirectory := s.files.workDirectory } }
      let s := match o.status with
        | .signal n => if n = 2 ∨ n = 13 then s else s.writeText 2 (signalText n ++ "\n")
        | .code _ => s
      s.ended o.shellStatus

/-! ## Redirections -/

/-- What the shell says of a file that it cannot open. -/
def openingText (f : IoFailure) (missing : String) : String :=
  if f = .notFound ∨ f = .notDirectory then missing
  else match f with
    | .system code => IoFailure.systemText code
    | f => f.message

def openOutput (s : State) (descriptor : Nat) (path : String) (keeps : Bool) :
    Except String State :=
  let refuse (f : IoFailure) : Except String State :=
    let text := openingText f "Directory nonexistent"
    .error s!"cannot create {path}: {text}"
  if path = "/dev/null" then .ok (s.connect descriptor .nowhere)
  else if path = "/dev/stdout" then .ok (s.connect descriptor (s.channel 1))
  else if path = "/dev/stderr" then .ok (s.connect descriptor (s.channel 2))
  else
    match s.files.resolve path with
    | .ok (l, .file content executable) =>
        .ok ((s.setEntry l (.file (if keeps then content else []) executable)).connect
          descriptor (.file l))
    | .ok (_, .directory) => refuse .isDirectory
    | .ok (_, .socket) => refuse (.system 6)
    | .error f =>
        let above := (Path.parent? path).getD ""
        match s.files.resolve (if above.isEmpty then "." else above) with
        | .ok (l, .directory) =>
            if f = .notFound && !path.isEmpty then
              let location := l ++ [Host.lastPart path]
              .ok ((s.setEntry location (.file [] false)).connect descriptor (.file location))
            else refuse f
        | _ => refuse f

def redirect (s : State) (r : Redirect) (target : String) : Except String State :=
  match r.action with
  | .input =>
      match Host.openInput s.files target with
      | .ok data =>
          let (pipe, s) := s.addPipe data
          .ok (s.connect r.descriptor (.pipe pipe))
      | .error f =>
          let text := openingText f "No such file"
          .error s!"cannot open {target}: {text}"
  | .output => openOutput s r.descriptor target false
  | .append => openOutput s r.descriptor target true
  | .duplicate =>
      if target = "-" then .ok (s.close r.descriptor)
      else
        match target.toNat? with
        | some n =>
            match s.descriptors.lookup n with
            | some c => .ok (s.connect r.descriptor c)
            | none => .error s!"{n}: Bad file descriptor"
        | none => .error "Bad fd number"

def redirectAll (recur : Recur) (rs : List Redirect) (s : State) : Except (String × State) State :=
  rs.foldlM (fun s r =>
    match (expandWhole (substitute recur) r.target).run s with
    | .ok (m, s) => (redirect s r (String.ofList m.text)).mapError fun text => (text, s)
    | .error (f, s) => .error (f.message, s)) s

/-- Runs something with redirections, which do not last. -/
def withRedirects (recur : Recur) (line : Nat) (rs : List Redirect) (run : State → State)
    (s : State) : State :=
  match redirectAll recur rs s with
  | .ok t => { run t with descriptors := s.descriptors }
  | .error (text, t) => ({ t with descriptors := s.descriptors }.complain line text).ended 2

/-! ## Commands of the shell itself -/

def signalNumber? (name : String) : Option Nat :=
  match name.toNat? with
  | some n => some n
  | none =>
      let name := if name.startsWith "SIG" then name else "SIG" ++ name
      (ExitStatus.signalNames.findIdx? (· = name)).map (· + 1)

/-- The signals that do not end a process. -/
def harmlessSignals : List Nat := [0, 17, 18, 23, 28]

def killUsage : String :=
  "kill: Usage: kill [-s sigspec | -signum | -sigspec] [pid | job]... or\n" ++
    "kill -l [exitstatus]"

/-- Sends a signal to processes, of which there is only the shell itself. -/
def kill (line : Nat) (args : List String) (s : State) : State :=
  let (signal?, targets) := match args with
    | "-s" :: name :: rest => (signalNumber? name, rest)
    | arg :: rest =>
        match arg.toList with
        | '-' :: name => (signalNumber? (String.ofList name), rest)
        | _ => (some 15, arg :: rest)
    | [] => (some 15, [])
  match signal? with
  | none => (s.complain line "kill: Illegal option").ended 2
  | some n =>
      if targets.isEmpty then (s.complain line killUsage).ended 2
      else if targets.any fun t => t ≠ toString State.processId then
        (s.complain line "kill: No such process").ended 1
      else if harmlessSignals.contains n then s.ended 0
      else { s with flow := .killed n }

/-- Does something with the number that the first argument is, or with the usual one. A shell
that is given no number there leaves. -/
def withNumber (line : Nat) (name : String) (args : List String) (usual : Nat)
    (next : Nat → State) (s : State) : State :=
  match args with
  | arg :: _ =>
      match arg.toNat? with
      | some n => next n
      | none => (s.complain line s!"{name}: Illegal number: {arg}").leave 2
  | [] => next usual

def shift (line : Nat) (n : Nat) (s : State) : State :=
  if n > s.arguments.length then (s.complain line "shift: can't shift that many").leave 2
  else { s with arguments := s.arguments.drop n }.ended 0

def changeDirectory (line : Nat) (args : List String) (s : State) : State :=
  let target := args.headD ((s.valueOf? "HOME").getD "")
  match s.files.resolve target with
  | .ok (l, .directory) =>
      { s with files := { s.files with workDirectory := l } }.ended 0
  | _ => (s.complain line s!"cd: can't cd to {target}").ended 2

/-- The name before the first equals sign of a word, and the value after it. -/
def splitSetting (w : String) : String × Option String :=
  let name := String.ofList (w.toList.takeWhile (· ≠ '='))
  match w.toList.dropWhile (· ≠ '=') with
  | _ :: value => (name, some (String.ofList value))
  | [] => (name, none)

/-- Assigns what settings say, and shows the variables to programs if asked. -/
def assignSettings (shown : Bool) (words : List String) (s : State) : State :=
  words.foldl (fun s w =>
    let (name, value) := splitSetting w
    let s := match value with
      | some v => s.assign name v
      | none => s
    if shown then s.export name else s) s

/-- Assigns the words of a text to variables, the last of which takes all that is left. -/
def assignWords : List String → List Char → State → State
  | [], _, s => s
  | [name], text, s => s.assign name (String.ofList text)
  | name :: names, text, s =>
      let word := text.takeWhile fun c => !Shell.isBlank c
      assignWords names ((text.drop word.length).dropWhile Shell.isBlank)
        (s.assign name (String.ofList word))

def readLine (args : List String) (s : State) : State :=
  let args := args.filter fun a => !a.startsWith "-"
  let data := s.input
  let line := data.takeWhile (· ≠ 10)
  let text := Text.trim (Text.Utf8.decodeLossy line)
  let s := assignWords args text.toList (s.setInput (data.drop (line.length + 1)))
  s.ended (if line.length < data.length then 0 else 1)

def setOptions (args : List String) (s : State) : State :=
  match args with
  | "-e" :: rest | "-eu" :: rest | "-ue" :: rest =>
      let s := { s with stopOnFailure := true }
      if rest.isEmpty then s.ended 0 else ({ s with arguments := rest }).ended 0
  | "+e" :: _ => { s with stopOnFailure := false }.ended 0
  | "--" :: rest => { s with arguments := rest }.ended 0
  | args =>
      if args.all fun a => a.startsWith "-" || a.startsWith "+" then s.ended 0
      else { s with arguments := args }.ended 0

def runUtility (line : Nat) (run : Utility) (name : String) (args : List String) (s : State) :
    State :=
  let r := run ⟨name, args, s.files, s.environment, s.input⟩
  let s := s.write 1 r.stdout
  let s := if r.stderr.isEmpty then s
    else (s.writeText 2 s!"{s.name}: {line}: ").write 2 r.stderr
  (s.setInput r.rest).ended r.status

def describe (s : State) (isBuiltin : Bool) (name : String) : Option String :=
  if isBuiltin || (s.functions.lookup name).isSome then some name
  else ((Host.findProgram s.files s.environment name).toOption).map (·.1)

/-- The utilities that the shell has itself. -/
def ownUtility? (name : String) : Option Utility :=
  match name with
  | "echo" => some Host.echoEscaped
  | "printf" => some (Host.printf .shell)
  | "test" | "[" => some Host.test
  | "true" | ":" => some Host.succeed
  | "false" => some Host.giveUp
  | "pwd" => some Host.printDirectory
  | _ => none

/-- The commands of the shell itself that are no utilities. -/
def ownCommands : List String :=
  [".", "break", "cd", "command", "continue", "eval", "exec", "exit", "export", "kill", "local",
   "read", "readonly", "return", "set", "shift", "trap", "umask", "unset", "wait"]

def isOwn (name : String) : Bool := (ownUtility? name).isSome || ownCommands.contains name

def runOwn (recur : Recur) (line : Nat) (name : String) (args : List String) (s : State) :
    State :=
  match name with
  | "exit" => withNumber line name args s.status s.leave s
  | "return" =>
      withNumber line name args s.status
        (fun n => { s with status := n, flow := .leaveFunction }) s
  | "break" =>
      withNumber line name args 1 (fun n => { s with status := 0, flow := .leaveLoop n }) s
  | "continue" =>
      withNumber line name args 1 (fun n => { s with status := 0, flow := .nextRound n }) s
  | "cd" => changeDirectory line args s
  | "export" => (assignSettings true args s).ended 0
  | "local" | "readonly" => (assignSettings false args s).ended 0
  | "unset" => (args.foldl State.unset s).ended 0
  | "shift" => withNumber line name args 1 (fun n => shift line n s) s
  | "set" => setOptions args s
  | "read" => readLine args s
  | "kill" => kill line args s
  | "eval" => runText recur (" ".intercalate args).toList (s.ended 0)
  | "." =>
      let path := args.headD ""
      match s.files.readText path with
      | .ok text => runText recur text.toList s
      | .error _ => (s.complain line s!".: cannot open {path}: No such file").leave 2
  | "trap" =>
      match args with
      | [text, "EXIT"] | [text, "0"] => { s with atExit := some text }.ended 0
      | _ => s.ended 0
  | "command" =>
      match args with
      | "-v" :: name :: _ =>
          match describe s (isOwn name) name with
          | some text => (s.writeText 1 (text ++ "\n")).ended 0
          | none => s.ended 127
      | program :: args => runProgram recur line program args [] s
      | [] => s.ended 0
  | "exec" =>
      match args with
      | [] => s.ended 0
      | program :: args =>
          let t := runProgram recur line program args [] s
          t.leave t.status
  | _ => s.ended 0

/-! ## Commands -/

def callFunction (recur : Recur) (body : Statement) (args : List String) (s : State) : State :=
  let t := recur (.perform body) { s with arguments := args }
  { t with
    arguments := s.arguments,
    flow := if t.flow = .leaveFunction then .onward else t.flow }

/-- Runs a command that has been expanded to words. -/
def runWords (recur : Recur) (line : Nat) (settings : List (String × String)) (name : String)
    (args : List String) (s : State) : State :=
  match s.functions.lookup name with
  | some body => callFunction recur body args s
  | none =>
      match ownUtility? name with
      | some run => runUtility line run name args s
      | none =>
          if ownCommands.contains name then runOwn recur line name args s
          else runProgram recur line name args settings s

def expandSettings (recur : Recur) (assignments : List (String × Word)) :
    Expanding (List (String × String)) :=
  assignments.mapM fun (name, w) => do
    let m ← expandWhole (substitute recur) w
    pure (name, String.ofList m.text)

def runSimple (recur : Recur) (line : Nat) (assignments : List (String × Word))
    (words : List Word) (redirects : List Redirect) (s : State) : State :=
  let expanding : Expanding (List String × List (String × String)) := do
    let words ← expandWords (substitute recur) words
    let settings ← expandSettings recur assignments
    pure (words, settings)
  match expanding.run { s with substituted := none } with
  | .error (f, s) => (s.complain line f.message).leave 2
  | .ok ((words, settings), s) =>
      if !s.goesOn then s
      else
        match words with
        | [] =>
            let s := settings.foldl (fun s (name, value) => s.assign name value) s
            withRedirects recur line redirects
              (fun s => s.ended (s.substituted.getD 0)) s
        | name :: args =>
            if name = "exec" && args.isEmpty then
              match redirectAll recur redirects s with
              | .ok t => t.ended 0
              | .error (text, t) => (t.complain line text).leave 2
            else withRedirects recur line redirects
              (runWords recur line settings name args) s

/-- Runs a command whose failure is looked at. -/
def guarded (recur : Recur) (c : Statement) (s : State) : State :=
  { recur (.perform c) { s with guarded := true } with guarded := s.guarded }

/-- Whether a loop goes on after a round, and the shell after it. -/
def afterRound (s : State) : Bool × State :=
  match s.flow with
  | .onward => (true, s)
  | .nextRound n => if n ≤ 1 then (true, { s with flow := .onward })
      else (false, { s with flow := .nextRound (n - 1) })
  | .leaveLoop n => (false, { s with flow := if n ≤ 1 then .onward else .leaveLoop (n - 1) })
  | _ => (false, s)

def forValues (recur : Recur) (name : String) (body : Statement) : List String → State → State
  | [], s => s
  | value :: rest, s =>
      match afterRound (recur (.perform body) (s.assign name value)) with
      | (true, s) => forValues recur name body rest s
      | (false, s) => s

/-- The first part of a choice with a pattern that fits. -/
def chosen (recur : Recur) (subject : List Char) :
    List (List Word × Option Statement) → Expanding (Option (Option Statement))
  | [] => pure none
  | (patterns, body) :: rest => do
      let fits ← patterns.mapM fun w => do
        let m ← expandWhole (substitute recur) w
        pure (Pattern.fits (.ofMarked m) subject)
      if fits.any id then pure (some body) else chosen recur subject rest

def perform (recur : Recur) (c : Statement) (s : State) : State :=
  let also (next : State → State) (s : State) : State := if s.goesOn then next s else s
  match c with
  | .simple line assignments words redirects =>
      (runSimple recur line assignments words redirects s).checked
  | .sequence first second => also (recur (.perform second)) (recur (.perform first) s)
  | .both first second =>
      also (fun s => if s.status = 0 then recur (.perform second) s else s) (guarded recur first s)
  | .either first second =>
      also (fun s => if s.status ≠ 0 then recur (.perform second) s else s) (guarded recur first s)
  | .negated body => also (fun s => s.ended (if s.status = 0 then 1 else 0)) (guarded recur body s)
  | .pipe source target =>
      let (pipe, s) := s.addPipe []
      let t := inSubshell recur (fun s => recur (.perform source) (s.connect 1 (.pipe pipe)))
        { s with guarded := true }
      also (fun s => (inSubshell recur (fun s =>
        recur (.perform target) (s.connect 0 (.pipe pipe))) s).checked)
        { t with guarded := s.guarded }
  | .branch test body otherwise =>
      also (fun s =>
        if s.status = 0 then recur (.perform body) s
        else
          match otherwise with
          | some c => recur (.perform c) s
          | none => s.ended 0) (guarded recur test s)
  | .loop untilTrue test body => recur (.rounds untilTrue test body 0) s
  | .forEach name words body =>
      match words with
      | none => forValues recur name body s.arguments s
      | some words =>
          match (expandWords (substitute recur) words).run s with
          | .ok (values, s) => forValues recur name body values (s.ended 0)
          | .error (f, s) => (s.complain 1 f.message).leave 2
  | .choose subject arms =>
      let choosing : Expanding (Option (Option Statement)) := do
        let m ← expandWhole (substitute recur) subject
        chosen recur m.text arms
      match choosing.run s with
      | .ok (some (some body), s) => recur (.perform body) s
      | .ok (_, s) => s.ended 0
      | .error (f, s) => (s.complain 1 f.message).leave 2
  | .group body => recur (.perform body) s
  | .subshell body => (inSubshell recur (recur (.perform body)) s).checked
  | .redirected body redirects => withRedirects recur 1 redirects (recur (.perform body)) s
  | .define name body => { s with functions := (name, body) :: s.functions }.ended 0

/-- Does a task; the number bounds how many tasks follow one another. -/
def run : Nat → Recur
  | 0, _, s => s.leave 2
  | n + 1, .perform c, s => perform (run n) c s
  | n + 1, .rounds untilTrue test body status, s =>
      let s := guarded (run n) test s
      if !s.goesOn then (afterRound s).2
      else if decide (s.status = 0) = untilTrue then s.ended status
      else
        match afterRound (run n (.perform body) s) with
        | (true, s) => run n (.rounds untilTrue test body s.status) s
        | (false, s) => s

/-- How many tasks follow one another at most. -/
def longestRun : Nat := 10000000

def start : Launch := launch (run longestRun) deepestLaunch

end ComposeSite.Script
