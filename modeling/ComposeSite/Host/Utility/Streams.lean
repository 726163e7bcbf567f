/-
# ComposeSite.Host.Utility.Streams -- what flows through a program

Files and the input are read whole; what is written is a part of them, or counts them, or
has them in another order.
-/
import ComposeSite.Host.Utility.Names
import ComposeSite.Text.Split

set_option autoImplicit false

namespace ComposeSite.Host

/-- How a failure to open is told. -/
def openComplaint (name path : String) (f : IoFailure) : Bytes :=
  let text := match f with
    | .system code => IoFailure.systemText code
    | f => f.message
  Text.Utf8.encode s!"{name}: {path}: {text}\n"

/-- How many octets are read of a device that never ends. -/
def endless : Nat := 1048576

/-- The octets that a path leads to; devices are files too. -/
def openInput (files : FileTree) (path : String) : Except IoFailure Bytes :=
  if path = "/dev/null" then .ok []
  else if path = "/dev/zero" then .ok (List.replicate endless 0)
  else files.readOctets path

/-- The octets that an operand names; a hyphen is the input. -/
def operandOctets (i : Invocation) (path : String) : Except IoFailure Bytes :=
  if path = "-" then .ok i.input else openInput i.files path

/-- Writes something for each operand, or for the input if there are none. -/
def forOperands (i : Invocation) (operands : List String)
    (shown : Option String → Bytes → Bytes)
    (complaint : String → String → IoFailure → Bytes := openComplaint) : Report :=
  if operands.isEmpty then { stdout := shown none i.input }
  else
    operands.foldl (fun report path =>
      match operandOctets i path with
      | .ok data => { report with stdout := report.stdout ++ shown (some path) data }
      | .error f =>
          { report with stderr := report.stderr ++ complaint i.name path f, status := 1 })
      { rest := if operands.contains "-" then [] else i.input }

def concatenate (i : Invocation) : Report :=
  forOperands i (optionLetters i.args).2 fun _ data => data

def lines (data : Bytes) : List Bytes :=
  let parts := Text.split 10 data
  (parts.dropLast.map (· ++ [10])) ++
    (match parts.getLast? with
      | some (b :: bs) => [b :: bs]
      | _ => [])

/-- A number of lines or of octets; `fromStart` counts from the start where the end is
usual. -/
structure Extent where
  count : Nat := 10
  inOctets : Bool := false
  fromStart : Bool := false
  allBut : Bool := false

def Extent.set (e : Extent) (text : String) : Extent :=
  { e with
    count := (((text.toList.filter Char.isDigit) |> String.ofList).toNat?).getD 0,
    fromStart := text.startsWith "+", allBut := text.startsWith "-" }

def readExtent (e : Extent) : List String → Extent × List String
  | "-n" :: count :: rest => readExtent { e.set count with inOctets := false } rest
  | "-c" :: count :: rest => readExtent { e.set count with inOctets := true } rest
  | arg :: rest =>
      match arg.toList with
      | '-' :: 'n' :: c :: cs =>
          readExtent { e.set (String.ofList (c :: cs)) with inOctets := false } rest
      | '-' :: 'c' :: c :: cs =>
          readExtent { e.set (String.ofList (c :: cs)) with inOctets := true } rest
      | '-' :: c :: cs =>
          if c.isDigit then readExtent (e.set (String.ofList (c :: cs))) rest
          else (e, arg :: rest)
      | _ => (e, arg :: rest)
  | [] => (e, [])

/-- The line that a part of several is shown under. -/
def heading (operands : List String) (path : Option String) : Bytes :=
  match path with
  | some path =>
      if operands.length > 1 then
        let gap := if operands.head? = some path then "" else "\n"
        Text.Utf8.encode s!"{gap}==> {path} <==\n"
      else []
  | none => []

def partComplaint (name path : String) (f : IoFailure) : Bytes :=
  let text := match f with
    | .system code => IoFailure.systemText code
    | f => f.message
  Text.Utf8.encode s!"{name}: cannot open '{path}' for reading: {text}\n"

def head (i : Invocation) : Report :=
  let (e, operands) := readExtent {} i.args
  forOperands i operands (fun path data =>
    heading operands path ++
      (if e.inOctets then
        if e.allBut then data.take (data.length - e.count) else data.take e.count
      else
        let ls := lines data
        (if e.allBut then ls.take (ls.length - e.count) else ls.take e.count).flatten))
    partComplaint

def tail (i : Invocation) : Report :=
  let (e, operands) := readExtent {} i.args
  forOperands i operands (fun path data =>
    heading operands path ++
      (if e.inOctets then
        if e.fromStart then data.drop (e.count - 1) else data.drop (data.length - e.count)
      else
        let ls := lines data
        (if e.fromStart then ls.drop (e.count - 1) else ls.drop (ls.length - e.count)).flatten))
    partComplaint

def wordCount (data : Bytes) : Nat :=
  let isSpace (b : UInt8) : Bool := b = 32 || (9 ≤ b && b ≤ 13)
  (data.foldl (fun (n, inWord) b =>
    if isSpace b then (n, false) else (if inWord then n else n + 1, true)) (0, false)).1

def padLeft (width : Nat) (text : String) : String :=
  String.ofList (List.replicate (width - text.length) ' ') ++ text

/-- Counts lines, words, characters and octets. -/
def count (i : Invocation) : Report :=
  let (letters, operands) := optionLetters i.args
  let wanted (c : Char) : Bool :=
    letters.contains c || (letters.isEmpty && ['l', 'w', 'c'].contains c)
  let counts (data : Bytes) : List Nat :=
    (if wanted 'l' then [data.count 10] else []) ++
    (if wanted 'w' then [wordCount data] else []) ++
    (if wanted 'm' then [(Text.Utf8.decodeLossy data).length] else []) ++
    (if wanted 'c' then [data.length] else [])
  let known := operands.filterMap fun path => (operandOctets i path).toOption
  let total := known.flatten.length
  let several := (counts []).length > 1
  let width :=
    if operands.isEmpty then (if several then 7 else 1)
    else if several || operands.length > 1 then (toString total).length else 1
  let shown (ns : List Nat) : String :=
    " ".intercalate (ns.map fun n => padLeft width (toString n))
  let report := forOperands i operands fun path data =>
    Text.Utf8.encode (match path with
      | some path => s!"{shown (counts data)} {path}\n"
      | none => shown (counts data) ++ "\n")
  if operands.length > 1 then
    { report with stdout := report.stdout ++
        Text.Utf8.encode (shown (counts known.flatten) ++ " total\n") }
  else report

def sequence (i : Invocation) : Report :=
  let range (first step last : Int) : Report :=
    if step = 0 then i.complains "invalid Zero increment value: '0'" 1
    else
      let n := if step > 0 then (last - first) / step + 1 else (first - last) / (-step) + 1
      i.writes (Text.Utf8.encode (String.join ((List.range n.toNat).map fun (k : Nat) =>
        s!"{first + step * k}\n")))
  match i.args.map String.toInt? with
  | [some last] => range 1 1 last
  | [some first, some last] => range first 1 last
  | [some first, some step, some last] => range first step last
  | [] => i.complains "missing operand\nTry 'seq --help' for more information." 1
  | _ => i.complains "invalid argument" 1

/-- Writes lines in order, or backwards, without repetition if asked. -/
def sort (i : Invocation) : Report :=
  let (letters, operands) := optionLetters i.args
  let key (l : Bytes) : Int :=
    (((String.ofList ((Text.Utf8.decodeLossy l).toList.takeWhile fun c =>
      c.isDigit || c = '-')).toInt?).getD 0)
  let textOrder (a b : Bytes) : Bool := decide (a ≤ b)
  let order (a b : Bytes) : Bool :=
    if letters.contains 'n' && key a ≠ key b then key a ≤ key b else textOrder a b
  let report := forOperands i operands fun _ data => data
  let ls := (Text.split 10 report.stdout)
  let ls := (if ls.getLast? = some [] then ls.dropLast else ls).mergeSort order
  let ls := if letters.contains 'u' then ls.eraseDups else ls
  let ls := if letters.contains 'r' then ls.reverse else ls
  { report with stdout := ls.flatMap (· ++ [10]) }

/-- The octets that a set of tr names: escapes, and ranges of characters. -/
def octetSet (octets : Bytes) : Bytes :=
  match octets with
  | low :: 45 :: high :: rest =>
      ((List.range (high.toNat + 1 - low.toNat)).map fun n => low + UInt8.ofNat n) ++
        octetSet rest
  | b :: rest => b :: octetSet rest
  | [] => []

/-- Reads the escapes of a set; the number bounds its length. -/
def setOctets : Nat → List Char → Bytes
  | 0, _ => []
  | _ + 1, [] => []
  | n + 1, '\\' :: c :: rest =>
      let digits := ((c :: rest).take 3).takeWhile fun d => '0' ≤ d && d ≤ '7'
      if digits.isEmpty then
        let control := [('n', (10 : UInt8)), ('t', 9), ('r', 13), ('\\', 92)].lookup c
        (control.elim (Text.Utf8.encode (String.ofList [c])) fun b => [b]) ++ setOctets n rest
      else UInt8.ofNat (digits.foldl (fun m d => 8 * m + (d.toNat - 48)) 0) ::
        setOctets n ((c :: rest).drop digits.length)
  | n + 1, c :: rest => Text.Utf8.encode (String.ofList [c]) ++ setOctets n rest

def translate (i : Invocation) : Report :=
  let (letters, operands) := optionLetters i.args
  let set (text : String) : Bytes := octetSet (setOctets (text.length + 1) text.toList)
  match operands with
  | [unwanted] =>
      if letters.contains 'd' then
        { stdout := i.input.filter fun b => !(set unwanted).contains b }
      else i.complains "missing operand" 1
  | [source, target] =>
      let target := set target
      let pairs := (set source).zipIdx.map fun (b, n) =>
        (b, (target[n]?).getD (target.getLast?.getD b))
      { stdout := i.input.map fun b => (pairs.lookup b).getD b }
  | _ => i.complains "missing operand" 1

def pipeCapacity : Nat := 65536

/-- Writes a line again and again, until the pipe that it writes to is full. -/
def repeatLine (i : Invocation) : Report :=
  let line := Text.Utf8.encode ((if i.args.isEmpty then "y" else " ".intercalate i.args) ++ "\n")
  { i.writes (List.replicate (pipeCapacity / line.length + 1) line).flatten with status := 141 }

end ComposeSite.Host
