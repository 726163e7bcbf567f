/-
# ComposeSite.Host.Utility.Printing -- echo and printf

Both write their arguments.  An escape is a backslash with a letter, or with up to
three digits in base eight that name an octet.
-/
import ComposeSite.Host.Utility.Basic

set_option autoImplicit false

namespace ComposeSite.Host

/-! ## Escapes -/

/-- What one step of reading escapes gives: octets, or the order to stop. -/
inductive Escape where
  | octets (data : Bytes)
  | stop
  deriving DecidableEq, Repr

/-- The octet that a letter after a backslash stands for. -/
def controlOctet? (c : Char) : Option UInt8 :=
  [('a', 7), ('b', 8), ('f', 12), ('n', 10), ('r', 13), ('t', 9), ('v', 11), ('\\', 92)].lookup c

def isOctal (c : Char) : Bool := '0' ≤ c && c ≤ '7'

def octalOctet (cs : List Char) : UInt8 :=
  UInt8.ofNat (cs.foldl (fun n c => 8 * n + (c.toNat - '0'.toNat)) 0)

/-- Whether a printing command is part of the shell or a program of its own, which knows
digits in base sixteen too. -/
inductive Maker where
  | shell
  | program
  deriving DecidableEq, Repr

/-- Which digits in base eight name an octet: up to three after a backslash, or up to three
after a backslash and a nought. -/
inductive OctalStyle where
  | plain
  | afterNought
  deriving DecidableEq, Repr

def readEscape (m : Maker) (style : OctalStyle) : List Char → Escape × List Char
  | [] => (.octets [92], [])
  | 'c' :: _ => (.stop, [])
  | c :: rest =>
      let named? := (rest.take 2).takeWhile fun d => (Hex.value? d).isSome
      let (start, octal) := match style with
        | .plain => (isOctal c, c :: rest)
        | .afterNought => (c = '0', rest)
      match controlOctet? c with
      | some b => (.octets [b], rest)
      | none =>
          if start then
            let digits := (octal.take 3).takeWhile isOctal
            (.octets [octalOctet digits], octal.drop digits.length)
          else if m = .program && c = 'x' && !named?.isEmpty then
            (.octets [UInt8.ofNat (named?.foldl (fun n d =>
              16 * n + (Hex.value? d).getD 0) 0)], rest.drop named?.length)
          else (.octets (92 :: Text.Utf8.encode (String.ofList [c])), rest)

/-- The octets of a text with escapes, and whether it says to stop; the number bounds its
length. -/
def unescaped (m : Maker) : Nat → List Char → Bytes × Bool
  | 0, _ => ([], false)
  | _ + 1, [] => ([], false)
  | n + 1, '\\' :: rest =>
      match readEscape m .afterNought rest with
      | (.stop, _) => ([], true)
      | (.octets data, rest) =>
          let (more, stop) := unescaped m n rest
          (data ++ more, stop)
  | n + 1, c :: rest =>
      let (more, stop) := unescaped m n rest
      (Text.Utf8.encode (String.ofList [c]) ++ more, stop)

/-- The octets of a text with escapes, and whether it says to stop. -/
def ofEscaped (m : Maker) (text : String) : Bytes × Bool :=
  unescaped m (text.toList.length + 1) text.toList

/-! ## Echo -/

/-- Writes arguments with blanks between them, reading escapes. -/
def echoEscaped (i : Invocation) : Report :=
  let (lineEnd, words) := match i.args with
    | "-n" :: rest => ("", rest)
    | words => ("\n", words)
  let (data, stop) := ofEscaped .shell (" ".intercalate words)
  i.writes (if stop then data else data ++ Text.Utf8.encode lineEnd)

/-- Whether an argument is made of options of echo. -/
def isEchoOption (arg : String) : Bool :=
  match arg.toList with
  | '-' :: c :: rest => (c :: rest).all ['n', 'e', 'E'].contains
  | _ => false

def echo (i : Invocation) : Report :=
  let options := (i.args.takeWhile isEchoOption).flatMap fun a => a.toList.drop 1
  let text := " ".intercalate (i.args.dropWhile isEchoOption)
  let lineEnd := if options.contains 'n' then "" else "\n"
  if (options.filter (· ≠ 'n')).getLast? = some 'e' then
    let (data, stop) := ofEscaped .program text
    i.writes (if stop then data else data ++ Text.Utf8.encode lineEnd)
  else i.writes (Text.Utf8.encode (text ++ lineEnd))

/-! ## Printf -/

/-- How an argument is written. -/
structure Conversion where
  flags : List Char
  width : Nat
  precision : Option Nat
  kind : Char
  deriving DecidableEq, Repr

def decimal (cs : List Char) : Nat := ((String.ofList cs).toNat?).getD 0

def readConversion (cs : List Char) : Option (Conversion × List Char) :=
  let isFlag := ['-', '+', ' ', '0', '#'].contains
  let flags := cs.takeWhile isFlag
  let cs := cs.dropWhile isFlag
  let width := cs.takeWhile Char.isDigit
  let cs := cs.dropWhile Char.isDigit
  let (precision, cs) := match cs with
    | '.' :: rest => (some (decimal (rest.takeWhile Char.isDigit)), rest.dropWhile Char.isDigit)
    | cs => (none, cs)
  match cs with
  | kind :: rest => some (⟨flags, decimal width, precision, kind⟩, rest)
  | [] => none

def Conversion.pad (v : Conversion) (data : Bytes) : Bytes :=
  let fill := List.replicate (v.width - data.length) 32
  if v.flags.contains '-' then data ++ fill else fill ++ data

/-- The digits of a number in a base, in lower case. -/
def digitsIn (base n : Nat) : String := String.ofList (Nat.toDigits base n)

def Conversion.number (v : Conversion) (n : Int) : Bytes :=
  let unsigned := (n.emod 0x10000000000000000).toNat
  let digits := match v.kind with
    | 'o' => digitsIn 8 unsigned
    | 'x' => digitsIn 16 unsigned
    | 'X' => (digitsIn 16 unsigned).toUpper
    | 'u' => digitsIn 10 unsigned
    | _ => digitsIn 10 n.natAbs
  let signed := v.kind = 'd' || v.kind = 'i'
  let mark :=
    if v.flags.contains '#' && v.kind = 'x' then "0x"
    else if v.flags.contains '#' && v.kind = 'X' then "0X"
    else if !signed then ""
    else if n < 0 then "-"
    else if v.flags.contains '+' then "+"
    else if v.flags.contains ' ' then " "
    else ""
  let least := match v.precision with
    | some p => p
    | none =>
        if v.flags.contains '0' && !v.flags.contains '-' then v.width - mark.length else 1
  let zeros := String.ofList (List.replicate (least - digits.length) '0')
  v.pad (Text.Utf8.encode (mark ++ zeros ++ digits))

/-- The number that an argument is, and whether all of it is a number. -/
def argumentNumber (text : String) : Int × Bool :=
  let (negative, cs) := match text.toList.dropWhile (· = ' ') with
    | '-' :: rest => (true, rest)
    | '+' :: rest => (false, rest)
    | cs => (false, cs)
  let signed (n : Nat) : Int := if negative then -n else n
  match cs with
  | [] => (0, text.isEmpty)
  | ['"', c] | ['\'', c] => (c.toNat, true)
  | cs =>
      let digits := cs.takeWhile Char.isDigit
      (signed (decimal digits), !digits.isEmpty && digits.length = cs.length)

structure Printf where
  maker : Maker
  output : Bytes := []
  args : List String
  usedAny : Bool := false
  stopped : Bool := false
  complaint : Option String := none
  deriving DecidableEq, Repr

namespace Printf

def write (p : Printf) (data : Bytes) : Printf := { p with output := p.output ++ data }

/-- Takes the next argument; one that is missing is empty. -/
def next (p : Printf) : String × Printf :=
  (p.args.headD "", { p with args := p.args.drop 1, usedAny := true })

def convert (p : Printf) (v : Conversion) : Printf :=
  match v.kind with
  | '%' => p.write [37]
  | 's' =>
      let (arg, p) := p.next
      let data := Text.Utf8.encode arg
      p.write (v.pad (match v.precision with
        | some n => data.take n
        | none => data))
  | 'c' =>
      let (arg, p) := p.next
      p.write (v.pad ((Text.Utf8.encode arg).take 1))
  | 'b' =>
      let (arg, p) := p.next
      let (data, stop) := ofEscaped p.maker arg
      { p.write (v.pad data) with stopped := stop }
  | 'd' | 'i' | 'o' | 'u' | 'x' | 'X' =>
      let (arg, p) := p.next
      let (n, whole) := argumentNumber arg
      let p := p.write (v.number n)
      if whole then p
      else
        { p with complaint := some (match p.maker with
          | .shell => s!"{arg}: expected numeric value"
          | .program => s!"'{arg}': expected a numeric value") }
  | kind =>
      let kind := String.ofList [kind]
      { p with stopped := true, complaint := some s!"%{kind}: invalid directive" }

/-- Follows a format once; the number bounds its length. -/
def follow : Nat → List Char → Printf → Printf
  | 0, _, p => p
  | _ + 1, [], p => p
  | n + 1, '\\' :: rest, p =>
      match readEscape p.maker .plain rest with
      | (.stop, _) => { p with stopped := true }
      | (.octets data, rest) => follow n rest (p.write data)
  | n + 1, '%' :: rest, p =>
      match readConversion rest with
      | some (v, rest) =>
          let p := p.convert v
          if p.stopped then p else follow n rest p
      | none => p.write [37]
  | n + 1, c :: rest, p => follow n rest (p.write (Text.Utf8.encode (String.ofList [c])))

/-- Follows a format until there are no arguments left; the number bounds how often. -/
def followAll : Nat → List Char → Printf → Printf
  | 0, _, p => p
  | n + 1, format, p =>
      let p := follow (format.length + 1) format { p with usedAny := false }
      if p.stopped || p.args.isEmpty || !p.usedAny then p else followAll n format p

end Printf

def printf (m : Maker) (i : Invocation) : Report :=
  let args := match i.args with
    | "--" :: rest => rest
    | args => args
  match args with
  | [] =>
      match m with
      | .shell => i.complains "usage: printf format [arg ...]" 2
      | .program =>
          i.complains "missing operand\nTry 'printf --help' for more information." 1
  | format :: args =>
      let p := Printf.followAll (args.length + 1) format.toList { maker := m, args }
      match p.complaint with
      | some text => { i.complains text 1 with stdout := p.output }
      | none => i.writes p.output

end ComposeSite.Host
