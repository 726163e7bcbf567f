/-
# ComposeSite.Script.Arithmetic -- sums in scripts

Values are whole numbers of 64 bits that wrap.  A name stands for the number that its
variable holds, and one without a value for nought.
-/
import ComposeSite.Shell.Token

set_option autoImplicit false

namespace ComposeSite.Script

/-! ## Expressions -/

inductive BinaryOp where
  | add | sub | mul | div | rem | shiftLeft | shiftRight
  | less | lessEqual | greater | greaterEqual | equal | different
  | bitAnd | bitXor | bitOr | both | either
  deriving DecidableEq, Repr

inductive UnaryOp where
  | plus | minus | complement | not
  deriving DecidableEq, Repr

inductive Sum where
  | number (n : Int)
  | named (name : String)
  | unary (op : UnaryOp) (a : Sum)
  | binary (op : BinaryOp) (a b : Sum)
  | choice (test a b : Sum)
  deriving Repr

/-- Why an expression has no value. -/
inductive SumFault where
  | malformed
  | divisionByZero
  | badNumber (text : String)
  deriving DecidableEq, Repr

/-- The number of 64 bits that a number wraps to. -/
def wrap (n : Int) : Int := n.bmod 0x10000000000000000

def truth (b : Bool) : Int := if b then 1 else 0

namespace BinaryOp

/-- The operators with how tightly they bind. -/
def spellings : List (String × Nat × BinaryOp) :=
  [("||", 1, either), ("&&", 2, both), ("|", 3, bitOr), ("^", 4, bitXor), ("&", 5, bitAnd),
   ("==", 6, equal), ("!=", 6, different), ("<", 7, less), ("<=", 7, lessEqual),
   (">", 7, greater), (">=", 7, greaterEqual), ("<<", 8, shiftLeft), (">>", 8, shiftRight),
   ("+", 9, add), ("-", 9, sub), ("*", 10, mul), ("/", 10, div), ("%", 10, rem)]

def toWord (n : Int) : UInt64 := UInt64.ofInt n

def ofWord (w : UInt64) : Int := wrap w.toNat

def apply (op : BinaryOp) (a b : Int) : Except SumFault Int :=
  match op with
  | add => .ok (wrap (a + b))
  | sub => .ok (wrap (a - b))
  | mul => .ok (wrap (a * b))
  | div => if b = 0 then .error .divisionByZero else .ok (wrap (a.tdiv b))
  | rem => if b = 0 then .error .divisionByZero else .ok (wrap (a.tmod b))
  | shiftLeft => .ok (wrap (a * Int.pow 2 (b.emod 64).toNat))
  | shiftRight => .ok (a.fdiv (Int.pow 2 (b.emod 64).toNat))
  | less => .ok (truth (a < b))
  | lessEqual => .ok (truth (a ≤ b))
  | greater => .ok (truth (a > b))
  | greaterEqual => .ok (truth (a ≥ b))
  | equal => .ok (truth (a = b))
  | different => .ok (truth (a ≠ b))
  | bitAnd => .ok (ofWord (toWord a &&& toWord b))
  | bitXor => .ok (ofWord (toWord a ^^^ toWord b))
  | bitOr => .ok (ofWord (toWord a ||| toWord b))
  | both => .ok (truth (a ≠ 0 && b ≠ 0))
  | either => .ok (truth (a ≠ 0 || b ≠ 0))

end BinaryOp

def UnaryOp.apply (op : UnaryOp) (a : Int) : Int :=
  match op with
  | plus => a
  | minus => wrap (-a)
  | complement => -a - 1
  | not => truth (a = 0)

def digits? (base : Nat) (cs : List Char) : Option Nat :=
  if cs.isEmpty then none
  else cs.foldlM (fun n c =>
    let digit? :=
      if '0' ≤ c ∧ c ≤ '9' then some (c.toNat - '0'.toNat)
      else if 'a' ≤ c ∧ c ≤ 'f' then some (c.toNat - 'a'.toNat + 10)
      else if 'A' ≤ c ∧ c ≤ 'F' then some (c.toNat - 'A'.toNat + 10)
      else none
    match digit? with
    | some d => if d < base then some (n * base + d) else none
    | none => none) 0

/-- The number that is written like this: with a nought in front in base eight, and with an
x after it in base sixteen. -/
def number? (cs : List Char) : Option Int :=
  match cs with
  | '0' :: 'x' :: rest | '0' :: 'X' :: rest => (digits? 16 rest).map Int.ofNat
  | '0' :: c :: rest => (digits? 8 (c :: rest)).map Int.ofNat
  | cs => (digits? 10 cs).map Int.ofNat

namespace Sum

def ofVariable (text : String) : Except SumFault Int :=
  let cs := text.toList.dropWhile Shell.isBlank
  match cs with
  | [] => .ok 0
  | '-' :: rest => ((number? rest).map fun n => -n).elim (.error (.badNumber text)) .ok
  | '+' :: rest => (number? rest).elim (.error (.badNumber text)) .ok
  | cs => (number? cs).elim (.error (.badNumber text)) .ok

/-- The value of an expression. The right side of a decided conjunction is not looked
at. -/
def value (lookup : String → String) : Sum → Except SumFault Int
  | number n => .ok (wrap n)
  | named name => ofVariable (lookup name)
  | unary op a => do return op.apply (← value lookup a)
  | binary .both a b => do
      if (← value lookup a) = 0 then pure 0 else return truth ((← value lookup b) ≠ 0)
  | binary .either a b => do
      if (← value lookup a) ≠ 0 then pure 1 else return truth ((← value lookup b) ≠ 0)
  | binary op a b => do
      let x ← value lookup a
      let y ← value lookup b
      op.apply x y
  | choice test a b => do
      if (← value lookup test) ≠ 0 then value lookup a else value lookup b

/-! ## Reading -/

/-- A part of an expression's text. -/
inductive Symbol where
  | number (n : Int)
  | name (text : String)
  | sign (text : String)
  deriving DecidableEq, Repr

def longSigns : List (List Char) :=
  ["||", "&&", "==", "!=", "<=", ">=", "<<", ">>"].map String.toList

def shortSigns : List Char :=
  ['|', '^', '&', '<', '>', '+', '-', '*', '/', '%', '!', '~', '(', ')', '?', ':']

/-- Reads the parts of an expression's text; the number bounds its length. -/
def symbols : Nat → List Char → Except SumFault (List Symbol)
  | 0, _ => .ok []
  | _ + 1, [] => .ok []
  | n + 1, c :: rest =>
      if Shell.isBlank c || c = '\n' then symbols n rest
      else if Shell.startsName c then
        let name := c :: rest.takeWhile Shell.continuesName
        (symbols n (rest.dropWhile Shell.continuesName)).map (.name (String.ofList name) :: ·)
      else if c.isDigit then
        let text := c :: rest.takeWhile Shell.continuesName
        match number? text with
        | some v => (symbols n (rest.dropWhile Shell.continuesName)).map (.number v :: ·)
        | none => .error .malformed
      else if longSigns.contains (c :: rest.take 1) then
        (symbols n (rest.drop 1)).map (.sign (String.ofList (c :: rest.take 1)) :: ·)
      else if shortSigns.contains c then
        (symbols n rest).map (.sign (String.ofList [c]) :: ·)
      else .error .malformed

/-- What is to be read: a whole expression, one operand, or what follows a left side in
operators that bind at least so tightly. -/
inductive Goal where
  | whole
  | operand
  | level (least : Nat)
  | after (least : Nat) (left : Sum)

/-- Reads what a goal names; the number bounds how deep reading goes. -/
def read : Nat → Goal → StateT (List Symbol) (Except SumFault) Sum
  | 0, _ => throw .malformed
  | n + 1, .whole => do
      let test ← read n (.level 1)
      match ← get with
      | .sign "?" :: rest =>
          set rest
          let a ← read n .whole
          match ← get with
          | .sign ":" :: rest =>
              set rest
              return .choice test a (← read n .whole)
          | _ => throw .malformed
      | _ => pure test
  | n + 1, .operand => do
      match ← get with
      | .number v :: rest => set rest; pure (.number v)
      | .name text :: rest => set rest; pure (.named text)
      | .sign "(" :: rest =>
          set rest
          let inner ← read n .whole
          match ← get with
          | .sign ")" :: rest => set rest; pure inner
          | _ => throw .malformed
      | .sign "-" :: rest => set rest; return .unary .minus (← read n .operand)
      | .sign "+" :: rest => set rest; return .unary .plus (← read n .operand)
      | .sign "!" :: rest => set rest; return .unary .not (← read n .operand)
      | .sign "~" :: rest => set rest; return .unary .complement (← read n .operand)
      | _ => throw .malformed
  | n + 1, .level least => do read n (.after least (← read n .operand))
  | n + 1, .after least left => do
      match ← get with
      | .sign text :: rest =>
          match BinaryOp.spellings.lookup text with
          | some (level, op) =>
              if level < least then pure left
              else
                set rest
                let right ← read n (.level (level + 1))
                read n (.after least (.binary op left right))
          | none => pure left
      | _ => pure left

def ofText (text : List Char) : Except SumFault Sum := do
  let parts ← symbols (text.length + 1) text
  if parts.isEmpty then pure (.number 0)
  else
    let (sum, rest) ← (read (16 * (parts.length + 2)) .whole).run parts
    if rest.isEmpty then pure sum else throw .malformed

end Sum

end ComposeSite.Script
