/-
# ComposeSite.Host.Utility.Condition -- test

A condition is read by the number of its words: none is false, one is true unless it is
empty, two are an operator and what it is about, three have an operator in the middle.
Longer ones are joined by connectives.
-/
import ComposeSite.Host.Utility.Basic

set_option autoImplicit false

namespace ComposeSite.Host

/-- Why a condition has no truth value. -/
inductive ConditionFault where
  | illegalNumber (text : String)
  | unexpectedOperator (text : String)
  | missingBracket
  deriving DecidableEq, Repr

def ConditionFault.message : ConditionFault → String
  | illegalNumber text => s!"Illegal number: {text}"
  | unexpectedOperator text => s!"{text}: unexpected operator"
  | missingBracket => "missing ]"

namespace Condition

def number (text : String) : Except ConditionFault Int :=
  let trimmed := (text.toList.dropWhile (· = ' ')).reverse.dropWhile (· = ' ') |>.reverse
  let digits? (cs : List Char) : Option Nat :=
    if !cs.isEmpty && cs.all Char.isDigit then (String.ofList cs).toNat? else none
  let value? := match trimmed with
    | '-' :: rest => (digits? rest).map fun n => -Int.ofNat n
    | '+' :: rest => (digits? rest).map Int.ofNat
    | cs => (digits? cs).map Int.ofNat
  value?.elim (.error (.illegalNumber text)) .ok

def unary? (files : FileTree) (op : String) : Option (String → Bool) :=
  let found (path : String) : Option Entry := ((files.resolve path).toOption).map (·.2)
  let isFile : Option Entry → Bool
    | some (.file ..) => true
    | _ => false
  match op with
  | "-n" => some fun w => !w.isEmpty
  | "-z" => some fun w => w.isEmpty
  | "-e" => some fun w => (found w).isSome
  | "-r" | "-w" => some fun w => (found w).isSome
  | "-f" => some fun w => isFile (found w)
  | "-d" => some fun w => found w = some .directory
  | "-S" => some fun w => found w = some .socket
  | "-s" => some fun w => match found w with
      | some (.file content _) => !content.isEmpty
      | some .directory => true
      | _ => false
  | "-x" => some fun w => match found w with
      | some (.file _ executable) => executable
      | some .directory => true
      | _ => false
  | "-L" | "-h" | "-p" | "-b" | "-c" | "-t" => some fun _ => false
  | _ => none

def binary? (op : String) : Option (String → String → Except ConditionFault Bool) :=
  let compare (holds : Int → Int → Bool) (a b : String) : Except ConditionFault Bool := do
    let a ← number a
    let b ← number b
    pure (holds a b)
  match op with
  | "=" | "==" => some fun a b => .ok (a = b)
  | "!=" => some fun a b => .ok (a ≠ b)
  | "<" => some fun a b => .ok (decide (a < b))
  | ">" => some fun a b => .ok (decide (b < a))
  | "-eq" => some (compare (· = ·))
  | "-ne" => some (compare (· ≠ ·))
  | "-lt" => some (compare (· < ·))
  | "-le" => some (compare (· ≤ ·))
  | "-gt" => some (compare (· > ·))
  | "-ge" => some (compare (· ≥ ·))
  | _ => none

/-- The words before and after the first connective. -/
def cut? (connective : String) (words : List String) : Option (List String × List String) :=
  match words.dropWhile (· ≠ connective) with
  | _ :: after => some (words.takeWhile (· ≠ connective), after)
  | [] => none

/-- Whether a condition holds; the number bounds its length. -/
def holds (files : FileTree) : Nat → List String → Except ConditionFault Bool
  | 0, _ => .ok false
  | _ + 1, [] => .ok false
  | _ + 1, [w] => .ok (!w.isEmpty)
  | n + 1, [op, w] =>
      if op = "!" then (holds files n [w]).map (!·)
      else
        match unary? files op with
        | some p => .ok (p w)
        | none => .error (.unexpectedOperator op)
  | n + 1, a :: op :: rest =>
      match binary? op, rest with
      | some r, [b] => r a b
      | _, _ =>
          match cut? "-o" (a :: op :: rest) with
          | some (before, after) => do
              let first ← holds files n before
              let second ← holds files n after
              pure (first || second)
          | none =>
              match cut? "-a" (a :: op :: rest) with
              | some (before, after) => do
                  let first ← holds files n before
                  let second ← holds files n after
                  pure (first && second)
              | none =>
                  if a = "!" then (holds files n (op :: rest)).map (!·)
                  else if a = "(" && rest.getLast? = some ")" then
                    holds files n (op :: rest).dropLast
                  else .error (.unexpectedOperator op)

end Condition

def test (i : Invocation) : Report :=
  let words := if i.name = "[" then i.args.dropLast else i.args
  if i.name = "[" && i.args.getLast? ≠ some "]" then
    i.complains ConditionFault.missingBracket.message 2
  else
    match Condition.holds i.files (words.length + 1) words with
    | .ok true => i.ends 0
    | .ok false => i.ends 1
    | .error f => i.complains f.message 2

end ComposeSite.Host
