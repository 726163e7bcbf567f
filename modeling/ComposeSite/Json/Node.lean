/-
# ComposeSite.Json.Node -- JSON text as a tree of places

Reading a text never fails: it gives a tree in which a defect stands where the
reader met it (`Node.broken`), and everything before it is there.  A decoder that
walks the tree in the order of the text therefore reports a fault of the data if
it comes before the defect, and the defect otherwise.

The same text can be read for its data or skipped over, and a few defects are
worded differently in the two cases; both wordings are kept.
-/
import ComposeSite.Bytes
import ComposeSite.Json.Fault
import ComposeSite.Json.Value

set_option autoImplicit false

namespace ComposeSite.Json

/-- A defect as a reader of the data and as one who skips the value meets it. -/
structure Break where
  read : Fault
  skipped : Fault
  deriving DecidableEq, Repr

namespace Break

/-- A defect that reads the same in both cases. -/
def same (f : Fault) : Break := ⟨f, f⟩

end Break

/-- How a list or object ends. -/
inductive Tail where
  | closed (stop : Position)
  | broken (b : Break)
  deriving Repr

/-- A value with the places where it starts and stops. `start` is the place of its first
character, `stop` the place after its last. -/
inductive Node where
  | null (start stop : Position)
  | bool (b : Bool) (start stop : Position)
  | number (n : Number) (start stop : Position)
  | text (s : Except Fault String) (start stop : Position)
  | array (start : Position) (items : List Node) (tail : Tail)
  | object (start : Position) (members : List (Except Fault String × Position × Node))
      (tail : Tail)
  | broken (start : Position) (b : Break)
  deriving Repr

namespace Node

def start : Node → Position
  | null s _ | bool _ s _ | number _ s _ | text _ s _ | array s _ _ | object s _ _
  | broken s _ => s

end Node

mutual

/-- The defect met by skipping over a value, if any. -/
def Node.skip : Node → Option Fault
  | .array _ items tail => (skipItems items).or (tail.skip)
  | .object _ members tail => (skipMembers members).or (tail.skip)
  | .broken _ b => some b.skipped
  | _ => none

def skipItems : List Node → Option Fault
  | [] => none
  | n :: rest => n.skip.or (skipItems rest)

def skipMembers : List (Except Fault String × Position × Node) → Option Fault
  | [] => none
  | (_, _, n) :: rest => n.skip.or (skipMembers rest)

/-- The defect at the end of a list or object, if it has no end. -/
def Tail.skip : Tail → Option Fault
  | .closed _ => none
  | .broken b => some b.skipped

end

/-! ## Reading -/

/-- The unread text and the place where it starts. -/
structure Cursor where
  rest : List Char
  line : Nat
  column : Nat

namespace Cursor

def ofChars (cs : List Char) : Cursor := ⟨cs, 1, 0⟩

def place (c : Cursor) : Position := ⟨c.line, c.column⟩

/-- Steps over one character; columns count octets. -/
def next (c : Cursor) : Cursor :=
  match c.rest with
  | [] => c
  | '\n' :: rest => ⟨rest, c.line + 1, 0⟩
  | ch :: rest => ⟨rest, c.line, c.column + ch.utf8Size⟩

/-- The place after the next octet, at which a defect that the next character shows is
reported. -/
def peekPlace (c : Cursor) : Position :=
  match c.rest with
  | [] => c.place
  | '\n' :: _ => ⟨c.line + 1, 0⟩
  | _ => ⟨c.line, c.column + 1⟩

def skip : Nat → Cursor → Cursor
  | 0, c => c
  | n + 1, c => c.next.skip n

def isBlank (c : Char) : Bool := c = ' ' || c = '\n' || c = '\t' || c = '\r'

def blanks (c : Cursor) : Cursor :=
  c.skip (c.rest.takeWhile isBlank).length

end Cursor

/-- A defect shown by the next character. -/
def peekDefect (d : Defect) (c : Cursor) : Fault := .ofDefect d c.peekPlace

/-- A defect of what has been read. -/
def defectAt (d : Defect) (c : Cursor) : Fault := .ofDefect d c.place

/-- The characters of a word, of which the first has been seen. -/
def readWord (word : List Char) (c : Cursor) : Except Fault Cursor :=
  match word with
  | [] => .ok c
  | w :: ws =>
      match c.rest with
      | [] => .error (defectAt .endInValue c)
      | ch :: _ =>
          if ch = w then readWord ws c.next else .error (defectAt .expectedWord c.next)

/-- The value of four hexadecimal digits and the cursor after them. -/
def readHex (c : Cursor) : Except Fault (Nat × Cursor) :=
  match c.rest with
  | a :: b :: d :: e :: _ =>
      let after := c.skip 4
      match Hex.value? a, Hex.value? b, Hex.value? d, Hex.value? e with
      | some a, some b, some d, some e => .ok (((a * 16 + b) * 16 + d) * 16 + e, after)
      | _, _, _, _ => .error (defectAt .invalidEscape after)
  | rest => .error (defectAt .endInString (c.skip rest.length))

/-- What a text turns out to be: its characters so far in reverse, and the first defect
that only a reader of the data minds. -/
structure TextSoFar where
  reversed : List Char
  fault : Option Fault

namespace TextSoFar

def push (t : TextSoFar) (c : Char) : TextSoFar := { t with reversed := c :: t.reversed }

/-- Records a defect, unless there is one already. -/
def blame (t : TextSoFar) (f : Fault) : TextSoFar := { t with fault := t.fault.or (some f) }

def result (t : TextSoFar) : Except Fault String :=
  match t.fault with
  | some f => .error f
  | none => .ok (String.ofList t.reversed.reverse)

end TextSoFar

/-- The rest of an escape, after its backslash and `u`. -/
def readUnicode (t : TextSoFar) (c : Cursor) : Except Fault (TextSoFar × Cursor) := do
  let (high, c) ← readHex c
  if 0xDC00 ≤ high ∧ high ≤ 0xDFFF then
    pure (t.blame (defectAt .loneSurrogate c), c)
  else if high < 0xD800 ∨ high > 0xDBFF then
    pure (t.push (Char.ofNat high), c)
  else
    match c.rest with
    | [] => .error (defectAt .endInString c)
    | ['\\'] =>
        pure (t.blame (defectAt .endInString c.next), c)
    | '\\' :: 'u' :: _ =>
        match readHex (c.skip 2) with
        | .error f => pure (t.blame f, c)
        | .ok (low, after) =>
            if 0xDC00 ≤ low ∧ low ≤ 0xDFFF then
              pure (t.push (Char.ofNat (0x10000 + (high - 0xD800) * 1024 + (low - 0xDC00))), after)
            else pure (t.blame (defectAt .loneSurrogate after), c)
    | '\\' :: _ => pure (t.blame (defectAt .endOfHexEscape (c.skip 2)), c)
    | _ => pure (t.blame (defectAt .endOfHexEscape c.next), c)

/-- A defect that ends the text, after which a reader of the data still minds the first. -/
def TextSoFar.halt (t : TextSoFar) (f : Fault) : Break := ⟨t.fault.getD f, f⟩

/-- The rest of a text, after its opening quote. The fuel is the length of what is left. -/
def readText : Nat → TextSoFar → Cursor → Except Break (TextSoFar × Cursor)
  | 0, t, c => .error (t.halt (defectAt .endInString c))
  | fuel + 1, t, c =>
      match c.rest with
      | [] => .error (t.halt (defectAt .endInString c))
      | '"' :: _ => .ok (t, c.next)
      | '\\' :: rest =>
          let c := c.next
          match rest with
          | [] => .error (t.halt (defectAt .endInString c))
          | e :: _ =>
              let c := c.next
              match e with
              | '"' => readText fuel (t.push '"') c
              | '\\' => readText fuel (t.push '\\') c
              | '/' => readText fuel (t.push '/') c
              | 'b' => readText fuel (t.push '\x08') c
              | 'f' => readText fuel (t.push '\x0c') c
              | 'n' => readText fuel (t.push '\n') c
              | 'r' => readText fuel (t.push '\r') c
              | 't' => readText fuel (t.push '\t') c
              | 'u' =>
                  match readUnicode t c with
                  | .ok (t, c) => readText fuel t c
                  | .error f => .error (t.halt f)
              | _ => .error (t.halt (defectAt .invalidEscape c))
      | ch :: _ =>
          if ch.toNat < 0x20 then .error (t.halt (defectAt .controlCharacter c.next))
          else readText fuel (t.push ch) c.next

/-- A text, after its opening quote. -/
def readQuoted (c : Cursor) : Except Break (Except Fault String × Cursor) := do
  let (t, after) ← readText (c.rest.length + 1) ⟨[], none⟩ c
  pure (t.result, after)

def isDigit (c : Char) : Bool := '0' ≤ c && c ≤ '9'

def readDigits (c : Cursor) : List Char × Cursor :=
  let ds := c.rest.takeWhile isDigit
  (ds, c.skip ds.length)

def digitsValue (ds : List Char) : Nat :=
  ds.foldl (fun n d => 10 * n + (d.toNat - 48)) 0

def readExponent (c : Cursor) : Except Break (Option Int × Cursor) :=
  let exponentAfter (negative : Bool) (c : Cursor) : Except Break (Option Int × Cursor) :=
    match c.rest with
    | [] => .error ⟨defectAt .endInValue c, defectAt .invalidNumber c⟩
    | d :: _ =>
        if isDigit d then
          let (ds, after) := readDigits c
          let n := Int.ofNat (digitsValue ds)
          .ok (some (if negative then -n else n), after)
        else .error (.same (defectAt .invalidNumber c.next))
  match c.rest with
  | 'e' :: rest | 'E' :: rest =>
      match rest with
      | '+' :: _ => exponentAfter false (c.skip 2)
      | '-' :: _ => exponentAfter true (c.skip 2)
      | _ => exponentAfter false c.next
  | _ => .ok (none, c)

def readNumber (negative : Bool) (c : Cursor) : Except Break (Number × Cursor) :=
  match c.rest with
  | [] => .error ⟨defectAt .endInValue c, defectAt .invalidNumber c⟩
  | d :: rest =>
      if !isDigit d then .error (.same (defectAt .invalidNumber c.next))
      else if d = '0' && (rest.head?.map isDigit).getD false then
        .error (.same (peekDefect .invalidNumber c.next))
      else
        let (whole, c) := readDigits c
        match c.rest with
        | '.' :: _ =>
            let (fraction, c) := readDigits c.next
            if fraction.isEmpty then
              if c.rest.isEmpty then
                .error ⟨peekDefect .endInValue c, peekDefect .invalidNumber c⟩
              else .error (.same (peekDefect .invalidNumber c))
            else do
              let (e, c) ← readExponent c
              let value := digitsValue (whole ++ fraction)
              .ok (⟨⟨negative, value, e.getD 0 - Int.ofNat fraction.length⟩, false⟩, c)
        | _ => do
            let (e, c) ← readExponent c
            .ok (⟨⟨negative, digitsValue whole, e.getD 0⟩, e.isNone⟩, c)

mutual

/-- A value, and the cursor after it unless a defect ended the reading. -/
def readValue : Nat → Cursor → Node × Option Cursor
  | 0, c => (.broken c.place (.same (peekDefect .tooDeep c)), none)
  | fuel + 1, c =>
      let c := c.blanks
      let start := c.place
      let broken (b : Break) : Node × Option Cursor := (.broken start b, none)
      match c.rest with
      | [] => broken (.same (peekDefect .endInValue c))
      | 'n' :: _ =>
          match readWord ['u', 'l', 'l'] c.next with
          | .ok c => (.null start c.place, some c)
          | .error f => broken (.same f)
      | 't' :: _ =>
          match readWord ['r', 'u', 'e'] c.next with
          | .ok c => (.bool true start c.place, some c)
          | .error f => broken (.same f)
      | 'f' :: _ =>
          match readWord ['a', 'l', 's', 'e'] c.next with
          | .ok c => (.bool false start c.place, some c)
          | .error f => broken (.same f)
      | '"' :: _ =>
          match readQuoted c.next with
          | .ok (s, c) => (.text s start c.place, some c)
          | .error b => broken b
      | '[' :: _ =>
          let (items, tail, after) := readItems fuel true c.next
          (.array start items tail, after)
      | '\x7b' :: _ =>
          let (members, tail, after) := readMembers fuel true c.next
          (.object start members tail, after)
      | '-' :: _ =>
          match readNumber true c.next with
          | .ok (n, c) => (.number n start c.place, some c)
          | .error b => broken b
      | ch :: _ =>
          if isDigit ch then
            match readNumber false c with
            | .ok (n, c) => (.number n start c.place, some c)
            | .error b => broken b
          else broken (.same (peekDefect .expectedValue c))

/-- The items of a list, up to and with its end. -/
def readItems : Nat → Bool → Cursor → List Node × Tail × Option Cursor
  | 0, _, c => ([], .broken (.same (peekDefect .tooDeep c)), none)
  | fuel + 1, first, c =>
      let c := c.blanks
      let broken (b : Break) : List Node × Tail × Option Cursor := ([], .broken b, none)
      let item (c : Cursor) : List Node × Tail × Option Cursor :=
        match readValue fuel c with
        | (n, some after) =>
            let (items, tail, after) := readItems fuel false after
            (n :: items, tail, after)
        | (n, none) => ([n], .closed .none, none)
      match c.rest with
      | [] => broken (.same (peekDefect .endInList c))
      | ']' :: _ => ([], .closed c.next.place, some c.next)
      | ch :: _ =>
          if first then item c
          else if ch = ',' then
            let c := c.next.blanks
            match c.rest with
            | ']' :: _ => broken ⟨peekDefect .trailingComma c, peekDefect .expectedValue c⟩
            | [] => broken (.same (peekDefect .endInValue c))
            | _ => item c
          else broken (.same (peekDefect .expectedListSeparator c))

/-- The members of an object, up to and with its end. -/
def readMembers : Nat → Bool → Cursor →
    List (Except Fault String × Position × Node) × Tail × Option Cursor
  | 0, _, c => ([], .broken (.same (peekDefect .tooDeep c)), none)
  | fuel + 1, first, c =>
      let c := c.blanks
      let broken (b : Break) :
          List (Except Fault String × Position × Node) × Tail × Option Cursor :=
        ([], .broken b, none)
      let member (c : Cursor) :
          List (Except Fault String × Position × Node) × Tail × Option Cursor :=
        match readQuoted c.next with
        | .error b => broken b
        | .ok (key, c) =>
            let c := c.blanks
            let place := c.place
            let halted (f : Fault) :
                List (Except Fault String × Position × Node) × Tail × Option Cursor :=
              ([(key, place, .broken place (.same f))], .closed .none, none)
            match c.rest with
            | ':' :: _ =>
                match readValue fuel c.next with
                | (n, some after) =>
                    let (members, tail, after) := readMembers fuel false after
                    ((key, place, n) :: members, tail, after)
                | (n, none) => ([(key, place, n)], .closed .none, none)
            | [] => halted (peekDefect .endInObject c)
            | _ => halted (peekDefect .expectedColon c)
      match c.rest with
      | [] => broken (.same (peekDefect .endInObject c))
      | '\x7d' :: _ => ([], .closed c.next.place, some c.next)
      | ch :: _ =>
          if first then
            if ch = '"' then member c else broken (.same (peekDefect .keyMustBeText c))
          else if ch = ',' then
            let c := c.next.blanks
            match c.rest with
            | '"' :: _ => member c
            | '\x7d' :: _ =>
                broken ⟨peekDefect .trailingComma c, peekDefect .keyMustBeText c⟩
            | [] => broken ⟨peekDefect .endInValue c, peekDefect .endInObject c⟩
            | _ => broken (.same (peekDefect .keyMustBeText c))
          else broken (.same (peekDefect .expectedObjectSeparator c))

end

/-- A text as a tree, with the defect of what follows the value, if anything does. -/
structure Document where
  root : Node
  trailing : Option Fault

/-- Reads a text. The fuel of twice its length is never used up: a value and each item
or member of it take at least one character. -/
def Document.ofChars (cs : List Char) : Document :=
  match readValue (2 * cs.length + 2) (.ofChars cs) with
  | (n, none) => ⟨n, none⟩
  | (n, some after) =>
      let c := after.blanks
      ⟨n, if c.rest.isEmpty then none else some (peekDefect .trailingCharacters c)⟩

/-! ## Plain values -/

mutual

/-- The plain value of a tree, if it has no defect. -/
def Node.toValue? : Node → Option Value
  | .null _ _ => some .null
  | .bool b _ _ => some (.bool b)
  | .number n _ _ => some (.number n)
  | .text (.ok s) _ _ => some (.text s)
  | .text (.error _) _ _ => none
  | .array _ items (.closed _) => (itemValues items).map .array
  | .object _ members (.closed _) => (memberValues members).map .object
  | .array _ _ (.broken _) => none
  | .object _ _ (.broken _) => none
  | .broken _ _ => none

def itemValues : List Node → Option (List Value)
  | [] => some []
  | n :: rest => do
      let v ← n.toValue?
      let vs ← itemValues rest
      pure (v :: vs)

def memberValues :
    List (Except Fault String × Position × Node) → Option (List (String × Value))
  | [] => some []
  | (.ok key, _, n) :: rest => do
      let v ← n.toValue?
      let vs ← memberValues rest
      pure ((key, v) :: vs)
  | (.error _, _, _) :: _ => none

/-- A plain value as a tree without places. -/
def Value.toNode : Value → Node
  | .null => .null .none .none
  | .bool b => .bool b .none .none
  | .number n => .number n .none .none
  | .text s => .text (.ok s) .none .none
  | .array items => .array .none (itemNodes items) (.closed .none)
  | .object members => .object .none (memberNodes members) (.closed .none)

def itemNodes : List Value → List Node
  | [] => []
  | v :: rest => v.toNode :: itemNodes rest

def memberNodes : List (String × Value) → List (Except Fault String × Position × Node)
  | [] => []
  | (key, v) :: rest => (.ok key, .none, v.toNode) :: memberNodes rest

end

/-- The value that a text spells, if it is well-formed. -/
def parse? (s : String) : Option Value :=
  let document := Document.ofChars s.toList
  match document.trailing with
  | none => document.root.toValue?
  | some _ => none

end ComposeSite.Json
