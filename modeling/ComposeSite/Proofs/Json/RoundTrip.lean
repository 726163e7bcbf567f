/-
# ComposeSite.Proofs.Json.RoundTrip -- a written value is read back

The reader walks over the written form of a value and stands behind it, whatever follows
(`readValue_chars`).  The tree that it gives has no defect and spells the value.  Where
the text ends with the value, reading it gives the value and nothing more
(`ofChars_chars`).

Only whole numbers are written as what they are; a value of such numbers is `Whole`.
Places play no part: a cursor is known by what is left to read.
-/
import ComposeSite.Json.Node

set_option autoImplicit false

namespace ComposeSite.Json

/-! ## Cursors -/

namespace Cursor

variable {c : Cursor} {ch : Char} {rest : List Char}

theorem next_rest (ahead : c.rest = ch :: rest) : c.next.rest = rest := by
  rw [next, ahead]
  by_cases feed : ch = '\n'
  · subst feed
    rfl
  · split
    · rename_i same
      cases same
    · rename_i same
      exact absurd (List.cons.inj same).1 feed
    · rename_i same
      exact (List.cons.inj same).2.symm

theorem skip_rest (n : Nat) (c : Cursor) : (c.skip n).rest = c.rest.drop n := by
  induction n generalizing c with
  | zero => rfl
  | succ n ih =>
      rw [skip, ih]
      cases ahead : c.rest with
      | nil => rw [next, ahead, ahead, List.drop_nil, List.drop_nil]
      | cons ch rest => rw [next_rest ahead, List.drop_succ_cons]

theorem blanks_eq (ahead : c.rest = ch :: rest) (visible : isBlank ch = false) : c.blanks = c := by
  rw [blanks, ahead, List.takeWhile_cons_of_neg (by simp [visible])]
  rfl

theorem blanks_of_end (ahead : c.rest = []) : c.blanks = c := by
  rw [blanks, ahead]
  rfl

end Cursor

/-! ## Texts -/

/-- The digits of a control character are read as its number. -/
theorem hexFour_digits {n : Nat} (control : n < 32) : ∃ a b high low, hexFour n = ['0', '0', a, b] ∧
    Hex.value? a = some high ∧ Hex.value? b = some low ∧ high * 16 + low = n := by
  have digits : ∀ n : Fin 32, hexFour n = ['0', '0', Hex.digit (n / 16), Hex.digit (n % 16)] ∧
      Hex.value? (Hex.digit (n / 16)) = some (n.val / 16) ∧
      Hex.value? (Hex.digit (n % 16)) = some (n.val % 16) := by
    decide
  obtain ⟨shown, high, low⟩ := digits ⟨n, control⟩
  exact ⟨_, _, n / 16, n % 16, shown, high, low, by omega⟩

section Texts

variable {c : Cursor} {rest : List Char} (fuel : Nat) (t : TextSoFar)

/-- A character that stands for itself. -/
theorem readText_plain {ch : Char} (ahead : c.rest = ch :: rest) (noQuote : ch ≠ '"')
    (noEscape : ch ≠ '\\') (visible : ¬ch.toNat < 0x20) :
    readText (fuel + 1) t c = readText fuel (t.push ch) c.next := by
  rw [readText, ahead]
  split
  · rename_i same
    cases same
  · rename_i same
    exact absurd (List.cons.inj same).1 noQuote
  · rename_i same
    exact absurd (List.cons.inj same).1 noEscape
  · rename_i same
    obtain ⟨rfl, -⟩ := List.cons.inj same
    rw [if_neg visible]

/-- A control character, by its number. -/
theorem readText_control {n : Nat} (control : n < 32)
    (ahead : c.rest = '\\' :: 'u' :: hexFour n ++ rest) :
    ∃ after : Cursor, after.rest = rest ∧
      readText (fuel + 1) t c = readText fuel (t.push (Char.ofNat n)) after := by
  obtain ⟨a, b, high, low, shown, first, second, sum⟩ := hexFour_digits control
  rw [shown] at ahead
  have digits : c.next.next.rest = ['0', '0', a, b] ++ rest :=
    Cursor.next_rest (Cursor.next_rest ahead)
  have read : readHex c.next.next = .ok (n, c.next.next.skip 4) := by
    have zero : Hex.value? '0' = some 0 := by decide
    rw [readHex, digits]
    simp only [List.cons_append, List.nil_append, zero, first, second]
    rw [show ((0 * 16 + 0) * 16 + high) * 16 + low = n by omega]
  refine ⟨c.next.next.skip 4, by rw [Cursor.skip_rest, digits]; rfl, ?_⟩
  have unicode : readUnicode t c.next.next = .ok (t.push (Char.ofNat n), c.next.next.skip 4) := by
    rw [readUnicode, read]
    show (if 0xDC00 ≤ n ∧ n ≤ 0xDFFF then _ else if n < 0xD800 ∨ n > 0xDBFF then _ else _) = _
    rw [if_neg (by omega), if_pos (by omega)]
    rfl
  rw [readText, ahead]
  simp only [List.cons_append, unicode]

/-- A written character is read as that character. -/
theorem readText_char {ch : Char} (ahead : c.rest = renderChar ch ++ rest) :
    ∃ after : Cursor, after.rest = rest ∧
      readText (fuel + 1) t c = readText fuel (t.push ch) after := by
  have escaped {e : Char} (ahead : c.rest = '\\' :: e :: rest) : c.next.next.rest = rest :=
    Cursor.next_rest (Cursor.next_rest ahead)
  rw [renderChar] at ahead
  -- seven characters have an escape of their own
  iterate 7
    split at ahead
    · subst ch
      exact ⟨c.next.next, escaped ahead, by rw [readText, ahead]; rfl⟩
  split at ahead
  · rename_i control
    obtain ⟨after, left, read⟩ := readText_control fuel t control ahead
    exact ⟨after, left, by rw [read, Char.ofNat_toNat]⟩
  · rename_i noQuote noEscape _ _ _ _ _ visible
    exact ⟨c.next, Cursor.next_rest ahead, readText_plain fuel t ahead noQuote noEscape visible⟩

end Texts

/-- The written characters of a text are read as these. -/
theorem readText_chars (cs : List Char) {fuel : Nat} {t : TextSoFar} {c : Cursor}
    {rest : List Char} (ahead : c.rest = cs.flatMap renderChar ++ '"' :: rest)
    (enough : cs.length < fuel) : ∃ after : Cursor, after.rest = rest ∧
      readText fuel t c = .ok ({ t with reversed := cs.reverse ++ t.reversed }, after) := by
  induction cs generalizing fuel t c with
  | nil =>
      obtain ⟨fuel, rfl⟩ : ∃ n, fuel = n + 1 := ⟨fuel - 1, by simp at enough; omega⟩
      refine ⟨c.next, Cursor.next_rest ahead, ?_⟩
      rw [readText, ahead]
      rfl
  | cons ch cs ih =>
      rw [List.length_cons] at enough
      obtain ⟨fuel, rfl⟩ : ∃ n, fuel = n + 1 := ⟨fuel - 1, by omega⟩
      rw [List.flatMap_cons, List.append_assoc] at ahead
      obtain ⟨middle, left, read⟩ := readText_char fuel t ahead
      have short : cs.length < fuel := by omega
      obtain ⟨after, done, whole⟩ := ih (t := t.push ch) left short
      refine ⟨after, done, ?_⟩
      rw [read, whole]
      simp [TextSoFar.push]

theorem length_le_flatMap_renderChar (cs : List Char) :
    cs.length ≤ (cs.flatMap renderChar).length := by
  induction cs with
  | nil => exact Nat.le_refl _
  | cons ch cs ih =>
      have some : 0 < (renderChar ch).length := by
        rw [renderChar]
        repeat' split
        all_goals exact Nat.succ_pos _
      rw [List.flatMap_cons, List.length_append, List.length_cons]
      omega

/-- A written text is read as that text. -/
theorem readQuoted_chars (s : String) {c : Cursor} {rest : List Char}
    (ahead : c.rest = quotedChars s ++ rest) : ∃ after : Cursor, after.rest = rest ∧
      readQuoted c.next = .ok (.ok s, after) := by
  have opened : c.rest = '"' :: (s.toList.flatMap renderChar ++ '"' :: rest) := by
    rw [ahead, quotedChars, List.cons_append, List.cons_append, List.append_assoc]
    rfl
  have inside := Cursor.next_rest opened
  have enough : s.toList.length < c.next.rest.length + 1 := by
    have shorter := length_le_flatMap_renderChar s.toList
    rw [inside, List.length_append]
    omega
  obtain ⟨after, left, read⟩ := readText_chars s.toList inside enough (t := ⟨[], none⟩)
  refine ⟨after, left, ?_⟩
  rw [readQuoted, read]
  show Except.ok (Except.ok (String.ofList (s.toList.reverse ++ []).reverse), after) = _
  rw [List.append_nil, List.reverse_reverse, String.ofList_toList]

/-! ## Numbers -/

theorem isDigit_eq (ch : Char) : isDigit ch = ch.isDigit := rfl

/-- What may follow a value: the end of the text, or of what the value stands in, or a comma. -/
def Separated (rest : List Char) : Prop := ∀ ch ∈ rest.head?, ch = ',' ∨ ch = ']' ∨ ch = '\x7d'

/-- A numeral starts with nought only if it is nought. -/
theorem toDigits_eq_cons (n : Nat) :
    ∃ d ds, Nat.toDigits 10 n = d :: ds ∧ (d = '0' → ds = []) := by
  induction n using Nat.strongRecOn with
  | ind n ih =>
      by_cases short : n < 10
      · exact ⟨n.digitChar, [], Nat.toDigits_of_lt_base short, fun _ => rfl⟩
      · obtain ⟨d, ds, shown, alone⟩ := ih (n / 10) (by omega)
        have first : d ≠ '0' := by
          intro nought
          rw [alone nought, nought] at shown
          have value := Nat.ofDigitChars_toDigits (b := 10) (n := n / 10) (by decide) (by decide)
          rw [shown] at value
          have zero : 0 = n / 10 := value
          omega
        refine ⟨d, ds ++ [(n % 10).digitChar], ?_, fun nought => absurd nought first⟩
        rw [Nat.toDigits_of_base_le (by decide) (by omega), shown, List.cons_append]

theorem all_isDigit_toDigits (n : Nat) : ∀ ch ∈ Nat.toDigits 10 n, isDigit ch = true :=
  fun ch mem => (isDigit_eq ch).trans (Nat.isDigit_of_mem_toDigits (by decide) (by decide) mem)

theorem Separated.takeWhile_isDigit {rest : List Char} (ends : Separated rest) :
    rest.takeWhile isDigit = [] := by
  cases rest with
  | nil => rfl
  | cons ch rest =>
      rcases ends ch rfl with rfl | rfl | rfl
      all_goals rfl

theorem Separated.readExponent {c : Cursor} (ends : Separated c.rest) :
    readExponent c = .ok (none, c) := by
  rw [Json.readExponent]
  split
  · rename_i ahead
    exact absurd (ends _ (by rw [ahead]; rfl)) (by decide)
  · rename_i ahead
    exact absurd (ends _ (by rw [ahead]; rfl)) (by decide)
  · rfl

/-- A written numeral is read as its number. -/
theorem readNumber_digits (negative : Bool) (n : Nat) {c : Cursor} {rest : List Char}
    (ahead : c.rest = Nat.toDigits 10 n ++ rest) (ends : Separated rest) :
    ∃ after : Cursor, after.rest = rest ∧
      readNumber negative c = .ok (⟨⟨negative, n, 0⟩, true⟩, after) := by
  have digits := all_isDigit_toDigits n
  have taken : c.rest.takeWhile isDigit = Nat.toDigits 10 n := by
    rw [ahead, List.takeWhile_append_of_pos digits, ends.takeWhile_isDigit, List.append_nil]
  have whole : readDigits c = (Nat.toDigits 10 n, c.skip (Nat.toDigits 10 n).length) := by
    rw [readDigits, taken]
  have left : (c.skip (Nat.toDigits 10 n).length).rest = rest := by
    rw [Cursor.skip_rest, ahead, List.drop_left]
  have value : digitsValue (Nat.toDigits 10 n) = n :=
    Nat.ofDigitChars_toDigits (by decide) (by decide)
  obtain ⟨d, ds, shown, alone⟩ := toDigits_eq_cons n
  have isDigit_d : isDigit d = true := digits d (by rw [shown]; exact List.mem_cons_self)
  have noLeading : (d = '0' && ((ds ++ rest).head?.map isDigit).getD false) = false := by
    by_cases nought : d = '0'
    · rw [alone nought, List.nil_append]
      cases rest with
      | nil => simp
      | cons ch more =>
          rcases ends ch rfl with rfl | rfl | rfl
          all_goals simp [isDigit]
    · simp [nought]
  refine ⟨c.skip (Nat.toDigits 10 n).length, left, ?_⟩
  have opened : c.rest = d :: (ds ++ rest) := by rw [ahead, shown, List.cons_append]
  rw [readNumber, opened]
  simp only [isDigit_d, Bool.not_true, Bool.false_eq_true, if_false, noLeading, whole]
  split
  · rename_i point
    rw [left] at point
    exact absurd (ends '.' (by rw [point]; rfl)) (by decide)
  · have none := Separated.readExponent (c := c.skip (Nat.toDigits 10 n).length)
      (by rw [left]; exact ends)
    rw [none, value]
    rfl

/-! ## Values -/

mutual

/-- All numbers of a value are whole. -/
def Value.Whole : Value → Prop
  | .number n => ∃ i, n = .ofInt i
  | .array items => WholeItems items
  | .object members => WholeMembers members
  | .null | .bool _ | .text _ => True

@[inherit_doc Value.Whole]
def WholeItems : List Value → Prop
  | [] => True
  | v :: items => v.Whole ∧ WholeItems items

@[inherit_doc Value.Whole]
def WholeMembers : List (String × Value) → Prop
  | [] => True
  | (_, v) :: members => v.Whole ∧ WholeMembers members

end

/-- A reading that stands behind a value, with a node that spells it. -/
def Spells (v : Value) (rest : List Char) (reading : Node × Option Cursor) : Prop :=
  ∃ (n : Node) (after : Cursor), reading = (n, some after) ∧ after.rest = rest ∧
    n.toValue? = some v

/-- A reading that stands behind the items of an array and its end. -/
def SpellsItems (vs : List Value) (rest : List Char)
    (reading : List Node × Tail × Option Cursor) : Prop :=
  ∃ (ns : List Node) (stop : Position) (after : Cursor),
    reading = (ns, .closed stop, some after) ∧ after.rest = rest ∧ itemValues ns = some vs

/-- A reading that stands behind the members of an object and its end. -/
def SpellsMembers (ms : List (String × Value)) (rest : List Char)
    (reading : List (Except Fault String × Position × Node) × Tail × Option Cursor) : Prop :=
  ∃ (ns : List (Except Fault String × Position × Node)) (stop : Position) (after : Cursor),
    reading = (ns, .closed stop, some after) ∧ after.rest = rest ∧ memberValues ns = some ms

section Values

variable {fuel : Nat} {c : Cursor} {rest : List Char}

theorem isBlank_of_isDigit {ch : Char} (digit : isDigit ch = true) :
    Cursor.isBlank ch = false := by
  cases blank : Cursor.isBlank ch with
  | false => rfl
  | true =>
      simp only [Cursor.isBlank, Bool.or_eq_true, decide_eq_true_eq] at blank
      rcases blank with ((rfl | rfl) | rfl) | rfl
      all_goals cases digit

/-- A number is read where a digit stands. -/
theorem readValue_digit {d : Char} {ds : List Char} {n : Number} {after : Cursor}
    (ahead : c.rest = d :: ds) (digit : isDigit d = true)
    (read : readNumber false c = .ok (n, after)) :
    readValue (fuel + 1) c = (.number n c.place after.place, some after) := by
  rw [readValue, Cursor.blanks_eq ahead (isBlank_of_isDigit digit)]
  have other {ch : Char} {more : List Char} (same : c.rest = ch :: more)
      (noDigit : isDigit ch = false) : False := by
    rw [ahead] at same
    rw [(List.cons.inj same).1, noDigit] at digit
    cases digit
  split
  · rename_i same
    rw [ahead] at same
    cases same
  case h_9 =>
    rename_i same
    rw [ahead] at same
    obtain ⟨rfl, -⟩ := List.cons.inj same
    rw [if_pos digit, read]
  all_goals exact (other ‹_› (by decide)).elim

theorem render_ofNat (n : Nat) :
    (Number.ofInt (.ofNat n)).render.toList = Nat.toDigits 10 n := by
  show (toString n).toList = _
  rw [Nat.toString_eq_ofList_toDigits, String.toList_ofList]

theorem render_negSucc (n : Nat) :
    (Number.ofInt (.negSucc n)).render.toList = '-' :: Nat.toDigits 10 (n + 1) := by
  show ("-" ++ toString (n + 1)).toList = _
  rw [Nat.toString_eq_ofList_toDigits, String.toList_append, String.toList_ofList,
    String.toList_ofList]
  rfl

/-- A whole number is read as itself. -/
theorem readValue_number (i : Int) (ahead : c.rest = (Number.ofInt i).render.toList ++ rest)
    (ends : Separated rest) :
    Spells (.number (.ofInt i)) rest (readValue (fuel + 1) c) := by
  cases i with
  | ofNat n =>
      rw [render_ofNat] at ahead
      obtain ⟨after, left, read⟩ := readNumber_digits false n ahead ends
      obtain ⟨d, ds, digits, -⟩ := toDigits_eq_cons n
      have digit : isDigit d = true :=
        all_isDigit_toDigits n d (by rw [digits]; exact List.mem_cons_self)
      rw [digits, List.cons_append] at ahead
      exact ⟨_, after, readValue_digit ahead digit read, left, rfl⟩
  | negSucc n =>
      rw [render_negSucc, List.cons_append] at ahead
      obtain ⟨after, left, read⟩ :=
        readNumber_digits true (n + 1) (Cursor.next_rest ahead) ends
      refine ⟨.number ⟨⟨true, n + 1, 0⟩, true⟩ c.place after.place, after, ?_, left, rfl⟩
      rw [readValue, Cursor.blanks_eq ahead (by decide), ahead]
      simp only [read]

end Values

/-- The written form of a value starts with a character that is neither blank nor the end of
an array. -/
theorem chars_eq_cons {v : Value} (whole : v.Whole) : ∃ ch more, v.chars = ch :: more ∧
    Cursor.isBlank ch = false ∧ ch ≠ ']' := by
  cases v with
  | null => exact ⟨_, _, rfl, by decide, by decide⟩
  | bool b => cases b <;> exact ⟨_, _, rfl, by decide, by decide⟩
  | text s => exact ⟨_, _, rfl, by decide, by decide⟩
  | array items => cases items <;> exact ⟨_, _, rfl, by decide, by decide⟩
  | object members => cases members <;> exact ⟨_, _, rfl, by decide, by decide⟩
  | number n =>
      obtain ⟨i, rfl⟩ := whole
      cases i with
      | negSucc n => exact ⟨_, _, render_negSucc n, by decide, by decide⟩
      | ofNat n =>
          obtain ⟨d, ds, digits, -⟩ := toDigits_eq_cons n
          have digit : isDigit d = true :=
            all_isDigit_toDigits n d (by rw [digits]; exact List.mem_cons_self)
          refine ⟨d, ds, (render_ofNat n).trans digits, isBlank_of_isDigit digit, ?_⟩
          rintro rfl
          cases digit

section Values

variable {c : Cursor} {rest : List Char}

/-- A text is read where a quote stands. -/
theorem readValue_text {fuel : Nat} (s : String) (ahead : c.rest = quotedChars s ++ rest) :
    Spells (.text s) rest (readValue (fuel + 1) c) := by
  obtain ⟨after, left, read⟩ := readQuoted_chars s ahead
  have opened : c.rest = '"' :: (s.toList.flatMap renderChar ++ ['"'] ++ rest) := ahead
  refine ⟨.text (.ok s) c.place after.place, after, ?_, left, rfl⟩
  rw [readValue, Cursor.blanks_eq opened (by decide), opened]
  simp only [read]

/-- A word that is ahead is read. -/
theorem readWord_chars (word : List Char) {c : Cursor} (ahead : c.rest = word ++ rest) :
    ∃ after : Cursor, after.rest = rest ∧ readWord word c = .ok after := by
  induction word generalizing c with
  | nil => exact ⟨c, ahead, rfl⟩
  | cons w ws ih =>
      obtain ⟨after, left, read⟩ := ih (Cursor.next_rest ahead)
      refine ⟨after, left, ?_⟩
      rw [readWord, ahead]
      exact (if_pos rfl).trans read

theorem readValue_null {fuel : Nat} (ahead : c.rest = Value.null.chars ++ rest) :
    Spells .null rest (readValue (fuel + 1) c) := by
  have opened : c.rest = 'n' :: (['u', 'l', 'l'] ++ rest) := ahead
  obtain ⟨after, left, read⟩ := readWord_chars _ (Cursor.next_rest opened)
  refine ⟨.null c.place after.place, after, ?_, left, rfl⟩
  rw [readValue, Cursor.blanks_eq opened (by decide), opened]
  simp only [read]

theorem readValue_bool {fuel : Nat} (b : Bool) (ahead : c.rest = (Value.bool b).chars ++ rest) :
    Spells (.bool b) rest (readValue (fuel + 1) c) := by
  cases b with
  | true =>
      have opened : c.rest = 't' :: (['r', 'u', 'e'] ++ rest) := ahead
      obtain ⟨after, left, read⟩ := readWord_chars _ (Cursor.next_rest opened)
      refine ⟨.bool true c.place after.place, after, ?_, left, rfl⟩
      rw [readValue, Cursor.blanks_eq opened (by decide), opened]
      simp only [read]
  | false =>
      have opened : c.rest = 'f' :: (['a', 'l', 's', 'e'] ++ rest) := ahead
      obtain ⟨after, left, read⟩ := readWord_chars _ (Cursor.next_rest opened)
      refine ⟨.bool false c.place after.place, after, ?_, left, rfl⟩
      rw [readValue, Cursor.blanks_eq opened (by decide), opened]
      simp only [read]

theorem readItems_end {fuel : Nat} (first : Bool) (ahead : c.rest = ']' :: rest) :
    SpellsItems [] rest (readItems (fuel + 1) first c) := by
  refine ⟨[], c.next.place, c.next, ?_, Cursor.next_rest ahead, rfl⟩
  rw [readItems, Cursor.blanks_eq ahead (by decide), ahead]
  rfl

theorem readMembers_end {fuel : Nat} (first : Bool) (ahead : c.rest = '\x7d' :: rest) :
    SpellsMembers [] rest (readMembers (fuel + 1) first c) := by
  refine ⟨[], c.next.place, c.next, ?_, Cursor.next_rest ahead, rfl⟩
  rw [readMembers, Cursor.blanks_eq ahead (by decide), ahead]
  rfl

theorem readValue_array {fuel : Nat} {vs : List Value} {more : List Char}
    (ahead : c.rest = '[' :: more) (items : SpellsItems vs rest (readItems fuel true c.next)) :
    Spells (.array vs) rest (readValue (fuel + 1) c) := by
  obtain ⟨ns, stop, after, read, left, spelled⟩ := items
  refine ⟨.array c.place ns (.closed stop), after, ?_, left, ?_⟩
  · rw [readValue, Cursor.blanks_eq ahead (by decide), ahead]
    simp only [read]
  · rw [Node.toValue?, spelled]
    rfl

theorem readValue_object {fuel : Nat} {ms : List (String × Value)} {more : List Char}
    (ahead : c.rest = '\x7b' :: more)
    (members : SpellsMembers ms rest (readMembers fuel true c.next)) :
    Spells (.object ms) rest (readValue (fuel + 1) c) := by
  obtain ⟨ns, stop, after, read, left, spelled⟩ := members
  refine ⟨.object c.place ns (.closed stop), after, ?_, left, ?_⟩
  · rw [readValue, Cursor.blanks_eq ahead (by decide), ahead]
    simp only [read]
  · rw [Node.toValue?, spelled]
    rfl

/-- An item and what follows it. -/
theorem SpellsItems.cons {fuel : Nat} {v : Value} {vs : List Value} {middle : List Char}
    (item : Spells v middle (readValue fuel c))
    (items : ∀ after : Cursor, after.rest = middle →
      SpellsItems vs rest (readItems fuel false after)) :
    SpellsItems (v :: vs) rest (match readValue fuel c with
      | (n, some after) =>
          let (items, tail, after) := readItems fuel false after
          (n :: items, tail, after)
      | (n, none) => ([n], .closed .none, none)) := by
  obtain ⟨n, next, read, ahead, spelled⟩ := item
  obtain ⟨ns, stop, after, readRest, left, spelledRest⟩ := items next ahead
  refine ⟨n :: ns, stop, after, ?_, left, ?_⟩
  · rw [read]
    simp only [readRest]
  · rw [itemValues, spelled, spelledRest]
    rfl

/-- The first item of an array. -/
theorem readItems_first {fuel : Nat} {v : Value} {vs : List Value} {ch : Char}
    {middle more : List Char} (ahead : c.rest = ch :: more)
    (visible : Cursor.isBlank ch = false) (noEnd : ch ≠ ']')
    (item : Spells v middle (readValue fuel c))
    (items : ∀ after : Cursor, after.rest = middle →
      SpellsItems vs rest (readItems fuel false after)) :
    SpellsItems (v :: vs) rest (readItems (fuel + 1) true c) := by
  rw [readItems, Cursor.blanks_eq ahead visible]
  split
  · rename_i same
    rw [ahead] at same
    cases same
  · rename_i same
    rw [ahead] at same
    exact absurd (List.cons.inj same).1 noEnd
  · exact SpellsItems.cons item items

/-- An item after another one. -/
theorem readItems_comma {fuel : Nat} {v : Value} {vs : List Value} {ch : Char}
    {middle more : List Char} (ahead : c.rest = ',' :: ch :: more)
    (visible : Cursor.isBlank ch = false) (noEnd : ch ≠ ']')
    (item : Spells v middle (readValue fuel c.next))
    (items : ∀ after : Cursor, after.rest = middle →
      SpellsItems vs rest (readItems fuel false after)) :
    SpellsItems (v :: vs) rest (readItems (fuel + 1) false c) := by
  have next := Cursor.next_rest ahead
  rw [readItems, Cursor.blanks_eq ahead (by decide)]
  split
  · rename_i same
    rw [ahead] at same
    cases same
  · rename_i same
    rw [ahead] at same
    exact absurd (List.cons.inj same).1 (by decide)
  · rename_i same
    rw [ahead] at same
    obtain ⟨rfl, -⟩ := List.cons.inj same
    rw [if_neg (by decide), if_pos rfl, Cursor.blanks_eq next visible]
    dsimp only
    split
    · rename_i same
      rw [next] at same
      exact absurd (List.cons.inj same).1 noEnd
    · rename_i same
      rw [next] at same
      cases same
    · exact SpellsItems.cons item items

/-- A member of an object: its key, its value, and the members after it. -/
theorem readMember {fuel : Nat} {key : String} {v : Value} {ms : List (String × Value)}
    {valueText middle : List Char} (ahead : c.rest = quotedChars key ++ ':' :: valueText)
    (value : ∀ after : Cursor, after.rest = valueText → Spells v middle (readValue fuel after))
    (members : ∀ after : Cursor, after.rest = middle →
      SpellsMembers ms rest (readMembers fuel false after)) :
    ∃ (colon : Cursor) (n : Node) (next : Cursor)
      (ns : List (Except Fault String × Position × Node)) (stop : Position) (after : Cursor),
      readQuoted c.next = .ok (.ok key, colon) ∧ colon.blanks = colon ∧
      colon.rest = ':' :: valueText ∧ readValue fuel colon.next = (n, some next) ∧
      readMembers fuel false next = (ns, .closed stop, some after) ∧ after.rest = rest ∧
      memberValues ((.ok key, colon.place, n) :: ns) = some ((key, v) :: ms) := by
  obtain ⟨colon, atColon, readKey⟩ := readQuoted_chars key ahead
  obtain ⟨n, next, read, behind, spelled⟩ := value colon.next (Cursor.next_rest atColon)
  obtain ⟨ns, stop, after, readRest, left, spelledRest⟩ := members next behind
  refine ⟨colon, n, next, ns, stop, after, readKey, Cursor.blanks_eq atColon (by decide), atColon,
    read, readRest, left, ?_⟩
  rw [memberValues, spelled, spelledRest]
  rfl

/-- The first member of an object. -/
theorem readMembers_first {fuel : Nat} {key : String} {v : Value} {ms : List (String × Value)}
    {valueText middle : List Char} (ahead : c.rest = quotedChars key ++ ':' :: valueText)
    (value : ∀ after : Cursor, after.rest = valueText → Spells v middle (readValue fuel after))
    (members : ∀ after : Cursor, after.rest = middle →
      SpellsMembers ms rest (readMembers fuel false after)) :
    SpellsMembers ((key, v) :: ms) rest (readMembers (fuel + 1) true c) := by
  obtain ⟨colon, n, next, ns, stop, after, readKey, still, atColon, read, readRest, left,
    spelled⟩ := readMember ahead value members
  have opened : c.rest = '"' :: (key.toList.flatMap renderChar ++ ['"'] ++ ':' :: valueText) :=
    ahead
  refine ⟨(.ok key, colon.place, n) :: ns, stop, after, ?_, left, spelled⟩
  rw [readMembers, Cursor.blanks_eq opened (by decide), opened]
  simp only [if_true, readKey, still, atColon, read, readRest]
  rfl

/-- A member after another one. -/
theorem readMembers_comma {fuel : Nat} {key : String} {v : Value} {ms : List (String × Value)}
    {valueText middle : List Char} (ahead : c.rest = ',' :: quotedChars key ++ ':' :: valueText)
    (value : ∀ after : Cursor, after.rest = valueText → Spells v middle (readValue fuel after))
    (members : ∀ after : Cursor, after.rest = middle →
      SpellsMembers ms rest (readMembers fuel false after)) :
    SpellsMembers ((key, v) :: ms) rest (readMembers (fuel + 1) false c) := by
  have inside : c.next.rest = quotedChars key ++ ':' :: valueText := Cursor.next_rest ahead
  obtain ⟨colon, n, next, ns, stop, after, readKey, still, atColon, read, readRest, left,
    spelled⟩ := readMember inside value members
  have opened : c.rest =
      ',' :: '"' :: (key.toList.flatMap renderChar ++ ['"'] ++ ':' :: valueText) := ahead
  have quote := Cursor.next_rest opened
  refine ⟨(.ok key, colon.place, n) :: ns, stop, after, ?_, left, spelled⟩
  rw [readMembers, Cursor.blanks_eq opened (by decide), opened]
  simp only [Bool.false_eq_true, if_false, Cursor.blanks_eq quote (by decide), quote, readKey,
    still, atColon, read, readRest]
  rfl

end Values

theorem separated_itemChars (vs : List Value) (rest : List Char) :
    Separated (itemChars vs ++ rest) := by
  cases vs with
  | nil => exact fun ch first => .inr (.inl (Option.some.inj first).symm)
  | cons v vs => exact fun ch first => .inl (Option.some.inj first).symm

theorem separated_memberChars (ms : List (String × Value)) (rest : List Char) :
    Separated (memberChars ms ++ rest) := by
  rcases ms with - | ⟨⟨key, v⟩, ms⟩
  · exact fun ch first => .inr (.inr (Option.some.inj first).symm)
  · exact fun ch first => .inl (Option.some.inj first).symm

theorem length_itemChars_pos (vs : List Value) : 0 < (itemChars vs).length := by
  cases vs with
  | nil => exact Nat.one_pos
  | cons v vs => exact Nat.succ_pos _

theorem length_memberChars_pos (ms : List (String × Value)) : 0 < (memberChars ms).length := by
  rcases ms with - | ⟨⟨key, v⟩, ms⟩
  · exact Nat.one_pos
  · exact Nat.succ_pos _

mutual

/-- A written value is read as itself, whatever follows it. -/
theorem readValue_chars (v : Value) (whole : v.Whole) {fuel : Nat} {c : Cursor}
    {rest : List Char} (ahead : c.rest = v.chars ++ rest) (ends : Separated rest)
    (enough : v.chars.length ≤ fuel) : Spells v rest (readValue fuel c) := by
  obtain ⟨ch, more, starts, -⟩ := chars_eq_cons whole
  obtain ⟨fuel, rfl⟩ : ∃ n, fuel = n + 1 :=
    ⟨fuel - 1, by rw [starts, List.length_cons] at enough; omega⟩
  cases v with
  | null => exact readValue_null ahead
  | bool b => exact readValue_bool b ahead
  | number n =>
      obtain ⟨i, rfl⟩ := whole
      exact readValue_number i ahead ends
  | text s => exact readValue_text s ahead
  | array items =>
      cases items with
      | nil =>
          obtain ⟨fuel, rfl⟩ : ∃ n, fuel = n + 1 :=
            ⟨fuel - 1, by simp only [Value.chars, List.length_cons] at enough; omega⟩
          exact readValue_array ahead (readItems_end true (Cursor.next_rest ahead))
      | cons v vs =>
          have bound : v.chars.length + (itemChars vs).length + 1 ≤ fuel + 1 := by
            rw [Value.chars, List.cons_append, List.length_cons, List.length_append] at enough
            exact enough
          have some := length_itemChars_pos vs
          obtain ⟨fuel, rfl⟩ : ∃ n, fuel = n + 1 := ⟨fuel - 1, by omega⟩
          obtain ⟨ch, more, starts, visible, noEnd⟩ := chars_eq_cons whole.1
          have filled : 0 < v.chars.length := by rw [starts]; exact Nat.succ_pos _
          have opened : c.rest = '[' :: (v.chars ++ (itemChars vs ++ rest)) := by
            rw [ahead, Value.chars, List.cons_append, List.cons_append, List.append_assoc]
          have inside := Cursor.next_rest opened
          have first : Spells v (itemChars vs ++ rest) (readValue fuel c.next) :=
            readValue_chars v whole.1 inside (separated_itemChars vs rest) (by omega)
          rw [starts, List.cons_append] at inside
          exact readValue_array opened (readItems_first inside visible noEnd first
            fun after left => readItems_chars vs whole.2 left (by omega))
  | object members =>
      match members with
      | [] =>
          obtain ⟨fuel, rfl⟩ : ∃ n, fuel = n + 1 :=
            ⟨fuel - 1, by simp only [Value.chars, List.length_cons] at enough; omega⟩
          exact readValue_object ahead (readMembers_end true (Cursor.next_rest ahead))
      | (key, v) :: ms =>
          have bound : v.chars.length + (memberChars ms).length + 1 ≤ fuel := by
            simp only [Value.chars, List.cons_append, List.length_cons, List.length_append]
              at enough
            omega
          obtain ⟨fuel, rfl⟩ : ∃ n, fuel = n + 1 := ⟨fuel - 1, by omega⟩
          have opened : c.rest =
              '\x7b' :: (quotedChars key ++ ':' :: (v.chars ++ (memberChars ms ++ rest))) := by
            rw [ahead, Value.chars]
            simp only [List.cons_append, List.append_assoc]
          exact readValue_object opened (readMembers_first (Cursor.next_rest opened)
            (fun after left => readValue_chars v whole.1 left (separated_memberChars ms rest)
              (by omega))
            fun after left => readMembers_chars ms whole.2 left (by omega))

/-- The items after another one are read as themselves. -/
theorem readItems_chars (vs : List Value) (whole : WholeItems vs) {fuel : Nat} {c : Cursor}
    {rest : List Char} (ahead : c.rest = itemChars vs ++ rest)
    (enough : (itemChars vs).length ≤ fuel) :
    SpellsItems vs rest (readItems fuel false c) := by
  have some := length_itemChars_pos vs
  obtain ⟨fuel, rfl⟩ : ∃ n, fuel = n + 1 := ⟨fuel - 1, by omega⟩
  cases vs with
  | nil => exact readItems_end false ahead
  | cons v vs =>
      have bound : v.chars.length + (itemChars vs).length ≤ fuel := by
        rw [itemChars, List.cons_append, List.length_cons, List.length_append] at enough
        omega
      obtain ⟨ch, more, starts, visible, noEnd⟩ := chars_eq_cons whole.1
      have opened : c.rest = ',' :: (v.chars ++ (itemChars vs ++ rest)) := by
        rw [ahead, itemChars, List.cons_append, List.cons_append, List.append_assoc]
      have item : Spells v (itemChars vs ++ rest) (readValue fuel c.next) :=
        readValue_chars v whole.1 (Cursor.next_rest opened) (separated_itemChars vs rest)
          (by omega)
      rw [starts, List.cons_append] at opened
      exact readItems_comma opened visible noEnd item
        fun after left => readItems_chars vs whole.2 left (by omega)

/-- The members after another one are read as themselves. -/
theorem readMembers_chars (ms : List (String × Value)) (whole : WholeMembers ms) {fuel : Nat}
    {c : Cursor} {rest : List Char} (ahead : c.rest = memberChars ms ++ rest)
    (enough : (memberChars ms).length ≤ fuel) :
    SpellsMembers ms rest (readMembers fuel false c) := by
  have some := length_memberChars_pos ms
  obtain ⟨fuel, rfl⟩ : ∃ n, fuel = n + 1 := ⟨fuel - 1, by omega⟩
  match ms with
  | [] => exact readMembers_end false ahead
  | (key, v) :: ms =>
      have bound : v.chars.length + (memberChars ms).length ≤ fuel := by
        simp only [memberChars, List.cons_append, List.length_cons, List.length_append] at enough
        omega
      have opened : c.rest =
          ',' :: quotedChars key ++ ':' :: (v.chars ++ (memberChars ms ++ rest)) := by
        rw [ahead, memberChars]
        simp only [List.cons_append, List.append_assoc]
      exact readMembers_comma opened
        (fun after left => readValue_chars v whole.1 left (separated_memberChars ms rest)
          (by omega))
        fun after left => readMembers_chars ms whole.2 left (by omega)

end

/-- The text of a value spells it, and nothing follows. -/
theorem ofChars_chars {v : Value} (whole : v.Whole) :
    ∃ n : Node, Document.ofChars v.chars = ⟨n, none⟩ ∧ n.toValue? = some v := by
  obtain ⟨n, after, read, left, spelled⟩ := readValue_chars v whole (c := .ofChars v.chars)
    (List.append_nil _).symm (fun _ first => by cases first)
    (show v.chars.length ≤ 2 * v.chars.length + 2 by omega)
  refine ⟨n, ?_, spelled⟩
  rw [Document.ofChars, read]
  simp only [Cursor.blanks_of_end left, left, List.isEmpty_nil, if_true]

end ComposeSite.Json
