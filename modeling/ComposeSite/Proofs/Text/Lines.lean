/-
# ComposeSite.Proofs.Text.Lines -- lines of octets and lines of text

Cutting at a separator gives the complete parts, each of which ended with one, and
the unfinished part behind the last.  More text changes only the unfinished part
(`complete_append`, `unfinished_append`).

Decoding and cutting at line feeds commute: a line feed ends whatever ill-formed part
is before it (`decodeLossyChars_lineFeed`), and no other octet decodes to one, so the
lines of decoded octets are the decoded lines (`lines_decodeLossyChars`).
-/
import ComposeSite.Text.Blank
import ComposeSite.Text.Split
import ComposeSite.Text.Utf8

set_option autoImplicit false

namespace ComposeSite.Text

/-! ## Complete and unfinished parts -/

section Parts

variable {α : Type} [DecidableEq α] (sep : α)

/-- The parts that a separator ended. -/
def complete (text : List α) : List (List α) := (split sep text).dropLast

/-- The part behind the last separator. -/
def unfinished (text : List α) : List α := ((split sep text).getLast?).getD []

theorem split_eq (text : List α) : split sep text = complete sep text ++ [unfinished sep text] := by
  have nonempty := split_ne_nil sep text
  rw [complete, unfinished, List.getLast?_eq_some_getLast nonempty, Option.getD_some,
    List.dropLast_concat_getLast]

theorem split_cons_separator (rest : List α) : split sep (sep :: rest) = [] :: split sep rest := by
  simp [split]

theorem split_cons {a : α} (other : a ≠ sep) {rest : List α} {part : List α}
    {parts : List (List α)} (cut : split sep rest = part :: parts) :
    split sep (a :: rest) = (a :: part) :: parts := by
  simp [split, other, cut]

/-- Cutting goes on where the unfinished part stands. -/
theorem split_append (a b : List α) :
    split sep (a ++ b) = complete sep a ++ split sep (unfinished sep a ++ b) := by
  induction a with
  | nil => rfl
  | cons x a ih =>
      have cut := split_eq sep a
      by_cases here : x = sep
      · subst here
        have parts : split x (x :: a) = [] :: complete x a ++ [unfinished x a] := by
          rw [split_cons_separator, cut, List.cons_append]
        have first : complete x (x :: a) = [] :: complete x a := by
          rw [complete, parts, List.dropLast_concat]
        have last : unfinished x (x :: a) = unfinished x a := by
          rw [unfinished, parts, List.getLast?_concat, Option.getD_some]
        rw [List.cons_append, split_cons_separator, ih, first, last, List.cons_append]
      · cases done : complete sep a with
        | nil =>
            rw [done, List.nil_append] at cut ih
            have parts := split_cons sep here cut
            have first : complete sep (x :: a) = [] := by rw [complete, parts]; rfl
            have last : unfinished sep (x :: a) = x :: unfinished sep a := by
              rw [unfinished, parts]; rfl
            rw [List.cons_append, first, last, List.nil_append, List.cons_append]
            simp only [split, if_neg here, ih]
        | cons part more =>
            rw [done, List.cons_append] at cut ih
            have parts := split_cons sep here cut
            have first : complete sep (x :: a) = (x :: part) :: more := by
              rw [complete, parts, ← List.cons_append, List.dropLast_concat]
            have last : unfinished sep (x :: a) = unfinished sep a := by
              rw [unfinished, parts, ← List.cons_append, List.getLast?_concat,
                Option.getD_some]
            rw [List.cons_append, first, last, List.cons_append, split_cons sep here ih]

theorem complete_append (a b : List α) :
    complete sep (a ++ b) = complete sep a ++ complete sep (unfinished sep a ++ b) := by
  rw [complete, split_append, List.dropLast_append_of_ne_nil (split_ne_nil sep _)]
  rfl

theorem unfinished_append (a b : List α) :
    unfinished sep (a ++ b) = unfinished sep (unfinished sep a ++ b) := by
  have cut := split_append sep a b
  rw [split_eq sep (unfinished sep a ++ b), ← List.append_assoc] at cut
  rw [unfinished, cut, List.getLast?_concat, Option.getD_some]

/-- Text without the separator is one part. -/
theorem split_of_not_mem {text : List α} (free : sep ∉ text) : split sep text = [text] := by
  induction text with
  | nil => rfl
  | cons a text ih =>
      rw [List.mem_cons, not_or] at free
      exact split_cons sep (Ne.symm free.1) (ih free.2)

/-- The text before a separator, when it has none of its own, is a part. -/
theorem split_before {part : List α} (free : sep ∉ part) (rest : List α) :
    split sep (part ++ sep :: rest) = part :: split sep rest := by
  induction part with
  | nil => exact split_cons_separator sep rest
  | cons a part ih =>
      rw [List.mem_cons, not_or] at free
      exact split_cons sep (Ne.symm free.1) (ih free.2)

/-- No part has a separator in it. -/
theorem separator_not_mem {text part : List α} (member : part ∈ split sep text) : sep ∉ part := by
  induction text generalizing part with
  | nil =>
      obtain rfl := List.mem_singleton.mp member
      exact List.not_mem_nil
  | cons a text ih =>
      by_cases here : a = sep
      · subst here
        rw [split_cons_separator] at member
        obtain rfl | later := List.mem_cons.mp member
        · exact List.not_mem_nil
        · exact ih later
      · obtain ⟨first, parts, cut⟩ := List.exists_cons_of_ne_nil (split_ne_nil sep text)
        rw [split_cons sep here cut] at member
        obtain rfl | later := List.mem_cons.mp member
        · have free : sep ∉ first := ih (cut ▸ List.mem_cons_self)
          rw [List.mem_cons, not_or]
          exact ⟨Ne.symm here, free⟩
        · exact ih (cut ▸ List.mem_cons_of_mem _ later)

/-- Putting a separator behind every complete part loses nothing. -/
theorem flatMap_complete (text : List α) :
    (complete sep text).flatMap (· ++ [sep]) ++ unfinished sep text = text := by
  have cut : ∀ parts : List (List α), ∀ last : List α,
      join sep (parts ++ [last]) = parts.flatMap (· ++ [sep]) ++ last := by
    intro parts last
    induction parts with
    | nil => rfl
    | cons part parts ih =>
        have more : parts ++ [last] ≠ [] := by simp
        rw [List.cons_append, join.eq_3 sep part _ more, ih]
        simp
  rw [← cut, ← split_eq, join_split]

theorem complete_of_not_mem {text : List α} (free : sep ∉ text) : complete sep text = [] := by
  rw [complete, split_of_not_mem sep free]
  rfl

theorem unfinished_not_mem (text : List α) : sep ∉ unfinished sep text := by
  have last : unfinished sep text ∈ split sep text := by
    rw [split_eq]
    exact List.mem_append_right _ (List.mem_singleton_self _)
  exact separator_not_mem sep last

/-- The unfinished part is the whole text, or stands behind a separator. -/
theorem eq_unfinished_or (text : List α) :
    text = unfinished sep text ∨ ∃ before, text = before ++ sep :: unfinished sep text := by
  have whole := flatMap_complete sep text
  obtain none | ⟨first, last, parts⟩ := List.eq_nil_or_concat (complete sep text)
  · rw [none] at whole
    exact .inl whole.symm
  · refine .inr ⟨first.flatMap (· ++ [sep]) ++ last, ?_⟩
    rw [parts, List.concat_eq_append] at whole
    simpa using whole.symm

end Parts

/-! ## White space at the ends -/

/-- Whether there is no white space at either end. -/
structure Trimmed (cs : List Char) : Prop where
  start : ∀ c ∈ cs.head?, isBlank c = false
  stop : ∀ c ∈ cs.getLast?, isBlank c = false

theorem prefix_dropEndWhile (p : Char → Bool) (cs : List Char) : dropEndWhile p cs <+: cs := by
  have kept := List.reverse_prefix.mpr (@List.dropWhile_suffix _ cs.reverse p)
  rwa [List.reverse_reverse] at kept

theorem trimChars_sublist (cs : List Char) : (trimChars cs).Sublist cs :=
  (prefix_dropEndWhile isBlank _).sublist.trans (List.dropWhile_sublist isBlank)

theorem trimChars_trimmed (cs : List Char) : Trimmed (trimChars cs) := by
  constructor
  · intro c first
    obtain ⟨later, whole⟩ := prefix_dropEndWhile isBlank (trimStart cs)
    have start : (cs.dropWhile isBlank).head? = some c := by
      rw [← trimStart, ← whole, List.head?_append]
      exact congrArg (·.or later.head?) first
    have stands := List.head?_dropWhile_not isBlank cs
    rw [start] at stands
    exact stands
  · intro c last
    have stop : ((trimStart cs).reverse.dropWhile isBlank).head? = some c := by
      rwa [← List.getLast?_reverse]
    have stands := List.head?_dropWhile_not isBlank (trimStart cs).reverse
    rw [stop] at stands
    exact stands

/-! ## Decoding line by line -/

namespace Utf8

namespace State

/-- A line feed ends what is unfinished as ill-formed, and is a character itself. -/
theorem step_lineFeed (s : State) : s.step 10 = (s.close ++ [some '\n'], ground) := by
  cases s with
  | ground => rfl
  | inside value missing next => cases next <;> rfl

/-- What is read so far of a character rules out that a line feed comes of it. -/
def Sound : State → Prop
  | ground => True
  | inside value _ next => 0 < value ∨ next = .fromA0 ∨ next = .from90

end State

theorem ofNat_eq_lineFeed {n : Nat} (spelled : Char.ofNat n = '\n') : n = 10 := by
  by_cases valid : n.isValidChar
  · rw [Char.ofNat, dif_pos valid] at spelled
    exact congrArg Char.toNat spelled
  · rw [Char.ofNat, dif_neg valid] at spelled
    exact absurd (congrArg Char.toNat spelled) (by decide)

/-- No first octet but a line feed spells one. -/
theorem State.start_sound {b : UInt8} (other : b ≠ 10) :
    some '\n' ∉ (State.start b).1 ∧ (State.start b).2.Sound := by
  have value : b.toNat ≠ 10 := fun same => other (UInt8.toNat_inj.mp same)
  simp only [start]
  split
  · rw [List.mem_singleton, Option.some.injEq]
    exact ⟨fun spelled => value (ofNat_eq_lineFeed spelled.symm), trivial⟩
  split
  · exact ⟨by simp, trivial⟩
  split
  · rename_i high _
    have large : 0xC2 ≤ b.toNat := UInt8.le_iff_toNat_le.mp (UInt8.not_lt.mp high)
    exact ⟨List.not_mem_nil, Or.inl (by omega)⟩
  split
  · rename_i high _
    have large : 0xE0 ≤ b.toNat := UInt8.le_iff_toNat_le.mp (UInt8.not_lt.mp high)
    refine ⟨List.not_mem_nil, ?_⟩
    by_cases least : b = 0xE0
    · exact Or.inr (Or.inl (if_pos least))
    · have more : b.toNat ≠ 0xE0 := fun same => least (UInt8.toNat_inj.mp same)
      exact Or.inl (by omega)
  split
  · rename_i high _
    have large : 0xF0 ≤ b.toNat := UInt8.le_iff_toNat_le.mp (UInt8.not_lt.mp high)
    refine ⟨List.not_mem_nil, ?_⟩
    by_cases least : b = 0xF0
    · exact Or.inr (Or.inr (if_pos least))
    · have more : b.toNat ≠ 0xF0 := fun same => least (UInt8.toNat_inj.mp same)
      exact Or.inl (by omega)
  · exact ⟨by simp, trivial⟩

/-- The least octet that may follow, where the second one is confined from below. -/
theorem Follower.admits_toNat {next : Follower} {b : UInt8} (admitted : next.admits b = true) :
    (next = .fromA0 → 0xA0 ≤ b.toNat) ∧ (next = .from90 → 0x90 ≤ b.toNat) := by
  constructor <;> intro same <;> subst same <;>
    simp only [admits, Bool.and_eq_true, decide_eq_true_eq] at admitted <;>
    exact UInt8.le_iff_toNat_le.mp admitted.1

/-- No octet but a line feed completes one. -/
theorem State.step_sound {s : State} (sound : s.Sound) {b : UInt8} (other : b ≠ 10) :
    some '\n' ∉ (s.step b).1 ∧ (s.step b).2.Sound := by
  cases s with
  | ground => exact start_sound other
  | inside value missing next =>
      obtain ⟨shown, started⟩ := start_sound other
      simp only [step]
      split
      · rename_i admitted
        have large : 10 < 64 * value + (b.toNat - 0x80) := by
          obtain ⟨least, least'⟩ := Follower.admits_toNat admitted
          rcases sound with positive | same | same
          · omega
          · have := least same
            omega
          · have := least' same
            omega
        cases missing with
        | zero =>
            refine ⟨?_, trivial⟩
            rw [List.mem_singleton, Option.some.injEq]
            intro spelled
            have := ofNat_eq_lineFeed spelled.symm
            omega
        | succ missing => exact ⟨List.not_mem_nil, Or.inl (by omega)⟩
      · exact ⟨by simpa using shown, started⟩

theorem unitsFrom_sound {s : State} (sound : s.Sound) {bs : Bytes} (free : 10 ∉ bs) :
    some '\n' ∉ unitsFrom s bs := by
  induction bs generalizing s with
  | nil => cases s <;> simp [unitsFrom, State.close]
  | cons b bs ih =>
      rw [List.mem_cons, not_or] at free
      obtain ⟨shown, sound⟩ := State.step_sound sound (Ne.symm free.1)
      simp only [unitsFrom, List.mem_append, not_or]
      exact ⟨shown, ih sound free.2⟩

theorem unitsFrom_lineFeed (s : State) (a b : Bytes) :
    unitsFrom s (a ++ 10 :: b) = unitsFrom s a ++ some '\n' :: units b := by
  induction a generalizing s with
  | nil => simp [unitsFrom, State.step_lineFeed, units]
  | cons x a ih => simp [unitsFrom, ih]

/-- What is before a line feed decodes by itself, and so does what follows. -/
theorem decodeLossyChars_lineFeed (a b : Bytes) :
    decodeLossyChars (a ++ 10 :: b) = decodeLossyChars a ++ '\n' :: decodeLossyChars b := by
  simp [decodeLossyChars, units, unitsFrom_lineFeed]

/-- Only line feeds decode to line feeds. -/
theorem lineFeed_not_mem_decodeLossyChars {bs : Bytes} (free : 10 ∉ bs) :
    '\n' ∉ decodeLossyChars bs := by
  intro member
  obtain ⟨unit, found, spelled⟩ := List.mem_map.mp member
  cases unit with
  | none => exact absurd spelled (by decide)
  | some c =>
      have same : c = '\n' := spelled
      subst same
      have ground : State.ground.Sound := trivial
      exact unitsFrom_sound ground free found

end Utf8

/-- **Decoding and cutting into lines commute.** -/
theorem lines_decodeLossyChars (bs : Bytes) :
    lines (Utf8.decodeLossyChars bs) = (split 10 bs).map Utf8.decodeLossyChars := by
  by_cases free : 10 ∈ bs
  · obtain ⟨a, b, rfl, first⟩ := List.eq_append_cons_of_mem free
    have shorter : b.length < (a ++ 10 :: b).length := by simp; omega
    rw [Utf8.decodeLossyChars_lineFeed, lines,
      split_before _ (Utf8.lineFeed_not_mem_decodeLossyChars first), split_before _ first,
      List.map_cons, ← lines_decodeLossyChars b]
    rfl
  · rw [lines, split_of_not_mem _ (Utf8.lineFeed_not_mem_decodeLossyChars free),
      split_of_not_mem _ free, List.map_singleton]
termination_by bs.length

end ComposeSite.Text
