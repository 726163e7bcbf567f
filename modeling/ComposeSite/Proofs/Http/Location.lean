/-
# ComposeSite.Proofs.Http.Location -- targets that go through unharmed

A target is taken apart at slashes, stripped of dot segments and of what follows question
marks and hash signs, and its percent signs are read.  A target of `Plain` segments has none
of these: its path is the target itself (`ofTarget_plain`).

Reading percent signs changes a text exactly if one stands before two digits (`Escaped`), and
makes it shorter then, so that no part of a text is read for the whole of it
(`percentOctets_eq_encode`).
-/
import ComposeSite.Http.Location
import ComposeSite.Proofs.Text.Lines
import ComposeSite.Proofs.Text.Utf8
import Mathlib.Data.List.TakeWhile

set_option autoImplicit false

namespace ComposeSite

/-! ## Parts -/

namespace Text

variable {α : Type} {separator : α}

theorem mem_join {parts : List (List α)} {a : α} (mem : a ∈ join separator parts) :
    a = separator ∨ ∃ part ∈ parts, a ∈ part := by
  induction parts with
  | nil => cases mem
  | cons part parts ih =>
      cases parts with
      | nil => exact .inr ⟨part, List.mem_cons_self, mem⟩
      | cons next parts =>
          rw [join] at mem
          · rcases List.mem_append.mp mem with mem | mem
            · exact .inr ⟨part, List.mem_cons_self, mem⟩
            · rcases List.mem_cons.mp mem with rfl | mem
              · exact .inl rfl
              · rcases ih mem with same | ⟨p, inside, mem⟩
                · exact .inl same
                · exact .inr ⟨p, List.mem_cons_of_mem _ inside, mem⟩
          · intro same
            cases same

variable [DecidableEq α]

/-- Parts that are put together come apart again. -/
theorem split_join {parts : List (List α)} (some : parts ≠ [])
    (whole : ∀ part ∈ parts, separator ∉ part) :
    split separator (join separator parts) = parts := by
  induction parts with
  | nil => exact absurd rfl some
  | cons part parts ih =>
      have first := whole part List.mem_cons_self
      cases parts with
      | nil => exact split_of_not_mem separator first
      | cons next parts =>
          rw [join, split_before separator first,
            ih (List.cons_ne_nil _ _) fun p mem => whole p (List.mem_cons_of_mem _ mem)]
          · intro same
            cases same

end Text

/-! ## Paths -/

namespace Http.Location

/-- The characters that a target is taken apart at, or that stand for something else. -/
def special : List Char := ['\t', '\n', '\r', '#', '?', '%', '/']

/-- A segment of a path that stands for itself. -/
structure Plain (s : List Char) : Prop where
  clean : ∀ ch ∈ s, ch ∉ special
  noDot : isDot s = false
  noDoubleDot : isDoubleDot s = false

theorem resolveDots_plain {segments : List (List Char)} (plain : ∀ s ∈ segments, Plain s)
    (soFar : List (List Char)) : resolveDots soFar segments = soFar.reverse ++ segments := by
  induction segments generalizing soFar with
  | nil => rw [resolveDots, List.append_nil]
  | cons s segments ih =>
      have first := plain s List.mem_cons_self
      have rest := ih (fun s mem => plain s (List.mem_cons_of_mem _ mem)) (s :: soFar)
      rw [List.reverse_cons, List.append_assoc, List.singleton_append] at rest
      cases segments with
      | nil =>
          rw [resolveDots, first.noDoubleDot, first.noDot]
          exact List.reverse_cons
      | cons next segments =>
          rw [resolveDots, first.noDoubleDot, first.noDot]
          · exact rest
          · intro same
            cases same

/-- A percent sign stands before two digits, which spell an octet with it. -/
def Escaped (cs : List Char) : Prop :=
  ∃ before h l after, cs = before ++ '%' :: h :: l :: after ∧
    (Hex.value? h).isSome ∧ (Hex.value? l).isSome

theorem Escaped.cons {cs : List Char} (escaped : Escaped cs) (c : Char) : Escaped (c :: cs) := by
  obtain ⟨before, h, l, after, rfl, digits⟩ := escaped
  exact ⟨c :: before, h, l, after, rfl, digits⟩

/-- A character before a text is no percent sign with two digits behind it. -/
def StandsAlone (c : Char) (cs : List Char) : Prop :=
  c = '%' → ∀ h l after, cs = h :: l :: after →
    ¬((Hex.value? h).isSome ∧ (Hex.value? l).isSome)

theorem StandsAlone.escaped {c : Char} {cs : List Char} (alone : StandsAlone c cs)
    (escaped : Escaped (c :: cs)) : Escaped cs := by
  obtain ⟨before, h, l, after, spelled, digits⟩ := escaped
  cases before with
  | nil =>
      obtain ⟨same, rest⟩ := List.cons.inj spelled
      exact absurd digits (alone same h l after rest)
  | cons b before => exact ⟨before, h, l, after, (List.cons.inj spelled).2, digits⟩

theorem StandsAlone.percentOctets_cons {c : Char} {cs : List Char} (alone : StandsAlone c cs) :
    percentOctets (c :: cs) = String.utf8EncodeChar c ++ percentOctets cs := by
  rw [percentOctets.eq_def]
  split
  · rename_i spelled
    cases spelled
  · rename_i h l rest spelled
    obtain ⟨rfl, rfl⟩ := List.cons.inj spelled
    split
    · rename_i high low
      exact absurd ⟨by rw [high]; rfl, by rw [low]; rfl⟩ (alone rfl h l rest rfl)
    · rfl
  · rename_i spelled
    obtain ⟨rfl, rfl⟩ := List.cons.inj spelled
    rfl

/-- How percent signs in a text are read: as they stand if nothing is escaped, and otherwise as
fewer octets. -/
inductive Reading (cs : List Char) : Prop where
  | plain (free : ¬Escaped cs) (same : percentOctets cs = Text.Utf8.encodeChars cs)
  | shorter (escaped : Escaped cs)
      (shorter : (percentOctets cs).length < (Text.Utf8.encodeChars cs).length)

theorem Reading.length_le {cs : List Char} (reading : Reading cs) :
    (percentOctets cs).length ≤ (Text.Utf8.encodeChars cs).length := by
  cases reading with
  | plain free same => rw [same]
  | shorter escaped shorter => exact Nat.le_of_lt shorter

theorem Reading.cons {c : Char} {cs : List Char} (alone : StandsAlone c cs)
    (reading : Reading cs) : Reading (c :: cs) := by
  have shown : Text.Utf8.encodeChars (c :: cs) =
      String.utf8EncodeChar c ++ Text.Utf8.encodeChars cs := rfl
  cases reading with
  | plain free same =>
      refine .plain (fun escaped => free (alone.escaped escaped)) ?_
      rw [alone.percentOctets_cons, shown, same]
  | shorter escaped shorter =>
      refine .shorter (escaped.cons c) ?_
      rw [alone.percentOctets_cons, shown, List.length_append, List.length_append]
      exact Nat.add_lt_add_left shorter _

/-- Every text is read in one of these ways. -/
theorem reading (cs : List Char) : Reading cs := by
  induction cs using percentOctets.induct with
  | case1 =>
      refine .plain (fun ⟨before, _, _, _, spelled, _⟩ => ?_) ?_
      · cases before <;> cases spelled
      · rw [percentOctets]
        rfl
  | case2 h l rest x y second first ih =>
      -- three characters, and so at least three octets, are read as one octet
      refine .shorter ⟨[], h, l, rest, rfl, by rw [first]; rfl, by rw [second]; rfl⟩ ?_
      have octets : percentOctets ('%' :: h :: l :: rest) =
          UInt8.ofNat (16 * x + y) :: percentOctets rest := by
        rw [percentOctets, first, second]
      have spelled : Text.Utf8.encodeChars ('%' :: h :: l :: rest) = String.utf8EncodeChar '%' ++
          (String.utf8EncodeChar h ++ (String.utf8EncodeChar l ++ Text.Utf8.encodeChars rest)) :=
        rfl
      have sign : (String.utf8EncodeChar '%').length = 1 := rfl
      have high := h.utf8Size_pos
      have no_longer := ih.length_le
      rw [octets, spelled]
      simp only [List.length_cons, List.length_append, sign, String.length_utf8EncodeChar]
      omega
  | case3 h l rest undefined ih =>
      refine ih.cons fun _ h' l' after spelled digits => ?_
      obtain ⟨rfl, below⟩ := List.cons.inj spelled
      obtain ⟨rfl, -⟩ := List.cons.inj below
      obtain ⟨x, high⟩ := Option.isSome_iff_exists.mp digits.1
      obtain ⟨y, low⟩ := Option.isSome_iff_exists.mp digits.2
      exact undefined x y high low
  | case4 c rest other ih =>
      exact ih.cons fun sign h l after spelled _ => other h l after sign spelled

theorem utf8EncodeChar_ne_nil (c : Char) : String.utf8EncodeChar c ≠ [] := by
  intro none
  have size := String.length_utf8EncodeChar c
  rw [none] at size
  exact Nat.ne_of_lt c.utf8Size_pos size

/-- A text is read for a longer one, or for itself, only if it is that text and nothing in it is
escaped. -/
theorem percentOctets_eq_encode {cs more : List Char} :
    percentOctets cs = Text.Utf8.encodeChars (cs ++ more) ↔ ¬Escaped cs ∧ more = [] := by
  have whole : Text.Utf8.encodeChars (cs ++ more) =
      Text.Utf8.encodeChars cs ++ Text.Utf8.encodeChars more := List.flatMap_append
  rw [whole]
  rcases reading cs with ⟨plain, same⟩ | ⟨escaped, shorter⟩
  · rw [same, and_iff_right plain]
    constructor
    · intro longer
      have nothing := List.self_eq_append_right.mp longer
      cases more with
      | nil => rfl
      | cons c more => exact absurd (List.append_eq_nil_iff.mp nothing).1 (utf8EncodeChar_ne_nil c)
    · rintro rfl
      exact (List.append_nil _).symm
  · refine iff_of_false (fun longer => ?_) fun plain => plain.1 escaped
    have lengths := congrArg List.length longer
    rw [List.length_append] at lengths
    omega

theorem percentOctets_eq_self {cs : List Char} :
    percentOctets cs = Text.Utf8.encodeChars cs ↔ ¬Escaped cs := by
  have whole : percentOctets cs = Text.Utf8.encodeChars (cs ++ []) ↔ ¬Escaped cs ∧ [] = [] :=
    percentOctets_eq_encode
  rwa [List.append_nil, and_iff_left rfl] at whole

/-- Without a percent sign nothing is escaped. -/
theorem not_escaped {cs : List Char} (noPercent : '%' ∉ cs) : ¬Escaped cs := by
  rintro ⟨before, h, l, after, rfl, -⟩
  exact noPercent (List.mem_append_right _ List.mem_cons_self)

/-- A target of plain segments is its own path. -/
theorem ofTarget_plain {target : String} {segments : List (List Char)} (some : segments ≠ [])
    (plain : ∀ s ∈ segments, Plain s)
    (spelled : target.toList = '/' :: Text.join '/' segments) :
    (ofTarget target).path = target := by
  have clean : ∀ ch ∈ target.toList, ch = '/' ∨ ch ∉ special := by
    intro ch mem
    rw [spelled] at mem
    rcases List.mem_cons.mp mem with same | mem
    · exact .inl same
    · rcases Text.mem_join mem with same | ⟨s, inside, mem⟩
      · exact .inl same
      · exact .inr ((plain s inside).clean ch mem)
  have without (sign : Char) (isSpecial : sign ∈ special) (noSlash : '/' ≠ sign) :
      ∀ ch ∈ target.toList, ch ≠ sign := by
    rintro ch mem rfl
    rcases clean ch mem with rfl | noSpecial
    · exact noSlash rfl
    · exact noSpecial isSpecial
  have kept : target.toList.filter (fun c => c ≠ '\t' && c ≠ '\n' && c ≠ '\r') =
      target.toList := by
    refine List.filter_eq_self.mpr fun ch mem => ?_
    have tab := without '\t' (by decide) (by decide) ch mem
    have feed := without '\n' (by decide) (by decide) ch mem
    have back := without '\r' (by decide) (by decide) ch mem
    simp only [tab, feed, back, ne_eq, not_false_eq_true, decide_true, Bool.and_true]
  have beforeHash : target.toList.takeWhile (· ≠ '#') = target.toList :=
    List.takeWhile_eq_self_iff.mpr fun ch mem =>
      decide_eq_true (without '#' (by decide) (by decide) ch mem)
  have beforeQuery : target.toList.takeWhile (· ≠ '?') = target.toList :=
    List.takeWhile_eq_self_iff.mpr fun ch mem =>
      decide_eq_true (without '?' (by decide) (by decide) ch mem)
  have apart : Text.split '/' (Text.join '/' segments) = segments :=
    Text.split_join some fun s inside mem => (plain s inside).clean _ mem (by decide)
  have noPercent : '%' ∉ target.toList := fun mem =>
    without '%' (by decide) (by decide) '%' mem rfl
  show percentDecode ('/' :: Text.join '/' (resolveDots [] (Text.split '/'
    (List.drop 1 (List.takeWhile (· ≠ '?') (List.takeWhile (· ≠ '#')
      (target.toList.filter fun c => c ≠ '\t' && c ≠ '\n' && c ≠ '\r'))))))) = target
  rw [kept, beforeHash, beforeQuery, spelled, List.drop_one, List.tail_cons, apart,
    resolveDots_plain plain, List.reverse_nil, List.nil_append, ← spelled, percentDecode,
    percentOctets_eq_self.mpr (not_escaped noPercent)]
  exact Text.Utf8.decodeLossy_encode target

end Http.Location

end ComposeSite
