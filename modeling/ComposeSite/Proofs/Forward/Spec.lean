/-
# ComposeSite.Proofs.Forward.Spec -- the grammar of specs

A spec is written as two ports around a service, between two colons (`Spec.Written`).  A port
is spelled by one or more digits behind at most one plus sign (`Numeral.Spells`); leading
zeros do not count, and the value decides whether it is a port at all.

A text that is not a spec has a first fault (`Spec.Faulty`): there are not two colons, or
else the local port, the remote port or the service is wrong, in this order.  Reading gives
what is written, or the first fault, and nothing else (`spec_grammar`).
-/
import ComposeSite.Forward.Spec
import ComposeSite.Proofs.Http.Location
import Mathlib.Data.List.Basic

set_option autoImplicit false

namespace ComposeSite

/-! ## Three parts -/

namespace Text

variable {α : Type} [DecidableEq α] {sep : α}

/-- There is one part more than there are separators. -/
theorem length_split (sep : α) (text : List α) :
    (split sep text).length = text.count sep + 1 := by
  induction text with
  | nil => rfl
  | cons a text ih =>
      by_cases here : a = sep
      · subst here
        rw [split_cons_separator, List.length_cons, ih, List.count_cons_self]
      · obtain ⟨part, parts, cut⟩ := List.exists_cons_of_ne_nil (split_ne_nil sep text)
        rw [split_cons sep here cut, List.count_cons_of_ne here, ← ih, cut]
        rfl

/-- A text is three parts between two separators. -/
structure InThree (sep : α) (text before between after : List α) : Prop where
  whole : text = before ++ sep :: (between ++ sep :: after)
  before : sep ∉ before
  between : sep ∉ between
  after : sep ∉ after

theorem split_eq_three {text before between after : List α} :
    split sep text = [before, between, after] ↔ InThree sep text before between after := by
  constructor
  · intro cut
    have apart (part : List α) (mem : part ∈ [before, between, after]) : sep ∉ part := by
      rw [← cut] at mem
      exact separator_not_mem sep mem
    refine ⟨?_, apart _ (by simp), apart _ (by simp), apart _ (by simp)⟩
    rw [← join_split sep text, cut]
    rfl
  · rintro ⟨rfl, first, second, third⟩
    rw [split_before sep first, split_before sep second, split_of_not_mem sep third]

theorem exists_three {text : List α} (two : text.count sep = 2) :
    ∃ before between after, InThree sep text before between after := by
  have three : (split sep text).length = 3 := by rw [length_split, two]
  obtain ⟨before, between, after, cut⟩ := List.length_eq_three.1 three
  exact ⟨before, between, after, split_eq_three.mp cut⟩

theorem InThree.count_eq {text before between after : List α}
    (three : InThree sep text before between after) : text.count sep = 2 := by
  have length := length_split sep text
  rw [split_eq_three.mpr three] at length
  exact (Nat.succ.inj length).symm

/-! ## Numerals -/

namespace Numeral

/-- A number up to a limit is spelled by digits, behind at most one plus sign. -/
def Spells (limit : Nat) (cs : List Char) (n : Nat) : Prop :=
  ∃ digits : List Char, (cs = digits ∨ cs = '+' :: digits) ∧ digits ≠ [] ∧
    (∀ ch ∈ digits, ch.isDigit = true) ∧ Nat.ofDigitChars 10 digits 0 = n ∧ n ≤ limit

theorem digit?_of_isDigit {ch : Char} (digit : ch.isDigit = true) :
    digit? ch = some (ch.toNat - '0'.toNat) := by
  rw [Char.isDigit, Bool.and_eq_true, decide_eq_true_eq, decide_eq_true_eq] at digit
  exact if_pos digit

theorem digit?_of_not_isDigit {ch : Char} (other : ch.isDigit = false) : digit? ch = none := by
  refine if_neg fun inside => ?_
  rw [Char.isDigit, Bool.and_eq_false_iff, decide_eq_false_iff_not, decide_eq_false_iff_not]
    at other
  exact other.elim (absurd inside.1) (absurd inside.2)

theorem digitsFrom?_digits {ds : List Char} (digits : ∀ ch ∈ ds, ch.isDigit = true)
    (value : Nat) : digitsFrom? value ds = some (Nat.ofDigitChars 10 ds value) := by
  induction ds generalizing value with
  | nil => rfl
  | cons ch ds ih =>
      rw [digitsFrom?, digit?_of_isDigit (digits ch List.mem_cons_self), Nat.ofDigitChars_cons]
      exact ih (fun ch mem => digits ch (List.mem_cons_of_mem _ mem)) _

theorem digits_of_digitsFrom? {ds : List Char} {value n : Nat}
    (read : digitsFrom? value ds = some n) : ∀ ch ∈ ds, ch.isDigit = true := by
  induction ds generalizing value with
  | nil => exact fun _ mem => by cases mem
  | cons ch ds ih =>
      rw [digitsFrom?] at read
      obtain ⟨d, known, rest⟩ := Option.bind_eq_some_iff.mp read
      refine List.forall_mem_cons.mpr ⟨?_, ih rest⟩
      by_contra other
      rw [digit?_of_not_isDigit (Bool.not_eq_true _ ▸ other)] at known
      cases known

/-- One or more digits are read as the number that they spell, and nothing else is read. -/
theorem digits?_eq_some {ds : List Char} {n : Nat} :
    digits? ds = some n ↔
      ds ≠ [] ∧ (∀ ch ∈ ds, ch.isDigit = true) ∧ Nat.ofDigitChars 10 ds 0 = n := by
  cases ds with
  | nil => exact ⟨fun read => (by cases read), fun spelled => absurd rfl spelled.1⟩
  | cons ch ds =>
      constructor
      · intro read
        have digits := digits_of_digitsFrom? read
        have value := (digitsFrom?_digits digits 0).symm.trans read
        exact ⟨List.cons_ne_nil _ _, digits, Option.some.inj value⟩
      · rintro ⟨-, digits, rfl⟩
        exact digitsFrom?_digits digits 0

/-- The value of digits counts up to the limit. -/
theorem within_eq_some {limit n : Nat} {ds : List Char} :
    (do
      let value ← digits? ds
      if value ≤ limit then some value else none) = some n ↔ digits? ds = some n ∧ n ≤ limit := by
  rw [Option.bind_eq_bind, Option.bind_eq_some_iff]
  constructor
  · rintro ⟨value, read, fits⟩
    split at fits
    · cases fits
      exact ⟨read, ‹_›⟩
    · cases fits
  · rintro ⟨read, fits⟩
    exact ⟨n, read, if_pos fits⟩

/-- A numeral is read as the number that it spells, and nothing else is read. -/
theorem unsigned?_eq_some {limit n : Nat} {cs : List Char} :
    unsigned? limit cs = some n ↔ Spells limit cs n := by
  by_cases signed : ∃ rest, cs = '+' :: rest
  · obtain ⟨rest, rfl⟩ := signed
    have noDigit : '+'.isDigit = false := rfl
    refine Iff.trans within_eq_some ?_
    rw [digits?_eq_some]
    constructor
    · rintro ⟨⟨nonempty, digits, value⟩, fits⟩
      exact ⟨rest, .inr rfl, nonempty, digits, value, fits⟩
    · rintro ⟨digits, rfl | same, nonempty, all, value, fits⟩
      · rw [all '+' List.mem_cons_self] at noDigit
        cases noDigit
      · cases same
        exact ⟨⟨nonempty, all, value⟩, fits⟩
  · have plain : unsigned? limit cs = (do
        let value ← digits? cs
        if value ≤ limit then some value else none) := by
      unfold unsigned?
      split
      · exact absurd ⟨_, rfl⟩ signed
      · rfl
    rw [plain, within_eq_some, digits?_eq_some]
    constructor
    · rintro ⟨⟨nonempty, digits, value⟩, fits⟩
      exact ⟨cs, .inl rfl, nonempty, digits, value, fits⟩
    · rintro ⟨digits, rfl | rfl, nonempty, all, value, fits⟩
      · exact ⟨⟨nonempty, all, value⟩, fits⟩
      · exact absurd ⟨_, rfl⟩ signed

/-- The decimal form of a number spells it. -/
theorem spells_toString {limit n : Nat} (fits : n ≤ limit) :
    Spells limit (toString n).toList n := by
  rw [Nat.toString_eq_ofList_toDigits, String.toList_ofList]
  exact ⟨_, .inl rfl, Nat.toDigits_ne_nil,
    fun ch mem => Nat.isDigit_of_mem_toDigits (by decide) (by decide) mem,
    Nat.ofDigitChars_toDigits (by decide) (by decide), fits⟩

/-- Only digits and the plus sign stand in a numeral. -/
theorem Spells.not_mem {limit n : Nat} {cs : List Char} {ch : Char} (spells : Spells limit cs n)
    (noDigit : ch.isDigit = false) (noSign : ch ≠ '+') : ch ∉ cs := by
  obtain ⟨digits, rfl | rfl, -, all, -⟩ := spells
  · intro mem
    rw [all ch mem] at noDigit
    cases noDigit
  · intro mem
    obtain same | mem := List.mem_cons.mp mem
    · exact noSign same
    · rw [all ch mem] at noDigit
      cases noDigit

end Numeral

end Text

namespace Forward

open Text (InThree)
open Text.Numeral (Spells max16)

/-! ## Specs -/

theorem Spec.port?_eq_some {cs : List Char} {port : UInt16} :
    Spec.port? cs = some port ↔ Spells max16 cs port.toNat := by
  rw [Spec.port?, Option.map_eq_some_iff]
  constructor
  · rintro ⟨n, read, rfl⟩
    have spells := Text.Numeral.unsigned?_eq_some.mp read
    obtain ⟨-, -, -, -, -, fits⟩ := id spells
    rw [UInt16.toNat_ofNat_of_lt' (Nat.lt_succ_of_le fits)]
    exact spells
  · intro spells
    exact ⟨port.toNat, Text.Numeral.unsigned?_eq_some.mpr spells, UInt16.ofNat_toNat⟩

theorem Spec.port?_eq_none {cs : List Char} :
    Spec.port? cs = none ↔ ∀ port : UInt16, ¬ Spells max16 cs port.toNat := by
  rw [Option.eq_none_iff_forall_ne_some]
  exact forall_congr' fun port => not_congr Spec.port?_eq_some

/-- A text is a spec: its ports are spelled on both sides of its service, which is not empty. -/
structure Spec.Written (cs : List Char) (s : Spec) : Prop where
  parts : ∃ near far, InThree ':' cs near s.service.toList far ∧
    Spells max16 near s.localPort.toNat ∧ Spells max16 far s.remotePort.toNat
  named : s.service ≠ ""

/-- The first thing that is wrong with a text that is not a spec. -/
inductive Spec.Faulty (cs : List Char) : SpecFailure → Prop
  | shape (other : cs.count ':' ≠ 2) : Faulty cs .shape
  | localPort {near service far : List Char} (three : InThree ':' cs near service far)
      (wrong : ∀ port : UInt16, ¬ Spells max16 near port.toNat) :
      Faulty cs (.localPort (String.ofList near))
  | remotePort {near service far : List Char} (three : InThree ':' cs near service far)
      {port : UInt16} (right : Spells max16 near port.toNat)
      (wrong : ∀ port : UInt16, ¬ Spells max16 far port.toNat) :
      Faulty cs (.remotePort (String.ofList far))
  | noService {near far : List Char} (three : InThree ':' cs near [] far)
      {port port' : UInt16} (right : Spells max16 near port.toNat)
      (right' : Spells max16 far port'.toNat) : Faulty cs .noService

namespace Spec

variable {cs : List Char}

theorem parseChars_written {s : Spec} (written : Written cs s) : parseChars cs = .ok s := by
  obtain ⟨⟨near, far, three, right, right'⟩, named⟩ := written
  have service : s.service.toList.isEmpty = false := by
    rw [List.isEmpty_eq_false_iff, ne_eq, String.toList_eq_nil_iff]
    exact named
  simp only [parseChars, Text.split_eq_three.mpr three, port?_eq_some.mpr right,
    port?_eq_some.mpr right', service, Bool.false_eq_true, if_false, String.ofList_toList]

theorem parseChars_faulty {reason : SpecFailure} (faulty : Faulty cs reason) :
    parseChars cs = .error reason := by
  cases faulty with
  | shape other =>
      unfold parseChars
      split
      · rename_i near service far cut
        exact absurd (Text.split_eq_three.mp cut).count_eq other
      · rfl
  | localPort three wrong =>
      simp only [parseChars, Text.split_eq_three.mpr three, port?_eq_none.mpr wrong]
  | remotePort three right wrong =>
      simp only [parseChars, Text.split_eq_three.mpr three, port?_eq_some.mpr right,
        port?_eq_none.mpr wrong]
  | noService three right right' =>
      simp only [parseChars, Text.split_eq_three.mpr three, port?_eq_some.mpr right,
        port?_eq_some.mpr right', List.isEmpty_nil, if_true]

/-- Every text is a spec or has a first fault. -/
theorem written_or_faulty (cs : List Char) : (∃ s, Written cs s) ∨ ∃ reason, Faulty cs reason := by
  by_cases two : cs.count ':' = 2
  · obtain ⟨near, service, far, three⟩ := Text.exists_three two
    cases local? : port? near with
    | none => exact .inr ⟨_, .localPort three (port?_eq_none.mp local?)⟩
    | some localPort =>
        have right := port?_eq_some.mp local?
        cases remote? : port? far with
        | none => exact .inr ⟨_, .remotePort three right (port?_eq_none.mp remote?)⟩
        | some remotePort =>
            have right' := port?_eq_some.mp remote?
            by_cases named : service = []
            · subst named
              exact .inr ⟨_, .noService three right right'⟩
            · refine .inl ⟨⟨localPort, String.ofList service, remotePort⟩,
                ⟨near, far, ?_, right, right'⟩, ?_⟩
              · rw [String.toList_ofList]
                exact three
              · rw [ne_eq, String.ofList_eq_empty_iff]
                exact named
  · exact .inr ⟨_, .shape two⟩

theorem parseChars_eq_ok {s : Spec} : parseChars cs = .ok s ↔ Written cs s := by
  refine ⟨fun ok => ?_, parseChars_written⟩
  obtain ⟨s', written⟩ | ⟨reason, faulty⟩ := written_or_faulty cs
  · cases ok.symm.trans (parseChars_written written)
    exact written
  · cases ok.symm.trans (parseChars_faulty faulty)

theorem parseChars_eq_error {reason : SpecFailure} :
    parseChars cs = .error reason ↔ Faulty cs reason := by
  refine ⟨fun failed => ?_, parseChars_faulty⟩
  obtain ⟨s, written⟩ | ⟨reason', faulty⟩ := written_or_faulty cs
  · cases failed.symm.trans (parseChars_written written)
  · cases failed.symm.trans (parseChars_faulty faulty)
    exact faulty

theorem parse_eq_ok {text : String} {s : Spec} : parse text = .ok s ↔ Written text.toList s := by
  rw [← parseChars_eq_ok, parse]
  cases parseChars text.toList <;> simp [Except.mapError]

theorem parse_eq_error {text : String} {f : Failure} :
    parse text = .error f ↔ ∃ reason, Faulty text.toList reason ∧ f = .forwardSpec text reason := by
  have told : parse text = .error f ↔
      ∃ reason, parseChars text.toList = .error reason ∧ f = .forwardSpec text reason := by
    rw [parse]
    cases parseChars text.toList with
    | error reason => simp [Except.mapError, eq_comm]
    | ok s => simp [Except.mapError]
  rw [told]
  exact exists_congr fun reason => and_congr_left' parseChars_eq_error

/-- What is rendered of a spec that can be written is that spec written. -/
theorem written_render (s : Spec) (named : s.service ≠ "") (clean : ':' ∉ s.service.toList) :
    Written s.render.toList s := by
  have spells (port : UInt16) : Spells max16 (toString port).toList port.toNat :=
    Text.Numeral.spells_toString (Nat.le_of_lt_succ port.toNat_lt)
  have free (port : UInt16) : ':' ∉ (toString port).toList :=
    (spells port).not_mem (by decide) (by decide)
  refine ⟨⟨(toString s.localPort).toList, (toString s.remotePort).toList, ⟨?_, free _, clean,
    free _⟩, spells _, spells _⟩, named⟩
  have shown : s.render =
      toString s.localPort ++ ":" ++ s.service ++ ":" ++ toString s.remotePort := rfl
  simp only [shown, String.toList_append, List.append_assoc]
  rfl

/-! ## All specs -/

theorem parseAll_cons_ok {text : String} {s : Spec} (read : parse text = .ok s)
    (texts : List String) : parseAll (text :: texts) = (parseAll texts).map (s :: ·) := by
  rw [parseAll, List.mapM_cons, read]
  rfl

theorem parseAll_cons_error {text : String} {f : Failure} (fails : parse text = .error f)
    (texts : List String) : parseAll (text :: texts) = .error f := by
  rw [parseAll, List.mapM_cons, fails]
  rfl

theorem parseAll_read {texts : List String} {specs : List Spec}
    (read : texts.map parse = specs.map .ok) : parseAll texts = .ok specs := by
  induction texts generalizing specs with
  | nil =>
      obtain rfl := List.map_eq_nil_iff.mp read.symm
      rfl
  | cons text texts ih =>
      obtain ⟨s, more, rfl, first, rest⟩ := List.map_eq_cons_iff.mp read.symm
      rw [parseAll_cons_ok first.symm, ih rest.symm]
      rfl

/-- What is behind a text that cannot be read is not looked at. -/
theorem parseAll_fails {before after : List String} {text : String} {f : Failure}
    (read : ∀ s ∈ before, ∃ spec, parse s = .ok spec) (fails : parse text = .error f) :
    parseAll (before ++ text :: after) = .error f := by
  induction before with
  | nil => exact parseAll_cons_error fails after
  | cons good before ih =>
      obtain ⟨⟨spec, ok⟩, read⟩ := List.forall_mem_cons.mp read
      rw [List.cons_append, parseAll_cons_ok ok, ih read]
      rfl

/-- Either all texts can be read, or one is the first that cannot. -/
theorem read_or_fails (texts : List String) :
    (∃ specs : List Spec, texts.map parse = specs.map .ok) ∨
      ∃ before text after f, texts = before ++ text :: after ∧
        (∀ s ∈ before, ∃ spec, parse s = .ok spec) ∧ parse text = .error f := by
  induction texts with
  | nil => exact .inl ⟨[], rfl⟩
  | cons text texts ih =>
      cases first : parse text with
      | error f => exact .inr ⟨[], text, texts, f, rfl, List.forall_mem_nil _, first⟩
      | ok spec =>
          obtain ⟨specs, read⟩ | ⟨before, bad, after, f, rfl, read, fails⟩ := ih
          · exact .inl ⟨spec :: specs, by rw [List.map_cons, List.map_cons, first, read]⟩
          · exact .inr ⟨text :: before, bad, after, f, rfl,
              List.forall_mem_cons.mpr ⟨⟨spec, first⟩, read⟩, fails⟩

/-- All specs are read, in order, if each of them can be read. -/
theorem parseAll_eq_ok {texts : List String} {specs : List Spec} :
    parseAll texts = .ok specs ↔ texts.map parse = specs.map .ok := by
  refine ⟨fun ok => ?_, parseAll_read⟩
  obtain ⟨specs', read⟩ | ⟨before, bad, after, f, rfl, read, fails⟩ := read_or_fails texts
  · cases ok.symm.trans (parseAll_read read)
    exact read
  · cases ok.symm.trans (parseAll_fails read fails)

/-- Otherwise the first one that cannot be read is told of. -/
theorem parseAll_eq_error {texts : List String} {f : Failure} :
    parseAll texts = .error f ↔ ∃ before text after, texts = before ++ text :: after ∧
      (∀ s ∈ before, ∃ spec, parse s = .ok spec) ∧ parse text = .error f := by
  constructor
  · intro failed
    obtain ⟨specs, read⟩ | ⟨before, bad, after, f', rfl, read, fails⟩ := read_or_fails texts
    · cases failed.symm.trans (parseAll_read read)
    · cases failed.symm.trans (parseAll_fails read fails)
      exact ⟨before, bad, after, rfl, read, fails⟩
  · rintro ⟨before, bad, after, rfl, read, fails⟩
    exact parseAll_fails read fails

/-- **Specs have one grammar.** A text is read as a spec exactly when it is written as that spec, and
fails with its first fault and the whole text exactly when it is not; what is rendered of a spec
is read as the spec. All texts are read, in order, if each of them can be read; otherwise the
failure is that of the first one that cannot. -/
theorem spec_grammar :
    (∀ (text : String) (s : Spec), parse text = .ok s ↔ Written text.toList s) ∧
    (∀ (text : String) (f : Failure), parse text = .error f ↔
      ∃ reason, Faulty text.toList reason ∧ f = .forwardSpec text reason) ∧
    (∀ s : Spec, s.service ≠ "" → ':' ∉ s.service.toList → parse s.render = .ok s) ∧
    (∀ (texts : List String) (specs : List Spec),
      parseAll texts = .ok specs ↔ texts.map parse = specs.map .ok) ∧
    ∀ (texts : List String) (f : Failure), parseAll texts = .error f ↔
      ∃ before text after, texts = before ++ text :: after ∧
        (∀ s ∈ before, ∃ spec, parse s = .ok spec) ∧ parse text = .error f :=
  ⟨fun _ _ => parse_eq_ok, fun _ _ => parse_eq_error,
    fun s named clean => parse_eq_ok.mpr (written_render s named clean),
    fun _ _ => parseAll_eq_ok, fun _ _ => parseAll_eq_error⟩

/-- A port with a sign and zeros before it, a service that looks like a port, and a text that is
wrong in three ways behind a good one. -/
theorem tricky_specs_read :
    parse "+007:+1:65535" = .ok ⟨7, "+1", 65535⟩ ∧
    parse (render ⟨0, "\u00fc-80 ", 65535⟩) = .ok ⟨0, "\u00fc-80 ", 65535⟩ ∧
    parseAll ["1:db:2", "65536::-0", "x"] =
      .error (.forwardSpec "65536::-0" (.localPort "65536")) := by
  obtain ⟨reads, fails, rendered, -, first⟩ := spec_grammar
  refine ⟨(reads _ _).mpr ⟨⟨['+', '0', '0', '7'], ['6', '5', '5', '3', '5'],
      ⟨rfl, by decide, by decide, by decide⟩,
      ⟨['0', '0', '7'], .inr rfl, by decide, by simp, rfl, by decide⟩,
      ⟨_, .inl rfl, by decide, by simp, rfl, by decide⟩⟩, by decide⟩,
    rendered ⟨0, "\u00fc-80 ", 65535⟩ (by decide) (by decide), (first _ _).mpr ?_⟩
  refine ⟨["1:db:2"], "65536::-0", ["x"], rfl, ?_, by decide⟩
  exact fun s mem => ⟨⟨1, "db", 2⟩, by rw [List.mem_singleton.mp mem]; decide⟩

end Spec

end Forward

end ComposeSite
