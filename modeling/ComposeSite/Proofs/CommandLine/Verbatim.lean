/-
# ComposeSite.Proofs.CommandLine.Verbatim -- words that are passed on as they are

The last slot of some commands takes everything after its first word as it is.  Where no
command can follow, a line is read word by word (`scan_leaf`), and each word keeps the
invariant that once that slot has been filled there is nothing left to be settled
(`step_verbatim`, `steps_verbatim`).  From then on words only add to the slot
(`steps_more`), so that what follows the first word changes nothing that has been read
before it, wherever that was said (`read_append`).
-/
import ComposeSite.CommandLine.Basic

set_option autoImplicit false

namespace ComposeSite.CommandLine

open Reading (scan takeWord takeOption takeOther takeLong takeShort takeShorts readFrom check)

section Except

variable {α β ε : Type} {x : Except ε α} {b : β}

theorem ok_of_bind {f : α → Except ε β} (ok : x >>= f = .ok b) : ∃ a, x = .ok a ∧ f a = .ok b := by
  cases x with
  | error e => cases ok
  | ok a => exact ⟨a, rfl, ok⟩

theorem ok_of_map {f : α → β} (ok : f <$> x = .ok b) : ∃ a, x = .ok a ∧ f a = b := by
  cases x with
  | error e => cases ok
  | ok a => exact ⟨a, rfl, Except.ok.inj ok⟩

end Except

/-! ## Word by word -/

/-- Reads one word at a place where no command can follow. -/
def Reading.step (p : Place) (r : Reading) (word : String) : Except Refusal Reading :=
  if r.wordsOnly then takeWord p r word
  else if word = "--" then .ok { r with wordsOnly := true }
  else do
    match ← takeOption p r word with
    | some r => pure r
    | none => takeOther p r word

/-- Where no command can follow, all words are read one after the other. -/
theorem scan_leaf {p : Place} (leaf : p.commands = []) (r : Reading) (words : List String) :
    scan p r words = (·, none) <$> words.foldlM (Reading.step p) r := by
  induction words generalizing r with
  | nil => rfl
  | cons word words ih =>
      have noHelp : Reading.isHelp p word = false := by
        simp [Reading.isHelp, Place.needsCommand, leaf]
      rw [scan, List.foldlM_cons, Reading.step]
      by_cases only : r.wordsOnly = true
      · rw [if_pos only, if_pos only]
        cases takeWord p r word with
        | error refusal => rfl
        | ok r => exact ih r
      · rw [if_neg only, if_neg only, leaf, List.lookup_nil]
        simp only [noHelp, Bool.and_false, Bool.false_eq_true, if_false]
        by_cases dashes : word = "--"
        · rw [if_pos dashes, if_pos dashes]
          exact ih _
        · rw [if_neg dashes, if_neg dashes]
          cases takeOption p r word with
          | error refusal => rfl
          | ok taken =>
              cases taken with
              | some r => exact ih r
              | none =>
                  cases takeOther p r word with
                  | error refusal => rfl
                  | ok r => exact ih r

/-! ## Options -/

namespace Reading

variable {p : Place} {r r' : Reading}

theorem give_words {f : Flag} {value : String} (ok : r.give f value = .ok r') :
    r' = { r with given := r'.given } := by
  rw [give] at ok
  split at ok
  · cases ok
  · cases ok; rfl

/-- Settling an option leaves nothing pending, and the words as they are. -/
theorem settle_words (ok : r.settle = .ok r') :
    r' = { r with given := r'.given, pending := none } := by
  rw [settle] at ok
  split at ok
  · cases ok
    rename_i none
    rw [← none]
  · cases ok
  · exact give_words ok

/-- Dealing with an option fills no slot. -/
theorem takeFlag_words {f : Flag} {attached : Option String}
    (ok : r.takeFlag f attached = .ok r') : r'.words = r.words := by
  rw [takeFlag] at ok
  split at ok
  · obtain ⟨settled, settles, ok⟩ := ok_of_bind ok
    have words : settled.words = r.words := by rw [settle_words settles]
    cases attached with
    | some value =>
        rw [give_words ok]
        exact words
    | none =>
        cases ok
        exact words
  · split at ok
    · cases ok
    · obtain ⟨settled, settles, ok⟩ := ok_of_bind ok
      have words : settled.words = r.words := by rw [settle_words settles]
      split at ok
      · cases ok
      · cases ok
      · rw [give_words ok]
        exact words

theorem takeShorts_words {cs : List Char} (ok : takeShorts p r cs = .ok r') :
    r'.words = r.words := by
  induction cs generalizing r with
  | nil => cases ok; rfl
  | cons c cs ih =>
      unfold takeShorts at ok
      split at ok
      · cases ok
      · split at ok
        · exact takeFlag_words ok
        · obtain ⟨taken, takes, ok⟩ := ok_of_bind ok
          rw [ih ok, takeFlag_words takes]

/-- An option fills no slot. -/
theorem takeOption_words {word : String} (ok : takeOption p r word = .ok (some r')) :
    r'.words = r.words := by
  rw [takeOption] at ok
  split at ok
  · rw [takeLong] at ok
    split at ok
    split at ok
    · obtain ⟨taken, takes, same⟩ := ok_of_map ok
      cases same
      exact takeFlag_words takes
    · split at ok <;> cases ok
  · rw [takeShort] at ok
    split at ok
    · cases ok
    · obtain ⟨taken, takes, same⟩ := ok_of_map ok
      cases same
      exact takeShorts_words takes
  · cases ok

/-! ## Words that are passed on -/

theorem slotWords_of_words (same : r'.words = r.words) (v : Nat) :
    r'.slotWords v = r.slotWords v := by
  rw [slotWords, same, slotWords]

/-- A slot that takes everything as it is has been filled, and nothing is left to be
settled. -/
structure Verbatim (v : Nat) (r : Reading) : Prop where
  slot : r.slot = v
  only : r.wordsOnly = true
  settled : r.pending = none
  idle : r.awaitsValue = false
  inSlot : r.inSlot = true

/-- A reading with more words in the slot that is being filled. -/
def more (r : Reading) (words : List String) : Reading :=
  { r with words := r.words ++ words.map (r.slot, ·) }

theorem more_verbatim {v : Nat} (full : r.Verbatim v) (words : List String) :
    (r.more words).Verbatim v :=
  ⟨full.slot, full.only, full.settled, full.idle, full.inSlot⟩

/-- A word fills a slot. -/
theorem takeWord_ok {word : String} (ok : takeWord p r word = .ok r') :
    ∃ s, p.slots[r.slot]? = some s ∧ r' = { r with
      given := r'.given, pending := none, awaitsValue := false,
      words := r.words ++ [(r.slot, word)], slot := if s.many then r.slot else r.slot + 1,
      inSlot := s.many, wordsOnly := r.wordsOnly || s.verbatim } := by
  rw [takeWord, nextSlot?] at ok
  split at ok
  · cases ok
  · rename_i s found
    obtain ⟨settled, settles, ok⟩ := ok_of_bind ok
    refine ⟨s, found, ?_⟩
    rw [settle_words settles] at ok
    cases ok
    rfl

/-- A word that is no option is the value of one, or it fills a slot. -/
theorem takeOther_ok {word : String} (ok : takeOther p r word = .ok r') :
    r'.words = r.words ∨ takeWord p r word = .ok r' := by
  unfold takeOther at ok
  split at ok
  · cases ok
    exact .inl rfl
  · exact .inr ok

section Slot

variable {v : Nat} {s : Slot} (takes : p.slots[v]? = some s) (many : s.many = true)
  (verbatim : s.verbatim = true)

include takes many verbatim

theorem takeWord_verbatim {word : String} (sound : r.slotWords v ≠ [] → r.Verbatim v)
    (ok : takeWord p r word = .ok r') (filled : r'.slotWords v ≠ []) : r'.Verbatim v := by
  obtain ⟨other, found, eq⟩ := takeWord_ok ok
  by_cases same : r.slot = v
  · rw [same, takes] at found
    obtain rfl := Option.some.inj found
    rw [eq]
    exact ⟨by simp [many, same], by simp [verbatim], rfl, rfl, by simp [many]⟩
  · have before : r.slotWords v ≠ [] := by
      rw [eq] at filled
      simpa [slotWords, same] using filled
    exact absurd (sound before).slot same

/-- Once a slot that takes everything has been filled, it stays that way. -/
theorem step_verbatim {word : String} (sound : r.slotWords v ≠ [] → r.Verbatim v)
    (ok : step p r word = .ok r') (filled : r'.slotWords v ≠ []) : r'.Verbatim v := by
  rw [step] at ok
  split at ok
  · exact takeWord_verbatim takes many verbatim sound ok filled
  · rename_i notOnly
    have unfilled (same : r'.words = r.words) : r'.Verbatim v := by
      rw [slotWords_of_words same] at filled
      exact absurd (sound filled).only notOnly
    split at ok
    · cases ok
      exact unfilled rfl
    · obtain ⟨taken, takesOption, ok⟩ := ok_of_bind ok
      cases taken with
      | some r₁ =>
          cases ok
          exact unfilled (takeOption_words takesOption)
      | none =>
          rcases takeOther_ok ok with value | fills
          · exact unfilled value
          · exact takeWord_verbatim takes many verbatim sound fills filled

theorem steps_verbatim {words : List String} (sound : r.slotWords v ≠ [] → r.Verbatim v)
    (ok : words.foldlM (step p) r = .ok r') (filled : r'.slotWords v ≠ []) : r'.Verbatim v := by
  induction words generalizing r with
  | nil =>
      cases ok
      exact sound filled
  | cons word words ih =>
      rw [List.foldlM_cons] at ok
      obtain ⟨r₁, first, rest⟩ := ok_of_bind ok
      exact ih (step_verbatim takes many verbatim sound first) rest

omit verbatim in
/-- All words that follow fill the slot. -/
theorem steps_more (full : r.Verbatim v) (words : List String) :
    words.foldlM (step p) r = .ok (r.more words) := by
  induction words generalizing r with
  | nil => simp [more, pure, Except.pure]
  | cons word words ih =>
      have fills : step p r word = .ok (r.more [word]) := by
        obtain ⟨given, pending, awaitsValue, said, slot, inSlot, wordsOnly⟩ := r
        obtain ⟨rfl, rfl, rfl, rfl, rfl⟩ := full
        simp [step, takeWord, nextSlot?, takes, settle, many, more, bind, Except.bind, pure,
          Except.pure]
      have rest := ih (more_verbatim full [word])
      rw [List.foldlM_cons, fills]
      simp only [bind, Except.bind, rest]
      simp [more]

end Slot

variable {words : List String}

/-- A command ends the reading at a place, whatever follows it. -/
theorem scan_append {next : Place} {rest : List String}
    (ok : scan p r words = .ok (r', some (next, rest))) (ws : List String) :
    scan p r (words ++ ws) = .ok (r', some (next, rest ++ ws)) := by
  induction words generalizing r with
  | nil => cases ok
  | cons word words ih =>
      have goesOn {act : Except Refusal Reading} (ok : act >>= (scan p · words) =
          .ok (r', some (next, rest))) :
          act >>= (scan p · (words ++ ws)) = .ok (r', some (next, rest ++ ws)) := by
        obtain ⟨r₁, first, later⟩ := ok_of_bind ok
        rw [first]
        exact ih later
      rw [List.cons_append, scan]
      rw [scan] at ok
      by_cases only : r.wordsOnly = true
      · rw [if_pos only] at ok ⊢
        exact goesOn ok
      rw [if_neg only] at ok ⊢
      dsimp only at ok ⊢
      cases found : p.commands.lookup word with
      | some place =>
          simp only [found] at ok ⊢
          by_cases atCommand : (!r.awaitsValue && !r.inSlot) = true
          · rw [if_pos atCommand] at ok ⊢
            cases ok
            rfl
          · rw [if_neg atCommand] at ok ⊢
            exact goesOn ok
      | none =>
          simp only [found] at ok ⊢
          by_cases help : (!r.awaitsValue && !r.inSlot && isHelp p word) = true
          · rw [if_pos help] at ok
            cases ok
          rw [if_neg help] at ok ⊢
          by_cases dashes : word = "--"
          · rw [if_pos dashes] at ok ⊢
            exact ih ok
          rw [if_neg dashes] at ok ⊢
          obtain ⟨taken, takes, later⟩ := ok_of_bind ok
          rw [takes]
          cases taken with
          | some r₁ => exact ih later
          | none => exact goesOn later

end Reading

/-! ## Whole lines -/

/-- The slot of a place that takes everything after its first word as it is. -/
def Place.passSlot? : Place → Option Nat
  | .compose | .make => some 0
  | .exec => some 1
  | _ => none

theorem Place.passSlot_spec {p : Place} {v : Nat} (passes : p.passSlot? = some v) :
    p.commands = [] ∧ ∃ s, p.slots[v]? = some s ∧ s.many = true ∧ s.verbatim = true := by
  cases p <;> cases passes <;> exact ⟨rfl, _, rfl, rfl, rfl⟩

namespace Reading

variable {p q : Place} {r rd : Reading} {v : Nat} {words : List String} {told : Bool}

theorem settle_verbatim (full : r.Verbatim v) : r.settle = .ok r := by
  rw [settle, full.settled]

/-- Once the slot has been filled, all that follows fills it. -/
theorem scan_more (passes : p.passSlot? = some v) (ok : scan p {} words = .ok (r, none))
    (filled : r.slotWords v ≠ []) :
    r.Verbatim v ∧ ∀ ws, scan p {} (words ++ ws) = .ok (r.more ws, none) := by
  obtain ⟨leaf, s, takes, many, verbatim⟩ := p.passSlot_spec passes
  rw [scan_leaf leaf] at ok
  obtain ⟨r', steps, same⟩ := ok_of_map ok
  cases same
  have full : r.Verbatim v :=
    steps_verbatim takes many verbatim (fun filled => absurd rfl filled) steps filled
  refine ⟨full, fun ws => ?_⟩
  rw [scan_leaf leaf, List.foldlM_append, steps]
  exact congrArg (Functor.map (·, none)) (steps_more takes many full ws)

/-- Words in a slot do not take from others. -/
theorem check_more {hasCommand : Bool} (ok : check p told hasCommand r = .ok ())
    (ws : List String) : check p told hasCommand (r.more ws) = .ok () := by
  have grows (slot : Nat) (empty : (r.more ws).slotWords slot = []) : r.slotWords slot = [] := by
    rw [slotWords, more, List.filter_append, List.map_append, List.append_eq_nil_iff] at empty
    exact empty.1
  rw [check] at ok ⊢
  split at ok
  · cases ok
  · rename_i goes
    rw [if_neg goes]
    split at ok
    · cases ok
    · rename_i filled
      rw [if_neg]
      simp only [List.any_eq_true, not_exists, not_and, Bool.and_eq_true, List.isEmpty_iff]
        at filled ⊢
      exact fun slot mem required empty => filled slot mem required (grows slot.2 empty)

/-- What is read from a place on: that place, and what its command leads to. -/
theorem readFrom_succ {depth : Nat} {readings : List (Place × Reading)} :
    readFrom told (depth + 1) p words = .ok readings ↔ ∃ r next deeper settled,
      scan p {} words = .ok (r, next) ∧
      (match next with
        | some (place, rest) => readFrom told depth place rest
        | none => .ok []) = .ok deeper ∧
      r.settle = .ok settled ∧ check p told next.isSome settled = .ok () ∧
      readings = deeper ++ [(p, settled)] := by
  constructor
  · intro ok
    obtain ⟨⟨r, next⟩, scans, ok⟩ := ok_of_bind ok
    cases next with
    | none =>
        obtain ⟨deeper, nothing, ok⟩ := ok_of_bind ok
        cases nothing
        obtain ⟨settled, settles, ok⟩ := ok_of_bind ok
        obtain ⟨⟨⟩, checks, ok⟩ := ok_of_bind ok
        cases ok
        exact ⟨r, none, [], settled, scans, rfl, settles, checks, rfl⟩
    | some command =>
        obtain ⟨deeper, reads, ok⟩ := ok_of_bind ok
        obtain ⟨settled, settles, ok⟩ := ok_of_bind ok
        obtain ⟨⟨⟩, checks, ok⟩ := ok_of_bind ok
        cases ok
        exact ⟨r, some command, deeper, settled, scans, reads, settles, checks, rfl⟩
  · rintro ⟨r, next, deeper, settled, scans, reads, settles, checks, rfl⟩
    rw [readFrom, scans]
    cases next with
    | none =>
        cases reads
        simp only [bind, Except.bind, pure, Except.pure, settles, checks]
    | some command =>
        simp only at reads
        simp only [bind, Except.bind, pure, Except.pure, reads, settles, checks]

/-- Once the slot of the last place has been filled, all that follows fills it, and nothing
else is read differently. -/
theorem readFrom_append {depth : Nat} {readings : List (Place × Reading)}
    (ok : readFrom told depth p words = .ok readings) (last : readings.head? = some (q, rd))
    (passes : q.passSlot? = some v) (filled : rd.slotWords v ≠ []) :
    rd.Verbatim v ∧ ∀ ws, readFrom told depth p (words ++ ws) =
      .ok ((q, rd.more ws) :: readings.tail) := by
  induction depth generalizing p words readings with
  | zero => cases ok
  | succ depth ih =>
      obtain ⟨r, next, deeper, settled, scans, reads, settles, checks, rfl⟩ := readFrom_succ.mp ok
      cases next with
      | none =>
          cases reads
          cases last
          have same : rd.words = r.words := by rw [settle_words settles]
          rw [slotWords_of_words same] at filled
          obtain ⟨full, scansMore⟩ := scan_more passes scans filled
          obtain rfl : r = rd := by
            rw [settle_verbatim full] at settles
            exact Except.ok.inj settles
          refine ⟨full, fun ws => readFrom_succ.mpr ⟨_, none, [], _, scansMore ws, rfl,
            settle_verbatim (more_verbatim full ws), check_more checks ws, rfl⟩⟩
      | some command =>
          obtain ⟨place, rest⟩ := command
          obtain ⟨first, deeper, rfl⟩ : ∃ first tail, deeper = first :: tail := by
            cases deeper with
            | cons first tail => exact ⟨first, tail, rfl⟩
            | nil =>
                cases depth with
                | zero => cases reads
                | succ depth =>
                    obtain ⟨_, _, _, _, -, -, -, -, none⟩ := readFrom_succ.mp reads
                    exact absurd none.symm (by simp)
          cases last
          obtain ⟨full, readsMore⟩ := ih reads rfl
          exact ⟨full, fun ws => readFrom_succ.mpr ⟨r, some (place, rest ++ ws), _, settled,
            scan_append scans ws, readsMore ws, settles, checks, rfl⟩⟩

end Reading

namespace Command

/-- The words of a command that are passed on as they are. -/
def passed : Command → List String
  | .compose args | .make args => args
  | .exec r => r.command
  | _ => []

/-- A command with more words to pass on. -/
def pass (ws : List String) : Command → Command
  | .compose args => .compose (args ++ ws)
  | .make args => .make (args ++ ws)
  | .exec r => .exec { r with command := r.command ++ ws }
  | command => command

end Command

/-- A command that passes words on is asked for where a slot takes them, and more words there
are more words that it passes on. -/
theorem commandAt_passed {p : Place} {rd : Reading} {command : Command}
    (asked : commandAt p rd = some command) (passes : command.passed ≠ []) :
    ∃ v, p.passSlot? = some v ∧ rd.slotWords v ≠ [] ∧
      (rd.slot = v → ∀ ws, commandAt p (rd.more ws) = some (command.pass ws)) := by
  have adds (v : Nat) (slot : rd.slot = v) (ws : List String) :
      (rd.more ws).slotWords v = rd.slotWords v ++ ws := by
    simp [Reading.slotWords, Reading.more, slot, List.filter_map, Function.comp_def]
  have others (v u : Nat) (slot : rd.slot = v) (ne : v ≠ u) (ws : List String) :
      (rd.more ws).slotWords u = rd.slotWords u := by
    simp [Reading.slotWords, Reading.more, slot, ne]
  cases p with
  | compose | make =>
      cases asked
      refine ⟨0, rfl, passes, fun slot ws => ?_⟩
      simp only [commandAt, Command.pass, adds 0 slot]
  | exec =>
      cases asked
      refine ⟨1, rfl, passes, fun slot ws => ?_⟩
      simp only [commandAt, Command.pass, adds 1 slot, others 1 0 slot (by decide)]
      rfl
  | portForward | secret | env | dbUri | configShow =>
      cases asked
      exact absurd rfl passes
  | top | config => cases asked

/-- What follows the first word that a command passes on is passed on as it is, whatever it
looks like, and changes nothing else. -/
theorem read_append {e : Environment} {line : List String} {q : Request}
    (reads : read e line = .ok q) (passes : q.command.passed ≠ []) (ws : List String) :
    read e (line ++ ws) = .ok { q with command := q.command.pass ws } := by
  obtain ⟨readings, ok, reads⟩ := ok_of_bind reads
  obtain ⟨⟨p, rd⟩, others, rfl⟩ : ∃ first others, readings = first :: others := by
    cases readings with
    | nil => cases reads
    | cons first others => exact ⟨first, others, rfl⟩
  cases asked : commandAt p rd with
  | none =>
      simp only [List.head?_cons, Option.bind_some, asked] at reads
      cases reads
  | some command =>
      simp only [List.head?_cons, Option.bind_some, asked] at reads
      cases reads
      obtain ⟨v, slot, filled, more⟩ := commandAt_passed asked passes
      obtain ⟨full, readsMore⟩ := Reading.readFrom_append ok rfl slot filled
      simp only [read, readsMore ws, bind, Except.bind, List.head?_cons, Option.bind_some,
        more full.slot ws]
      rfl

/-! ## Lines that start with a command -/

/-- A word that is neither empty nor starts with a dash. -/
def isPlainWord (word : String) : Bool := word.toList.head?.any (· ≠ '-')

section Plain

variable {word : String} (plain : isPlainWord word = true)

include plain

theorem takeOption_plain (p : Place) (r : Reading) : takeOption p r word = .ok none := by
  rw [isPlainWord] at plain
  rw [takeOption]
  split
  · simp_all
  · simp_all
  · rfl

/-- A plain word fills the next slot, unless an option waits for its value. -/
theorem step_plain {p : Place} {r : Reading} (idle : r.awaitsValue = false) :
    Reading.step p r word = takeWord p r word := by
  have noDashes : word ≠ "--" := by
    rintro rfl
    cases plain
  have fills : takeOther p r word = takeWord p r word := by
    unfold takeOther
    rw [idle]
  rw [Reading.step, takeOption_plain plain, if_neg noDashes, fills]
  exact ite_self _

end Plain

/-- The request for a command in the context and with the level of logs that variables ask
for. -/
def usualRequest (e : Environment) (command : Command) : Request :=
  ⟨e.get? contextVariable, (e.get? logVariable).getD usualLogLevel, command⟩

/-- A line of a command's name and words that are no options. -/
theorem read_words {e : Environment} {name : String} {p : Place} {words : List String}
    {r : Reading} {command : Command} (named : Place.top.commands.lookup name = some p)
    (fills : scan p {} words = .ok (r, none)) (settled : r.settle = .ok r)
    (checks : ∀ told, check p told false r = .ok ()) (noOption : r.given = [])
    (asked : commandAt p r = some command) :
    read e (name :: words) = .ok (usualRequest e command) := by
  have leads : scan .top {} (name :: words) = .ok ({}, some (p, words)) := by
    rw [scan]
    simp [named]
  have reads (told : Bool) : readFrom told deepest .top (name :: words) =
      .ok [(p, r), (.top, {})] :=
    Reading.readFrom_succ.mpr ⟨_, some (p, words), [(p, r)], {}, leads,
      Reading.readFrom_succ.mpr ⟨r, none, [], r, fills, rfl, settled, checks told, rfl⟩,
      rfl, rfl, rfl⟩
  have unsaid (k : Key) : shared? [(p, r), (.top, {})] k = none := by
    simp [shared?, Reading.value?, noOption]
  simp only [read, reads, bind, Except.bind, List.head?_cons, Option.bind_some, asked, unsaid]
  rfl

section Bare

variable {word : String} (plain : isPlainWord word = true) (e : Environment)

include plain

theorem read_compose : read e ["compose", word] = .ok (usualRequest e (.compose [word])) := by
  refine read_words (p := .compose)
    (r := { words := [(0, word)], inSlot := true, wordsOnly := true }) rfl ?_ rfl
    (fun _ => rfl) rfl rfl
  rw [scan_leaf rfl, List.foldlM_cons, step_plain plain rfl]
  rfl

theorem read_make : read e ["make", word] = .ok (usualRequest e (.make [word])) := by
  refine read_words (p := .make)
    (r := { words := [(0, word)], inSlot := true, wordsOnly := true }) rfl ?_ rfl
    (fun _ => rfl) rfl rfl
  rw [scan_leaf rfl, List.foldlM_cons, step_plain plain rfl]
  rfl

theorem read_exec {service : String} (plainService : isPlainWord service = true) :
    read e ["exec", service, word] =
      .ok (usualRequest e (.exec ⟨false, none, none, [], service, [word]⟩)) := by
  refine read_words (p := .exec)
    (r := { words := [(0, service), (1, word)], slot := 1, inSlot := true, wordsOnly := true })
    rfl ?_ rfl (fun _ => rfl) rfl rfl
  rw [scan_leaf rfl, List.foldlM_cons, step_plain plainService rfl]
  have next : takeWord .exec {} service =
      .ok { words := [(0, service)], slot := 1 } := rfl
  rw [next]
  simp only [bind, Except.bind]
  rw [List.foldlM_cons, step_plain plain rfl]
  rfl

end Bare

end ComposeSite.CommandLine
