/-
# ComposeSite.Proofs.Compose.Arguments -- what compose is told, read back

The arguments of docker are read as compose reads them: a profile, then files, then environment
files, up to the first word that is none of their flags (`Reading.ofArguments?`).  A subcommand is
no such word, so whatever the words and files are called, reading gives the settings of the
context, and the words with nothing but the added flags behind them (`ofArguments?_contextFlags`,
`arguments_read_back`).

The added flags stand at the very end.  Where the words state the end of the options, that is
behind it, and compose takes the flags for names of services (`added_flags_placed`).
-/
import ComposeSite.Compose.Arguments
import ComposeSite.Proofs.Ssh.HostKey
import Mathlib.Data.List.TakeWhile

set_option autoImplicit false

namespace ComposeSite.Compose

/-! ## Reading flags -/

/-- The value behind a flag that stands first, and what is left. -/
def takeOnce (flag : String) : List String → Option String × List String
  | word :: value :: words =>
      if word = flag then (some value, words) else (none, word :: value :: words)
  | words => (none, words)

/-- The values behind a flag as often as it stands first, and what is left. -/
def takeEach (flag : String) : List String → List String × List String
  | word :: value :: words =>
      if word = flag then (value :: (takeEach flag words).1, (takeEach flag words).2)
      else ([], word :: value :: words)
  | words => ([], words)

/-- What is told to compose. -/
structure Reading where
  profile : Option String
  composeFiles : List String
  envFiles : List String
  words : List String
  deriving DecidableEq, Repr

/-- What arguments of docker tell compose. -/
def Reading.ofArguments? : List String → Option Reading
  | "compose" :: args =>
      let (profile, args) := takeOnce "--profile" args
      let (composeFiles, args) := takeEach "-f" args
      let (envFiles, words) := takeEach "--env-file" args
      some ⟨profile, composeFiles, envFiles, words⟩
  | _ => none

section Flags

variable {flag : String} {words : List String}

theorem takeOnce_other (other : words.head? ≠ some flag) :
    takeOnce flag words = (none, words) := by
  rcases words with _ | ⟨word, _ | ⟨value, words⟩⟩
  · rfl
  · rfl
  · have unlike : word ≠ flag := by simpa using other
    rw [takeOnce, if_neg unlike]

theorem takeEach_other (other : words.head? ≠ some flag) : takeEach flag words = ([], words) := by
  rcases words with _ | ⟨word, _ | ⟨value, words⟩⟩
  · rfl
  · rfl
  · have unlike : word ≠ flag := by simpa using other
    rw [takeEach, if_neg unlike]

/-- Values that are given one by one are read back, up to another word. -/
theorem takeEach_given (values : List String) (other : words.head? ≠ some flag) :
    takeEach flag (values.flatMap (fun value => [flag, value]) ++ words) = (values, words) := by
  induction values with
  | nil => exact takeEach_other other
  | cons value values ih =>
      rw [List.flatMap_cons, List.append_assoc]
      show takeEach flag (flag :: value :: (values.flatMap (fun value => [flag, value]) ++ words)) =
        (value :: values, words)
      rw [takeEach, if_pos rfl, ih]

/-- Behind values that are given one by one, either they or what follows comes first. -/
theorem head?_given_ne {other : String} (values : List String) (unlike : flag ≠ other)
    (next : words.head? ≠ some other) :
    (values.flatMap (fun value => [flag, value]) ++ words).head? ≠ some other := by
  cases values with
  | nil => exact next
  | cons value values => simpa using unlike

end Flags

/-! ## The context's settings -/

/-- Words that begin with a subcommand. -/
def Accepted (words : List String) : Prop :=
  ∃ subcommand ∈ subcommands, words.head? = some subcommand

theorem Accepted.head?_ne {words : List String} (accepted : Accepted words) {flag : String}
    (other : flag ∉ subcommands) : words.head? ≠ some flag := by
  obtain ⟨subcommand, known, first⟩ := accepted
  rintro same
  rw [first, Option.some.injEq] at same
  exact other (same ▸ known)

theorem Accepted.append {words : List String} (accepted : Accepted words) (more : List String) :
    Accepted (words ++ more) := by
  obtain ⟨subcommand, known, first⟩ := accepted
  exact ⟨subcommand, known, by rw [List.head?_append, first]; rfl⟩

/-- The settings are read back in front of any words that begin with a subcommand. -/
theorem ofArguments?_contextFlags (c : Context) {words : List String} (accepted : Accepted words) :
    Reading.ofArguments? ("compose" :: (contextFlags c ++ words)) =
      some ⟨c.activeProfile?, c.composeFiles, c.envFiles, words⟩ := by
  have envs : takeEach "--env-file"
      (c.envFiles.flatMap (fun file => ["--env-file", file]) ++ words) = (c.envFiles, words) :=
    takeEach_given c.envFiles (accepted.head?_ne (by decide))
  have behindFiles : (c.envFiles.flatMap (fun file => ["--env-file", file]) ++ words).head? ≠
      some "-f" :=
    head?_given_ne c.envFiles (by decide) (accepted.head?_ne (by decide))
  have files := takeEach_given c.composeFiles behindFiles
  have behindProfile : (c.composeFiles.flatMap (fun file => ["-f", file]) ++
      (c.envFiles.flatMap (fun file => ["--env-file", file]) ++ words)).head? ≠
        some "--profile" :=
    head?_given_ne c.composeFiles (by decide)
      (head?_given_ne c.envFiles (by decide) (accepted.head?_ne (by decide)))
  rw [contextFlags, List.append_assoc, List.append_assoc, Reading.ofArguments?]
  cases c.activeProfile? with
  | none => simp only [List.nil_append, takeOnce_other behindProfile, files, envs]
  | some profile =>
      simp only [List.cons_append, List.nil_append, takeOnce, if_pos, files, envs]

/-! ## The added flags -/

/-- `up` is detached unless it was told to be, `build` pulls unless it was told to, and nothing is
added to other words. -/
theorem addedFlags_cases (words : List String) :
    (addedFlags words = ["-d", "--remove-orphans"] ∧ words.head? = some "up" ∧
      "-d" ∉ words ∧ "--detach" ∉ words) ∨
    (addedFlags words = ["--pull"] ∧ words.head? = some "build" ∧ "--pull" ∉ words) ∨
    (addedFlags words = [] ∧ (words.head? = some "up" → "-d" ∈ words ∨ "--detach" ∈ words) ∧
      (words.head? = some "build" → "--pull" ∈ words)) := by
  unfold addedFlags
  split
  · split <;> grind
  · split <;> grind
  · grind

theorem addedFlags_eq_detached {words : List String} :
    addedFlags words = ["-d", "--remove-orphans"] ↔
      words.head? = some "up" ∧ "-d" ∉ words ∧ "--detach" ∉ words := by
  grind [addedFlags_cases]

theorem addedFlags_eq_pull {words : List String} :
    addedFlags words = ["--pull"] ↔ words.head? = some "build" ∧ "--pull" ∉ words := by
  grind [addedFlags_cases]

theorem addedFlags_eq_nil {words : List String} : addedFlags words = [] ↔
    (words.head? = some "up" → "-d" ∈ words ∨ "--detach" ∈ words) ∧
      (words.head? = some "build" → "--pull" ∈ words) := by
  grind [addedFlags_cases]

/-- What has been added is not added again. -/
theorem addedFlags_append (words : List String) : addedFlags (words ++ addedFlags words) = [] := by
  rcases addedFlags_cases words with ⟨added, up, -⟩ | ⟨added, build, -⟩ | ⟨added, -⟩
  · have first : (words ++ ["-d", "--remove-orphans"]).head? = some "up" := by
      rw [List.head?_append, up]
      rfl
    rw [added, addedFlags_eq_nil, first]
    simp
  · have first : (words ++ ["--pull"]).head? = some "build" := by
      rw [List.head?_append, build]
      rfl
    rw [added, addedFlags_eq_nil, first]
    simp
  · rw [added, List.append_nil, added]

theorem marker_not_mem_addedFlags (words : List String) : "--" ∉ addedFlags words := by
  rcases addedFlags_cases words with ⟨added, -⟩ | ⟨added, -⟩ | ⟨added, -⟩ <;> rw [added] <;> decide

/-! ## The arguments -/

theorem accepted_iff {words : List String} :
    subcommands.contains (words.headD "") = true ↔ Accepted words := by
  rw [List.contains_iff_mem]
  cases words with
  | nil =>
      refine iff_of_false (by decide) ?_
      rintro ⟨subcommand, -, first⟩
      cases first
  | cons word words => simp [Accepted]

theorem arguments_accepted (c : Context) {words : List String} (accepted : Accepted words) :
    arguments c words = .ok ("compose" :: (contextFlags c ++ (words ++ addedFlags words))) := by
  rw [arguments, if_pos (accepted_iff.mpr accepted), List.cons_append]

theorem arguments_refused (c : Context) {words : List String} (refused : ¬Accepted words) :
    arguments c words = .error (.config (.unknownComposeCommand (words.headD ""))) := by
  rw [arguments, if_neg (mt accepted_iff.mp refused)]

theorem activeProfile?_eq_some {c : Context} {profile : String} :
    c.activeProfile? = some profile ↔ c.profile = some profile ∧ profile ≠ "" := by
  simp [Context.activeProfile?, Option.filter_eq_some_iff]

/-- **What compose is told is read back.**  Words that do not begin with a subcommand are refused.
Otherwise reading the arguments gives the profile of the context unless it is empty, its files and
environment files in order, and the words as they were given, with nothing behind them but the
flags of an `up` that states none of its own or of a `build` that does not pull.  What has been
read is not added to again: told anew in the same context, it makes the same arguments. -/
theorem arguments_read_back (c : Context) (words : List String) :
    (¬Accepted words →
      arguments c words = .error (.config (.unknownComposeCommand (words.headD "")))) ∧
    (Accepted words → ∃ args profile added, arguments c words = .ok args ∧
      Reading.ofArguments? args =
        some ⟨profile, c.composeFiles, c.envFiles, words ++ added⟩ ∧
      (∀ name, profile = some name ↔ c.profile = some name ∧ name ≠ "") ∧
      (added = [] ∨ added = ["-d", "--remove-orphans"] ∨ added = ["--pull"]) ∧
      (added = ["-d", "--remove-orphans"] ↔
        words.head? = some "up" ∧ "-d" ∉ words ∧ "--detach" ∉ words) ∧
      (added = ["--pull"] ↔ words.head? = some "build" ∧ "--pull" ∉ words) ∧
      addedFlags (words ++ added) = [] ∧ arguments c (words ++ added) = .ok args) := by
  refine ⟨arguments_refused c, fun accepted => ?_⟩
  refine ⟨_, c.activeProfile?, addedFlags words, arguments_accepted c accepted,
    ofArguments?_contextFlags c (accepted.append _), fun name => activeProfile?_eq_some, ?_,
    addedFlags_eq_detached, addedFlags_eq_pull,
    addedFlags_append words, ?_⟩
  · rcases addedFlags_cases words with ⟨added, -⟩ | ⟨added, -⟩ | ⟨added, -⟩ <;> simp [added]
  · rw [arguments_accepted c (accepted.append _), addedFlags_append, List.append_nil]

/-- The museum, with files and a profile that are called as flags are. -/
def annex : Context :=
  { Ssh.museum with
    profile := some "-f"
    composeFiles := ["--env-file", "--profile"]
    envFiles := ["-f", "up"] }

/-- The settings of the annex are read back, and starting it is not detached twice. -/
theorem annex_read_back :
    Accepted ["up", "--", "-f"] ∧
    ∃ args, arguments annex ["up", "--", "-f"] = .ok args ∧
      Reading.ofArguments? args = some ⟨some "-f", ["--env-file", "--profile"], ["-f", "up"],
        ["up", "--", "-f", "-d", "--remove-orphans"]⟩ ∧
      arguments annex ["up", "--", "-f", "-d", "--remove-orphans"] = .ok args := by
  have accepted : Accepted ["up", "--", "-f"] := ⟨"up", by decide, rfl⟩
  obtain ⟨args, profile, added, told, read, named, -, detached, -, -, again⟩ :=
    (arguments_read_back annex ["up", "--", "-f"]).2 accepted
  obtain rfl := detached.mpr ⟨rfl, by decide, by decide⟩
  obtain rfl : profile = some "-f" := (named "-f").mpr ⟨rfl, by decide⟩
  exact ⟨accepted, args, told, read, again⟩

/-! ## The end of the options -/

section Marker

variable {words : List String}

/-- The words before the end of the options. -/
def options (words : List String) : List String := words.takeWhile (· ≠ "--")

/-- The words from the end of the options on. -/
def fromMarker (words : List String) : List String := words.dropWhile (· ≠ "--")

/-- The words behind the end of the options, which are names whatever they look like. -/
def operands (words : List String) : List String := (fromMarker words).drop 1

theorem options_append_fromMarker (words : List String) :
    options words ++ fromMarker words = words :=
  List.takeWhile_append_dropWhile

theorem marker_not_mem_options (words : List String) : "--" ∉ options words := by
  intro marked
  have unlike := List.mem_takeWhile_imp marked
  exact absurd unlike (by decide)

/-- Words without a marker before another part of words belong to the options. -/
theorem options_append {front : List String} (unmarked : "--" ∉ front) (words : List String) :
    options (front ++ words) = front ++ options words ∧
      fromMarker (front ++ words) = fromMarker words := by
  have goes : ∀ word ∈ front, decide (word ≠ "--") = true := by
    intro word member
    exact decide_eq_true fun same => unmarked (same ▸ member)
  exact ⟨List.takeWhile_append_of_pos goes, List.dropWhile_append_of_pos goes⟩

theorem fromMarker_marked (marked : "--" ∈ words) : fromMarker words = "--" :: operands words := by
  obtain ⟨front, rest, rfl, unmarked⟩ := List.eq_append_cons_of_mem marked
  rw [operands, (options_append unmarked _).2]
  rfl

theorem fromMarker_unmarked (unmarked : "--" ∉ words) : fromMarker words = [] := by
  have cut := (options_append unmarked []).2
  rwa [List.append_nil] at cut

/-- What stands behind words that are marked stands among the operands. -/
theorem marked_append (marked : "--" ∈ words) (more : List String) :
    options (words ++ more) = options words ∧
      operands (words ++ more) = operands words ++ more := by
  obtain ⟨front, rest, rfl, unmarked⟩ := List.eq_append_cons_of_mem marked
  rw [List.append_assoc, operands, operands, (options_append unmarked _).1,
    (options_append unmarked _).1, (options_append unmarked _).2, (options_append unmarked _).2]
  exact ⟨rfl, rfl⟩

/-- Flags are placed where they are read as flags: given words are told from their marker on as
they are, and before it are told with the flags among them. -/
def PlacedAmongOptions (flags words told : List String) : Prop :=
  ∃ front, told = front ++ fromMarker words ∧ front.Perm (options words ++ flags)

/-- Flags that are told behind all words are among the options if the words have no marker. -/
theorem placed_behind_iff {flags : List String} (unmarked : "--" ∉ flags) :
    PlacedAmongOptions flags words (words ++ flags) ↔ "--" ∉ words ∨ flags = [] := by
  constructor
  · rintro ⟨front, told, same⟩
    by_cases marked : "--" ∈ words
    · right
      have plain : "--" ∉ front := by
        rw [same.mem_iff, List.mem_append, not_or]
        exact ⟨marker_not_mem_options words, unmarked⟩
      have cut : options (words ++ flags) = front ++ options (fromMarker words) := by
        rw [told, (options_append plain _).1]
      rw [(marked_append marked flags).1, fromMarker_marked marked] at cut
      have whole : front = options words := by
        rw [cut]
        exact (List.append_nil front).symm
      have lengths := same.length_eq
      rw [whole, List.length_append] at lengths
      exact List.eq_nil_of_length_eq_zero (by omega)
    · exact .inl marked
  · rintro (plain | rfl)
    · refine ⟨words ++ flags, ?_, ?_⟩
      · rw [fromMarker_unmarked plain, List.append_nil]
      · have whole := options_append_fromMarker words
        rw [fromMarker_unmarked plain, List.append_nil] at whole
        rw [whole]
    · refine ⟨options words, ?_, ?_⟩
      · rw [List.append_nil, options_append_fromMarker]
      · rw [List.append_nil]

end Marker

/-- **Where the added flags stand.**  They are told behind all the words.  This places them among
the options, with the words from the marker on as they were given, exactly if the words have no
marker or nothing is added; behind a marker they are the last of the operands, and the options are
those that were given. -/
theorem added_flags_placed (c : Context) {words : List String} (accepted : Accepted words) :
    ∃ args told, arguments c words = .ok args ∧
      (Reading.ofArguments? args).map Reading.words = some told ∧
      (PlacedAmongOptions (addedFlags words) words told ↔
        "--" ∉ words ∨ addedFlags words = []) ∧
      ("--" ∈ words → options told = options words ∧
        operands told = operands words ++ addedFlags words) := by
  refine ⟨_, words ++ addedFlags words, arguments_accepted c accepted, ?_,
    placed_behind_iff (marker_not_mem_addedFlags words), fun marked => marked_append marked _⟩
  rw [ofArguments?_contextFlags c (accepted.append _)]
  rfl

/-- A build that names a service behind a marker is told to build another one, which is called as
the flag. -/
theorem pull_told_as_service :
    Accepted ["build", "--no-cache", "--", "drupal"] ∧
    "--" ∈ ["build", "--no-cache", "--", "drupal"] ∧
    ∃ args told, arguments Ssh.museum ["build", "--no-cache", "--", "drupal"] = .ok args ∧
      (Reading.ofArguments? args).map Reading.words = some told ∧
      options told = ["build", "--no-cache"] ∧ operands told = ["drupal", "--pull"] := by
  have accepted : Accepted ["build", "--no-cache", "--", "drupal"] := ⟨"build", by decide, rfl⟩
  obtain ⟨args, told, ok, read, -, marked⟩ := added_flags_placed Ssh.museum accepted
  obtain ⟨before, behind⟩ := marked (by decide)
  exact ⟨accepted, by decide, args, told, ok, read, before, behind⟩

/-- Added flags are not always placed where they are read as flags. -/
theorem detach_told_as_service :
    ¬∀ (c : Context) (words args told : List String),
      words.head? ∈ [some "up", some "build"] → arguments c words = .ok args →
      (Reading.ofArguments? args).map Reading.words = some told →
      PlacedAmongOptions (addedFlags words) words told := by
  intro placed
  have told : arguments Ssh.museum ["up", "--", "drupal"] =
      .ok ["compose", "up", "--", "drupal", "-d", "--remove-orphans"] := by decide
  have misplaced := placed Ssh.museum ["up", "--", "drupal"] _ _ (by decide) told rfl
  rcases (placed_behind_iff (by decide)).mp misplaced with plain | none
  · exact absurd plain (by decide)
  · exact absurd none (by decide)

end ComposeSite.Compose
