/-
# ComposeSite.Proofs.Output.History -- what a tracker knows is what has happened

Octets arrive in pieces, and lines of text are looked at in between.  A line that comes in
pieces is there with the piece that brings its line feed, in front of what happens later
and behind what happened before, whenever its first octet came (`textsFrom`).

The state of a tracker says two things of its history, and nothing else (`known`): the
octets behind the last line feed, and the last text that is not blank.  Each event takes
the state to that of the history with the event (`note_known`), so a whole history does
(`foldl_note`), and `state_follows_history` reads the state off.
-/
import ComposeSite.Proofs.Output.LastLine

set_option autoImplicit false

namespace ComposeSite.Output.LastLine

open Text

/-! ## Histories -/

/-- What happens to a tracker: octets arrive, or a line of text is looked at. -/
inductive Event where
  | octets (chunk : Bytes)
  | text (line : String)
  deriving DecidableEq, Repr

/-- The tracker after an event. -/
def note (l : LastLine) : Event → LastLine
  | .octets chunk => l.push chunk
  | .text line => l.pushLine line

/-- The octets of an event. -/
def Event.brings : Event → Bytes
  | octets chunk => chunk
  | text _ => []

/-- The lines that a piece completes behind octets seen before it. -/
def completedBy (seen chunk : Bytes) : List Bytes :=
  (complete lineFeed (seen ++ chunk)).drop (complete lineFeed seen).length

/-- The texts of an event behind octets seen before it: the lines that it completes, or the
line that it is. -/
def Event.tells (seen : Bytes) : Event → List String
  | octets chunk => (completedBy seen chunk).map Utf8.decodeLossy
  | text line => [line]

/-- The texts of a history behind octets seen before it, in the order in which they are there. -/
def textsFrom (seen : Bytes) : List Event → List String
  | [] => []
  | e :: later => e.tells seen ++ textsFrom (seen ++ e.brings) later

/-- The last text that is not blank, without the white space around it; empty when there is
none. -/
def latestText (texts : List String) : String :=
  (((texts.map trim).filter (· ≠ "")).getLast?).getD ""

theorem latestText_concat (texts : List String) (text : String) :
    latestText (texts ++ [text]) = if trim text = "" then latestText texts else trim text := by
  simp only [latestText, List.map_append, List.map_cons, List.map_nil, List.filter_append]
  split <;> simp [*]

/-! ## The state -/

/-- The tracker once some octets have been seen and some texts told. -/
def known (seen : Bytes) (texts : List String) : LastLine where
  pending := unfinished lineFeed seen
  last := latestText texts

theorem completedBy_eq (seen chunk : Bytes) :
    completedBy seen chunk = complete lineFeed (unfinished lineFeed seen ++ chunk) := by
  rw [completedBy, complete_append, List.drop_left]

theorem pushLine_known (seen : Bytes) (texts : List String) (line : String) :
    (known seen texts).pushLine line = known seen (texts ++ [line]) := by
  simp only [pushLine, known, latestText_concat, String.isEmpty_iff]
  split <;> rfl

/-- Lines that are looked at one after the other are texts told in that order. -/
theorem foldl_latest_latestText (parts : List Bytes) (texts : List String) :
    parts.foldl latest (latestText texts) = latestText (texts ++ parts.map Utf8.decodeLossy) := by
  induction parts generalizing texts with
  | nil => rw [List.foldl_nil, List.map_nil, List.append_nil]
  | cons part parts ih =>
      have first : latest (latestText texts) part =
          latestText (texts ++ [Utf8.decodeLossy part]) := by
        simp only [latest, latestText_concat, String.isEmpty_iff]
      rw [List.foldl_cons, first, ih, List.append_assoc, List.map_cons, List.singleton_append]

theorem push_known (seen : Bytes) (texts : List String) (chunk : Bytes) :
    (known seen texts).push chunk =
      known (seen ++ chunk) (texts ++ (completedBy seen chunk).map Utf8.decodeLossy) := by
  rw [push_eq, known, known, foldl_latest_latestText, completedBy_eq,
    unfinished_append lineFeed seen chunk]

/-- An event takes the state to that of the history with the event. -/
theorem note_known (seen : Bytes) (texts : List String) (e : Event) :
    (known seen texts).note e = known (seen ++ e.brings) (texts ++ e.tells seen) := by
  cases e with
  | octets chunk => exact push_known seen texts chunk
  | text line => 
      rw [Event.brings, List.append_nil]
      exact pushLine_known seen texts line

theorem foldl_note (history : List Event) (seen : Bytes) (texts : List String) :
    history.foldl note (known seen texts) =
      known (seen ++ history.flatMap Event.brings) (texts ++ textsFrom seen history) := by
  induction history generalizing seen texts with
  | nil => simp [textsFrom]
  | cons e later ih =>
      rw [List.foldl_cons, note_known, ih, textsFrom, List.flatMap_cons, List.append_assoc,
        List.append_assoc]

/-- A piece without octets brings nothing. -/
theorem push_known_nil (seen : Bytes) (texts : List String) :
    (known seen texts).push [] = known seen texts := by
  have nothing : completedBy seen [] = [] := by
    rw [completedBy_eq, List.append_nil]
    exact complete_of_not_mem lineFeed (unfinished_not_mem lineFeed seen)
  rw [push_known, nothing, List.append_nil, List.map_nil, List.append_nil]

/-- Pieces that arrive one after the other are one piece. -/
theorem foldl_push_known (chunks : List Bytes) (seen : Bytes) (texts : List String) :
    chunks.foldl push (known seen texts) = (known seen texts).push chunks.flatten := by
  induction chunks generalizing seen texts with
  | nil => exact (push_known_nil seen texts).symm
  | cons chunk chunks ih =>
      rw [List.foldl_cons, push_known, ih, ← push_known, push_push, List.flatten_cons]

/-- **A tracker's state is a function of what has happened.** After any history, the octets that
wait are those behind the last line feed of everything that arrived, and no line of text changes
them; the last line is the last text that is not blank, where a line that arrived in pieces
stands where its line feed came.  What waits counts as a line at the end, unless it is blank.
Pieces that arrive one after the other can be put together, whatever happens later. -/
theorem state_follows_history (history : List Event) :
    let arrived := history.flatMap Event.brings
    let state := history.foldl note {}
    (lineFeed ∉ state.pending ∧
      (arrived = state.pending ∨ ∃ before, arrived = before ++ lineFeed :: state.pending)) ∧
    (∀ line, (state.note (.text line)).pending = state.pending) ∧
    state.last = latestText (textsFrom [] history) ∧
    state.finish = (if trim (Utf8.decodeLossy state.pending) = "" then state.last
      else trim (Utf8.decodeLossy state.pending)) ∧
    ∀ (chunks : List Bytes) (later : List Event),
      (history ++ (chunks.map Event.octets ++ later)).foldl note {} =
        (history ++ .octets chunks.flatten :: later).foldl note {} := by
  intro arrived state
  have reached : state = known arrived (textsFrom [] history) := foldl_note history [] []
  refine ⟨?_, fun line => ?_, ?_, ?_, fun chunks later => ?_⟩
  · rw [reached]
    exact ⟨unfinished_not_mem lineFeed arrived, eq_unfinished_or lineFeed arrived⟩
  · rw [reached, note_known]
    exact congrArg (unfinished lineFeed) (List.append_nil arrived)
  · rw [reached]
    rfl
  · simp only [finish, pushLine, String.isEmpty_iff]
    split <;> rfl
  · have together : (chunks.map Event.octets).foldl note state = state.note (.octets chunks.flatten) := by
      rw [List.foldl_map, reached]
      exact foldl_push_known chunks arrived _
    rw [List.foldl_append, List.foldl_append, List.foldl_append, List.foldl_cons]
    exact congrArg (later.foldl note) together

/-- A text is looked at while a line is half there, and blank lines change nothing. -/
example :
    [Event.octets [111, 107, 10, 100, 111], .text " a\nb ", .octets [110, 101], .text "\t"].foldl note {} =
        { pending := [100, 111, 110, 101], last := "a\nb" } ∧
      [Event.octets [100, 111], .text "a", .octets [110, 101, 13, 10, 10]].foldl note {} =
        { pending := [], last := "done" } := by
  decide

end ComposeSite.Output.LastLine
