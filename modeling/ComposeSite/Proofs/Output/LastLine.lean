/-
# ComposeSite.Proofs.Output.LastLine -- the last line of everything that was pushed

`lastLine` is the last line of a text that is not blank, without the white space around
it.  What a `LastLine` knows is a function of the octets pushed so far, not of how they
were cut (`push_push`), and it finishes with the last line of their text
(`finish_push`).
-/
import ComposeSite.Output.LastLine
import ComposeSite.Proofs.Text.Lines

set_option autoImplicit false

namespace ComposeSite.Output

open Text

/-- The lines of a text that are not blank, each without the white space around it. -/
def spokenLines (text : List Char) : List (List Char) :=
  ((lines text).map trimChars).filter fun line => !line.isEmpty

/-- The last line that is not blank, without the white space around it; empty when there
is none. -/
def lastLine (octets : Bytes) : String :=
  String.ofList (((spokenLines (Utf8.decodeLossyChars octets)).getLast?).getD [])

/-- A line that is not blank stands in one line and has no white space around it. -/
theorem mem_spokenLines {text line : List Char} (spoken : line ∈ spokenLines text) :
    '\n' ∉ line ∧ Trimmed line := by
  obtain ⟨whole, member, rfl⟩ := List.mem_map.mp (List.mem_filter.mp spoken).1
  exact ⟨fun fed => separator_not_mem '\n' member ((trimChars_sublist whole).subset fed),
    trimChars_trimmed whole⟩

/-- The last line is one line and has no white space around it. -/
theorem lastLine_line (octets : Bytes) :
    '\n' ∉ (lastLine octets).toList ∧ Trimmed (lastLine octets).toList := by
  rw [lastLine, String.toList_ofList]
  cases spoken : (spokenLines (Utf8.decodeLossyChars octets)).getLast? with
  | none => exact ⟨List.not_mem_nil, ⟨fun _ none => (by cases none), fun _ none => (by cases none)⟩⟩
  | some line => exact mem_spokenLines (List.mem_of_getLast? spoken)

namespace LastLine

/-- What is known after one more line. -/
def latest (last : String) (part : Bytes) : String :=
  let line := trim (Utf8.decodeLossy part)
  if line.isEmpty then last else line

theorem pushLine_eq (l : LastLine) (part : Bytes) :
    l.pushLine (Utf8.decodeLossy part) = { l with last := latest l.last part } := by
  simp only [pushLine, latest]
  split <;> rfl

theorem foldl_pushLine (parts : List Bytes) (l : LastLine) :
    parts.foldl (fun l part => l.pushLine (Utf8.decodeLossy part)) l =
      { l with last := parts.foldl latest l.last } := by
  induction parts generalizing l with
  | nil => rfl
  | cons part parts ih => rw [List.foldl_cons, pushLine_eq, ih, List.foldl_cons]

/-- Complete lines are looked at and the unfinished one waits. -/
theorem push_eq (l : LastLine) (data : Bytes) :
    l.push data =
      { pending := unfinished lineFeed (l.pending ++ data)
        last := (complete lineFeed (l.pending ++ data)).foldl latest l.last } := by
  rw [push, foldl_pushLine]
  rfl

/-- Two pushes are one push of both. -/
theorem push_push (l : LastLine) (a b : Bytes) : (l.push a).push b = l.push (a ++ b) := by
  simp only [push_eq, ← List.append_assoc, unfinished_append lineFeed (l.pending ++ a) b,
    complete_append lineFeed (l.pending ++ a) b, List.foldl_append]

theorem push_nil : ({} : LastLine).push [] = {} := rfl

/-- Pushes one after the other are one push of everything. -/
theorem foldl_push (chunks : List Bytes) (seen : Bytes) :
    chunks.foldl push (({} : LastLine).push seen) = ({} : LastLine).push (seen ++ chunks.flatten) := by
  induction chunks generalizing seen with
  | nil => rw [List.foldl_nil, List.flatten_nil, List.append_nil]
  | cons chunk chunks ih =>
      rw [List.foldl_cons, push_push, ih, List.flatten_cons, List.append_assoc]

/-- The parts that are not blank when they are decoded, each without the white space around
it. -/
def spokenParts (parts : List Bytes) : List (List Char) :=
  (parts.map fun part => trimChars (Utf8.decodeLossyChars part)).filter fun line => !line.isEmpty

theorem spokenLines_decodeLossyChars (octets : Bytes) :
    spokenLines (Utf8.decodeLossyChars octets) = spokenParts (split lineFeed octets) := by
  rw [spokenLines, lines_decodeLossyChars, List.map_map]
  rfl

/-- Looking at parts one by one leaves the last one that is not blank. -/
theorem foldl_latest (parts : List Bytes) (last : String) :
    parts.foldl latest last = ((spokenParts parts).getLast?.map String.ofList).getD last := by
  induction parts generalizing last with
  | nil => rfl
  | cons part parts ih =>
      have spelled : trim (Utf8.decodeLossy part) =
          String.ofList (trimChars (Utf8.decodeLossyChars part)) := by
        simp [trim, Utf8.decodeLossy]
      rw [List.foldl_cons, ih]
      by_cases blank : trimChars (Utf8.decodeLossyChars part) = []
      · simp [spokenParts, latest, spelled, blank]
      · have shown : (String.ofList (trimChars (Utf8.decodeLossyChars part))).isEmpty = false := by
          simpa using blank
        have more : spokenParts (part :: parts) =
            trimChars (Utf8.decodeLossyChars part) :: spokenParts parts :=
          List.filter_cons_of_pos (by simpa using blank)
        rw [more, List.getLast?_cons, latest, spelled, shown]
        cases (spokenParts parts).getLast? <;> rfl

/-- **The last line of what was pushed.** -/
theorem finish_push (data : Bytes) : (({} : LastLine).push data).finish = lastLine data := by
  have looked : (({} : LastLine).push data).finish = (split lineFeed data).foldl latest "" := by
    simp only [finish, pushLine_eq, push_eq, List.nil_append, split_eq lineFeed data,
      List.foldl_append, List.foldl_cons, List.foldl_nil]
  rw [looked, foldl_latest, lastLine, spokenLines_decodeLossyChars]
  cases (spokenParts (split lineFeed data)).getLast? <;> rfl

/-- **The last line does not depend on the cut.** However octets are cut into pushes, inside lines
and characters and with empty pushes between them, what is left at the end is the last line of
all their text that is not blank, without the white space around it; it is empty when all lines
are blank, it never has a line feed in it, and white space never stands at its ends. -/
theorem finish_pushes (chunks : List Bytes) :
    (chunks.foldl push {}).finish = lastLine chunks.flatten ∧
      '\n' ∉ (chunks.foldl push {}).finish.toList ∧
      Trimmed (chunks.foldl push {}).finish.toList := by
  have finished : (chunks.foldl push {}).finish = lastLine chunks.flatten := by
    have pushed := foldl_push chunks []
    rw [push_nil, List.nil_append] at pushed
    rw [pushed, finish_push]
  rw [finished]
  exact ⟨rfl, lastLine_line chunks.flatten⟩

/-- A character is cut in two, the octet before a line feed is half a character, and the last
line is blank. -/
example :
    ([[104, 195], [], [169, 32, 226, 10], [194, 160]].foldl push {}).finish = "h\u00e9 \ufffd" := by
  decide

end LastLine

end ComposeSite.Output
