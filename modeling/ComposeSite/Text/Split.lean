/-
# ComposeSite.Text.Split -- cutting a list at separators

`split` cuts at every separator and never gives an empty list; `splitOnce?` cuts
at the first.  Putting the parts back together gives the text that was cut
(`join_split`).
-/

set_option autoImplicit false

namespace ComposeSite.Text

variable {α : Type} [DecidableEq α]

/-- The parts between the separators; one more than there are separators. -/
def split (separator : α) : List α → List (List α)
  | [] => [[]]
  | a :: rest =>
      if a = separator then [] :: split separator rest
      else match split separator rest with
        | part :: parts => (a :: part) :: parts
        | [] => [[a]]

def splitOnce? (separator : α) : List α → Option (List α × List α)
  | [] => none
  | a :: rest =>
      if a = separator then some ([], rest)
      else (splitOnce? separator rest).map fun (before, after) => (a :: before, after)

def join (separator : α) : List (List α) → List α
  | [] => []
  | [part] => part
  | part :: parts => part ++ separator :: join separator parts

theorem split_ne_nil (separator : α) (text : List α) : split separator text ≠ [] := by
  cases text with
  | nil => simp [split]
  | cons a rest =>
      simp only [split]
      split
      · simp
      · split <;> simp

/-- Cutting loses nothing. -/
theorem join_split (separator : α) (text : List α) :
    join separator (split separator text) = text := by
  induction text with
  | nil => rfl
  | cons a rest ih =>
      have nonempty := split_ne_nil separator rest
      revert ih nonempty
      simp only [split]
      generalize split separator rest = parts
      intro ih nonempty
      split
      · rename_i same
        cases parts with
        | nil => simp at nonempty
        | cons p ps => simp [join, ih, same]
      · cases parts with
        | nil => simp at nonempty
        | cons p ps =>
            cases ps with
            | nil => simpa [join] using ih
            | cons q qs => simpa [join] using ih

def parts (separator : Char) (text : String) : List String :=
  (split separator text.toList).map String.ofList

/-- The lines of a text: what stands between its line feeds. -/
def lines (cs : List Char) : List (List Char) := split '\n' cs

end ComposeSite.Text
