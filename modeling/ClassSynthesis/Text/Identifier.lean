import ClassSynthesis.Text.Alphabetic
import ClassSynthesis.Text.Numeric

/-!
# Identifiers

Names of synthesized types and of their properties are identifiers: a letter or an underscore,
followed by letters, numbers and underscores of any script. In particular no identifier holds a
colon, which keeps names apart from the paths that qualify them.
-/

namespace ClassSynthesis.Text

/-- The character may begin an identifier. -/
def startsIdentifier (c : Char) : Bool := isAlphabetic c || c == '_'

/-- The character may follow the first one of an identifier. -/
def continuesIdentifier (c : Char) : Bool := isAlphabetic c || isNumeric c || c == '_'

/-- The name is a nonempty identifier. -/
def isIdentifier (name : String) : Bool :=
  match name.toList with
  | [] => false
  | first :: rest => startsIdentifier first && rest.all continuesIdentifier

/-- A character that begins identifiers also continues them. -/
theorem continuesIdentifier_of_starts {c : Char} (h : startsIdentifier c) :
    continuesIdentifier c := by
  simp only [startsIdentifier, Bool.or_eq_true] at h
  rcases h with h | h <;> simp [continuesIdentifier, h]

/-- Every character of an identifier continues identifiers. -/
theorem all_continuesIdentifier {name : String} (h : isIdentifier name) :
    name.toList.all continuesIdentifier := by
  unfold isIdentifier at h
  split at h
  · simp at h
  · next first rest heq =>
    simp only [Bool.and_eq_true] at h
    rw [heq, List.all_cons, continuesIdentifier_of_starts h.1, h.2]
    rfl

/-- No identifier holds a colon. -/
theorem colon_notMem_of_isIdentifier {name : String} (h : isIdentifier name) :
    ':' ∉ name.toList := by
  intro hmem
  have hcolon := List.all_eq_true.1 (all_continuesIdentifier h) ':' hmem
  simp [continuesIdentifier] at hcolon

end ClassSynthesis.Text
