import Shex.Pattern.Automaton
import Shex.Pattern.Reader
import Shex.Pattern.Regex

/-!
# Patterns

A pattern is accepted if it can be read and its automaton is not too large (`check`). The regular
expression of an accepted pattern is `regex`.
-/

namespace Shex.Pattern

/-- Refuses a pattern that cannot be read or is too large. -/
def check (pattern : String) (flags : Option String) : Except Flaw Unit := do
  if (← readPattern pattern flags).fits then return () else .error .tooLarge

/-- The regular expression of a pattern. How large it is plays no part. -/
def regex (pattern : String) (flags : Option String) : Except Flaw Regex :=
  return (← readPattern pattern flags).toRegex

/-- A pattern that is accepted has a regular expression. -/
theorem regex_of_check {pattern : String} {flags : Option String}
    (h : check pattern flags = .ok ()) : ∃ r, regex pattern flags = .ok r := by
  unfold check at h
  unfold regex
  cases hp : readPattern pattern flags with
  | error f => simp [hp, bind, Except.bind] at h
  | ok e => exact ⟨e.toRegex, rfl⟩

end Shex.Pattern
