import PolicyForecast.Number.Notation
import PolicyForecast.Text.Quoted

/-!
# How values are worded

Diagnostics, and text columns that are filled from other values, word values in one way: a missing
value is `None`, a text inside a message is quoted where its limits matter, a list is in brackets,
and a double has the fewest digits that are read back, positional from `0.0001` up to below
`10^16`.
-/

namespace PolicyForecast.Wording

/-- The notation of doubles in messages. -/
def decimal : DecimalNotation where
  tie := .toEven
  lowest := -4
  highest := 15
  wholePlace := true
  plusSign := true
  exponentDigits := 2
  infinity := "inf"
  undefined := "nan"

/-- The word for a missing value. -/
def missing : String := "None"

/-- A name that may be missing. -/
def name (text : Option String) : String :=
  text.getD missing

/-- A quoted text that may be missing. -/
def quotedName (text : Option String) : String :=
  match text with
  | some t => Text.quoted t
  | none => missing

/-- Worded values in brackets. -/
def bracketed (items : List String) : String :=
  "[" ++ String.intercalate ", " items ++ "]"

example : decimal.write 1e16 = "1e+16" := by decide +kernel
example : decimal.write 0.00001 = "1e-05" := by decide +kernel
example : decimal.write (-2.5) = "-2.5" := by decide +kernel
example : decimal.write 100 = "100.0" := by decide +kernel

end PolicyForecast.Wording
