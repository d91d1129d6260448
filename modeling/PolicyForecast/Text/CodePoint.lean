/-!
# Code points

A text in a data file is spelled by code points. Most are characters; the others are halves of
surrogate pairs whose other half is missing, and a text that holds one of them is no text of
characters.
-/

namespace PolicyForecast.Text

/-- One position of a text: a character or an unpaired surrogate. -/
inductive CodePoint where
  | char (c : Char)
  | surrogate (unit : Nat)
deriving DecidableEq

namespace CodePoint

/-- The character, unless it is a surrogate. -/
def char? : CodePoint → Option Char
  | .char c => some c
  | .surrogate _ => none

/-- The character, with U+FFFD for a surrogate. -/
def charOrReplacement : CodePoint → Char
  | .char c => c
  | .surrogate _ => '\ufffd'

/-- The text that code points spell, if all of them are characters. -/
def spell? (points : List CodePoint) : Option String :=
  (points.mapM char?).map String.ofList

end CodePoint

end PolicyForecast.Text
