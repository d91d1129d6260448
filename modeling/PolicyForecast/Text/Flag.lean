import PolicyForecast.Text.Blank

/-!
# Yes and no in text

Letters are compared without regard to case, which here concerns ASCII letters only: no other
character turns into one of the letters of these words.
-/

namespace PolicyForecast.Text

/-- A text in lower-case letters. -/
def lower (cs : List Char) : List Char :=
  cs.map Char.toLower

/-- Whether two texts are the same but for the case of their letters. -/
def sameLetters (a b : String) : Bool :=
  lower a.toList == lower b.toList

/-- Whether a text is `true` or `1`, in any case. -/
def saysTrue (cs : List Char) : Bool :=
  lower cs == ['t', 'r', 'u', 'e'] || cs == ['1']

/-- Whether a text is `true` or `1` in any case, blanks at its ends aside. -/
def isTrue (text : String) : Bool :=
  saysTrue (strip text.toList)

end PolicyForecast.Text
