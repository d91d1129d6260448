import PolicyForecast.Text.Blank

/-!
# Lists written with commas

A text such as `YIELD_FOOD, YIELD_PRODUCTION` names several things. It is cut at every comma, each
piece loses the blanks at its ends, and pieces that are then empty do not count.
-/

namespace PolicyForecast.Text

/-- The pieces of a text between its commas, at least one. -/
def splitCommas : List Char → List (List Char)
  | [] => [[]]
  | c :: cs =>
    if c = ',' then [] :: splitCommas cs
    else
      match splitCommas cs with
      | [] => [[c]]
      | piece :: rest => (c :: piece) :: rest

/-- The items of a text: its stripped pieces that are not empty, in order. -/
def items (text : String) : List String :=
  ((splitCommas text.toList).map strip |>.filter (· ≠ [])).map String.ofList

end PolicyForecast.Text
