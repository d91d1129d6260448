import PolicyForecast.Json.Value
import PolicyForecast.Wording

/-!
# The text of a value

A text column takes a value of another kind by its text: digits for a number, the names `True`,
`False` and `None`, and for arrays and objects the texts of their parts, those of texts in quotes.
-/

namespace PolicyForecast

/-- The text of a field name. -/
def FieldName.innerText : FieldName → String
  | .text s => Text.quoted s
  | .broken points => Text.quotedPoints points

namespace Json

mutual

/-- The text of a value inside an array or object. -/
def innerText : Json → String
  | .null => PolicyForecast.Wording.missing
  | .bool b => if b then "True" else "False"
  | .int n => toString n
  | .float x => PolicyForecast.Wording.decimal.write x
  | .text s => Text.quoted s
  | .brokenText points => Text.quotedPoints points
  | .array items => PolicyForecast.Wording.bracketed (itemTexts items)
  | .object fields => "\x7b" ++ String.intercalate ", " (fieldTexts fields) ++ "\x7d"

/-- The texts of the items of an array. -/
def itemTexts : List Json → List String
  | [] => []
  | item :: rest => innerText item :: itemTexts rest

/-- The texts of the fields of an object. -/
def fieldTexts : List (FieldName × Json) → List String
  | [] => []
  | (name, value) :: rest => (name.innerText ++ ": " ++ innerText value) :: fieldTexts rest

end

/-- The text of a value that stands alone; a text is its own. -/
def ownText : Json → String
  | .text s => s
  | value => innerText value

end Json

end PolicyForecast
