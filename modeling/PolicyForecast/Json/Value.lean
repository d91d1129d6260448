import PolicyForecast.OrderedMap
import PolicyForecast.Text.CodePoint

/-!
# Values of a data file

Rule tables and game snapshots arrive as nested values. Integers keep any size and stay apart from
doubles, the fields of an object keep their order, and texts that hold unpaired surrogates are kept
apart from texts of characters.
-/

namespace PolicyForecast

/-- The name of a field. -/
inductive FieldName where
  | text (s : String)
  /-- A name with an unpaired surrogate, which no text of characters equals. -/
  | broken (points : List Text.CodePoint)
deriving DecidableEq

/-- A value as it stands in a data file. -/
inductive Json where
  | null
  | bool (b : Bool)
  | int (n : Int)
  | float (x : Float)
  | text (s : String)
  /-- A text with an unpaired surrogate, which no text of characters equals. -/
  | brokenText (points : List Text.CodePoint)
  | array (items : List Json)
  | object (fields : List (FieldName × Json))

namespace FieldName

/-- The name that code points spell. -/
def ofPoints (points : List Text.CodePoint) : FieldName :=
  (Text.CodePoint.spell? points).elim (.broken points) .text

/-- The name as a text, with U+FFFD for each unpaired surrogate. -/
def display : FieldName → String
  | .text s => s
  | .broken points => String.ofList (points.map Text.CodePoint.charOrReplacement)

/-- The name as a value. -/
def toJson : FieldName → Json
  | .text s => .text s
  | .broken points => .brokenText points

end FieldName

namespace Json

instance : Inhabited Json := ⟨.null⟩

/-- The text that code points spell. -/
def ofPoints (points : List Text.CodePoint) : Json :=
  (FieldName.ofPoints points).toJson

/-- The value of a field, when the value is an object that has the field. -/
def field? (name : String) : Json → Option Json
  | .object fields => fields.lookup (.text name)
  | _ => none

/-- The fields of an object with their names as texts. -/
def namedFields? : Json → Option (List (String × Json))
  | .object fields => some (fields.map fun (name, value) => (name.display, value))
  | _ => none

/-- The items of an array. -/
def items? : Json → Option (List Json)
  | .array items => some items
  | _ => none

/-- Whether a value is null. -/
def isNull : Json → Bool
  | .null => true
  | _ => false

/-- Whether a value counts as something: not null, false, zero or empty. -/
def isSubstantial : Json → Bool
  | .null => false
  | .bool b => b
  | .int n => n != 0
  | .float x => x != 0.0
  | .text s => !s.isEmpty
  | .brokenText _ => true
  | .array items => !items.isEmpty
  | .object fields => !fields.isEmpty

end Json

end PolicyForecast
