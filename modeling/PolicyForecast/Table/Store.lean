import PolicyForecast.Json.Value
import PolicyForecast.Table.Basic
import PolicyForecast.Text.Flag

/-!
# What tables are stored in

Tables are stored by a library, which also makes up the columns of tables that are not known and
casts the columns that an engine gives. A `TableStore` is what is asked of such a library, and its
laws are what may be relied on, whatever its version. What the laws leave open, such as how it joins
the types of mixed values or writes a number as text, no result about known tables depends on.
-/

namespace PolicyForecast

/-- Why a table of a data file cannot be taken over. -/
inductive TableFault where
  /-- A row is no object, or a value has no reading in its column's type. -/
  | unreadable
  /-- A number is beyond what any representation can hold. -/
  | outOfRange
deriving DecidableEq, Repr

/-- The words for yes in a column of texts, in lower case. -/
def Text.yesWords : List String :=
  ["true", "1"]

/-- A library that stores tables. -/
class TableStore where
  /-- Whether an integer has a representation at all. -/
  represents : Int → Bool
  /-- The table of a value for which no columns are known. -/
  inferred : Json → Except TableFault Table
  /-- Whether a column of the first type can be cast to the second. -/
  casts : ColumnType → ColumnType → Bool
  /-- A cell of a column that is cast to a type; null where the type has no value for it. -/
  cast : ColumnType → Cell → Cell
  /-- A text in lower case. -/
  lowercase : String → String
  /-- The height of a selection of nothing but constants. -/
  constantHeight : Nat
  /-- Integers of 64 bits have a representation. -/
  represents_of_word : ∀ {n}, IntegerRange.word.contains n = true → represents n = true
  /-- Columns without parts can be cast to each other, unless texts are cast to flags. -/
  casts_of_isPlain : ∀ {own type}, own.isPlain = true → type.isPlain = true →
    (type = .flag → own ≠ .text) → casts own type = true
  /-- Null stays null. -/
  cast_null : ∀ type, cast type .null = .null
  /-- A cast to a cell's own type is the identity. -/
  cast_of_isOf : ∀ {type cell}, Cell.isOf type cell = true → cast type cell = cell
  /-- An integer is cast to yes unless it is zero. -/
  cast_flag_integer : ∀ n, cast .flag (.integer n) = .flag (n != 0)
  /-- A text is one of the words for yes in lower case where it is but for the case of ASCII
  letters. -/
  lowercase_eq_iff : ∀ {s word}, word ∈ Text.yesWords →
    (lowercase s = word ↔ Text.lower s.toList = word.toList)
  /-- Constants alone make up one row. -/
  constantHeight_eq_one : constantHeight = 1

end PolicyForecast
