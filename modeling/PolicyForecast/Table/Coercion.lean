import PolicyForecast.Json.Wording
import PolicyForecast.Number.Notation
import PolicyForecast.Table.Schema
import PolicyForecast.Table.Store
import PolicyForecast.Text.Numeral

/-!
# Known tables from data files

A data file gives a table as a list of objects. Each value is brought to the type of its column: a
text column takes the text of any value whose integers are not too long to be written, a flag column
asks whether the value counts as yes, and the number columns also read numbers that are spelled out.
When all values have been brought to their types they are stored, and a text that is not one of
characters or an integer beyond the range of its column is found out then. One value that has no
reading, or cannot be stored, spoils its whole table, except that a number beyond every
representation spoils the whole file. The first fault is the one that counts.
-/

namespace PolicyForecast

namespace Json

mutual

/-- Whether a value can be written out: its integers have no more digits than can be read. -/
def isWritable : Json → Bool
  | .int n => (Nat.toDigits 10 n.natAbs).length ≤ Text.longestInteger
  | .array items => areWritable items
  | .object fields => haveWritable fields
  | _ => true

/-- Whether the items of an array can be written out. -/
def areWritable : List Json → Bool
  | [] => true
  | item :: rest => isWritable item && areWritable rest

/-- Whether the values of fields can be written out. -/
def haveWritable : List (FieldName × Json) → Bool
  | [] => true
  | (_, value) :: rest => isWritable value && haveWritable rest

end

end Json

namespace Cell

/-- A number fault as a fault of the table. -/
def tableFault : NumberFault → TableFault
  | .infinite | .tooLarge => .outOfRange
  | .undefined => .unreadable

/-! ## Bringing values to types -/

/-- The integer that a value stands for. -/
def integerOf : Json → Except TableFault Int
  | .int n => .ok n
  | .float x => (Exact.trunc? x).mapError tableFault
  | .bool b => .ok (if b then 1 else 0)
  | .text s => (Text.integer? s).elim (.error .unreadable) .ok
  | _ => .error .unreadable

/-- The double that a value stands for. -/
def realOf : Json → Except TableFault Float
  | .int n => (Exact.ofInt? n).mapError tableFault
  | .float x => .ok x
  | .bool b => .ok (if b then 1.0 else 0.0)
  | .text s => (Text.float? s).elim (.error .unreadable) .ok
  | _ => .error .unreadable

/-- The flag that a value stands for. -/
def flagOf : Json → Bool
  | .text s => Text.isTrue s
  | .brokenText _ => false
  | value => value.isSubstantial

/-- The text that a value stands for, unless it is one with an unpaired surrogate. -/
def textOf? : Json → Option String
  | .bool b => some (if b then "true" else "false")
  | .brokenText _ => none
  | value => some value.ownText

/-- A value brought to the type of its column; `none` is a text that no cell can hold. -/
def coerce (type : ColumnType) : Json → Except TableFault (Option Cell)
  | .null => .ok (some .null)
  | value =>
    match type with
    | .text => if value.isWritable then .ok ((textOf? value).map .text) else .error .unreadable
    | .integer _ => (integerOf value).map fun n => some (.integer n)
    | .real => (realOf value).map fun x => some (.real x)
    | .flag => .ok (some (.flag (flagOf value)))
    | .list _ | .record _ | .untyped => .ok (some .null)

/-! ## Storing -/

/-- A cell to be stored. -/
def stored [TableStore] : Option Cell → Except TableFault Cell
  | none => .error .unreadable
  | some (.integer n) =>
    if TableStore.represents n then .ok (.integer n) else .error .outOfRange
  | some cell => .ok cell

end Cell

namespace Table

/-- One row brought to the types of the columns; an absent field is null. -/
def coerceRow (columns : List Column) : Json → Except TableFault (List (Option Cell))
  | .object fields =>
    columns.mapM fun c => Cell.coerce c.type ((fields.lookup (.text c.name)).getD .null)
  | _ => .error .unreadable

/-- The rows that a value lists; an empty object or text lists none. -/
def listedRows : Json → Except TableFault (List Json)
  | .array rows => .ok rows
  | .object [] => .ok []
  | .text "" => .ok []
  | _ => .error .unreadable

/-- A table with known columns from the value that a data file gives for it. -/
def ofJson [TableStore] (columns : List Column) (value : Json) : Except TableFault Table := do
  let coerced ← (← listedRows value).mapM (coerceRow columns)
  let rows ← coerced.mapM (·.mapM Cell.stored)
  if rows.all (·.all Cell.fits) then return ⟨columns, rows⟩
  else throw .unreadable

end Table

end PolicyForecast
