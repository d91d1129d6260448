import PolicyForecast.Table.Equality
import PolicyForecast.Table.Inference
import PolicyForecast.Text.Pattern.Reader

/-!
# Selecting rows

Rows are selected by conditions that a column equals a value. The value is a cell as it would be one
in a table that is not known. Null equals nothing, not even null, and a column of texts and a number
cannot be compared, nor a column of numbers and a text. A table without rows answers every selection
with no rows.

A condition names its column, or describes it: `*` stands for every column, and a name from `^` to
`$` for every column whose name has that pattern. It must be exactly one.
-/

namespace PolicyForecast

open Text (Pattern)

/-- Why a selection is refused. -/
inductive SelectionFault where
  /-- A condition has a name that no column can be asked for. -/
  | reservedName
  /-- A condition names a column that the table does not have. -/
  | unknownColumn
  /-- A condition does not describe exactly one column. -/
  | ambiguousColumn
  /-- A condition compares a text with a number. -/
  | incomparable
  /-- The value of a condition is no cell. -/
  | unreadableValue
  /-- The value of a condition has an integer beyond what any representation can hold. -/
  | outOfRange
deriving DecidableEq, Repr

/-- A column and the value that it shall equal. -/
structure Condition where
  column : String
  value : Json

/-- A column and the cell that it shall equal, which has a type of its own. -/
structure Criterion where
  column : String
  type : ColumnType
  cell : Cell

namespace Condition

/-- A condition with its value as a cell. -/
def criterion (c : Condition) : Except SelectionFault Criterion :=
  match Cell.natural c.value with
  | .ok (type, cell) => .ok ⟨c.column, type, cell⟩
  | .error .outOfRange => .error .outOfRange
  | .error .unreadable => .error .unreadableValue

end Condition

namespace Criterion

/-- Whether values of a column's type can be compared with the cell. -/
def compares (column : ColumnType) (c : Criterion) : Bool :=
  match column, c.type with
  | .text, other | other, .text => !other.isNumeric
  | _, _ => true

/-- Whether a cell of the column meets the criterion. -/
def holds (c : Criterion) (cell : Cell) : Bool :=
  !cell.isNull && !c.cell.isNull && cell.equals c.cell

/-- Whether a name is written as a pattern. -/
def isPattern (name : String) : Bool :=
  name.toList.head? == some '^' && name.toList.getLast? == some '$'

/-- The columns that a criterion stands for, of those with the given names; none if its pattern
cannot be read. -/
def columns? (c : Criterion) (names : List String) : Option (List String) :=
  if c.column == "*" then some names
  else if isPattern c.column then
    (Pattern.read? c.column).map fun p => names.filter (p.foundIn ·.toList)
  else some [c.column]

/-- A criterion with the name of the column that it stands for. -/
def resolve (c : Criterion) (names : List String) : Except SelectionFault Criterion :=
  match c.columns? names with
  | some [column] => .ok { c with column }
  | _ => .error .ambiguousColumn

end Criterion

namespace Table

/-- Checks that a table has the columns of all criteria and can compare them. -/
def check (t : Table) (criteria : List Criterion) : Except SelectionFault Unit := do
  let types ← criteria.mapM fun c => (t.columnType? c.column).elim (throw .unknownColumn) pure
  if (types.zip criteria).all fun (type, c) => c.compares type then return
  else throw .incomparable

/-- The rows that meet all conditions, in table order. -/
def select (t : Table) (conditions : List Condition) : Except SelectionFault (List Row) := do
  if t.isEmpty then return []
  let criteria ← conditions.mapM (·.criterion)
  let criteria ← criteria.mapM (·.resolve t.columnNames)
  t.check criteria
  return t.namedRows.filter fun row => criteria.all fun c => c.holds (row.cell c.column)

end Table

end PolicyForecast
