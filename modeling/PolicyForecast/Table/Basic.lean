import PolicyForecast.Json.Value
import PolicyForecast.Table.ColumnType

/-!
# Rule tables

The rules of the game come as tables of typed columns. A cell is null or a value of its column's
type, and every row has one cell for each column.
-/

namespace PolicyForecast

/-- One entry of a table. -/
inductive Cell where
  | null
  | text (s : String)
  | integer (n : Int)
  | real (x : Float)
  | flag (b : Bool)
  | list (items : List Cell)
  | record (fields : List (String × Cell))
deriving Inhabited

/-- A column's name and type. -/
structure Column where
  name : String
  type : ColumnType
deriving Inhabited

/-- A table: its columns and, row by row, one cell for each of them. -/
structure Table where
  columns : List Column := []
  rows : List (List Cell) := []
deriving Inhabited

/-- A row with its cells named by their columns. -/
abbrev Row := List (String × Cell)

namespace Cell

/-- The text in a cell. -/
def text? : Cell → Option String
  | .text s => some s
  | _ => none

/-- The integer in a cell. -/
def integer? : Cell → Option Int
  | .integer n => some n
  | _ => none

/-- The double in a cell. -/
def real? : Cell → Option Float
  | .real x => some x
  | _ => none

/-- Whether a cell holds a true flag; null is no. -/
def isSet : Cell → Bool
  | .flag b => b
  | _ => false

/-- Whether a cell holds no integer beyond 64 bits. -/
def fits : Cell → Bool
  | .integer n => IntegerRange.word.contains n
  | _ => true

/-- Whether a cell is null. -/
def isNull : Cell → Bool
  | .null => true
  | _ => false

/-- Whether a cell is a value of a type without parts. -/
def isOf : ColumnType → Cell → Bool
  | .text, .text _ | .real, .real _ | .flag, .flag _ => true
  | .integer range, .integer n => range.contains n
  | _, _ => false

end Cell

namespace Row

/-- The cell of a column, null when there is no such column. -/
def cell (row : Row) (column : String) : Cell :=
  (row.lookup column).getD .null

/-- The text of a column. -/
def text? (row : Row) (column : String) : Option String :=
  (row.cell column).text?

/-- Whether a flag column is set. -/
def isSet (row : Row) (column : String) : Bool :=
  (row.cell column).isSet

end Row

namespace Table

/-- A table with the given columns and no rows. -/
def withColumns (columns : List Column) : Table :=
  ⟨columns, []⟩

/-- The names of the columns. -/
def columnNames (t : Table) : List String :=
  t.columns.map Column.name

/-- The type of a column. -/
def columnType? (t : Table) (name : String) : Option ColumnType :=
  (t.columns.find? (·.name == name)).map Column.type

/-- Whether a table has no cells at all. -/
def isEmpty (t : Table) : Bool :=
  t.rows.isEmpty || t.columns.isEmpty

/-- The rows with their cells named. -/
def namedRows (t : Table) : List Row :=
  t.rows.map fun cells => t.columnNames.zip cells

end Table

end PolicyForecast
