import PolicyForecast.Table.Store

/-!
# Tables from a database engine

An engine gives a table as typed columns of equal height. A known column is cast to the type that
the known tables give it, which takes some types only: a column that cannot be cast spoils the whole
database. A column of texts is no column of flags for a cast; its texts are compared with the words
for yes instead. Columns that are not known are dropped. When none of the known columns is there,
the table has the height of constants, whatever the height of the others.
-/

namespace PolicyForecast

/-- A table as an engine gives it: columns with their cells from top to bottom. -/
structure Frame where
  columns : List (Column × List Cell)

/-- The flag that a text of an engine stands for: yes if it is a word for yes in lower case. -/
def Cell.flagOfWord [TableStore] : Cell → Cell
  | .text s => .flag (Text.yesWords.contains (TableStore.lowercase s))
  | _ => .null

namespace Frame

/-- The column of a name. -/
def column? (f : Frame) (name : String) : Option (Column × List Cell) :=
  f.columns.find? (·.1.name == name)

/-- The rows that cells listed column by column make up. -/
def transpose (height : Nat) (columns : List (List Cell)) : List (List Cell) :=
  (List.range height).map fun i => columns.map fun cells => cells.getD i .null

/-- A table that is not known keeps the columns of its frame. -/
def asTable (f : Frame) : Table :=
  let height := (f.columns.head?.map (·.2.length)).getD 0
  ⟨f.columns.map Prod.fst, transpose height (f.columns.map Prod.snd)⟩

variable [TableStore]

/-- The height of a known table: that of its columns, or of constants where the frame has none of
them. -/
def height (columns : List Column) (f : Frame) : Nat :=
  match columns.filterMap fun c => f.column? c.name with
  | [] => TableStore.constantHeight
  | (_, cells) :: _ => cells.length

/-- The cells of a column of one type in a known column of another, if they can be cast. -/
def castCells? (own type : ColumnType) (cells : List Cell) : Option (List Cell) :=
  match own, type with
  | .text, .flag => some (cells.map Cell.flagOfWord)
  | own, type =>
    if TableStore.casts own type then some (cells.map (TableStore.cast type)) else none

/-- A known column cast from a frame, nulls when it is not there. -/
def castColumn? (height : Nat) (f : Frame) (c : Column) : Option (List Cell) :=
  match f.column? c.name with
  | some (own, cells) => castCells? own.type c.type cells
  | none => some (List.replicate height .null)

/-- A known table cast from a frame. -/
def toTable? (columns : List Column) (f : Frame) : Option Table := do
  let height := f.height columns
  return ⟨columns, transpose height (← columns.mapM (f.castColumn? height))⟩

end Frame

end PolicyForecast
