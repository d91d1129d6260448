import PolicyForecast.Table.Cast

/-!
# Cells among cells of other types

A column has one type, but its values need not. There are three ways to bring a cell of its own type
to the type of the column. The items of lists are recast, where the types allow it. In a column of
rows, whose type is the join of the types of its cells, what has no place becomes null. In a column
on its own, or among the items of a list, what has no place spoils the column; its type is that of
the first cell with values, or again the join.
-/

namespace PolicyForecast

namespace Cell

mutual

/-- An item of a list, recast to the type of other items. A plain item is taken as a record of which
it is every field. -/
def recast (own : ColumnType) (cell : Cell) : ColumnType → Cell
  | .list item =>
    match own, cell with
    | .list own, .list items => .list (items.map fun cell => recast own cell item)
    | _, _ => .null
  | .record fields =>
    match own, cell with
    | .untyped, _ => .null
    | .record own, .record cells => .record (recastFields own cells fields)
    | .list _, _ | .record _, _ => .null
    | own, cell => .record (recastEach own cell fields)
  | .text => (textForm? cell).elim .null .text
  | type => cell.cast type

/-- The fields of a record, recast to the fields of other records. -/
def recastFields (own : List (String × ColumnType)) (cells : List (String × Cell)) :
    List (String × ColumnType) → List (String × Cell)
  | [] => []
  | (name, type) :: rest =>
    (name, recast ((own.lookup name).getD .untyped) ((cells.lookup name).getD .null) type)
      :: recastFields own cells rest

/-- A plain item, recast to each field of other records. -/
def recastEach (own : ColumnType) (cell : Cell) :
    List (String × ColumnType) → List (String × Cell)
  | [] => []
  | (name, type) :: rest => (name, recast own cell type) :: recastEach own cell rest

end

mutual

/-- A cell in a column whose type is a join of the cell's own type and others. An integer that the
join leaves out is null, a record has the fields of the column, and what is no record among records
is null, as is a list of one item that cannot be recast; a longer one has no place. -/
def joined? (own : ColumnType) (cell : Cell) : ColumnType → Option Cell
  | .list item =>
    match own, cell with
    | .list own, .list items =>
      if own.castsTo item then some (.list (items.map fun cell => recast own cell item))
      else if items.length = 1 then some .null
      else none
    | _, _ => some .null
  | .record fields =>
    match own, cell with
    | .record own, .record cells => (joinedFields? own cells fields).map .record
    | _, _ => some .null
  | type => some (cell.cast type)

/-- The fields of a record in a column of records with the given fields. -/
def joinedFields? (own : List (String × ColumnType)) (cells : List (String × Cell)) :
    List (String × ColumnType) → Option (List (String × Cell))
  | [] => some []
  | (name, type) :: rest => do
    let cell ← joined? ((own.lookup name).getD .untyped) ((cells.lookup name).getD .null) type
    return (name, cell) :: (← joinedFields? own cells rest)

end

mutual

/-- A cell in a column that takes no cell of another type. Lists are recast as long as no item is
lost, records may lack fields, and a list of as many items as a record has fields is read as that
record. -/
def uniform? (own : ColumnType) (cell : Cell) : ColumnType → Option Cell
  | .untyped => some .null
  | .list item =>
    match own, cell with
    | _, .null => some .null
    | .list own, .list items =>
      let recasts := items.map fun cell => recast own cell item
      if own.castsTo item && recasts.countP isNull == items.countP isNull then some (.list recasts)
      else none
    | _, _ => none
  | .record fields =>
    match own, cell with
    | _, .null => some .null
    | .record own, .record cells => (uniformFields? own cells fields).map .record
    | .list own, .list items => (uniformItems? own items fields).map .record
    | _, _ => none
  | type => if cell.isNull || isOf type cell then some cell else none

/-- The fields of a record among records with the given fields. -/
def uniformFields? (own : List (String × ColumnType)) (cells : List (String × Cell)) :
    List (String × ColumnType) → Option (List (String × Cell))
  | [] => some []
  | (name, type) :: rest => do
    let cell ← uniform? ((own.lookup name).getD .untyped) ((cells.lookup name).getD .null) type
    return (name, cell) :: (← uniformFields? own cells rest)

/-- The items of a list as the given fields of a record. -/
def uniformItems? (own : ColumnType) (items : List Cell) :
    List (String × ColumnType) → Option (List (String × Cell))
  | [] => if items.isEmpty then some [] else none
  | (name, type) :: rest =>
    match items with
    | [] => none
    | item :: items => do
      return (name, ← uniform? own item type) :: (← uniformItems? own items rest)

end

/-- Cells of their own types in a column that has one of these types, or the join of them. -/
def columnOfType? (type : ColumnType) (cells : List (ColumnType × Cell)) :
    Option (ColumnType × List Cell) :=
  (cells.mapM fun (own, cell) => uniform? own cell type).map (type, ·)

/-- A column of cells, brought to the type that leads them. -/
def leadColumn? (cells : List (ColumnType × Cell)) : Option (ColumnType × List Cell) :=
  columnOfType? (ColumnType.leading (cells.map Prod.fst)) cells

/-- How many of the cells are asked for their join. -/
def sampleSize : Nat := 25

/-- A column of cells whose type is the join of their types. -/
def joinedColumn? (cells : List (ColumnType × Cell)) : Option (ColumnType × List Cell) := do
  columnOfType? (← ColumnType.joinAll? ((cells.take sampleSize).map Prod.fst)) cells

end Cell

end PolicyForecast
