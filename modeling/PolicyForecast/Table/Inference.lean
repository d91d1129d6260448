import PolicyForecast.Table.Coercion
import PolicyForecast.Table.Frame
import PolicyForecast.Table.Mixture

/-!
# Other tables from data files

A table that is not known takes the types of its columns from its values. Each value has a type of
its own, and a column of rows has the join of the types of its values; where there is none, the
table cannot be taken over. Values may be records and lists. The items of a list have one type, too:
the join of their types, or if they are numbers without a gap, a type for numbers of that kind.

Such a table is most often given as a list of objects, one for each row: then its columns are the
fields that any row mentions, in the order in which they are first mentioned. It may also be given
column by column, as an object of lists or as a list of lists, or as one list of plain values.
-/

namespace PolicyForecast

namespace Cell

/-! ## Values on their own -/

/-- A column if there is one; otherwise the table cannot be taken over. -/
def required (column : Option (ColumnType × List Cell)) :
    Except TableFault (ColumnType × List Cell) :=
  column.elim (.error .unreadable) .ok

/-- The integer of a value in a column of integers. -/
def integerIn? (range : IntegerRange) : Json → Option Cell
  | .null => some .null
  | .bool b => some (.integer (if b then 1 else 0))
  | .int n => if range.contains n then some (.integer n) else none
  | _ => none

/-- The double of a value in a column of doubles. -/
def double? : Json → Option Cell
  | .null => some .null
  | .bool b => some (.real (if b then 1.0 else 0.0))
  | .int n => (Exact.ofInt? n).toOption.map .real
  | .float x => some (.real x)
  | _ => none

/-- A column of integers of a range. -/
def integers? (range : IntegerRange) (values : List Json) : Option (ColumnType × List Cell) :=
  (values.mapM (integerIn? range)).map (.integer range, ·)

/-- A column of numbers: if the first value that is not null is a number, flags and numbers are read
as numbers of its kind where that is possible. Integers have 64 bits, if need be without a sign. -/
def numbers? (values : List Json) : Option (ColumnType × List Cell) :=
  match values.find? (!·.isNull) with
  | some (.int _) => (integers? .word values).or (integers? .unsignedWord values)
  | some (.float _) => (values.mapM double?).map (.real, ·)
  | _ => none

/-- Whether a value is neither null nor made of parts. -/
def isSimple : Json → Bool
  | .null | .array _ | .object _ => false
  | _ => true

/-- The items of a list as a column, from the values and the cells that they are on their own: if
there are only values without parts, one of numbers or of the type of the first value, and otherwise
one of the join of their types. -/
def itemColumn? (values : List Json) (cells : List (ColumnType × Cell)) :
    Option (ColumnType × List Cell) :=
  if values.all isSimple then (numbers? values).or (leadColumn? cells) else joinedColumn? cells

/-- A name, which must be a text. -/
def nameOf : FieldName → Except TableFault String
  | .text name => .ok name
  | .broken _ => .error .unreadable

mutual

/-- A value as a cell, with the type that it has on its own. -/
def natural : Json → Except TableFault (ColumnType × Cell)
  | .null => .ok (.untyped, .null)
  | .bool b => .ok (.flag, .flag b)
  | .int n =>
    match IntegerRange.of? n with
    | some range => .ok (.integer range, .integer n)
    | none => .error .outOfRange
  | .float x => .ok (.real, .real x)
  | .text s => .ok (.text, .text s)
  | .brokenText _ => .error .unreadable
  | .array items => do
    let (type, cells) ← required (itemColumn? items (← naturalItems items))
    return (.list type, .list cells)
  | .object fields => do
    let fields ← naturalFields fields
    return (.record (fields.map fun (name, type, _) => (name, type)),
      .record (fields.map fun (name, _, cell) => (name, cell)))

/-- The items of a list. -/
def naturalItems : List Json → Except TableFault (List (ColumnType × Cell))
  | [] => .ok []
  | item :: rest => do
    let item ← natural item
    return item :: (← naturalItems rest)

/-- The fields of a record. -/
def naturalFields : List (FieldName × Json) → Except TableFault (List (String × ColumnType × Cell))
  | [] => .ok []
  | (name, value) :: rest => do
    let name ← nameOf name
    let (type, cell) ← natural value
    return (name, type, cell) :: (← naturalFields rest)

end

end Cell

namespace Table

/-! ## Tables given row by row -/

/-- The join of types, where there is one. -/
def joinedType (types : List ColumnType) : Except TableFault ColumnType :=
  (ColumnType.joinAll? types).elim (.error .unreadable) .ok

/-- The fields of a row; null is a row without fields. -/
def fieldsOf : Json → Except TableFault (List (String × Json))
  | .null => .ok []
  | .object fields => fields.mapM fun (name, value) => do return (← Cell.nameOf name, value)
  | _ => .error .unreadable

/-- The names that rows mention, in the order in which they are first mentioned. -/
def mentioned (rows : List (List (String × Json))) : List String :=
  (rows.flatMap (·.map Prod.fst)).eraseDups

/-- A cell in a column of texts. Numbers are taken, but of the integers only words. -/
def textCell : Cell → Except TableFault Cell
  | .real x => .ok (.text (Cell.positionalDecimal.write x))
  | .list _ | .record _ => .error .unreadable
  | cell => if cell.fits then .ok cell.castText else .error .unreadable

/-- A cell in its column. -/
def cellIn (type own : ColumnType) (cell : Cell) : Except TableFault Cell :=
  match type with
  | .text => textCell cell
  | _ => (cell.joined? own type).elim (.error .unreadable) .ok

/-- A table from its rows. -/
def ofRows (rows : List Json) : Except TableFault Table := do
  let rows ← rows.mapM fieldsOf
  let names := mentioned rows
  let rows ← rows.mapM fun fields => names.mapM fun name => do
    return (name, ← Cell.natural ((fields.lookup name).getD .null))
  let columns ← names.mapM fun name => do
    let types := rows.filterMap fun row => (row.lookup name).map Prod.fst
    return Column.mk name (← joinedType types)
  let rows ← rows.mapM fun row =>
    (columns.zip row).mapM fun (column, _, own, cell) => cellIn column.type own cell
  return ⟨columns, rows⟩

/-! ## Tables given column by column -/

/-- A column from its values: one of numbers, or one of the type of the first value that holds
something. -/
def columnOf (values : List Json) : Except TableFault (ColumnType × List Cell) :=
  match Cell.numbers? values with
  | some column => .ok column
  | none => do Cell.required (Cell.leadColumn? (← Cell.naturalItems values))

/-- A table from its columns, which must be of equal height. -/
def ofColumns (columns : List (Column × List Cell)) : Except TableFault Table :=
  let heights := columns.map (·.2.length)
  if heights.all (· == heights.headD 0) then .ok (Frame.asTable ⟨columns⟩) else .error .unreadable

/-- A column of records from a table, one for each row. -/
def recordColumn (t : Table) : ColumnType × List Cell :=
  (.record (t.columns.map fun c => (c.name, c.type)), t.namedRows.map .record)

/-- The table of an object that is its only row. -/
def soleRow (fields : List (FieldName × Json)) : Except TableFault Table := do
  let fields ← Cell.naturalFields fields
  let columns := fields.map fun (name, type, _) => Column.mk name type
  return ⟨columns, if fields.isEmpty then [] else [fields.map (·.2.2)]⟩

/-- Whether no column has values with parts. -/
def isPlain (t : Table) : Bool :=
  t.columns.all (·.type.isPlain)

/-- The height of a table that an object gives column by column: that of its longest list. Where
there is no list, the object is the only row. -/
def heightOf? (fields : List (FieldName × Json)) : Option Nat :=
  (fields.filterMap fun (_, value) => value.items?.map List.length).max?

mutual

/-- The column of a field, in a table of some height: a list gives its cells from top to bottom, an
object is a table of its own, and any other value stands in every row, as does an object of values
without parts. An integer that stands in every row has 128 bits at most. -/
def fieldColumn (height : Nat) : Json → Except TableFault (ColumnType × List Cell)
  | .array values => columnOf values
  | .object fields =>
    match heightOf? fields with
    | some inner => do return (← ofColumns (← fieldColumns inner fields)).recordColumn
    | none => do
      let t ← soleRow fields
      let (type, cells) := t.recordColumn
      return (type, if t.isPlain then cells.flatMap (List.replicate height) else cells)
  | .int n =>
    if IntegerRange.wide.contains n then do
      let (type, cell) ← Cell.natural (.int n)
      return (type, List.replicate height cell)
    else .error .unreadable
  | value => do
    let (type, cell) ← Cell.natural value
    return (type, List.replicate height cell)

/-- The columns of the fields of an object. -/
def fieldColumns (height : Nat) :
    List (FieldName × Json) → Except TableFault (List (Column × List Cell))
  | [] => .ok []
  | (name, value) :: rest => do
    let name ← Cell.nameOf name
    let (type, cells) ← fieldColumn height value
    return (⟨name, type⟩, cells) :: (← fieldColumns height rest)

end

/-- A table from an object with a field for each column. -/
def ofFields (fields : List (FieldName × Json)) : Except TableFault Table :=
  match heightOf? fields with
  | some 0 => do
    let names ← fields.mapM fun (name, _) => Cell.nameOf name
    return .withColumns (names.map fun name => ⟨name, .untyped⟩)
  | some height => do ofColumns (← fieldColumns height fields)
  | none => soleRow fields

/-- The values that stand for a column on their own. -/
def columnValues : Json → Except TableFault (List Json)
  | .null => .ok []
  | .array values => .ok values
  | .text s => .ok (s.toList.map fun c => .text (String.singleton c))
  | _ => .error .unreadable

/-- A table from its columns without names, which are numbered. -/
def ofLists (lists : List Json) : Except TableFault Table := do
  let columns ← lists.zipIdx.mapM fun (values, i) => do
    let (type, cells) ← columnOf (← columnValues values)
    return (Column.mk s!"column_{i}" type, cells)
  ofColumns columns

/-! ## Tables of any form -/

/-- A table that is not known, from the value that a data file gives for it. -/
def inferred : Json → Except TableFault Table
  | .array values =>
    match values.find? (!·.isNull) with
    | some (.object _) => ofRows values
    | some (.array _) => ofLists values
    | _ => ofLists [.array values]
  | .object fields => ofFields fields
  | value => ofLists [value]

end Table

end PolicyForecast
