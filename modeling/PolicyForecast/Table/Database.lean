import PolicyForecast.Table.Coercion
import PolicyForecast.Table.Frame
import PolicyForecast.Table.Selection

/-!
# The rule database

A database holds every known table, empty when its source did not give it, and after them the
other tables of the source. It remembers which tables of the source could not be taken over; those
are empty.
-/

namespace PolicyForecast

/-- The tables of the rules, the known ones first and in their order. -/
structure Database where
  tables : List (String × Table)
  failed : List String := []

/-- The yield types of a game whose rules do not list any. -/
def defaultYieldTypes : List String :=
  ["YIELD_FOOD", "YIELD_PRODUCTION", "YIELD_GOLD", "YIELD_SCIENCE", "YIELD_CULTURE",
   "YIELD_HAPPINESS", "YIELD_DIPLOMACY"]

namespace Database

/-! ## Building a database -/

/-- The known tables, each from what is given for it, and then the given tables not known. -/
def complete (given : List (String × Table)) (failed : List String) : Database where
  tables :=
    Schema.tables.map (fun (name, columns) =>
      (name, (given.lookup name).getD (Table.withColumns columns)))
    ++ given.filter fun (name, _) => (Schema.columns? name).isNone
  failed := failed

/-- A database without rules. -/
def empty : Database :=
  complete [] []

section Building

variable [TableStore]

/-- One table of a data file. -/
def tableOfJson (name : String) (value : Json) : Except TableFault Table :=
  match Schema.columns? name with
  | some columns => Table.ofJson columns value
  | none => if value.isSubstantial then TableStore.inferred value else .ok {}

/-- Takes over the tables of a data file one by one; the names of those that fail are kept. -/
def takeOver : List (String × Json) → Except TableFault (List (String × Table) × List String)
  | [] => .ok ([], [])
  | (name, value) :: rest =>
    match tableOfJson name value with
    | .error .outOfRange => .error .outOfRange
    | .error .unreadable => do
      let (tables, failed) ← takeOver rest
      return (tables, name :: failed)
    | .ok table => do
      let (tables, failed) ← takeOver rest
      return ((name, table) :: tables, failed)

/-- The database of a data file. -/
def ofJson (tables : List (String × Json)) : Except TableFault Database := do
  let (given, failed) ← takeOver tables
  return complete given failed

/-- One table of a database engine. -/
def tableOfFrame? (name : String) (frame : Frame) : Option Table :=
  match Schema.columns? name with
  | some columns => frame.toTable? columns
  | none => some frame.asTable

/-- The database of the frames of a database engine, if they can all be cast. -/
def ofFrames? (frames : List (String × Frame)) : Option Database := do
  let tables ← frames.mapM fun (name, frame) => (tableOfFrame? name frame).map (name, ·)
  return complete tables []

end Building

/-! ## Reading a database -/

/-- A table, without rows or columns when the database does not have it. -/
def table (db : Database) (name : String) : Table :=
  (db.tables.lookup name).getD {}

/-- The names of all tables. -/
def tableNames (db : Database) : List String :=
  db.tables.map Prod.fst

/-- The names that a condition cannot have, because a request for rows uses them itself. -/
def reservedNames : List String :=
  ["self", "table_name"]

/-- The rows of a table that meet all conditions. -/
def rows (db : Database) (table : String) (conditions : List Condition) :
    Except SelectionFault (List Row) :=
  if conditions.any fun c => reservedNames.contains c.column then .error .reservedName
  else (db.table table).select conditions

/-- The first row of a table that meets all conditions. -/
def row? (db : Database) (table : String) (conditions : List Condition) :
    Except SelectionFault (Option Row) :=
  List.head? <$> db.rows table conditions

/-- The known yield types: those of the rules, or the usual ones when the rules list none. -/
def yieldTypes (db : Database) : List String :=
  let yields := db.table "Yields"
  if yields.isEmpty then defaultYieldTypes
  else yields.namedRows.filterMap (·.text? "YieldType")

end Database

/-! ## Look-ups by name

The usual look-ups ask one table for one key. They differ in what they answer: the first row, all
rows, or one column of all rows. -/

/-- What a look-up answers. -/
inductive LookupForm where
  | firstRow
  | allRows
  | column (name : String)

/-- A look-up: its table, its key column and the form of its answer. -/
structure Lookup where
  table : String
  key : String
  form : LookupForm

/-- The answer of a look-up. -/
inductive LookupAnswer where
  | row (row : Option Row)
  | rows (rows : List Row)
  | cells (cells : List Cell)

namespace Lookup

/-- The usual look-ups. -/
def named : List (String × Lookup) :=
  [("modifier", ⟨"Modifiers", "ModifierId", .firstRow⟩),
   ("dynamic_modifier", ⟨"DynamicModifiers", "ModifierType", .firstRow⟩),
   ("modifier_arguments", ⟨"ModifierArguments", "ModifierId", .allRows⟩),
   ("tradition_modifier_ids", ⟨"TraditionModifiers", "TraditionType", .column "ModifierId"⟩),
   ("requirement_set", ⟨"RequirementSets", "RequirementSetId", .firstRow⟩),
   ("requirement_set_requirement_ids",
    ⟨"RequirementSetRequirements", "RequirementSetId", .column "RequirementId"⟩),
   ("requirement", ⟨"Requirements", "RequirementId", .firstRow⟩),
   ("requirement_arguments", ⟨"RequirementArguments", "RequirementId", .allRows⟩),
   ("tags_for_type", ⟨"TypeTags", "Type", .column "Tag"⟩),
   ("types_with_tag", ⟨"TypeTags", "Tag", .column "Type"⟩),
   ("terrain", ⟨"Terrains", "TerrainType", .firstRow⟩),
   ("district", ⟨"Districts", "DistrictType", .firstRow⟩),
   ("constructible", ⟨"Constructibles", "ConstructibleType", .firstRow⟩),
   ("constructible_types_for_adjacency",
    ⟨"Constructible_Adjacencies", "YieldChangeId", .column "ConstructibleType"⟩),
   ("adjacency_yield_change", ⟨"Adjacency_YieldChanges", "ID", .firstRow⟩),
   ("warehouse_yield_change", ⟨"Warehouse_YieldChanges", "ID", .firstRow⟩),
   ("constructible_maintenances",
    ⟨"Constructible_Maintenances", "ConstructibleType", .allRows⟩),
   ("unit", ⟨"Units", "UnitType", .firstRow⟩),
   ("leader_trait_types", ⟨"LeaderTraits", "LeaderType", .column "TraitType"⟩),
   ("civilization_trait_types",
    ⟨"CivilizationTraits", "CivilizationType", .column "TraitType"⟩)]

/-- The answer of a look-up for a key. -/
def answer (l : Lookup) (db : Database) (key : Json) : Except SelectionFault LookupAnswer := do
  let rows ← db.rows l.table [⟨l.key, key⟩]
  match l.form with
  | .firstRow => return .row rows.head?
  | .allRows => return .rows rows
  | .column name => return .cells (rows.map (·.cell name))

end Lookup

end PolicyForecast
