import PolicyForecast.Json.Reader
import PolicyForecast.Table.Database

/-!
# Loading a database

A database comes from an engine that is asked for one table after the other, or from a data file.
Both sources may lack tables; loading fails only when nothing at all can be taken over, or when the
file is not readable as an object of tables.
-/

namespace PolicyForecast

/-- Why no database could be loaded. -/
inductive LoadFault where
  /-- The file cannot be opened, or its text is not a value. -/
  | unreadable
  /-- The bytes of the file are not text. -/
  | notText
  /-- A number in the file has too many digits. -/
  | oversizedInteger
  /-- A number in the file is beyond the range of its column. -/
  | outOfRange
  /-- The file holds a value that is not an object; the word names its kind. -/
  | notAnObject (source kind : String)
  /-- No table of the source could be taken over. -/
  | nothingLoaded (source : String)
  /-- A column that an engine gave cannot be cast to the type of its known column. -/
  | uncast

/-- What a message says of a load that failed, where there is something to say. -/
def LoadFault.message? : LoadFault → Option String
  | .notAnObject source kind => some s!"Expected an object of tables in {source}, got {kind}"
  | .nothingLoaded source => some s!"No rule tables could be loaded from {source}"
  | _ => none

/-- The word for the kind of a value. -/
def Json.kindName : Json → String
  | .null => "NoneType"
  | .bool _ => "bool"
  | .int _ => "int"
  | .float _ => "float"
  | .text _ | .brokenText _ => "str"
  | .array _ => "list"
  | .object _ => "dict"

namespace Database

/-! ## From a data file -/

section DataFile

variable [TableStore]

/-- The database of a value that a data file holds. -/
def ofFileValue (source : String) (value : Json) : Except LoadFault Database :=
  match value.namedFields? with
  | none => .error (.notAnObject source value.kindName)
  | some tables =>
    match ofJson tables with
    | .error _ => .error .outOfRange
    | .ok db =>
      if !tables.isEmpty && db.failed.length == tables.length then .error (.nothingLoaded source)
      else .ok db

/-- The database of the text of a data file. -/
def ofFileText (source text : String) : Except LoadFault Database :=
  match Json.read text with
  | .error .malformed => .error .unreadable
  | .error .oversizedInteger => .error .oversizedInteger
  | .ok value => ofFileValue source value

/-- The database of the bytes of a data file; `none` stands for a file that is not there. -/
def ofFile (source : String) (bytes : Option ByteArray) : Except LoadFault Database :=
  match bytes with
  | none => .error .unreadable
  | some bytes =>
    match String.fromUTF8? bytes with
    | none => .error .notText
    | some text => ofFileText source text

end DataFile

/-! ## From an engine -/

/-- The question that an engine is asked for a table. -/
def tableQuery (table : String) : String :=
  s!"SELECT * FROM \"{table}\""

/-- The tables that are asked for; an empty request asks for all known ones. -/
def requestedTables (names : List String) : List String :=
  if names.isEmpty then Schema.tableNames else names

/-- The questions that an engine is asked, in order, when a database is loaded from it. -/
def queries (names : List String) : List String :=
  (requestedTables names).map tableQuery

/-- The questions that `load` asks an engine. -/
def loadQueries (engine : Option String) : List String :=
  if engine.any (!·.isEmpty) then queries [] else []

section Engine

variable [TableStore]

/-- The database of what an engine gave for each table that it was asked for, in order: a frame or
nothing. A table that was asked for again is the one of its last frame. -/
def ofReads (source : String) (reads : List (String × Option Frame)) : Except LoadFault Database :=
  let frames := reads.filterMap fun (name, frame) => frame.map (name, ·)
  if frames.isEmpty then .error (.nothingLoaded source)
  else (ofFrames? (OrderedMap.ofList frames).entries).elim (.error .uncast) .ok

/-- The database of an engine that answers for each table with a frame or not at all. -/
def ofEngine (source : String) (names : List String) (answer : String → Option Frame) :
    Except LoadFault Database :=
  ofReads source ((requestedTables names).map fun name => (name, answer name))

/-- The database of the first source that is given: an engine, else a file, else none. -/
def load (engine file : Option String) (answer : String → Option Frame)
    (readFile : String → Option ByteArray) : Except LoadFault Database :=
  match engine.filter (!·.isEmpty), file.filter (!·.isEmpty) with
  | some uri, _ => ofEngine uri [] answer
  | none, some path => ofFile path (readFile path)
  | none, none => .ok empty

end Engine

end Database

end PolicyForecast
