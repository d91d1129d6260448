import PolicyForecast.Game.Snapshot
import PolicyForecast.Json.Wording

/-!
# Snapshots from data

The host exports its state as nested objects. Every plot, city, unit and player is built from its
fields one by one: the required ones must be there, and a field that is not known is refused. The
same assignment of a field is used to change a snapshot later on.
-/

namespace PolicyForecast

/-- Why data is not a snapshot. -/
inductive SnapshotFault where
  /-- A part has the wrong fields or is of the wrong kind. -/
  | wrongShape
  /-- A part that is asked for fields is not an object. -/
  | notAnObject
  /-- The local player is not named. -/
  | missingLocalPlayer
  /-- A player is listed as pieces that are no pairs. -/
  | notPairs
deriving DecidableEq, Repr

namespace SnapshotFault

/-- Takes a value that must be there. -/
def require {α : Type} (value : Option α) : Except SnapshotFault α :=
  value.elim (.error .wrongShape) .ok

end SnapshotFault

open SnapshotFault (require)

namespace Json

/-! ## Values of fields -/

/-- A whole number. -/
def whole? : Json → Option Int
  | .int n => some n
  | .bool b => some (if b then 1 else 0)
  | _ => none

/-- A whole number or nothing. -/
def optionalWhole? : Json → Option (Option Int)
  | .null => some none
  | value => value.whole?.map some

/-- A name or nothing. -/
def name? : Json → Option (Option String)
  | .null => some none
  | .text s => some (some s)
  | _ => none

/-- The items of an array, each read by the same reader. -/
def list? {α : Type} (read : Json → Option α) : Json → Option (List α)
  | .array items => items.mapM read
  | _ => none

/-- The fields of an object, each value read by the same reader. -/
def table? {α : Type} (read : Json → Option α) (value : Json) : Option (OrderedMap String α) := do
  let entries ← (← value.namedFields?).mapM fun (name, value) => do return (name, ← read value)
  return ⟨entries⟩

/-- A number of either kind. -/
def quantity? : Json → Option Quantity
  | .float x => some (.real x)
  | value => value.whole?.map .whole

/-- The things that a value lists: items, field names or characters. -/
def elements : Json → Except SnapshotFault (List Json)
  | .array items => .ok items
  | .object fields => .ok (fields.map fun (name, _) => name.toJson)
  | .text s => .ok (s.toList.map fun c => .text (String.singleton c))
  | _ => .error .wrongShape

/-- A field name and its value, where a pair stands for them. A name that is no text is taken by its
text, which names no field; an array or object cannot stand for a name. -/
def pair : Json → Except SnapshotFault (String × Json)
  | .array [.array _, _] | .array [.object _, _] => .error .wrongShape
  | .array [name, value] => .ok (name.ownText, value)
  | .array _ => .error .notPairs
  | .text s =>
    match s.toList with
    | [a, b] => .ok (String.singleton a, .text (String.singleton b))
    | _ => .error .notPairs
  | .object [(a, _), (b, _)] => .ok (a.display, b.toJson)
  | .object _ => .error .notPairs
  | _ => .error .wrongShape

/-- The fields of a player, given as an object or as a list of pairs. -/
def playerFields (value : Json) : Except SnapshotFault (List (String × Json)) :=
  match value.namedFields? with
  | some fields => .ok fields
  | none => do return (OrderedMap.ofList (← (← value.elements).mapM pair)).entries

/-- The fields of a value that must be an object. -/
def objectFields (value : Json) : Except SnapshotFault (List (String × Json)) :=
  value.namedFields?.elim (.error .wrongShape) .ok

end Json

/-- Builds a record from its fields, of which some are required. -/
def buildRecord {α : Type} (blank : α) (required : List String)
    (assign : α → String → Json → Except SnapshotFault α) (fields : List (String × Json)) :
    Except SnapshotFault α :=
  if required.all fun name => (fields.lookup name).isSome then
    fields.foldlM (fun record (name, value) => assign record name value) blank
  else .error .wrongShape

/-! ## Records -/

/-- A plot with one field changed. -/
def Plot.assign (p : Plot) (field : String) (value : Json) : Except SnapshotFault Plot := do
  match field with
  | "index" => return { p with index := ← require value.whole? }
  | "x" => return { p with x := ← require value.whole? }
  | "y" => return { p with y := ← require value.whole? }
  | "terrain_type" => return { p with terrain := ← require value.name? }
  | "feature_type" => return { p with feature := ← require value.name? }
  | "resource_type" => return { p with resource := ← require value.name? }
  | "resource_revealed" => return { p with resourceRevealed := value.isSubstantial }
  | "is_coastal_land" => return { p with coastalLand := value.isSubstantial }
  | "is_river" => return { p with river := value.isSubstantial }
  | "is_natural_wonder" => return { p with naturalWonder := value.isSubstantial }
  | "district_type" => return { p with district := ← require value.name? }
  | "constructibles" => return { p with constructibles := ← require (value.list? Json.name?) }
  | _ => throw .wrongShape

/-- A plot from its fields. -/
def Plot.ofJson (value : Json) : Except SnapshotFault Plot := do
  buildRecord { index := 0, x := 0, y := 0 } ["index", "x", "y"] Plot.assign
    (← value.objectFields)

/-- A city with one field changed. -/
def City.assign (c : City) (field : String) (value : Json) : Except SnapshotFault City := do
  match field with
  | "id" => return { c with id := ← require value.whole? }
  | "name" => return { c with name := ← require value.name? }
  | "owner" => return { c with owner := ← require value.whole? }
  | "original_owner" => return { c with founder := ← require value.optionalWhole? }
  | "location" => return { c with location := ← require value.optionalWhole? }
  | "is_capital" => return { c with isCapital := value.isSubstantial }
  | "is_town" => return { c with isTown := value.isSubstantial }
  | "is_distant_lands" => return { c with isDistantLands := value.isSubstantial }
  | "population" => return { c with population := ← require value.whole? }
  | "urban_population" => return { c with urbanPopulation := ← require value.whole? }
  | "rural_population" => return { c with ruralPopulation := ← require value.whole? }
  | "purchased_plots" => return { c with purchasedPlots := ← require (value.list? Json.whole?) }
  | "project_type" => return { c with project := ← require value.name? }
  | "majority_religion" => return { c with majorityReligion := ← require value.name? }
  | "great_works" => return { c with greatWorks := ← require value.whole? }
  | "resources" => return { c with resources := ← require (value.list? Json.name?) }
  | "yield_traces" => return { c with yieldTraces := ← require (value.table? some) }
  | _ => throw .wrongShape

/-- A city from its fields. -/
def City.ofJson (value : Json) : Except SnapshotFault City := do
  buildRecord { id := 0, name := none, owner := 0 } ["id", "name", "owner"] City.assign
    (← value.objectFields)

/-- A unit with one field changed. -/
def GameUnit.assign (u : GameUnit) (field : String) (value : Json) :
    Except SnapshotFault GameUnit := do
  match field with
  | "id" => return { u with id := ← require value.whole? }
  | "unit_type" => return { u with unitType := ← require value.name? }
  | "owner" => return { u with owner := ← require value.whole? }
  | "location" => return { u with location := ← require value.optionalWhole? }
  | "maintenance" => return { u with maintenance := ← require value.quantity? }
  | "is_commander" => return { u with isCommander := value.isSubstantial }
  | "level" => return { u with level := ← require value.whole? }
  | _ => throw .wrongShape

/-- A unit from its fields. -/
def GameUnit.ofJson (value : Json) : Except SnapshotFault GameUnit := do
  buildRecord { id := 0, unitType := none, owner := 0 } ["id", "unit_type", "owner"]
    GameUnit.assign (← value.objectFields)

/-- A player with one field changed. -/
def Player.assign (p : Player) (field : String) (value : Json) : Except SnapshotFault Player := do
  match field with
  | "id" => return { p with id := ← require value.whole? }
  | "is_major" => return { p with isMajor := value.isSubstantial }
  | "is_alive" => return { p with isAlive := value.isSubstantial }
  | "leader_type" => return { p with leader := ← require value.name? }
  | "civilization_type" => return { p with civilization := ← require value.name? }
  | "active_traditions" =>
    return { p with activeTraditions := ← require (value.list? Json.name?) }
  | "spent_attribute_points" =>
    return { p with spentAttributePoints := ← require (value.table? Json.whole?) }
  | "religion" => return { p with religion := ← require value.name? }
  | "resources" => return { p with resources := ← require (value.list? Json.name?) }
  | "allies" => return { p with allies := ← require (value.list? Json.whole?) }
  | "at_war_with" => return { p with atWarWith := ← require (value.list? Json.whole?) }
  | "suzerain" => return { p with suzerain := ← require value.optionalWhole? }
  | "yield_traces" => return { p with yieldTraces := ← require (value.table? some) }
  | _ => throw .wrongShape

/-- A player from its fields, cities before units before all else. -/
def Player.ofJson (value : Json) : Except SnapshotFault Player := do
  let fields ← value.playerFields
  let listed (name : String) : Except SnapshotFault (List Json) :=
    ((fields.lookup name).getD (.array [])).elements
  let cities ← (← listed "cities").mapM City.ofJson
  let units ← (← listed "units").mapM GameUnit.ofJson
  let others := fields.filter fun (name, _) => name != "cities" && name != "units"
  buildRecord { id := 0, cities, units } ["id"] Player.assign others

/-! ## Snapshots -/

/-- A map from its fields. -/
def HexMap.ofJson (value : Json) : Except SnapshotFault HexMap := do
  let fields ← value.namedFields?.elim (throw .notAnObject) pure
  let plots ← ((fields.lookup "plots").getD (.array [])).elements
  let plots ← plots.mapM Plot.ofJson
  return {
    width := ← require ((fields.lookup "width").getD (.int 0)).whole?
    height := ← require ((fields.lookup "height").getD (.int 0)).whole?
    plots := .ofList (plots.map fun p => (p.index, p)) }

/-- The id of the local player; what is no number names no player. -/
def localIdOfJson : Json → Option Int
  | .float x => (Exact.trunc? x).toOption.filter fun n => Exact.compareInt? n x == some .eq
  | value => value.whole?

/-- A snapshot from its fields. -/
def Snapshot.ofJson (value : Json) : Except SnapshotFault Snapshot := do
  let fields ← value.namedFields?.elim (throw .notAnObject) pure
  let map ← HexMap.ofJson ((fields.lookup "map").getD (.object []))
  let players ← ((fields.lookup "players").getD (.array [])).elements
  let players ← players.mapM Player.ofJson
  match fields.lookup "local_player_id" with
  | none => throw .missingLocalPlayer
  | some id =>
    return {
      localPlayerId := localIdOfJson id
      players := .ofList (players.map fun p => (p.id, p))
      map
      age := ((fields.lookup "age").bind Json.name?).join }

/-! ## Changing a snapshot -/

/-- What a change of a snapshot is aimed at. -/
inductive EditTarget where
  | game
  | plot (index : Int)
  | city (id : Int)
  | unit (id : Int)
  | player (id : Int)

/-- A player with one field changed. The cities and units of a player are built with the player; a
change can only take all of them away. -/
def Player.changed (p : Player) (field : String) (value : Json) : Player :=
  match field, value with
  | "cities", .array [] => { p with cities := [] }
  | "units", .array [] => { p with units := [] }
  | field, value => (p.assign field value).toOption.getD p

/-- Changes the first item that passes a test. -/
def editFirst {α : Type} (p : α → Bool) (f : α → α) : List α → List α
  | [] => []
  | a :: rest => if p a then f a :: rest else a :: editFirst p f rest

/-- Changes the first of the players' possessions that passes a test. -/
def editFirstOwned {α : Type} (get : Player → List α) (set : Player → List α → Player)
    (p : α → Bool) (f : α → α) : List (Int × Player) → List (Int × Player)
  | [] => []
  | (id, player) :: rest =>
    if (get player).any p then (id, set player (editFirst p f (get player))) :: rest
    else (id, player) :: editFirstOwned get set p f rest

/-- A record with one field changed, if the field is known and takes the value. -/
def assigned {α : Type} (assign : α → String → Json → Except SnapshotFault α) (field : String)
    (value : Json) (record : α) : α :=
  (assign record field value).toOption.getD record

/-- A snapshot with one field of one of its parts changed. -/
def Snapshot.edit (g : Snapshot) (target : EditTarget) (field : String) (value : Json) :
    Snapshot :=
  match target with
  | .game =>
    match field, value with
    | "local_player_id", value => { g with localPlayerId := localIdOfJson value }
    | "age", value => { g with age := value.name?.join }
    | "players", .object [] => { g with players := ∅ }
    | _, _ => g
  | .plot index =>
    { g with map.plots := g.map.plots.modify index (assigned Plot.assign field value) }
  | .player id => { g with players := g.players.modify id (·.changed field value) }
  | .city id =>
    { g with players := ⟨editFirstOwned Player.cities (fun p cities => { p with cities })
        (·.id == id) (assigned City.assign field value) g.players.entries⟩ }
  | .unit id =>
    { g with players := ⟨editFirstOwned Player.units (fun p units => { p with units })
        (·.id == id) (assigned GameUnit.assign field value) g.players.entries⟩ }

end PolicyForecast
