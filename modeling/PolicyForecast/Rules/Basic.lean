import PolicyForecast.Rules.Argument
import PolicyForecast.Table.Database

/-!
# The rules that previews read

The tables of a database as lists of typed records, one list for each table that a preview reads.
A look-up by key gives the first record, or all records in table order, whose key is that text; a
record whose key is missing answers no look-up.
-/

namespace PolicyForecast

/-- That a tradition brings a modifier. -/
structure TraditionModifier where
  tradition : Option String
  modifier : Option String

/-- A modifier as it is listed. -/
structure ModifierRecord where
  id : Option String
  type : Option String
  ownerSet : Option String
  subjectSet : Option String
  permanent : Bool
  runOnce : Bool
  newOnly : Bool

/-- What modifiers of one type do, and to what. -/
structure ModifierTypeRecord where
  type : Option String
  collection : Option String
  effect : Option String

/-- An argument and the id of the modifier or requirement that it belongs to. -/
structure ArgumentRecord where
  owner : Option String
  argument : Argument

/-- How the requirements of a set are combined. -/
structure RequirementSetRecord where
  id : Option String
  type : Option String

/-- That a set contains a requirement. -/
structure RequirementLink where
  set : Option String
  requirement : Option String

/-- A requirement as it is listed. -/
structure RequirementRecord where
  id : Option String
  type : Option String
  inverse : Bool

/-- That a type of constructible or unit carries a tag. -/
structure TypeTag where
  type : Option String
  tag : Option String

/-- The class of a district. -/
structure DistrictRecord where
  type : Option String
  districtClass : Option String

/-- The class of a constructible. -/
structure ConstructibleRecord where
  type : Option String
  constructibleClass : Option String

/-- That a constructible takes part in an adjacency. -/
structure AdjacencyLink where
  constructible : Option String
  adjacency : Option String

/-- A yield that a plot gets from its neighbours, and what a neighbour must be to count. -/
structure AdjacencyRule where
  id : Option String := none
  yieldType : Option String := none
  yieldChange : Option Quantity := none
  tilesRequired : Option Quantity := none
  terrain : Option String := none
  feature : Option String := none
  constructible : Option String := none
  constructibleTag : Option String := none
  district : Option String := none
  resource : Bool := false
  river : Bool := false
  naturalWonder : Bool := false
  quarter : Bool := false

/-- A yield for every matching thing in a city. -/
structure WarehouseRule where
  id : Option String
  yieldType : Option String
  yieldChange : Option Float
  constructible : Option String
  minorRiver : Bool
  naturalWonder : Bool

/-- What a constructible costs each turn. -/
structure MaintenanceRecord where
  constructible : Option String
  yieldType : Option String
  amount : Option Float

/-- The domain that units of a type move in. -/
structure UnitRecord where
  type : Option String
  domain : Option String

/-- That a leader or a civilization has a trait. -/
structure TraitRecord where
  bearer : Option String
  trait : Option String

/-- The rules of a game. -/
structure Rules where
  traditionModifiers : List TraditionModifier := []
  modifiers : List ModifierRecord := []
  modifierTypes : List ModifierTypeRecord := []
  modifierArguments : List ArgumentRecord := []
  requirementSets : List RequirementSetRecord := []
  requirementLinks : List RequirementLink := []
  requirements : List RequirementRecord := []
  requirementArguments : List ArgumentRecord := []
  typeTags : List TypeTag := []
  districts : List DistrictRecord := []
  constructibles : List ConstructibleRecord := []
  adjacencyLinks : List AdjacencyLink := []
  adjacencies : List AdjacencyRule := []
  warehouses : List WarehouseRule := []
  maintenances : List MaintenanceRecord := []
  units : List UnitRecord := []
  leaderTraits : List TraitRecord := []
  civilizationTraits : List TraitRecord := []
  yieldTypes : List String := defaultYieldTypes

/-! ## Records of rows -/

/-- The argument in a row, and the id in its first column. -/
def ArgumentRecord.ofRow (ownerColumn : String) (r : Row) : ArgumentRecord where
  owner := r.text? ownerColumn
  argument :=
    { name := r.text? "Name", value := r.text? "Value", extra := r.text? "Extra"
      secondExtra := r.text? "SecondExtra", type := r.text? "Type" }

/-- The modifier in a row. -/
def ModifierRecord.ofRow (r : Row) : ModifierRecord where
  id := r.text? "ModifierId"
  type := r.text? "ModifierType"
  ownerSet := r.text? "OwnerRequirementSetId"
  subjectSet := r.text? "SubjectRequirementSetId"
  permanent := r.isSet "Permanent"
  runOnce := r.isSet "RunOnce"
  newOnly := r.isSet "NewOnly"

/-- The adjacency in a row. -/
def AdjacencyRule.ofRow (r : Row) : AdjacencyRule where
  id := r.text? "ID"
  yieldType := r.text? "YieldType"
  yieldChange := (r.cell "YieldChange").real?.map .real
  tilesRequired := (r.cell "TilesRequired").integer?.map .whole
  terrain := r.text? "AdjacentTerrain"
  feature := r.text? "AdjacentFeature"
  constructible := r.text? "AdjacentConstructible"
  constructibleTag := r.text? "AdjacentConstructibleTag"
  district := r.text? "AdjacentDistrict"
  resource := r.isSet "AdjacentResource"
  river := r.isSet "AdjacentRiver"
  naturalWonder := r.isSet "AdjacentNaturalWonder"
  quarter := r.isSet "AdjacentQuarter"

/-- The warehouse yield in a row. -/
def WarehouseRule.ofRow (r : Row) : WarehouseRule where
  id := r.text? "ID"
  yieldType := r.text? "YieldType"
  yieldChange := (r.cell "YieldChange").real?
  constructible := r.text? "ConstructibleInCity"
  minorRiver := r.isSet "MinorRiverInCity"
  naturalWonder := r.isSet "NaturalWonderInCity"

/-- The rules that the tables of a database hold. -/
def Rules.ofDatabase (db : Database) : Rules where
  traditionModifiers := records "TraditionModifiers" fun r =>
    ⟨r.text? "TraditionType", r.text? "ModifierId"⟩
  modifiers := records "Modifiers" ModifierRecord.ofRow
  modifierTypes := records "DynamicModifiers" fun r =>
    ⟨r.text? "ModifierType", r.text? "CollectionType", r.text? "EffectType"⟩
  modifierArguments := records "ModifierArguments" (ArgumentRecord.ofRow "ModifierId")
  requirementSets := records "RequirementSets" fun r =>
    ⟨r.text? "RequirementSetId", r.text? "RequirementSetType"⟩
  requirementLinks := records "RequirementSetRequirements" fun r =>
    ⟨r.text? "RequirementSetId", r.text? "RequirementId"⟩
  requirements := records "Requirements" fun r =>
    ⟨r.text? "RequirementId", r.text? "RequirementType", r.isSet "Inverse"⟩
  requirementArguments := records "RequirementArguments" (ArgumentRecord.ofRow "RequirementId")
  typeTags := records "TypeTags" fun r => ⟨r.text? "Type", r.text? "Tag"⟩
  districts := records "Districts" fun r => ⟨r.text? "DistrictType", r.text? "DistrictClass"⟩
  constructibles := records "Constructibles" fun r =>
    ⟨r.text? "ConstructibleType", r.text? "ConstructibleClass"⟩
  adjacencyLinks := records "Constructible_Adjacencies" fun r =>
    ⟨r.text? "ConstructibleType", r.text? "YieldChangeId"⟩
  adjacencies := records "Adjacency_YieldChanges" AdjacencyRule.ofRow
  warehouses := records "Warehouse_YieldChanges" WarehouseRule.ofRow
  maintenances := records "Constructible_Maintenances" fun r =>
    ⟨r.text? "ConstructibleType", r.text? "YieldType", (r.cell "Amount").real?⟩
  units := records "Units" fun r => ⟨r.text? "UnitType", r.text? "Domain"⟩
  leaderTraits := records "LeaderTraits" fun r => ⟨r.text? "LeaderType", r.text? "TraitType"⟩
  civilizationTraits := records "CivilizationTraits" fun r =>
    ⟨r.text? "CivilizationType", r.text? "TraitType"⟩
  yieldTypes := db.yieldTypes
where
  records {α : Type} (table : String) (read : Row → α) : List α :=
    (db.table table).namedRows.map read

/-! ## Look-ups -/

/-- Whether a key answers a look-up; a missing text looks up nothing. -/
def keyMatches (key wanted : Option String) : Bool :=
  wanted.isSome && key == wanted

namespace Rules

variable (rules : Rules)

/-- The ids of a tradition's modifiers. -/
def traditionModifierIds (tradition : String) : List (Option String) :=
  (rules.traditionModifiers.filter fun r => keyMatches r.tradition (some tradition)).map
    TraditionModifier.modifier

/-- The modifier of an id. -/
def modifier? (id : Option String) : Option ModifierRecord :=
  rules.modifiers.find? fun r => keyMatches r.id id

/-- What modifiers of a type do. -/
def modifierType? (type : Option String) : Option ModifierTypeRecord :=
  rules.modifierTypes.find? fun r => keyMatches r.type type

/-- The arguments of a modifier. -/
def argumentsOfModifier (id : String) : Arguments :=
  .ofRows ((rules.modifierArguments.filter fun r => keyMatches r.owner (some id)).map
    ArgumentRecord.argument)

/-- How the requirements of a set are combined. -/
def requirementSet? (id : String) : Option RequirementSetRecord :=
  rules.requirementSets.find? fun r => keyMatches r.id (some id)

/-- The ids of the requirements of a set. -/
def requirementIdsOfSet (id : String) : List (Option String) :=
  (rules.requirementLinks.filter fun r => keyMatches r.set (some id)).map
    RequirementLink.requirement

/-- The requirement of an id. -/
def requirement? (id : Option String) : Option RequirementRecord :=
  rules.requirements.find? fun r => keyMatches r.id id

/-- The arguments of a requirement. -/
def argumentsOfRequirement (id : Option String) : Arguments :=
  .ofRows ((rules.requirementArguments.filter fun r => keyMatches r.owner id).map
    ArgumentRecord.argument)

/-- The tags of a type. -/
def tagsOfType (type : Option String) : List (Option String) :=
  (rules.typeTags.filter fun r => keyMatches r.type type).map TypeTag.tag

/-- The types that carry a tag. -/
def typesWithTag (tag : Option String) : List (Option String) :=
  (rules.typeTags.filter fun r => keyMatches r.tag tag).map TypeTag.type

/-- The class of a district type. -/
def district? (type : Option String) : Option DistrictRecord :=
  rules.districts.find? fun r => keyMatches r.type type

/-- The record of a constructible type. -/
def constructible? (type : Option String) : Option ConstructibleRecord :=
  rules.constructibles.find? fun r => keyMatches r.type type

/-- The constructible types that take part in an adjacency. -/
def constructiblesOfAdjacency (id : String) : List (Option String) :=
  (rules.adjacencyLinks.filter fun r => keyMatches r.adjacency (some id)).map
    AdjacencyLink.constructible

/-- The adjacency of an id. -/
def adjacency? (id : String) : Option AdjacencyRule :=
  rules.adjacencies.find? fun r => keyMatches r.id (some id)

/-- The warehouse yield of an id. -/
def warehouse? (id : String) : Option WarehouseRule :=
  rules.warehouses.find? fun r => keyMatches r.id (some id)

/-- What a constructible type costs. -/
def maintenancesOf (type : Option String) : List MaintenanceRecord :=
  rules.maintenances.filter fun r => keyMatches r.constructible type

/-- The record of a unit type. -/
def unit? (type : Option String) : Option UnitRecord :=
  rules.units.find? fun r => keyMatches r.type type

/-- The domain of a unit type. -/
def unitDomain (type : Option String) : Option String :=
  (rules.unit? type).bind UnitRecord.domain

/-- The traits of a leader. -/
def traitsOfLeader (leader : Option String) : List (Option String) :=
  (rules.leaderTraits.filter fun r => keyMatches r.bearer leader).map TraitRecord.trait

/-- The traits of a civilization. -/
def traitsOfCivilization (civilization : Option String) : List (Option String) :=
  (rules.civilizationTraits.filter fun r => keyMatches r.bearer civilization).map
    TraitRecord.trait

end Rules

end PolicyForecast
