import PolicyForecast.Table.Basic

/-!
# The known tables

Every table that previews read is listed with its columns. A source that lacks a known table or
one of its columns is completed, so a look-up never asks whether they exist.
-/

namespace PolicyForecast

namespace Schema

private def text (name : String) : Column := ⟨name, .text⟩
private def flag (name : String) : Column := ⟨name, .flag⟩
private def real (name : String) : Column := ⟨name, .real⟩
private def integer (name : String) : Column := ⟨name, .integer .word⟩

/-- The columns of an argument, after the id of what it is an argument of. -/
def argumentColumns : List Column :=
  ["Name", "Value", "Extra", "SecondExtra", "Type"].map text

/-- The known tables in order, with their columns. -/
def tables : List (String × List Column) :=
  [("Traditions", [text "TraditionType", text "AgeType", text "Name", flag "IsCrisis"]),
   ("TraditionModifiers", [text "TraditionType", text "ModifierId"]),
   ("Modifiers",
    [text "ModifierId", text "ModifierType", text "OwnerRequirementSetId",
     text "SubjectRequirementSetId", flag "Permanent", flag "RunOnce", flag "NewOnly"]),
   ("DynamicModifiers", [text "ModifierType", text "CollectionType", text "EffectType"]),
   ("ModifierArguments", text "ModifierId" :: argumentColumns),
   ("RequirementSets", [text "RequirementSetId", text "RequirementSetType"]),
   ("RequirementSetRequirements", [text "RequirementSetId", text "RequirementId"]),
   ("Requirements", [text "RequirementId", text "RequirementType", flag "Inverse"]),
   ("RequirementArguments", text "RequirementId" :: argumentColumns),
   ("TypeTags", [text "Type", text "Tag"]),
   ("Terrains", [text "TerrainType", flag "Hills", flag "Mountain", flag "Water"]),
   ("Districts", [text "DistrictType", text "DistrictClass"]),
   ("Constructibles", [text "ConstructibleType", text "ConstructibleClass", text "Age"]),
   ("Constructible_Adjacencies",
    [text "ConstructibleType", text "YieldChangeId", flag "RequiresActivation"]),
   ("Adjacency_YieldChanges",
    [text "ID", text "YieldType", real "YieldChange", integer "TilesRequired",
     text "AdjacentTerrain", text "AdjacentFeature", text "AdjacentConstructible",
     text "AdjacentConstructibleTag", text "AdjacentDistrict", flag "AdjacentResource",
     flag "AdjacentRiver", flag "AdjacentNaturalWonder", flag "AdjacentQuarter",
     flag "ProjectMaxYield", text "Age"]),
   ("Warehouse_YieldChanges",
    [text "ID", text "YieldType", real "YieldChange", text "ConstructibleInCity",
     flag "MinorRiverInCity", flag "NaturalWonderInCity", text "Age"]),
   ("Constructible_Maintenances",
    [text "ConstructibleType", text "YieldType", real "Amount"]),
   ("Units", [text "UnitType", text "Domain", text "CoreClass"]),
   ("LeaderTraits", [text "LeaderType", text "TraitType"]),
   ("CivilizationTraits", [text "CivilizationType", text "TraitType"]),
   ("Yields", [text "YieldType"])]

/-- The names of the known tables, in order. -/
def tableNames : List String :=
  tables.map Prod.fst

/-- The columns of a known table. -/
def columns? (table : String) : Option (List Column) :=
  tables.lookup table

end Schema

end PolicyForecast
