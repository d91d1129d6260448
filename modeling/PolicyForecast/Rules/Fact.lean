/-!
# Facts that requirements state

Each known requirement type states a fact about a city, a plot, a player or a unit. What kind of
thing a fact is about decides how it is read off a subject.
-/

namespace PolicyForecast

/-- A fact about a city. -/
inductive CityFact where
  | isCapital | isCity | isTown | isFounder | isDistantLands
  | hasBuilding | hasProject | hasTerrain | population | followsReligion
deriving DecidableEq, Repr

/-- A fact about a plot. -/
inductive PlotFact where
  | districtClass | resourceVisible | isCoastalLand | adjacentToCoast | hasConstructible
  | numConstructibles | isQuarter | terrain | feature
deriving DecidableEq, Repr

/-- A fact about a player. -/
inductive PlayerFact where
  | atPeaceWithMajors | hasTrait | leader | numAlliances
deriving DecidableEq, Repr

/-- A fact about a unit. -/
inductive UnitFact where
  | domain | tag | type
deriving DecidableEq, Repr

/-- A fact that a requirement states. -/
inductive Fact where
  | city (fact : CityFact)
  | plot (fact : PlotFact)
  | player (fact : PlayerFact)
  | unit (fact : UnitFact)
deriving DecidableEq, Repr

/-- The facts by the requirement types that state them. -/
def Fact.named : List (String × Fact) :=
  [("REQUIREMENT_CITY_IS_CAPITAL", .city .isCapital),
   ("REQUIREMENT_CITY_IS_CITY", .city .isCity),
   ("REQUIREMENT_CITY_IS_TOWN", .city .isTown),
   ("REQUIREMENT_CITY_IS_ORIGINAL_OWNER", .city .isFounder),
   ("REQUIREMENT_CITY_IS_DISTANT_LANDS", .city .isDistantLands),
   ("REQUIREMENT_CITY_HAS_BUILDING", .city .hasBuilding),
   ("REQUIREMENT_CITY_HAS_PROJECT", .city .hasProject),
   ("REQUIREMENT_CITY_HAS_TERRAIN", .city .hasTerrain),
   ("REQUIREMENT_CITY_POPULATION", .city .population),
   ("REQUIREMENT_CITY_FOLLOWS_RELIGION", .city .followsReligion),
   ("REQUIREMENT_PLOT_DISTRICT_CLASS", .plot .districtClass),
   ("REQUIREMENT_PLOT_RESOURCE_VISIBLE", .plot .resourceVisible),
   ("REQUIREMENT_PLOT_IS_COASTAL_LAND", .plot .isCoastalLand),
   ("REQUIREMENT_PLOT_ADJACENT_TO_COAST", .plot .adjacentToCoast),
   ("REQUIREMENT_PLOT_HAS_CONSTRUCTIBLE", .plot .hasConstructible),
   ("REQUIREMENT_PLOT_HAS_NUM_CONSTRUCTIBLES", .plot .numConstructibles),
   ("REQUIREMENT_PLOT_IS_QUARTER", .plot .isQuarter),
   ("REQUIREMENT_PLOT_TERRAIN_TYPE_MATCHES", .plot .terrain),
   ("REQUIREMENT_PLOT_FEATURE_TYPE_MATCHES", .plot .feature),
   ("REQUIREMENT_PLAYER_IS_AT_PEACE_WITH_ALL_MAJORS", .player .atPeaceWithMajors),
   ("REQUIREMENT_PLAYER_HAS_CIVILIZATION_OR_LEADER_TRAIT", .player .hasTrait),
   ("REQUIREMENT_PLAYER_LEADER_TYPE_MATCHES", .player .leader),
   ("REQUIREMENT_PLAYER_HAS_NUM_ALLIANCES", .player .numAlliances),
   ("REQUIREMENT_UNIT_DOMAIN_MATCHES", .unit .domain),
   ("REQUIREMENT_UNIT_TAG_MATCHES", .unit .tag),
   ("REQUIREMENT_UNIT_TYPE_MATCHES", .unit .type)]

/-- The fact that requirements of a type state, if it is known. -/
def Fact.ofType? (type : Option String) : Option Fact :=
  type.bind fun t => named.lookup t

end PolicyForecast
