/-!
# Effects

What a modifier does is named by its effect type. Most effects contribute to yields directly, many
of them an amount for each of something that is counted; one effect attaches a further modifier.
Some effect types are known to have no influence on yields.
-/

namespace PolicyForecast

/-- What an effect on a city counts. -/
inductive CityCount where
  | attributePoints | specialists | population | resources | greatWorks | constructibles
deriving DecidableEq, Repr

/-- What an effect on a player counts. -/
inductive PlayerCount where
  | activeTraditions | settlements | cityStates | alliances | resources | constructibles
  | commanderLevels
deriving DecidableEq, Repr

/-- An effect that contributes to yields itself. -/
inductive YieldEffect where
  /-- An amount for a city, or a percentage of the city's own yield. -/
  | cityYield
  /-- An amount for each of something that a city has. -/
  | cityYieldPer (count : CityCount)
  /-- An adjacency for the constructibles of a city. -/
  | cityAdjacency
  /-- A yield for every matching thing in a city. -/
  | cityWarehouse
  /-- A saving on the constructibles of a city. -/
  | cityMaintenance
  /-- An amount or a percentage for a player. -/
  | playerYield
  /-- An amount for each of something that a player has. -/
  | playerYieldPer (count : PlayerCount)
  /-- A saving on the units of a player. -/
  | playerUnitMaintenance
  /-- A saving on the constructibles of a player. -/
  | playerMaintenance
  /-- An amount for a plot. -/
  | plotYield
  /-- A saving on a unit. -/
  | unitMaintenance
deriving DecidableEq, Repr

/-- What an effect type stands for. -/
inductive Effect where
  /-- It contributes to yields. -/
  | yields (effect : YieldEffect)
  /-- It attaches another modifier to the subject. -/
  | attach
  /-- It has no influence on yields. -/
  | inert
deriving DecidableEq, Repr

namespace Effect

/-- The effects by their types, those without influence on yields aside. -/
def handled : List (String × Effect) :=
  [("EFFECT_ATTACH_MODIFIERS", .attach),
   ("EFFECT_CITY_ADJUST_YIELD", .yields .cityYield),
   ("EFFECT_CITY_ADJUST_YIELD_PER_ATTRIBUTE", .yields (.cityYieldPer .attributePoints)),
   ("EFFECT_CITY_ADJUST_WORKER_YIELD", .yields (.cityYieldPer .specialists)),
   ("EFFECT_CITY_ADJUST_YIELD_PER_POPULATION", .yields (.cityYieldPer .population)),
   ("EFFECT_CITY_ADJUST_YIELD_PER_RESOURCE", .yields (.cityYieldPer .resources)),
   ("EFFECT_CITY_ADJUST_YIELD_PER_GREAT_WORK", .yields (.cityYieldPer .greatWorks)),
   ("EFFECT_CITY_ADJUST_CONSTRUCTIBLE_YIELD", .yields (.cityYieldPer .constructibles)),
   ("EFFECT_CITY_ACTIVATE_CONSTRUCTIBLE_ADJACENCY", .yields .cityAdjacency),
   ("EFFECT_CITY_ADJUST_WAREHOUSE_YIELD", .yields .cityWarehouse),
   ("EFFECT_CITY_ADJUST_CONSTRUCTIBLE_MAINTENANCE_EFFICIENCY", .yields .cityMaintenance),
   ("EFFECT_PLAYER_ADJUST_YIELD", .yields .playerYield),
   ("EFFECT_PLAYER_ADJUST_YIELD_PER_ACTIVE_TRADITION",
    .yields (.playerYieldPer .activeTraditions)),
   ("EFFECT_PLAYER_ADJUST_YIELD_PER_NUM_CITIES", .yields (.playerYieldPer .settlements)),
   ("EFFECT_PLAYER_ADJUST_YIELD_PER_SUZERAIN", .yields (.playerYieldPer .cityStates)),
   ("EFFECT_PLAYER_ADJUST_YIELD_PER_ALLIANCE", .yields (.playerYieldPer .alliances)),
   ("EFFECT_PLAYER_ADJUST_YIELD_PER_RESOURCE", .yields (.playerYieldPer .resources)),
   ("EFFECT_PLAYER_ADJUST_YIELD_PER_CONSTRUCTIBLE", .yields (.playerYieldPer .constructibles)),
   ("EFFECT_PLAYER_ADJUST_YIELD_PER_COMMANDER_LEVEL",
    .yields (.playerYieldPer .commanderLevels)),
   ("EFFECT_PLAYER_ADJUST_UNIT_MAINTENANCE_EFFICIENCY", .yields .playerUnitMaintenance),
   ("EFFECT_PLAYER_ADJUST_CONSTRUCTIBLE_MAINTENANCE_EFFICIENCY", .yields .playerMaintenance),
   ("EFFECT_PLOT_ADJUST_YIELD", .yields .plotYield),
   ("EFFECT_ADJUST_UNIT_MAINTENANCE_EFFICIENCY", .yields .unitMaintenance)]

/-- The effect types that change combat, movement, sight, experience, costs and the like. -/
def inertTypes : List String :=
  ["EFFECT_ADJUST_UNIT_STRENGTH_MODIFIER",
   "EFFECT_ADJUST_UNIT_COMBAT_STRENGTH",
   "EFFECT_ADJUST_UNIT_BYPASS_COMBAT_UNIT",
   "EFFECT_ADJUST_UNIT_DEFENSE_STRENGTH",
   "EFFECT_ADJUST_CITY_DEFENSE_STRENGTH",
   "EFFECT_ADJUST_PLAYER_COMBAT_STRENGTH",
   "EFFECT_ADJUST_UNIT_FLANKING_BONUS",
   "EFFECT_ADJUST_UNIT_SUPPORT_BONUS",
   "EFFECT_ADJUST_UNIT_IGNORE_ZOC",
   "EFFECT_ADJUST_DISTRICT_HEALTH",
   "EFFECT_ADJUST_WALL_HEALTH",
   "EFFECT_ADJUST_UNIT_MOVEMENT",
   "EFFECT_ADJUST_UNIT_IGNORE_TERRAIN_COST",
   "EFFECT_ADJUST_UNIT_EMBARK_MOVEMENT",
   "EFFECT_ADJUST_UNIT_SIGHT",
   "EFFECT_ADJUST_UNIT_HEAL_PER_TURN",
   "EFFECT_ADJUST_UNIT_HEAL_OUTSIDE_FRIENDLY_TERRITORY",
   "EFFECT_ADJUST_UNIT_EXPERIENCE_RATE",
   "EFFECT_ADJUST_COMMANDER_EXPERIENCE",
   "EFFECT_ADJUST_UNIT_COMMAND_RADIUS",
   "EFFECT_CITY_ADJUST_UNIT_PRODUCTION",
   "EFFECT_CITY_ADJUST_CONSTRUCTIBLE_PRODUCTION",
   "EFFECT_CITY_ADJUST_PROJECT_PRODUCTION",
   "EFFECT_CITY_ADJUST_UNIT_PURCHASE_COST",
   "EFFECT_CITY_ADJUST_CONSTRUCTIBLE_PURCHASE_COST",
   "EFFECT_GRANT_UNIT",
   "EFFECT_CITY_GRANT_UNIT",
   "EFFECT_PLAYER_GRANT_YIELD",
   "EFFECT_ADJUST_PLAYER_DIPLOMACY_ACTION_SUCCESS_CHANCE",
   "EFFECT_ADJUST_PLAYER_INFLUENCE_COST",
   "EFFECT_ADJUST_PLAYER_SETTLEMENT_CAP",
   "EFFECT_CITY_ADJUST_GROWTH"]

/-- The effect of a type, if the type is known. -/
def ofType? (type : Option String) : Option Effect :=
  type.bind fun t => if inertTypes.contains t then some .inert else handled.lookup t

/-- One type only attaches modifiers. -/
theorem ofType?_eq_attach {type : Option String} :
    ofType? type = some .attach ↔ type = some "EFFECT_ATTACH_MODIFIERS" := by
  constructor
  · intro h
    obtain ⟨t, rfl, ht⟩ := Option.bind_eq_some_iff.1 h
    split at ht
    · cases ht
    · obtain ⟨before, after, heq, -⟩ := List.lookup_eq_some_iff.1 ht
      have hmem : (t, Effect.attach) ∈ handled := by
        rw [heq]
        exact List.mem_append_right before List.mem_cons_self
      simpa [handled] using hmem
  · rintro rfl
    rfl

end Effect

end PolicyForecast
