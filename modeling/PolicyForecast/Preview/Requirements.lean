import PolicyForecast.Game.Constructibles
import PolicyForecast.Game.Diplomacy
import PolicyForecast.Consulting.Basic
import PolicyForecast.Preview.Scene
import PolicyForecast.Preview.Subject
import PolicyForecast.Rules.Fact
import PolicyForecast.Rules.Requirement

/-!
# Whether requirements hold

A set of requirements is evaluated for a player and a subject, from left to right and only as far as
needed. A requirement that is marked as inverse counts as holding when it does not. A requirement
that cannot be evaluated, because its type is not known or the subject has nothing it could be
about, does not hold before its mark is regarded; a remark says so.
-/

namespace PolicyForecast

namespace RequirementHead

/-- How messages name a requirement. -/
def name (h : RequirementHead) : String :=
  Wording.name h.id

/-- The value that a fact is compared with. -/
def value? (h : RequirementHead) (argument : String) : Option String :=
  h.arguments.value? argument

/-- The number that a count must reach: one when none is given, and also when it is malformed. -/
def threshold (h : RequirementHead) (argument : String) : Evaluation Float :=
  match h.arguments.filled? argument with
  | none => return 1.0
  | some text =>
    match Text.float? text with
    | some x => return x
    | none => do
      .note (.error
        s!"Requirement {h.name} has a non-numeric {argument}: {Text.quoted text}, using 1")
      return 1.0

/-- Whether a count reaches the number that an argument gives. -/
def reaches (h : RequirementHead) (argument : String) (count : Int) : Evaluation Bool := do
  return Exact.intAtLeast count (← h.threshold argument)

end RequirementHead

/-! ## Facts -/

namespace CityFact

/-- Whether a city has a terrain on enough of its plots. -/
def hasEnoughTerrain (s : Scene) (c : City) (h : RequirementHead) : Evaluation Bool :=
  match h.arguments.filled? "TerrainType" with
  | none => do
    .note (.missing s!"Requirement {h.name} has no TerrainType argument")
    return false
  | some terrain => h.reaches "Amount" (s.game.map.countTerrain c (some terrain))

/-- Whether a city has enough urban inhabitants, the only inhabitants that can be asked for. -/
def hasEnoughInhabitants (c : City) (h : RequirementHead) : Evaluation Bool :=
  if h.arguments.has "MinUrbanPopulation" then h.reaches "MinUrbanPopulation" c.urbanPopulation
  else do
    let names ← (h.arguments.sortedNames : Except EvaluationFault _)
    let list := Wording.bracketed (names.map Wording.quotedName)
    .note (.missing s!"Unhandled arguments for REQUIREMENT_CITY_POPULATION ({h.name}): {list}")
    return false

/-- Whether a city works on a project: any at all, or the one that is asked for. -/
def worksOnProject (c : City) (h : RequirementHead) : Bool :=
  if h.value? "HasAnyProject" = some "true" then c.project.isSome
  else c.project.isSome && c.project == h.value? "ProjectType"

/-- Whether a city follows the religion that the player has. Flags may ask in addition for a
religion of the player and for one of the city. -/
def followsReligionOf (p : Player) (c : City) (h : RequirementHead) : Bool :=
  if p.religion.isNone && h.value? "hasReligion" = some "true" then false
  else if c.majorityReligion.isNone && h.value? "cityReligion" = some "true" then false
  else p.religion.isSome && c.majorityReligion == p.religion

/-- Whether a fact is true of a city. -/
def holds (s : Scene) (c : City) (h : RequirementHead) : CityFact → Evaluation Bool
  | .isCapital => return c.isCapital
  | .isCity => return !c.isTown
  | .isTown => return c.isTown
  | .isFounder => return c.founder == some s.player.id
  | .isDistantLands => return c.isDistantLands
  | .hasBuilding => PolicyForecast.hasBuilding s.game.map c h.arguments
  | .hasProject => return worksOnProject c h
  | .hasTerrain => hasEnoughTerrain s c h
  | .population => hasEnoughInhabitants c h
  | .followsReligion => return followsReligionOf s.player c h

end CityFact

namespace PlotFact

/-- Whether the class of a plot's district is among those that are asked for. -/
def hasDistrictClass (p : Plot) (h : RequirementHead) : Consulting Bool := do
  let classes := ((h.arguments.find? "DistrictClass").map Argument.list).getD []
  return (← PolicyForecast.districtClass p).any classes.contains

/-- Whether a fact is true of a plot. -/
def holds (s : Scene) (p : Plot) (h : RequirementHead) : PlotFact → Evaluation Bool
  | .districtClass => hasDistrictClass p h
  | .resourceVisible => return p.resource.any (· ≠ "") && p.resourceRevealed
  | .isCoastalLand => return p.coastalLand
  | .adjacentToCoast => (isAdjacentToCoast s.game.map p : Except EvaluationFault _)
  | .hasConstructible => plotHasConstructible p h.arguments
  | .numConstructibles => h.reaches "Amount" p.constructibles.length
  | .isQuarter => PolicyForecast.isQuarter p
  | .terrain => return p.terrain == h.value? "TerrainType"
  | .feature => return p.feature == h.value? "FeatureType"

end PlotFact

namespace PlayerFact

/-- Whether a player's leader or civilization has the trait that is asked for. -/
def hasTraitOf (p : Player) (h : RequirementHead) : Consulting Bool := do
  let trait := h.value? "TraitType"
  if (← Consulting.traits .leaderTraits p.leader).contains trait then return true
  return (← Consulting.traits .civilizationTraits p.civilization).contains trait

/-- Whether a fact is true of a player. -/
def holds (s : Scene) (p : Player) (h : RequirementHead) : PlayerFact → Evaluation Bool
  | .atPeaceWithMajors => return isAtPeaceWithMajors s.game p
  | .hasTrait => hasTraitOf p h
  | .leader => return p.leader == h.value? "LeaderType"
  | .numAlliances => h.reaches "Amount" (alliedMajors s.game p).length

end PlayerFact

namespace UnitFact

/-- Whether a fact is true of a unit; a unit type that is not known has no domain at all. -/
def holds (u : GameUnit) (h : RequirementHead) : UnitFact → Consulting Bool
  | .domain => do
    let record : Option UnitRecord ← Consulting.request (.unit u.unitType)
    return record.any (·.domain == h.value? "UnitDomain")
  | .tag => Consulting.hasTag u.unitType (h.value? "Tag")
  | .type => return u.unitType == h.value? "UnitType"

end UnitFact

/-! ## Requirements -/

namespace RequirementHead

/-- The player that facts about players are about: the subject, or else the player at hand. -/
def playerOf (s : Scene) : Subject → Player
  | .player p => p
  | _ => s.player

/-- The remark that a requirement has nothing to be about. -/
def unsuited (h : RequirementHead) (subject : Subject) : Evaluation Bool := do
  .note (.missing (s!"Requirement {h.name} ({Wording.name h.type}) cannot be evaluated on "
    ++ subject.describe))
  return false

/-- Whether a requirement's fact is true, before its mark as inverse is regarded. -/
def isSatisfied (s : Scene) (subject : Subject) (h : RequirementHead) : Evaluation Bool :=
  match Fact.ofType? h.type with
  | some (.city fact) =>
    match subject.city? with
    | some c => fact.holds s c h
    | none => h.unsuited subject
  | some (.plot fact) =>
    match subject.plot? s.game.map with
    | some p => fact.holds s p h
    | none => h.unsuited subject
  | some (.player fact) => fact.holds s (playerOf s subject) h
  | some (.unit fact) =>
    match subject with
    | .unit u => fact.holds u h
    | _ => h.unsuited subject
  | none => do
    .note (.missing s!"Unhandled RequirementType: {Wording.name h.type} ({h.name})")
    return false

/-- Whether a requirement that stands for no set is satisfied. -/
def isSatisfiedAlone (s : Scene) (subject : Subject) (h : RequirementHead) : Evaluation Bool :=
  if h.type = some setIsMet then do
    .note (.missing s!"Requirement {h.name} has no nested requirement set")
    return false
  else h.isSatisfied s subject

end RequirementHead

namespace RequirementSet

/-- The remark that the type of a set is not known. -/
def remarkOnType (type id : String) : Evaluation Unit :=
  if type = anyOf ∨ type = allOf then return
  else .note (.missing s!"Unknown RequirementSetType {type} for {id}, using {allOf}")

/-- The outcome of a set. Without requirements it holds; else a requirement that comes out as
`deciding` decides it: one that holds where one must hold, one that does not where all must. -/
def outcome (type id : String) (isEmpty : Bool) (search : (deciding : Bool) → Evaluation Bool) :
    Evaluation Bool :=
  if isEmpty then return true
  else do
    remarkOnType type id
    search (type = anyOf)

end RequirementSet

mutual

/-- Whether a requirement holds, its mark as inverse regarded. -/
def Requirement.holds (s : Scene) (subject : Subject) : Requirement → Evaluation Bool
  | .leaf h => do return (← h.isSatisfiedAlone s subject) != h.inverse
  | .nested h id type requirements => do
    let met ← RequirementSet.outcome type id requirements.isEmpty fun deciding =>
      Requirement.search s subject deciding requirements
    return met != h.inverse

/-- Goes through requirements until one comes out as `deciding`, which then is the outcome. -/
def Requirement.search (s : Scene) (subject : Subject) (deciding : Bool) :
    List Requirement → Evaluation Bool
  | [] => return !deciding
  | r :: rest => do
    if (← Requirement.holds s subject r) = deciding then return deciding
    else Requirement.search s subject deciding rest

end

/-- Whether a set holds of a subject. -/
def RequirementSet.holds (s : Scene) (subject : Subject) (set : RequirementSet) : Evaluation Bool :=
  RequirementSet.outcome set.type (Wording.name set.id) set.isEmpty fun deciding =>
    Requirement.search s subject deciding set.requirements

end PolicyForecast
