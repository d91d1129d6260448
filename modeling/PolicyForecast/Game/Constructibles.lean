import PolicyForecast.Consulting.Basic
import PolicyForecast.Game.Neighbours

/-!
# What is built

The constructibles of a city are those of the plots it has purchased, in the order of its plots; a
plot that it lists twice counts twice. Constructibles are selected by their type or by a tag that
their type carries.
-/

namespace PolicyForecast

/-- The plots of a city that the map has, in the order in which the city lists them. -/
def HexMap.cityPlots (m : HexMap) (c : City) : List Plot :=
  c.purchasedPlots.filterMap m.plot?

/-- The constructibles on the plots of a city. -/
def HexMap.cityConstructibles (m : HexMap) (c : City) : List (Option String) :=
  (m.cityPlots c).flatMap Plot.constructibles

/-- The number of plots of a city with a terrain. -/
def HexMap.countTerrain (m : HexMap) (c : City) (terrain : Option String) : Nat :=
  (m.cityPlots c).countP (·.terrain == terrain)

namespace Arguments

/-- Whether a name comes after the missing name or, in code-point order, after another one. -/
def nameLe : Option String → Option String → Bool
  | none, _ => true
  | some _, none => false
  | some a, some b => a ≤ b

/-- The names of arguments in order; a missing name cannot be put in order with others. -/
def sortedNames (args : Arguments) : Except EvaluationFault (List (Option String)) :=
  match args.keys with
  | none :: _ :: _ => .error (.unorderedNames true)
  | names =>
    if names.contains none && 1 < names.length then .error (.unorderedNames false)
    else .ok (names.mergeSort nameLe)

end Arguments

/-- Whether a city has a building of the type, or else with the tag, that arguments name. -/
def hasBuilding (m : HexMap) (c : City) (args : Arguments) : Evaluation Bool := do
  match args.find? "BuildingType", args.find? "Tag" with
  | some a, _ => return (m.cityConstructibles c).contains a.value
  | none, some a =>
    let tagged ← Consulting.lookUp .typesWithTag a.value
    return (m.cityConstructibles c).any tagged.contains
  | none, none =>
    discard (args.sortedNames : Except EvaluationFault _)
    return false

/-- The number of constructibles of a city with the type, or else the tag, that arguments name. -/
def countConstructibles (m : HexMap) (c : City) (args : Arguments) : Consulting Nat := do
  match args.find? "ConstructibleType", args.find? "Tag" with
  | some a, _ => return (m.cityConstructibles c).countP (· == a.value)
  | none, some a =>
    let tagged ← Consulting.lookUp .typesWithTag a.value
    return (m.cityConstructibles c).countP tagged.contains
  | none, none => return 0

/-- Whether one of some constructibles carries a tag. -/
def anyTagged (constructibles : List (Option String)) (tag : String) : Consulting Bool :=
  constructibles.anyM fun type => Consulting.hasTag type (some tag)

/-- Whether a plot has a constructible of the type, or else with the tag, that arguments name. -/
def plotHasConstructible (p : Plot) (args : Arguments) : Consulting Bool :=
  match args.filled? "ConstructibleType", args.filled? "Tag" with
  | some type, _ => return p.constructibles.contains (some type)
  | none, some tag => anyTagged p.constructibles tag
  | none, none => return false

/-- The class of a plot's district. -/
def districtClass (p : Plot) : Consulting (Option String) :=
  match p.district.filter (· ≠ "") with
  | none => return none
  | some _ => do
    let district : Option DistrictRecord ← Consulting.request (.district p.district)
    return district.bind DistrictRecord.districtClass

/-- Whether a constructible counts toward a quarter. -/
def isQuarterBuilding (type : Option String) : Consulting Bool := do
  let record : Option ConstructibleRecord ← Consulting.request (.constructible type)
  return record.any (·.constructibleClass == some "BUILDING")

/-- Whether a plot is a quarter: it holds at least two buildings. -/
def isQuarter (p : Plot) : Consulting Bool := do
  let buildings ← p.constructibles.mapM isQuarterBuilding
  return 2 ≤ buildings.count true

/-- Whether a plot or one of its neighbours is coastal land. -/
def isAdjacentToCoast (m : HexMap) (p : Plot) : Except EvaluationFault Bool := do
  if p.coastalLand then return true
  return (← m.neighbours p.index).any Plot.coastalLand

end PolicyForecast
