import PolicyForecast.Game.Constructibles
import PolicyForecast.Game.Diplomacy
import PolicyForecast.Number.FloorDivision
import PolicyForecast.Preview.Arguments
import PolicyForecast.Preview.Scene
import PolicyForecast.Rules.Effect

/-!
# What effects count

An effect that contributes an amount for each of something counts it here. Counts are exact whole
numbers; only a divided population is a double, because its divisor may have a fraction.
-/

namespace PolicyForecast

namespace Modifier

/-- Checks that a modifier selects constructibles by type or tag. -/
def selectsConstructibles (m : Modifier) : Except RuleFault Unit :=
  if m.arguments.has "ConstructibleType" || m.arguments.has "Tag" then .ok ()
  else .error (.missingFilter m.id)

/-- The inhabitants that a modifier asks for: urban, rural or both, all when it names neither. -/
def inhabitants (m : Modifier) (c : City) : Int :=
  match m.flag "Urban", m.flag "Rural" with
  | false, false => c.population
  | true, false => c.urbanPopulation
  | false, true => c.ruralPopulation
  | true, true => c.urbanPopulation + c.ruralPopulation

/-- A count divided by the divisor of a modifier and rounded down, if the modifier has one. -/
def divided (m : Modifier) (count : Int) : Except EvaluationFault Quantity := do
  match ← (m.number? "Divisor").mapError .rule with
  | none => return .whole count
  | some divisor =>
    if divisor ≤ 0.0 then throw (.rule (.nonPositiveDivisor m.id divisor))
    let count ← (Exact.ofInt? count).mapError .number
    return .real (Exact.floorDiv count divisor)

end Modifier

/-- What an effect counts in a city; attribute points are those of the player at hand. -/
def CityCount.of (s : Scene) (m : Modifier) (c : City) : CityCount → Evaluation Quantity
  | .attributePoints => do
    let type ← m.text "AttributeType"
    return .whole (s.player.spentAttributePoints.getD type 0)
  | .specialists => return .whole c.specialists
  | .population => (m.divided (m.inhabitants c) : Except EvaluationFault _)
  | .resources => return .whole c.resources.length
  | .greatWorks => return .whole c.greatWorks
  | .constructibles => do
    m.selectsConstructibles
    return .whole (← countConstructibles s.game.map c m.arguments)

/-- The settlements that a modifier asks for: cities, towns or, when it names neither, all. -/
def Modifier.settlements (m : Modifier) (p : Player) : Nat :=
  match m.flag "Cities", m.flag "Towns" with
  | false, false => p.cities.length
  | cities, towns => p.cities.countP fun c => if c.isTown then towns else cities

/-- What an effect counts for a player. -/
def PlayerCount.of (s : Scene) (m : Modifier) (p : Player) : PlayerCount → Evaluation Quantity
  | .activeTraditions => return .whole p.activeTraditions.length
  | .settlements => return .whole (m.settlements p)
  | .cityStates => return .whole (suzerainCityStates s.game p).length
  | .alliances => return .whole (alliedMajors s.game p).length
  | .resources => return .whole p.resources.length
  | .constructibles => do
    m.selectsConstructibles
    let counts ← p.cities.mapM fun c =>
      (countConstructibles s.game.map c m.arguments : Consulting _)
    return .whole (counts.foldl (fun (total n : Nat) => total + n) 0 : Nat)
  | .commanderLevels =>
    return .whole (((p.units.filter (·.isCommander)).map GameUnit.level).foldl (· + ·) 0)

end PolicyForecast
