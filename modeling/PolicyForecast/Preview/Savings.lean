import PolicyForecast.Game.Constructibles
import PolicyForecast.Game.UnitGroup
import PolicyForecast.Preview.Arguments
import PolicyForecast.Preview.Scene

/-!
# Savings on maintenance

A modifier that lowers maintenance contributes what is saved, and no percentage applies to that. It
gives either an amount for each thing or a percentage. A positive percentage says how much more one
gets for the same cost, so it saves `cost - cost / (1 + percent)`; any other is taken of the cost.
-/

namespace PolicyForecast

namespace Modifier

/-- The share of a cost that a percentage saves. -/
def shareSaved (cost percent : Float) : Float :=
  let share := percent / 100.0
  if share > 0.0 then cost - cost / (1.0 + share) else cost * share

/-- What a modifier saves on a number of things with a common cost. -/
def saving (m : Modifier) (count : Int) (cost : Quantity) : Except EvaluationFault Float := do
  match ← (m.number? "Amount").mapError .rule with
  | some amount => return amount * (← (Exact.ofInt? count).mapError .number)
  | none =>
    match ← (m.number? "Percent").mapError .rule with
    | some percent => return shareSaved (← cost.toFloat?.mapError .number) percent
    | none => throw (.rule (.missingSavingBasis m.id))

/-! ## Units -/

/-- The yield types that savings on units go to: gold unless the modifier names others. -/
def unitYieldTypes (m : Modifier) : String :=
  (m.arguments.filled? "YieldType").getD "YIELD_GOLD"

/-- What a modifier saves on a group of units. -/
def groupSaving (m : Modifier) (g : UnitGroup) : Except EvaluationFault Float :=
  m.saving g.count g.maintenance

/-- Contributes what a modifier saves on all units of a player together. -/
def saveOnUnits (m : Modifier) (p : Player) : Evaluation Unit := do
  let groups ← UnitGroup.ofUnits p.units
  let savings ← ((groups.filter (·.isTargetOf m)).mapM m.groupSaving : Except EvaluationFault _)
  .contribute .noMultiplier (some m.unitYieldTypes) (savings.foldl (· + ·) 0.0)

/-- Contributes what a modifier saves on a unit, if it concerns the unit. -/
def saveOnUnit (m : Modifier) (u : GameUnit) : Evaluation Unit := do
  let group ← UnitGroup.single u
  if group.isTargetOf m then
    let saved ← (m.groupSaving group : Except EvaluationFault _)
    .contribute .noMultiplier (some m.unitYieldTypes) saved

/-! ## Constructibles -/

/-- Whether a modifier concerns a type of constructible. -/
def concernsConstructible (m : Modifier) (type : Option String) : Consulting Bool :=
  match m.arguments.filled? "ConstructibleType", m.arguments.filled? "Tag" with
  | some wanted, _ => return type == some wanted
  | none, some tag => Consulting.hasTag type (some tag)
  | none, none => return true

/-- Whether a modifier concerns a yield type in which maintenance is paid. -/
def concernsYield (m : Modifier) (type : Option String) : Bool :=
  (m.arguments.filled? "YieldType").all fun text => type.any (Text.items text).contains

/-- The cost in a maintenance record; nothing where none is given. -/
def costOf (r : MaintenanceRecord) : Float :=
  (r.amount.filter (· != 0.0)).getD 0.0

/-- Contributes what a modifier saves on one payment. -/
def saveOnPayment (m : Modifier) (r : MaintenanceRecord) : Evaluation Unit := do
  let saved ← (m.saving 1 (.real (costOf r)) : Except EvaluationFault _)
  .contribute .noMultiplier r.yieldType saved

/-- Contributes what a modifier saves on what a constructible pays each turn, if the modifier
concerns it. -/
def saveOnConstructible (m : Modifier) (type : Option String) : Evaluation Unit := do
  if ← m.concernsConstructible type then
    let payments : List MaintenanceRecord ← Consulting.request (.maintenances type)
    (payments.filter fun r => m.concernsYield r.yieldType).forM m.saveOnPayment

/-- Contributes what a modifier saves on the constructibles of cities, payment by payment. -/
def saveOnConstructibles (s : Scene) (m : Modifier) (cities : List City) : Evaluation Unit := do
  if m.arguments.has "Amount" || m.arguments.has "Percent" then
    (cities.flatMap s.game.map.cityConstructibles).forM m.saveOnConstructible
  else .fail (.rule (.missingSaving m.id))

end Modifier

end PolicyForecast
