import PolicyForecast.Game.Adjacency
import PolicyForecast.Preview.Amounts
import PolicyForecast.Preview.Counts
import PolicyForecast.Preview.Savings

/-!
# Effects that contribute to yields

Each effect first takes the kind of subject that it is about, then its parameters, and then
contributes. A rule that names an adjacency or a warehouse yield that the rules do not have is
remarked on and contributes nothing.
-/

namespace PolicyForecast

/-! ## Constructibles of a city -/

/-- The plots of a city, each once for every constructible on it that is of one of the types. -/
def usesInCity (m : HexMap) (c : City) (types : List (Option String)) : List Plot :=
  (m.cityPlots c).flatMap fun p => (p.constructibles.filter types.contains).map fun _ => p

/-- Contributes an adjacency's yields for the constructibles of a city that take part in it. -/
def addAdjacency (s : Scene) (m : Modifier) (c : City) : Evaluation Unit := do
  let id ← m.text "ConstructibleAdjacency"
  let found : Option AdjacencyRule ← Consulting.request (.adjacency id)
  match found with
  | none => .note (.missing s!"Adjacency {id} not found ({m.id})")
  | some rule =>
    let members : List (Option String) ← Consulting.request (.adjacencyMembers id)
    let yields ← (usesInCity s.game.map c members).mapM (rule.yield s.game.map)
    .contribute .amount rule.yieldType (yields.foldl (· + ·) 0.0)

namespace WarehouseRule

/-- The number of things on plots that a rule counts; `none` when it does not say what. -/
def count? (w : WarehouseRule) (plots : List Plot) : Option Nat :=
  match w.constructible.filter (· ≠ "") with
  | some type => some ((plots.flatMap Plot.constructibles).countP (· == some type))
  | none =>
    if w.minorRiver then some (plots.countP Plot.river)
    else if w.naturalWonder then some (plots.countP Plot.naturalWonder)
    else none

/-- The yield for each thing; nothing where none is given. -/
def change (w : WarehouseRule) : Float :=
  (w.yieldChange.filter (· != 0.0)).getD 0.0

end WarehouseRule

/-- Contributes a warehouse yield for the matching things in a city. -/
def addWarehouse (s : Scene) (m : Modifier) (c : City) : Evaluation Unit := do
  let id ← m.text "WarehouseYieldChange"
  let found : Option WarehouseRule ← Consulting.request (.warehouse id)
  match found with
  | none => .note (.missing s!"Warehouse yield change {id} not found ({m.id})")
  | some rule =>
    match rule.count? (s.game.map.cityPlots c) with
    | none => .note (.missing s!"Unhandled warehouse yield change {id} ({m.id})")
    | some n => .contribute .amount rule.yieldType (rule.change * Float.ofNat n)

/-! ## All effects -/

namespace YieldEffect

/-- Contributes an effect's amount, or else the percentage that its modifier gives. -/
def amountOr (m : Modifier) (percentage : Float → Evaluation Unit) : Evaluation Unit := do
  match ← (m.number? "Percent" : Except RuleFault _) with
  | some percent => percentage percent
  | none => m.addOwnAmount

/-- Applies an effect to a subject. -/
def run (s : Scene) (m : Modifier) (subject : Subject) : YieldEffect → Evaluation Unit
  | .cityYield => do
    let c ← subject.asCity
    amountOr m (m.addCityPercent c)
  | .cityYieldPer count => do
    let c ← subject.asCity
    m.addAmountTimes (← count.of s m c)
  | .cityAdjacency => do
    let c ← subject.asCity
    addAdjacency s m c
  | .cityWarehouse => do
    let c ← subject.asCity
    addWarehouse s m c
  | .cityMaintenance => do
    let c ← subject.asCity
    m.saveOnConstructibles s [c]
  | .playerYield => do
    discard (subject.asPlayer : Except RuleFault _)
    amountOr m m.addPercent
  | .playerYieldPer count => do
    let p ← subject.asPlayer
    m.addAmountTimes (← count.of s m p)
  | .playerUnitMaintenance => do
    let p ← subject.asPlayer
    m.saveOnUnits p
  | .playerMaintenance => do
    let p ← subject.asPlayer
    m.saveOnConstructibles s p.cities
  | .plotYield => do
    discard (subject.asPlot : Except RuleFault _)
    m.addOwnAmount
  | .unitMaintenance => do
    let u ← subject.asUnit
    m.saveOnUnit u

end YieldEffect

end PolicyForecast
