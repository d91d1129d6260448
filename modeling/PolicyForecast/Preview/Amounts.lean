import PolicyForecast.Preview.Arguments
import PolicyForecast.Yield.Baseline

/-!
# Amounts and percentages

Most effects contribute an amount, possibly for each of something that is counted. Whether an amount
is multiplied by percentages later on is said by the modifier. A percentage for a city is a
percentage of that city's own standing yield and is contributed as an amount at once.
-/

namespace PolicyForecast.Modifier

/-- The channel that flat amounts of a modifier go to. -/
def flatChannel (m : Modifier) : Channel :=
  if m.flag "PercentMultiplier" then .noMultiplier else .amount

/-- Contributes an amount to every yield type of a modifier. -/
def addAmount (m : Modifier) (amount : Float) : Evaluation Unit := do
  let types ← m.text "YieldType"
  .contribute m.flatChannel (some types) amount

/-- Contributes the amount of a modifier. -/
def addOwnAmount (m : Modifier) : Evaluation Unit := do
  m.addAmount (← m.number "Amount")

/-- Contributes the amount of a modifier for each of something. -/
def addAmountTimes (m : Modifier) (count : Quantity) : Evaluation Unit := do
  let amount ← m.number "Amount"
  let times ← count.toFloat?
  m.addAmount (amount * times)

/-- Contributes a percentage of the standing yield. -/
def addPercent (m : Modifier) (percent : Float) : Evaluation Unit := do
  let types ← m.text "YieldType"
  .contribute .percent (some types) percent

/-- The standing yield of a city. -/
def cityBaseline (c : City) (type : String) : Except NumberFault Baseline :=
  (c.yieldTraces.get? type).elim (.ok {}) Baseline.ofTrace

/-- Contributes a percentage of what a city yields of one type. -/
def addCityShare (c : City) (percent : Float) (type : String) : Evaluation Unit := do
  let standing ← cityBaseline c type
  .contribute .amount (some type) (standing.amount * percent / 100.0)

/-- Contributes a percentage of what a city yields. -/
def addCityPercent (m : Modifier) (c : City) (percent : Float) : Evaluation Unit := do
  let types ← m.text "YieldType"
  (yieldTypes (some types)).forM (addCityShare c percent)

end PolicyForecast.Modifier
