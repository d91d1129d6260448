import PolicyForecast.Yield.Baseline
import PolicyForecast.Yield.Delta

/-!
# From contributions to previewed yields

The channels meet in three passes over one map of totals, in double arithmetic. First every yield
type gets its flat amount, multiplied by the player's standing percentage if that is asked for. Then
each contributed percentage is taken of the standing yield and the flat amount together, the latter
as it was before it was multiplied. Last comes what no percentage touches. The totals are then
rounded to the nearest integer, halves upward.

The second and the third pass add to totals that are there: a pass that came upon a type without a
total could not go on (`Fault.noTotal`).
-/

namespace PolicyForecast

/-- The integer nearest to a double, halves upward; the half is added in double arithmetic. -/
def roundHalfUp (x : Float) : Except NumberFault Int :=
  Exact.floor? (x + 0.5)

/-- Types followed by those of others that are not among them, each once. -/
def listedWith (types others : List String) : List String :=
  others.foldl (fun types t => if types.contains t then types else types ++ [t]) types

/-- Adds a value to the total of a type, which must have one. -/
def Sums.raise (totals : Sums) (type : String) (value : Float) : Except Fault Sums :=
  match totals.get? type with
  | some total => .ok (totals.insert type (total + value))
  | none => .error (.noTotal type)

/-- Adds to the totals of several types, one after the other. -/
def Sums.raiseAll (totals : Sums) (raises : List (String × Float)) : Except Fault Sums :=
  raises.foldlM (fun totals p => totals.raise p.1 p.2) totals

namespace Delta

/-- The yield types of a preview: the known ones, then those that were only contributed to. -/
def types (d : Delta) (known : List String) : List String :=
  listedWith known (d.amount.keys ++ d.percent.keys ++ d.noMultiplier.keys)

/-- The flat amount of a type, multiplied by the standing percentage if that is asked for. -/
def flat (d : Delta) (standing : Baselines) (applyPercent : Bool) (type : String) : Float :=
  let amount := d.amount.getD type 0.0
  if applyPercent then amount * (1.0 + (standing.getD type {}).percent / 100.0) else amount

/-- What a percentage of a type comes to. -/
def share (d : Delta) (standing : Baselines) (type : String) (percent : Float) : Float :=
  ((standing.getD type {}).amount + d.amount.getD type 0.0) * (percent / 100.0)

/-- The totals of all types before rounding, unless a pass comes upon a type without one. -/
def totals (d : Delta) (standing : Baselines) (known : List String) (applyPercent : Bool) :
    Except Fault Sums := do
  let flats := .ofList ((d.types known).map fun type => (type, d.flat standing applyPercent type))
  let shares := d.percent.entries.map fun p => (p.1, d.share standing p.1 p.2)
  (← Sums.raiseAll flats shares).raiseAll d.noMultiplier.entries

/-- Totals that are rounded one after the other. -/
def rounded (totals : List (String × Float)) : Except NumberFault (List (String × Int)) :=
  totals.mapM fun (type, total) => return (type, ← roundHalfUp total)

/-- The previewed yields: every type with its rounded total. -/
def finalize (d : Delta) (standing : Baselines) (known : List String) (applyPercent : Bool) :
    Except Fault (List (String × Int)) := do
  let totals ← d.totals standing known applyPercent
  (rounded totals.entries).mapError .number

end Delta

end PolicyForecast
