import PolicyForecast.Fault
import PolicyForecast.Json.Value
import PolicyForecast.Text.Numeral

/-!
# A player's standing yields

The game explains each standing yield by a nested trace of how it was computed. Of a trace only the
first step counts: its base value is the yield and its modifier value the standing percentage. A
trace that is absent or does not have that form stands for no yield at all; it is never read by
half.
-/

namespace PolicyForecast

/-- A standing yield and the percentage that already applies to it. -/
structure Baseline where
  amount : Float := 0.0
  percent : Float := 0.0

instance : Inhabited Baseline := ⟨{}⟩

/-- The standing yields by yield type. -/
abbrev Baselines := OrderedMap String Baseline

namespace Baseline

/-- Why a trace gives no numbers. -/
inductive TraceFault where
  /-- The trace does not have the expected form. -/
  | malformed
  /-- A whole number in it is beyond the largest double. -/
  | number (fault : NumberFault)

/-- The double that a value of a trace stands for. -/
def number? : Json → Except TraceFault Float
  | .int n => (Exact.ofInt? n).mapError .number
  | .float x => .ok x
  | .bool b => .ok (if b then 1.0 else 0.0)
  | .text s => (Text.float? s).elim (.error .malformed) .ok
  | _ => .error .malformed

/-- A field that the trace must have. -/
def part? (name : String) (value : Json) : Except TraceFault Json :=
  (value.field? name).elim (.error .malformed) .ok

/-- The first item of an array that must not be empty. -/
def first? : Json → Except TraceFault Json
  | .array (item :: _) => .ok item
  | _ => .error .malformed

/-- The numbers of the first step of a trace. -/
def firstStep? (trace : Json) : Except TraceFault Baseline := do
  let step ← first? (← part? "steps" (← part? "base" trace))
  let amount ← number? (← part? "value" (← part? "base" step))
  let percent ← number? (← part? "value" (← part? "modifier" step))
  return { amount, percent }

/-- The standing yield that a trace explains, zero when the trace has another form. -/
def ofTrace (trace : Json) : Except NumberFault Baseline :=
  if !trace.isSubstantial then .ok {}
  else
    match firstStep? trace with
    | .ok b => .ok b
    | .error .malformed => .ok {}
    | .error (.number fault) => .error fault

end Baseline

/-- The standing yields that a player's traces explain, in the order of the traces. -/
def Baselines.ofTraces (traces : OrderedMap String Json) : Except NumberFault Baselines := do
  let entries ← traces.entries.mapM fun (type, trace) => return (type, ← Baseline.ofTrace trace)
  return ⟨entries⟩

end PolicyForecast
