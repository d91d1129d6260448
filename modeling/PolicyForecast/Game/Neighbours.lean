import PolicyForecast.Game.Snapshot

/-!
# Neighbouring plots

Odd rows are shifted half a plot to the right, so the two neighbours above and below lie under
different offsets in even and odd rows. Columns count modulo the width: the map is closed from east
to west, and it has an edge in the north and south. Plots that the snapshot lacks are passed over,
and no plot is its own neighbour or a neighbour twice, which narrow maps would otherwise cause.
-/

namespace PolicyForecast

/-- The column and row steps to the six neighbours of a plot in an even row. -/
def evenRowOffsets : List (Int × Int) :=
  [(1, 0), (-1, 0), (-1, -1), (0, -1), (-1, 1), (0, 1)]

/-- The column and row steps to the six neighbours of a plot in an odd row. -/
def oddRowOffsets : List (Int × Int) :=
  [(1, 0), (-1, 0), (0, -1), (1, -1), (0, 1), (1, 1)]

/-- The steps to the neighbours of a plot in row `y`. -/
def offsetsInRow (y : Int) : List (Int × Int) :=
  if y % 2 = 0 then evenRowOffsets else oddRowOffsets

namespace HexMap

/-- The number of the plot in a column and a row. -/
def indexOf (m : HexMap) (x y : Int) : Int :=
  y * m.width + x

/-- The number of the plot one step away, if the step stays within the rows of the map. -/
def step? (m : HexMap) (p : Plot) (offset : Int × Int) : Except EvaluationFault (Option Int) :=
  let y := p.y + offset.2
  if y < 0 ∨ m.height ≤ y then .ok none
  else if m.width = 0 then .error .zeroWidth
  else .ok (some (m.indexOf ((p.x + offset.1).fmod m.width) y))

/-- The numbers of the plots one step away from a plot, in the order of the offsets. -/
def steps (m : HexMap) (p : Plot) : Except EvaluationFault (List Int) := do
  return (← (offsetsInRow p.y).mapM (m.step? p)).filterMap id

/-- The first occurrence of each number in a list that passes a test. -/
def firstOccurrences (keep : Int → Bool) : (seen : List Int) → List Int → List Int
  | _, [] => []
  | seen, n :: rest =>
    if keep n && !seen.contains n then n :: firstOccurrences keep (n :: seen) rest
    else firstOccurrences keep seen rest

/-- The neighbours of the plot stored under a number. -/
def neighbours (m : HexMap) (index : Int) : Except EvaluationFault (List Plot) :=
  match m.plot? index with
  | none => .ok []
  | some p => do
    let numbers ← m.steps p
    return (firstOccurrences (· != index) [] numbers).filterMap m.plot?

end HexMap

end PolicyForecast
