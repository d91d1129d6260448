import PolicyForecast.Game.Constructibles

/-!
# Adjacency yields

A plot gets a yield from its neighbours. A neighbour qualifies when it has everything that the
rule asks for. Each qualifying neighbour adds the rule's change, but only when enough of them
qualify; otherwise the yield is zero.
-/

namespace PolicyForecast

namespace AdjacencyRule

/-- Whether a rule that names a value, if it names one, is met by a fact. -/
def named (wanted : Option String) (met : String → Bool) : Bool :=
  (wanted.filter (· ≠ "")).all met

/-- Whether a neighbour has the terrain, feature, district and constructible that a rule asks
for. -/
def suits (r : AdjacencyRule) (p : Plot) : Bool :=
  named r.terrain (p.terrain == some ·)
  && named r.feature (p.feature == some ·)
  && named r.district (p.district == some ·)
  && named r.constructible (fun type => p.constructibles.contains (some type))

/-- Whether a neighbour has a constructible with the tag that a rule asks for. -/
def tagged (r : AdjacencyRule) (p : Plot) : Consulting Bool :=
  match r.constructibleTag.filter (· ≠ "") with
  | none => return true
  | some tag => anyTagged p.constructibles tag

/-- Whether a neighbour has the resource, river and natural wonder that a rule asks for. -/
def endowed (r : AdjacencyRule) (p : Plot) : Bool :=
  (!r.resource || p.resource.any (· ≠ ""))
  && (!r.river || p.river)
  && (!r.naturalWonder || p.naturalWonder)

/-- Whether a neighbour has everything that a rule asks for. -/
def qualifies (r : AdjacencyRule) (p : Plot) : Consulting Bool := do
  if !r.suits p then return false
  if !(← r.tagged p) then return false
  if !r.endowed p then return false
  if r.quarter then isQuarter p else return true

/-- The neighbours of a plot that qualify. -/
def qualifying (m : HexMap) (r : AdjacencyRule) (p : Plot) : Evaluation (List Plot) := do
  let neighbours ← (m.neighbours p.index : Except EvaluationFault _)
  (selectM r.qualifies neighbours : Consulting _)

/-- Whether a number of neighbours is enough; a rule that asks for none asks for one. -/
def enough (r : AdjacencyRule) (n : Nat) : Bool :=
  match r.tilesRequired.filter (!·.isZero) with
  | none => 1 ≤ n
  | some (.whole t) => t ≤ n
  | some (.real t) => !Exact.intBelow n t

/-- What a number of qualifying neighbours adds. -/
def gain (r : AdjacencyRule) (n : Nat) : Except NumberFault Float :=
  match r.yieldChange.filter (!·.isZero) with
  | none => .ok 0.0
  | some (.whole change) => Exact.ofInt? (n * change)
  | some (.real change) => .ok (Float.ofNat n * change)

/-- The yield that a plot gets under a rule. -/
def yield (m : HexMap) (r : AdjacencyRule) (p : Plot) : Evaluation Float := do
  let n := (← r.qualifying m p).length
  if r.enough n then r.gain n else return 0.0

end AdjacencyRule

end PolicyForecast
