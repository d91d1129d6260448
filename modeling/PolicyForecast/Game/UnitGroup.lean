import PolicyForecast.Consulting.Basic
import PolicyForecast.Game.Snapshot

/-!
# Units by type

Maintenance is reckoned for all units of one type together: how many there are and what they cost.
A modifier may restrict itself to units by tag, class or domain, which are facts of the type.
-/

namespace PolicyForecast

/-- The units of one type, or one unit alone. -/
structure UnitGroup where
  unitType : Option String
  domain : Option String
  tags : List (Option String)
  count : Nat
  maintenance : Quantity

namespace UnitGroup

/-- A group of a type without any unit. -/
def none (unitType : Option String) : Consulting UnitGroup := do
  let domain : Option String ← Consulting.request (.unitDomain unitType)
  let tags ← Consulting.lookUp .tagsOfType unitType
  return { unitType, domain, tags, count := 0, maintenance := .real 0.0 }

/-- One unit as a group. -/
def single (u : GameUnit) : Consulting UnitGroup := do
  return { ← none u.unitType with count := 1, maintenance := u.maintenance }

/-- A group with one more unit. -/
def add (g : UnitGroup) (u : GameUnit) : Except NumberFault UnitGroup := do
  let cost := (← g.maintenance.toFloat?) + (← u.maintenance.toFloat?)
  return { g with count := g.count + 1, maintenance := .real cost }

/-- The group of a type among groups, without any unit if it is not there. -/
def find (groups : OrderedMap (Option String) UnitGroup) (unitType : Option String) :
    Consulting UnitGroup :=
  match groups.get? unitType with
  | some group => return group
  | .none => none unitType

/-- Adds a unit to the group of its type. -/
def addTo (groups : OrderedMap (Option String) UnitGroup) (u : GameUnit) :
    Evaluation (OrderedMap (Option String) UnitGroup) := do
  let group ← find groups u.unitType
  let group ← (group.add u : Except NumberFault _)
  return groups.insert u.unitType group

/-- Units grouped by type, in the order in which the types first appear. -/
def ofUnits (units : List GameUnit) : Evaluation (List UnitGroup) := do
  return (← units.foldlM addTo ∅).values

/-- Whether a modifier concerns the units of a group. -/
def isTargetOf (g : UnitGroup) (m : Modifier) : Bool :=
  (m.arguments.filled? "UnitTag").all (fun text => (Text.items text).any fun tag =>
    g.tags.contains (some tag))
  && (m.arguments.filled? "UnitClass").all (fun c => g.tags.contains (some c))
  && (m.arguments.filled? "UnitDomain").all (fun d => g.domain == some d)

end UnitGroup

end PolicyForecast
