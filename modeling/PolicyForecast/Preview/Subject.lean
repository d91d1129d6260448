import PolicyForecast.Game.Snapshot
import PolicyForecast.Wording

/-!
# Subjects

A modifier is applied to subjects: cities, plots, players or units. A plot is always paired with the
city that owns it. Where there is nothing to apply a modifier to, an empty subject says why.
-/

namespace PolicyForecast

/-- Something that a modifier is applied to. -/
inductive Subject where
  | city (city : City)
  | plot (city : City) (plot : Plot)
  | player (player : Player)
  | unit (unit : GameUnit)
  | empty (reason : Option String)

namespace Subject

/-- The kind of a subject. -/
def kind : Subject → SubjectKind
  | .city _ => .city
  | .plot .. => .plot
  | .player _ => .player
  | .unit _ => .unit
  | .empty _ => .empty

/-- How messages name a subject. -/
def describe : Subject → String
  | .city c => s!"City({Wording.name c.name})"
  | .plot c p => s!"Plot({p.index}@{Wording.name c.name})"
  | .player p => s!"Player({p.id})"
  | .unit u => s!"Unit({u.id}:{Wording.name u.unitType})"
  | .empty _ => "Empty"

/-- The city that a subject is or belongs to. -/
def city? : Subject → Option City
  | .city c | .plot c _ => some c
  | _ => none

/-- Whether a subject stands for nothing. -/
def isEmpty : Subject → Bool
  | .empty _ => true
  | _ => false

/-- The reason of an empty subject. -/
def reason? : Subject → Option String
  | .empty reason => reason
  | _ => none

/-- The plot that a subject is or lies on. -/
def plot? (m : HexMap) : Subject → Option Plot
  | .city c => m.plotAt? c.location
  | .plot _ p => some p
  | .unit u => m.plotAt? u.location
  | _ => none

end Subject

end PolicyForecast
