import PolicyForecast.Consulting.Basic
import PolicyForecast.Preview.Subject
import PolicyForecast.Rules.Modifier

/-!
# What an effect asks of its modifier and subject

An effect takes its parameters from the arguments of its modifier and works on subjects of one kind.
An argument that is required must be there with a text, and where it is a number the text must spell
one; otherwise the rule is malformed.
-/

namespace PolicyForecast

namespace Modifier

/-- The text of an argument that must be there. -/
def text (m : Modifier) (name : String) : Except RuleFault String :=
  (m.arguments.filled? name).elim (.error (.missingArgument m.id name)) .ok

/-- The number that an argument's text must spell. -/
def numberOf (m : Modifier) (name value : String) : Except RuleFault Float :=
  (Text.float? value).elim (.error (.notANumber m.id name value)) .ok

/-- The number of an argument that must be there. -/
def number (m : Modifier) (name : String) : Except RuleFault Float := do
  m.numberOf name (← m.text name)

/-- The number of an argument that may be absent. -/
def number? (m : Modifier) (name : String) : Except RuleFault (Option Float) :=
  match m.arguments.filled? name with
  | none => .ok none
  | some value => some <$> m.numberOf name value

/-- Whether an argument that may be absent says yes. -/
def flag (m : Modifier) (name : String) : Bool :=
  m.arguments.flag name

end Modifier

namespace Subject

/-- The city that a subject must be. -/
def asCity : Subject → Except RuleFault City
  | .city c => .ok c
  | subject => .error (.wrongSubject .city subject.describe)

/-- The plot that a subject must be. -/
def asPlot : Subject → Except RuleFault Plot
  | .plot _ p => .ok p
  | subject => .error (.wrongSubject .plot subject.describe)

/-- The player that a subject must be. -/
def asPlayer : Subject → Except RuleFault Player
  | .player p => .ok p
  | subject => .error (.wrongSubject .player subject.describe)

/-- The unit that a subject must be. -/
def asUnit : Subject → Except RuleFault GameUnit
  | .unit u => .ok u
  | subject => .error (.wrongSubject .unit subject.describe)

end Subject

end PolicyForecast
