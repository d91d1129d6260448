import PolicyForecast.OrderedMap
import PolicyForecast.Text.Flag
import PolicyForecast.Text.Items
import PolicyForecast.Text.Numeral

/-!
# Arguments of modifiers and requirements

What a modifier or requirement does in detail is said by named arguments. A later argument of one
name replaces an earlier one, in its place. Names and values may be missing.
-/

namespace PolicyForecast

/-- A named argument. -/
structure Argument where
  name : Option String
  value : Option String
  extra : Option String := none
  secondExtra : Option String := none
  type : Option String := none
deriving DecidableEq, Repr

/-- The arguments of a modifier or requirement by name. -/
abbrev Arguments := OrderedMap (Option String) Argument

/-- Why an argument is not a number. -/
inductive ArgumentFault where
  /-- It has no text. -/
  | missingText
  /-- Its text does not spell a number. -/
  | notANumber
deriving DecidableEq, Repr

namespace Argument

/-- The number that an argument's text spells. -/
def number (a : Argument) : Except ArgumentFault Float :=
  match a.value with
  | none => .error .missingText
  | some text => (Text.float? text).elim (.error .notANumber) .ok

/-- Whether an argument says yes. -/
def isTrue (a : Argument) : Bool :=
  Text.isTrue (a.value.getD "")

/-- The items that an argument lists. -/
def list (a : Argument) : List String :=
  Text.items (a.value.getD "")

end Argument

namespace Arguments

/-- Arguments from their rows, a later row of a name in the place of an earlier one. -/
def ofRows (rows : List Argument) : Arguments :=
  OrderedMap.ofList (rows.map fun a => (a.name, a))

/-- The argument of a name. -/
def find? (args : Arguments) (name : String) : Option Argument :=
  args.get? (some name)

/-- The text of an argument, if the argument is there and has one. -/
def value? (args : Arguments) (name : String) : Option String :=
  (args.find? name).bind Argument.value

/-- The text of an argument, if it is there and not empty. -/
def filled? (args : Arguments) (name : String) : Option String :=
  (args.value? name).filter (· ≠ "")

/-- Whether an argument is there with a text that is not empty. -/
def has (args : Arguments) (name : String) : Bool :=
  (args.filled? name).isSome

/-- Whether an argument is there and says yes. -/
def flag (args : Arguments) (name : String) : Bool :=
  (args.filled? name).any Text.isTrue

end Arguments

end PolicyForecast
