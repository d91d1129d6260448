import PolicyForecast.Number.Exact
import PolicyForecast.Wording

/-!
# What can go wrong in a preview

A rule whose arguments or subject do not fit its effect is *malformed*: it is reported and skipped.
Everything else that stops a computation stops the whole preview. Each cause is a constructor, with
the facts that its message names. What can go wrong while a requirement or an effect is worked out
is a type of its own, apart from the faults in how sets and modifiers refer to each other.
-/

namespace PolicyForecast

/-- The kinds of things a modifier applies to. -/
inductive SubjectKind where
  | city | plot | player | unit | empty
deriving DecidableEq, Repr

/-- The name of a kind in messages. -/
def SubjectKind.label : SubjectKind → String
  | .city => "City"
  | .plot => "Plot"
  | .player => "Player"
  | .unit => "Unit"
  | .empty => "Empty"

/-- Why a modifier does not fit its effect. -/
inductive RuleFault where
  /-- A required argument is absent or empty. -/
  | missingArgument (modifier name : String)
  /-- Neither argument that selects constructibles is present. -/
  | missingFilter (modifier : String)
  /-- Neither argument that gives the size of a saving is present. -/
  | missingSaving (modifier : String)
  /-- The same, found when a saving is computed. -/
  | missingSavingBasis (modifier : String)
  /-- An argument that must be a number is not one. -/
  | notANumber (modifier name value : String)
  /-- A divisor is zero or negative. -/
  | nonPositiveDivisor (modifier : String) (divisor : Float)
  /-- The effect was applied to a subject of another kind. -/
  | wrongSubject (expected : SubjectKind) (subject : String)

/-- Why evaluating a requirement or working out an effect stopped. -/
inductive EvaluationFault where
  /-- A rule is malformed. -/
  | rule (fault : RuleFault)
  /-- A number has no counterpart in the other representation. -/
  | number (fault : NumberFault)
  /-- A neighbour was looked for on a map without columns. -/
  | zeroWidth
  /-- Names cannot be put in order because one of them is missing. -/
  | unorderedNames (missingFirst : Bool)

/-- Why a preview stopped. -/
inductive Fault where
  /-- A requirement or an effect could not be worked out. -/
  | evaluation (fault : EvaluationFault)
  /-- A modifier attaches itself, directly or through others. -/
  | modifierCycle (chain : List String)
  /-- A requirement set refers to itself, directly or through others. -/
  | requirementSetCycle (chain : List String)
  /-- No player has the id. -/
  | unknownPlayer (id : Option Int)
  /-- Something is to be added to the total of a type that has none. -/
  | noTotal (type : String)
  /-- A way down was longer than there are sets or modifiers, which no way down is. -/
  | tooDeep

/-- A number fault of a whole preview. -/
abbrev Fault.number (fault : NumberFault) : Fault :=
  .evaluation (.number fault)

/-- The name of a kind of malformed rule. -/
def RuleFault.label : RuleFault → String
  | .missingArgument .. | .missingFilter .. | .missingSaving .. | .missingSavingBasis .. =>
    "MissingArgumentError"
  | .notANumber .. | .nonPositiveDivisor .. => "InvalidArgumentError"
  | .wrongSubject .. => "SubjectMismatchError"

/-- What a message says of a malformed rule. -/
def RuleFault.message : RuleFault → String
  | .missingArgument modifier name => s!"Modifier {modifier} is missing a {name} argument"
  | .missingFilter modifier => s!"Modifier {modifier} has neither ConstructibleType nor Tag"
  | .missingSaving modifier => s!"Modifier {modifier} has neither Amount nor Percent"
  | .missingSavingBasis modifier =>
    s!"Modifier {modifier} has neither Amount nor Percent, cannot calculate maintenance reduction"
  | .notANumber modifier name value =>
    s!"Modifier {modifier} has a non-numeric {name} argument: " ++ Text.quoted value
  | .nonPositiveDivisor modifier divisor =>
    s!"Modifier {modifier} has a non-positive Divisor: " ++ Wording.decimal.write divisor
  | .wrongSubject expected subject => s!"Expected {expected.label} subject, got {subject}"

/-- The name of a kind of number fault. -/
def NumberFault.label : NumberFault → String
  | .infinite | .tooLarge => "OverflowError"
  | .undefined => "ValueError"

/-- What a message says of a number fault. -/
def NumberFault.message : NumberFault → String
  | .infinite => "cannot convert float infinity to integer"
  | .undefined => "cannot convert float NaN to integer"
  | .tooLarge => "int too large to convert to float"

/-- The ids of a cycle from its start to its repetition. -/
def chainText (chain : List String) : String :=
  String.intercalate " -> " chain

/-- The name of a kind of fault in working something out. -/
def EvaluationFault.label : EvaluationFault → String
  | .rule fault => fault.label
  | .number fault => fault.label
  | .zeroWidth => "ZeroDivisionError"
  | .unorderedNames _ => "TypeError"

/-- What a message says of a fault in working something out. -/
def EvaluationFault.message : EvaluationFault → String
  | .rule fault => fault.message
  | .number fault => fault.message
  | .zeroWidth => "integer modulo by zero"
  | .unorderedNames missingFirst =>
    let kinds := if missingFirst then ("str", "NoneType") else ("NoneType", "str")
    s!"'<' not supported between instances of '{kinds.1}' and '{kinds.2}'"

/-- The name of a kind of fault. -/
def Fault.label : Fault → String
  | .evaluation fault => fault.label
  | .modifierCycle _ => "ModifierCycleError"
  | .requirementSetCycle _ => "RequirementSetCycleError"
  | .unknownPlayer _ | .noTotal _ => "KeyError"
  | .tooDeep => "RecursionError"

/-- What a message says of a fault. -/
def Fault.message : Fault → String
  | .evaluation fault => fault.message
  | .modifierCycle chain => "Modifier cycle detected: " ++ chainText chain
  | .requirementSetCycle chain => "Requirement set cycle detected: " ++ chainText chain
  | .unknownPlayer id => Wording.name (id.map toString)
  | .noTotal type => Text.quoted type
  | .tooDeep => "maximum recursion depth exceeded"

end PolicyForecast
