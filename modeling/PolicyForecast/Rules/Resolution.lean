import PolicyForecast.Fault
import PolicyForecast.Rules.Basic
import PolicyForecast.Rules.Modifier

/-!
# Resolving modifiers and requirement sets

A requirement set is resolved into the tree of all requirements below it. Sets refer to sets by id,
so the way down is watched: a set that is met again below itself is a cycle and stops the
resolution. Sets that were resolved completely are kept and never resolved again; a stop keeps
those, and only those.

The way down is never longer than the number of links between sets and requirements, because every
set on it but the last has a link of its own. That bounds the recursion, which therefore never comes
to its bound.
-/

namespace PolicyForecast

/-- The sets that were resolved, by id. -/
abbrev SetCache := OrderedMap String RequirementSet

/-- A computation that resolves sets and keeps them, also when it stops. -/
abbrev Resolving := ExceptT Fault (StateM SetCache)

namespace Rules

variable (rules : Rules)

/-- How the requirements of a set are combined: all must hold unless its row says otherwise. -/
def typeOfSet (id : String) : String :=
  (((rules.requirementSet? id).bind RequirementSetRecord.type).filter (· ≠ "")).getD allOf

/-- What a requirement's rows say; one without a row has no type. -/
def requirementHead (id : Option String) : RequirementHead :=
  match rules.requirement? id with
  | none => { id, type := none }
  | some r =>
    { id, type := r.type, inverse := r.inverse, arguments := rules.argumentsOfRequirement id }

/-- The id of the set that a requirement stands for, if it stands for one. -/
def setOfRequirement? (id : Option String) : Option String :=
  let head := rules.requirementHead id
  if head.type = some setIsMet then head.arguments.filled? "RequirementSetId" else none

/-- A requirement, and the set it stands for resolved by `nested`. -/
def resolveRequirement {m : Type → Type} [Monad m] (nested : String → m RequirementSet)
    (id : Option String) : m Requirement :=
  match rules.setOfRequirement? id with
  | some set => return .ofSet (rules.requirementHead id) set (← nested set)
  | none => return .leaf (rules.requirementHead id)

/-- The set of an id, below the sets on the way down to it. -/
def resolveSet : (fuel : Nat) → (above : List String) → String → Resolving RequirementSet
  | 0, _, _ => throw .tooDeep
  | fuel + 1, above, id => do
    if above.contains id then throw (.requirementSetCycle (above ++ [id]))
    match (← get).get? id with
    | some set => return set
    | none =>
      let nested := resolveSet fuel (above ++ [id])
      let requirements ← (rules.requirementIdsOfSet id).mapM (rules.resolveRequirement nested)
      let set : RequirementSet := { id := some id, type := rules.typeOfSet id, requirements }
      modify (·.insert id set)
      return set

/-- The set of an id; no id stands for no requirements. -/
def set (id : Option String) : Resolving RequirementSet :=
  match id.filter (· ≠ "") with
  | none => return {}
  | some id => rules.resolveSet (rules.requirementLinks.length + 1) [] id

/-- The modifier of a record, its subject set resolved before its owner set. -/
def resolveRecord (id : String) (r : ModifierRecord) : Resolving Modifier := do
  let type := rules.modifierType? r.type
  let subjectSet ← rules.set r.subjectSet
  let ownerSet ← rules.set r.ownerSet
  return {
    id
    type := r.type
    effect := type.bind ModifierTypeRecord.effect
    collection := type.bind ModifierTypeRecord.collection
    arguments := rules.argumentsOfModifier id
    subjectSet
    ownerSet
    permanent := r.permanent
    runOnce := r.runOnce
    newOnly := r.newOnly }

/-- The modifier of an id, if the rules have it. -/
def resolveModifier? (id : Option String) : Resolving (Option Modifier) :=
  match id, rules.modifier? id with
  | some id, some r => some <$> rules.resolveRecord id r
  | _, _ => return none

end Rules

end PolicyForecast
