import PolicyForecast.Rules.Argument

/-!
# Requirement trees

A requirement set combines requirements. A requirement either states a fact or stands for another
set, so resolved requirements form a tree.
-/

namespace PolicyForecast

/-- The type of requirements that stand for another set. -/
def setIsMet : String := "REQUIREMENT_REQUIREMENTSET_IS_MET"

/-- The type of sets all of whose requirements must hold. -/
def allOf : String := "REQUIREMENTSET_TEST_ALL"

/-- The type of sets of whose requirements one must hold. -/
def anyOf : String := "REQUIREMENTSET_TEST_ANY"

/-- What a requirement's own rows say. -/
structure RequirementHead where
  id : Option String
  type : Option String
  inverse : Bool := false
  arguments : Arguments := ∅

/-- A requirement, with the set it stands for in place. -/
inductive Requirement where
  /-- A requirement without a set below it. -/
  | leaf (head : RequirementHead)
  /-- A requirement that stands for the set with the given id, type and requirements. -/
  | nested (head : RequirementHead) (id type : String) (requirements : List Requirement)

/-- A set with its requirements in place. -/
structure RequirementSet where
  id : Option String := none
  type : String := allOf
  requirements : List Requirement := []

namespace Requirement

/-- What a requirement's own rows say. -/
def head : Requirement → RequirementHead
  | .leaf h => h
  | .nested h .. => h

/-- The set that a requirement stands for, if any. -/
def nestedSet? : Requirement → Option RequirementSet
  | .leaf _ => none
  | .nested _ id type requirements => some ⟨some id, type, requirements⟩

/-- A requirement that stands for a set. -/
def ofSet (head : RequirementHead) (id : String) (set : RequirementSet) : Requirement :=
  .nested head id set.type set.requirements

end Requirement

/-- Whether a set has no requirements and so always holds. -/
def RequirementSet.isEmpty (s : RequirementSet) : Bool :=
  s.requirements.isEmpty

end PolicyForecast
