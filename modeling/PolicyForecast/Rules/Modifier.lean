import PolicyForecast.Rules.Requirement

/-!
# Resolved modifiers

A modifier joined with what modifiers of its type do, its arguments and its requirement sets.
-/

namespace PolicyForecast

/-- A modifier with everything that its effect needs. -/
structure Modifier where
  id : String
  type : Option String := none
  effect : Option String := none
  collection : Option String := none
  arguments : Arguments := ∅
  subjectSet : RequirementSet := {}
  ownerSet : RequirementSet := {}
  permanent : Bool := false
  runOnce : Bool := false
  newOnly : Bool := false

end PolicyForecast
