import PolicyForecast.Consulting.Basic
import PolicyForecast.Rules.Resolution

/-!
# The rule cache

A cache keeps the answers to look-ups of tags and traits and the requirement sets that were resolved
so far. It belongs to the rules that such look-ups go to; taking over other rules forgets
everything. A computation is run on a cache by serving its requests one after the other: a look-up
that was made before is answered from the cache, any other is made and kept, also when the
computation stops later on.

Modifiers are resolved from the rules of the preview. These need not be the rules behind the cache,
to which a host may have turned in the meantime.
-/

namespace PolicyForecast

/-- The answers that are kept, and the rules that look-ups go to. -/
structure RuleCache where
  rules : Rules
  answers : MemoTable → OrderedMap (Option String) (List (Option String)) := fun _ => ∅
  sets : SetCache := ∅

namespace RuleCache

/-- A cache that keeps nothing yet. -/
def ofRules (rules : Rules) : RuleCache where
  rules := rules

/-- Forgets everything, and turns to other rules if there are any. -/
def invalidate (cache : RuleCache) (rules : Option Rules) : RuleCache :=
  ofRules (rules.getD cache.rules)

/-- Keeps an answer. -/
def keep (cache : RuleCache) (table : MemoTable) (key : Option String)
    (answer : List (Option String)) : RuleCache :=
  { cache with
    answers := fun t =>
      if t = table then (cache.answers t).insert key answer else cache.answers t }

/-- The answer to a look-up, made now unless it is kept already. -/
def lookUp (cache : RuleCache) (table : MemoTable) (key : Option String) :
    List (Option String) × RuleCache :=
  match (cache.answers table).get? key with
  | some answer => (answer, cache)
  | none =>
    let answer := cache.rules.lookUp table key
    (answer, cache.keep table key answer)

/-- Resolves the modifier of an id from rules and keeps the sets that this resolves. -/
def resolve (cache : RuleCache) (rules : Rules) (id : Option String) :
    Except Fault (Option Modifier) × RuleCache :=
  let (result, sets) := (rules.resolveModifier? id).run.run cache.sets
  (result, { cache with sets })

/-- The answer to a request, for a preview over `rules`. -/
def serve (cache : RuleCache) (rules : Rules) : (q : Request) → q.Answer × RuleCache
  | .lookUp table key => cache.lookUp table key
  | .district type => (cache.rules.district? type, cache)
  | .constructible type => (cache.rules.constructible? type, cache)
  | .unitDomain type => (cache.rules.unitDomain type, cache)
  | .unit type => (rules.unit? type, cache)
  | .adjacency id => (rules.adjacency? id, cache)
  | .adjacencyMembers id => (rules.constructiblesOfAdjacency id, cache)
  | .warehouse id => (rules.warehouse? id, cache)
  | .maintenances type => (rules.maintenancesOf type, cache)
  | .modifier id => cache.resolve rules (some id)

end RuleCache

/-- Runs a computation of a preview over `rules` on a cache. -/
def Consulting.run {α : Type} (rules : Rules) :
    Consulting α → RuleCache → (List Event × α) × RuleCache
  | .done a, cache => (([], a), cache)
  | .note e rest, cache =>
    let ((events, a), cache) := rest.run rules cache
    ((e :: events, a), cache)
  | .ask q next, cache =>
    let (answer, cache) := cache.serve rules q
    (next answer).run rules cache

/-- What follows a computation is run on the cache that the computation leaves. -/
theorem Consulting.run_bind {α β : Type} (rules : Rules) (x : Consulting α)
    (f : α → Consulting β) (cache : RuleCache) :
    (x >>= f).run rules cache =
      let ((events, a), cache) := x.run rules cache
      let ((later, b), cache) := (f a).run rules cache
      ((events ++ later, b), cache) := by
  show (Consulting.bind x f).run rules cache = _
  induction x generalizing cache with
  | done a => rfl
  | note e rest ih => simp only [bind, run, ih, List.cons_append]
  | ask q next ih => simp only [bind, run, ih]

/-- Runs a computation that may stop on a cache. -/
def Evaluation.run {α : Type} (rules : Rules) (x : Evaluation α) (cache : RuleCache) :
    Recorded EvaluationFault α × RuleCache :=
  let ((events, result), cache) := x.outcome.run rules cache
  (⟨events, result⟩, cache)

/-- The answers to requests that rules give when nothing was kept before. -/
def Rules.answer (rules : Rules) : Answers := fun q =>
  ((RuleCache.ofRules rules).serve rules q).1

end PolicyForecast
