import PolicyForecast.Preview.Application
import PolicyForecast.Yield.Total

/-!
# Previews

A preview resolves a list of modifiers, applies them one after the other and adds up what they
contribute. Once begun it never fails: when something stops it, its answer has no yields, the
remarks up to that point, the fault as a last remark, and the modifiers that were resolved by then.
-/

namespace PolicyForecast

/-- The answer to a preview. -/
structure Preview where
  yields : List (String × Int) := []
  modifiers : List Modifier := []
  errors : List String := []
  missings : List String := []
  ignored : List String := []

namespace Preview

/-- The yields that are not zero. -/
def nonZero (p : Preview) : List (String × Int) :=
  p.yields.filter (·.2 ≠ 0)

/-- The answer of a preview that recorded events and came to yields. -/
def finished (modifiers : List Modifier) (events : List Event) (yields : List (String × Int)) :
    Preview where
  yields := yields
  modifiers := modifiers
  errors := events.filterMap Event.error?
  missings := events.filterMap Event.missing?
  ignored := events.filterMap Event.ignored?

/-- The answer of a preview that was stopped. -/
def stopped (modifiers : List Modifier) (events : List Event) (fault : Fault) : Preview :=
  let upTo := finished modifiers events []
  { upTo with errors := upTo.errors ++ [s!"{fault.label}: {fault.message}"] }

end Preview

/-- Why a request for a preview is refused. -/
inductive RequestFault where
  /-- A listed modifier has no id. -/
  | missingId
deriving DecidableEq, Repr

/-- What previews of one game need besides the game: rules, settings and standing yields. -/
structure Engine where
  rules : Rules
  settings : Settings
  baselines : Baselines

namespace Engine

/-- What a preview reads in a game; the game must have its local player. -/
def scene (e : Engine) (g : Snapshot) : Except Fault Scene := do
  return { game := g, player := ← g.localPlayer, settings := e.settings }

/-- The modifiers of ids, those not known passed over, up to the first that cannot be resolved. -/
def resolveAll (rules : Rules) :
    List (Option String) → RuleCache → (List Modifier × Except Fault Unit) × RuleCache
  | [], cache => (([], .ok ()), cache)
  | id :: rest, cache =>
    match cache.resolve rules id with
    | (.error fault, cache) => (([], .error fault), cache)
    | (.ok found, cache) =>
      let ((modifiers, result), cache) := resolveAll rules rest cache
      ((found.toList ++ modifiers, result), cache)

/-- Applies modifiers one after the other, from an empty stack. -/
def applyAll (e : Engine) (s : Scene) (modifiers : List Modifier) (cache : RuleCache) :
    Recorded Fault Unit × RuleCache :=
  let ((record, _), cache) :=
    (modifiers.forM (s.applyToAll e.rules.depth)).run e.rules [] cache
  (record, cache)

/-- Resolves the modifiers of ids and applies them: the modifiers that were resolved, and the record
of their application, or of the fault that prevented it. -/
def run (e : Engine) (g : Snapshot) (ids : List (Option String)) (cache : RuleCache) :
    (List Modifier × Recorded Fault Unit) × RuleCache :=
  match e.scene g with
  | .error fault => (([], ⟨[], .error fault⟩), cache)
  | .ok s =>
    match resolveAll e.rules ids cache with
    | ((modifiers, .error fault), cache) => ((modifiers, ⟨[], .error fault⟩), cache)
    | ((modifiers, .ok ()), cache) =>
      let (record, cache) := e.applyAll s modifiers cache
      ((modifiers, record), cache)

/-- The yields of recorded contributions. -/
def totals (e : Engine) (events : List Event) : Except Fault (List (String × Int)) :=
  (Delta.addAll {} (events.filterMap Event.addition?)).finalize e.baselines e.rules.yieldTypes
    e.settings.applyPlayerPercentToAmount

/-- The answer of a preview that resolved modifiers and recorded their application. -/
def answer (e : Engine) (modifiers : List Modifier) (record : Recorded Fault Unit) : Preview :=
  match record.result.bind fun _ => e.totals record.events with
  | .ok yields => .finished modifiers record.events yields
  | .error fault => .stopped modifiers record.events fault

/-- The preview of modifiers by id, and the cache that it leaves. -/
def previewIds (e : Engine) (g : Snapshot) (ids : List (Option String)) (cache : RuleCache) :
    Preview × RuleCache :=
  let ((modifiers, record), cache) := e.run g ids cache
  (e.answer modifiers record, cache)

/-- The preview of a tradition; no tradition brings nothing. -/
def preview (e : Engine) (g : Snapshot) (tradition : Option String) (cache : RuleCache) :
    Preview × RuleCache :=
  match tradition.filter (· ≠ "") with
  | none => ({}, cache)
  | some t => e.previewIds g (e.rules.traditionModifierIds t) cache

/-- The preview of a list of modifiers that a caller chose. Such a list must not have gaps, while
a tradition's own list may. -/
def previewModifiers (e : Engine) (g : Snapshot) (ids : List (Option String)) (cache : RuleCache) :
    Except RequestFault (Preview × RuleCache) :=
  if ids.contains none then .error .missingId else .ok (e.previewIds g ids cache)

end Engine

end PolicyForecast
