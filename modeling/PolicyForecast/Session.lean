import PolicyForecast.Preview.Engine
import PolicyForecast.Table.Loading
import PolicyForecast.Table.Standard

/-!
# Sessions

A host keeps one session for as long as it runs. The session has the current rules, a cache of what
was looked up and resolved in them, and the standing yields as of the last update. Reloading the
rules forgets both. No operation that fails changes a session, except that a preview that is stopped
keeps in the cache what it came to.
-/

namespace PolicyForecast

/-- What a host keeps between previews. -/
structure Session where
  settings : Settings
  database : Database
  cache : RuleCache
  baselines : Baselines := ∅

namespace Session

/-- The current rules. -/
def rules (session : Session) : Rules :=
  .ofDatabase session.database

/-- A session over a database, in which nothing happened yet. -/
def opened (settings : Settings) (database : Database) : Session where
  settings := settings
  database := database
  cache := .ofRules (.ofDatabase database)

/-- What previews over given rules need. -/
def engineOver (session : Session) (rules : Rules) : Engine where
  rules := rules
  settings := session.settings
  baselines := session.baselines

/-- What previews over the current rules need. -/
def engine (session : Session) : Engine :=
  session.engineOver session.rules

/-- The answer of a preview that leaves a cache. -/
def keeping (session : Session) (answer : Preview × RuleCache) : Preview × Session :=
  (answer.1, { session with cache := answer.2 })

/-- The preview of a tradition. -/
def preview (session : Session) (g : Snapshot) (tradition : Option String) : Preview × Session :=
  session.keeping (session.engine.preview g tradition session.cache)

/-- The preview of a list of modifiers. -/
def previewModifiers (session : Session) (g : Snapshot) (ids : List (Option String)) :
    Except RequestFault (Preview × Session) :=
  session.keeping <$> session.engine.previewModifiers g ids session.cache

/-- The preview of a tradition over other rules, with the cache of this session. -/
def previewOver (session : Session) (other : Rules) (g : Snapshot) (tradition : Option String) :
    Preview × Session :=
  session.keeping ((session.engineOver other).preview g tradition session.cache)

/-- Takes over the standing yields of the local player. -/
def updateBaselines (session : Session) (g : Snapshot) : Except Fault Session := do
  let player ← g.localPlayer
  let baselines ← (Baselines.ofTraces player.yieldTraces).mapError fun fault =>
    Fault.evaluation (.number fault)
  return { session with baselines }

/-- Takes over a database and forgets what came from the one before. -/
def reload (session : Session) (database : Database) : Session :=
  { session with
    database
    cache := session.cache.invalidate (some (.ofDatabase database))
    baselines := ∅ }

/-- Forgets what the cache keeps. -/
def invalidate (session : Session) : Session :=
  { session with cache := session.cache.invalidate none }

/-- The standing yield of a type as of the last update. -/
def baseline (session : Session) (type : String) : Baseline :=
  session.baselines.getD type {}

section Sources

variable [TableStore]

/-- The database of the source that settings name. -/
def loaded (settings : Settings) (answer : String → Option Frame)
    (readFile : String → Option ByteArray) : Except LoadFault Database :=
  Database.load settings.databaseUri settings.databaseJson answer readFile

/-- A new session whose rules come from where the settings say. -/
def start (settings : Settings) (answer : String → Option Frame)
    (readFile : String → Option ByteArray) : Except LoadFault Session := do
  return opened settings (← loaded settings answer readFile)

/-- Reloads the rules from where the settings say. -/
def reloadFromSource (session : Session) (answer : String → Option Frame)
    (readFile : String → Option ByteArray) : Except LoadFault Session := do
  return session.reload (← loaded session.settings answer readFile)

end Sources

end Session

end PolicyForecast
