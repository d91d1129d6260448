/-!
# Settings

What can be chosen about previews: where the rules come from, which percentages and requirements
take part, and how strictly malformed rules are treated. Each setting has a default.
-/

namespace PolicyForecast

/-- The choices that previews depend on. -/
structure Settings where
  /-- The address of a database engine with the rules. -/
  databaseUri : Option String := none
  /-- The path of a data file with the rules. -/
  databaseJson : Option String := none
  /-- Whether the standing percentage of the player multiplies flat amounts. -/
  applyPlayerPercentToAmount : Bool := true
  /-- Whether a modifier whose owner requirements fail is passed over. -/
  evaluateOwnerRequirements : Bool := true
  /-- Whether a malformed rule stops the preview. -/
  strictArguments : Bool := false
  /-- The least level of log entries that are kept, in letters of any case. -/
  logLevel : String := "WARNING"
deriving DecidableEq, Repr

/-- The log levels. -/
def logLevels : List String :=
  ["DEBUG", "INFO", "WARNING", "ERROR", "CRITICAL"]

/-- The name of the log level in capitals. -/
def Settings.levelName (s : Settings) : String :=
  String.ofList (s.logLevel.toList.map Char.toUpper)

end PolicyForecast
