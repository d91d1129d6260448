import PolicyForecast.Json.Value
import PolicyForecast.Settings.Basic
import PolicyForecast.Settings.File
import PolicyForecast.Text.Flag

/-!
# Reading settings

Settings are given directly, by environment variables, or by the lines of a file, the former before
the latter. All are named in letters of any case; variables and lines carry a prefix. A flag may be
a word or the number zero or one; all other settings are texts. What no setting is called is passed
over, and settings with unusable values are reported together.
-/

namespace PolicyForecast

namespace Settings

/-- The names of the settings in alphabetical order. -/
def fieldNames : List String :=
  ["apply_player_percent_to_amount", "database_json", "database_uri",
   "evaluate_owner_requirements", "log_level", "strict_arguments"]

/-- What the names of environment variables start with. -/
def variablePrefix : String := "yields_preview_"

/-! ## Values -/

/-- Words that say no. -/
def noWords : List String := ["0", "off", "f", "false", "n", "no"]

/-- Words that say yes. -/
def yesWords : List String := ["1", "on", "t", "true", "y", "yes"]

/-- A flag. -/
def flag? : Json → Option Bool
  | .bool b => some b
  | .int n => if n = 0 then some false else if n = 1 then some true else none
  | .float x => if x == 0.0 then some false else if x == 1.0 then some true else none
  | .text s =>
    if noWords.any (Text.sameLetters s) then some false
    else if yesWords.any (Text.sameLetters s) then some true
    else none
  | _ => none

/-- A text or nothing. -/
def optionalText? : Json → Option (Option String)
  | .null => some none
  | .text s => some (some s)
  | _ => none

/-- A log level. -/
def logLevel? : Json → Option String
  | .text s => if logLevels.any (Text.sameLetters s) then some s else none
  | _ => none

/-- Settings with one of them changed, if the value can be used. -/
def assign? (s : Settings) (field : String) (value : Json) : Option Settings :=
  match field with
  | "database_uri" => (optionalText? value).map fun v => { s with databaseUri := v }
  | "database_json" => (optionalText? value).map fun v => { s with databaseJson := v }
  | "apply_player_percent_to_amount" =>
    (flag? value).map fun v => { s with applyPlayerPercentToAmount := v }
  | "evaluate_owner_requirements" =>
    (flag? value).map fun v => { s with evaluateOwnerRequirements := v }
  | "strict_arguments" => (flag? value).map fun v => { s with strictArguments := v }
  | "log_level" => (logLevel? value).map fun v => { s with logLevel := v }
  | _ => some s

/-! ## Sources -/

/-- What a source gives, with names in lower case. Of one name the last value counts, at the place
of the first. -/
def lowerNamed {α : Type} (given : List (String × α)) : List (String × α) :=
  (OrderedMap.ofList given).entries.map fun (name, value) =>
    (.ofList (Text.lower name.toList), value)

/-- What direct settings give; of names that differ only in case the first counts. -/
def directValues (direct : List (String × Json)) : OrderedMap String Json :=
  .ofList (lowerNamed direct).reverse

/-- What variables or the lines of a file give; of names that differ only in case the last
counts. -/
def textValues (texts : List (String × Option String)) : OrderedMap String (Option String) :=
  .ofList (lowerNamed texts)

/-- The value that is given for a setting: directly, or by a variable, or in the file. -/
def given? (direct : OrderedMap String Json) (environment file : OrderedMap String (Option String))
    (field : String) : Option Json :=
  let exported := variablePrefix ++ field
  direct.get? field
    <|> ((environment.get? exported).join <|> (file.get? exported).join).map .text

/-- Settings from their three sources, or the names of those with unusable values in order. -/
def read (direct : List (String × Json)) (environment : List (String × String))
    (fileText : String) : Except (List String) Settings :=
  let file := textValues (SettingsFile.read environment fileText)
  let exported := textValues (environment.map fun (name, text) => (name, some text))
  let values := fieldNames.filterMap fun field =>
    (given? (directValues direct) exported file field).map (field, ·)
  let bad := values.filter fun (field, value) => (assign? {} field value).isNone
  if bad.isEmpty then
    .ok (values.foldl (fun s (field, value) => (s.assign? field value).getD s) {})
  else .error (bad.map Prod.fst)

end Settings

end PolicyForecast
