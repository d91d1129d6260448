import Mathlib.Data.List.Induction
import PolicyForecast.Proofs.Faithful
import PolicyForecast.Session

/-!
# The history of a session

A host asks a session for previews, lets it update the standing yields and reload the rules, in any
order, and some of these operations fail. What a history comes to is said here without a session:
the database of the last reload that succeeded (`currentDatabase`), and the standing yields of the
last update that succeeded after it (`currentBaselines`). A session *stands at* these when it has
them and its cache is faithful; each operation keeps it so (`StandsAt.step`).

Main statement: a preview in a session with a history is the preview in a new session that has the
same database and standing yields (`preview_after_history`).
-/

namespace PolicyForecast.Session

/-! ## Operations -/

/-- What a host asks of a session. -/
inductive Operation where
  /-- The preview of a tradition. -/
  | preview (g : Snapshot) (tradition : Option String)
  /-- The preview of a list of modifiers. -/
  | previewModifiers (g : Snapshot) (ids : List (Option String))
  /-- An update of the standing yields. -/
  | updateBaselines (g : Snapshot)
  /-- A change to another database. -/
  | reload (database : Database)
  /-- A change to the database of the source that the settings name. -/
  | reloadFromSource (answer : String → Option Frame) (readFile : String → Option ByteArray)

section Store

variable [TableStore]

/-- The session after an operation. -/
def step (session : Session) : Operation → Session
  | .preview g tradition => (session.preview g tradition).2
  | .previewModifiers g ids =>
    match session.previewModifiers g ids with
    | .ok (_, next) => next
    | .error _ => session
  | .updateBaselines g =>
    match session.updateBaselines g with
    | .ok next => next
    | .error _ => session
  | .reload database => session.reload database
  | .reloadFromSource answer readFile =>
    match session.reloadFromSource answer readFile with
    | .ok next => next
    | .error _ => session

/-- The session after a history. -/
def after (session : Session) (history : List Operation) : Session :=
  history.foldl step session

/-- An operation is a reload or an update, and it fails. -/
def Fails (session : Session) : Operation → Prop
  | .updateBaselines g => ∃ fault, session.updateBaselines g = .error fault
  | .reloadFromSource answer readFile =>
    ∃ fault, session.reloadFromSource answer readFile = .error fault
  | _ => False

@[simp] lemma after_append (session : Session) (earlier later : List Operation) :
    session.after (earlier ++ later) = (session.after earlier).after later :=
  List.foldl_append

@[simp] lemma after_cons (session : Session) (operation : Operation) (later : List Operation) :
    session.after (operation :: later) = (session.step operation).after later := rfl

@[simp] lemma after_nil (session : Session) : session.after [] = session := rfl

/-- An operation that `Fails` leaves the session as it was. -/
lemma step_of_fails {session : Session} {operation : Operation} (h : session.Fails operation) :
    session.step operation = session := by
  cases operation with
  | updateBaselines g =>
    obtain ⟨fault, hfault⟩ := h
    simp only [step, hfault]
  | reloadFromSource answer readFile =>
    obtain ⟨fault, hfault⟩ := h
    simp only [step, hfault]
  | preview | previewModifiers | reload => exact h.elim

/-! ## What a history comes to -/

/-- The database that an operation changes to, if it succeeds in that. -/
def Operation.database? (settings : Settings) : Operation → Option Database
  | .reload database => some database
  | .reloadFromSource answer readFile => (loaded settings answer readFile).toOption
  | _ => none

/-- The standing yields that an operation takes over, if it succeeds in that. -/
def Operation.baselines? : Operation → Option Baselines
  | .updateBaselines g =>
    g.localPlayer.toOption.bind fun player => (Baselines.ofTraces player.yieldTraces).toOption
  | _ => none

/-- The database of the last reload that succeeded, or else the first one. -/
def currentDatabase (settings : Settings) (first : Database) (history : List Operation) :
    Database :=
  (history.reverse.findSome? (Operation.database? settings)).getD first

/-- The standing yields of the last update that succeeded after the last reload that succeeded; none
without such an update. -/
def currentBaselines (settings : Settings) (history : List Operation) : Baselines :=
  ((history.reverse.takeWhile fun operation => (operation.database? settings).isNone).findSome?
    Operation.baselines?).getD ∅

lemma currentDatabase_concat (settings : Settings) (first : Database) (history : List Operation)
    (operation : Operation) :
    currentDatabase settings first (history ++ [operation])
      = (operation.database? settings).getD (currentDatabase settings first history) := by
  unfold currentDatabase
  rw [List.reverse_concat, List.findSome?_cons]
  cases operation.database? settings <;> rfl

lemma currentBaselines_concat (settings : Settings) (history : List Operation)
    (operation : Operation) :
    currentBaselines settings (history ++ [operation])
      = if (operation.database? settings).isNone then
          operation.baselines?.getD (currentBaselines settings history)
        else ∅ := by
  unfold currentBaselines
  rw [List.reverse_concat, List.takeWhile_cons]
  split
  · rw [List.findSome?_cons]
    cases operation.baselines? <;> rfl
  · rfl

end Store

/-! ## The invariant -/

/-- A session has a database and standing yields, and what it keeps is as its rules have it. -/
structure StandsAt (session : Session) (settings : Settings) (database : Database)
    (baselines : Baselines) : Prop where
  settings_eq : session.settings = settings
  database_eq : session.database = database
  baselines_eq : session.baselines = baselines
  faithful : session.cache.Faithful (.ofDatabase database)

variable {session : Session} {settings : Settings} {database : Database} {baselines : Baselines}

lemma standsAt_opened (settings : Settings) (database : Database) :
    (opened settings database).StandsAt settings database ∅ :=
  ⟨rfl, rfl, rfl, RuleCache.faithful_ofRules _⟩

/-- `keeping` a `Faithful` cache. -/
lemma StandsAt.keeping (h : session.StandsAt settings database baselines)
    {answer : Preview × RuleCache} (hcache : answer.2.Faithful (.ofDatabase database)) :
    (session.keeping answer).2.StandsAt settings database baselines :=
  ⟨h.settings_eq, h.database_eq, h.baselines_eq, hcache⟩

lemma StandsAt.engine_eq (h : session.StandsAt settings database baselines) :
    session.engine = ⟨.ofDatabase database, settings, baselines⟩ := by
  simp only [engine, engineOver, rules, h.settings_eq, h.database_eq, h.baselines_eq]

/-- `preview` is that of an engine over what the session `StandsAt`, which it leaves as it is. -/
lemma StandsAt.preview (h : session.StandsAt settings database baselines) (g : Snapshot)
    (tradition : Option String) :
    (session.preview g tradition).1
        = (Engine.preview ⟨.ofDatabase database, settings, baselines⟩ g tradition
            (.ofRules (.ofDatabase database))).1 ∧
      (session.preview g tradition).2.StandsAt settings database baselines := by
  unfold Session.preview
  rw [h.engine_eq]
  obtain ⟨hanswer, hleft⟩ := Engine.preview_of_faithful
    ⟨.ofDatabase database, settings, baselines⟩ g tradition h.faithful
  exact ⟨hanswer, h.keeping hleft⟩

/-- `previewModifiers` is that of an engine over what the session `StandsAt`, which it leaves as it
is. -/
lemma StandsAt.previewModifiers (h : session.StandsAt settings database baselines) (g : Snapshot)
    (ids : List (Option String)) :
    (session.previewModifiers g ids).map Prod.fst
        = (Engine.previewModifiers ⟨.ofDatabase database, settings, baselines⟩ g ids
            (.ofRules (.ofDatabase database))).map Prod.fst ∧
      ∀ answer next, session.previewModifiers g ids = .ok (answer, next) →
        next.StandsAt settings database baselines := by
  unfold Session.previewModifiers Engine.previewModifiers
  rw [h.engine_eq]
  split
  · exact ⟨rfl, fun _ _ hok => by cases hok⟩
  · obtain ⟨hanswer, hleft⟩ := Engine.previewIds_of_faithful
      ⟨.ofDatabase database, settings, baselines⟩ g ids h.faithful
    refine ⟨congrArg Except.ok hanswer, fun answer next hok => ?_⟩
    obtain rfl : (session.keeping _).2 = next := congrArg Prod.snd (Except.ok.inj hok)
    exact h.keeping hleft

/-- `updateBaselines` that succeeds takes over the `baselines?` of the operation. -/
lemma StandsAt.updateBaselines (h : session.StandsAt settings database baselines) {g : Snapshot}
    {next : Session} (hok : session.updateBaselines g = .ok next) :
    ∃ updated, (Operation.updateBaselines g).baselines? = some updated ∧
      next.StandsAt settings database updated := by
  unfold Session.updateBaselines at hok
  cases hplayer : g.localPlayer with
  | error fault => rw [hplayer] at hok; cases hok
  | ok player =>
    cases htraces : Baselines.ofTraces player.yieldTraces with
    | error fault => simp [hplayer, htraces, bind, Except.bind, Except.mapError] at hok
    | ok updated =>
      obtain rfl : { session with baselines := updated } = next := by
        simpa [hplayer, htraces, bind, Except.bind, Except.mapError, pure, Except.pure] using hok
      refine ⟨updated, ?_, h.settings_eq, h.database_eq, rfl, h.faithful⟩
      simp [Operation.baselines?, hplayer, htraces, Except.toOption]

lemma baselines?_of_error {g : Snapshot} {fault : Fault}
    (herror : session.updateBaselines g = .error fault) :
    (Operation.updateBaselines g).baselines? = none := by
  unfold Session.updateBaselines at herror
  cases hplayer : g.localPlayer with
  | error fault => simp [Operation.baselines?, hplayer, Except.toOption]
  | ok player =>
    cases htraces : Baselines.ofTraces player.yieldTraces with
    | error fault => simp [Operation.baselines?, hplayer, htraces, Except.toOption]
    | ok updated =>
      simp [hplayer, htraces, bind, Except.bind, Except.mapError, pure, Except.pure] at herror

lemma StandsAt.reload (h : session.StandsAt settings database baselines) (other : Database) :
    (session.reload other).StandsAt settings other ∅ :=
  ⟨h.settings_eq, rfl, rfl, RuleCache.faithful_ofRules _⟩

section Store

variable [TableStore]

/-- `step` changes what the session `StandsAt` to `database?` and `baselines?` of the operation. -/
lemma StandsAt.step (h : session.StandsAt settings database baselines) (operation : Operation) :
    (session.step operation).StandsAt settings ((operation.database? settings).getD database)
      (if (operation.database? settings).isNone then operation.baselines?.getD baselines
        else ∅) := by
  cases operation with
  | preview g tradition => exact (h.preview g tradition).2
  | previewModifiers g ids =>
    -- a list that is refused leaves the session as it was
    simp only [Session.step]
    split
    next answer next hok => exact (h.previewModifiers g ids).2 answer next hok
    next => exact h
  | updateBaselines g =>
    simp only [Session.step]
    split
    next next hok =>
      obtain ⟨updated, hupdated, hnext⟩ := h.updateBaselines hok
      simpa [Operation.database?, hupdated] using hnext
    next fault herror =>
      simpa [Operation.database?, baselines?_of_error herror] using h
  | reload other => exact h.reload other
  | reloadFromSource answer readFile =>
    -- what is loaded depends on the settings only, which no operation changes
    cases hloaded : loaded settings answer readFile with
    | error fault =>
      have hstep : session.step (.reloadFromSource answer readFile) = session := by
        simp only [Session.step, Session.reloadFromSource, h.settings_eq, hloaded]
        rfl
      have hnone : (Operation.reloadFromSource answer readFile).database? settings = none := by
        rw [Operation.database?, hloaded]
        rfl
      rw [hstep, hnone]
      exact h
    | ok other =>
      have hstep : session.step (.reloadFromSource answer readFile) = session.reload other := by
        simp only [Session.step, Session.reloadFromSource, h.settings_eq, hloaded]
        rfl
      have hsome :
          (Operation.reloadFromSource answer readFile).database? settings = some other := by
        rw [Operation.database?, hloaded]
        rfl
      rw [hstep, hsome]
      exact h.reload other

/-- A session `StandsAt` `currentDatabase` and `currentBaselines` of its history. -/
theorem standsAt_after (settings : Settings) (first : Database) (history : List Operation) :
    ((opened settings first).after history).StandsAt settings
      (currentDatabase settings first history) (currentBaselines settings history) := by
  -- induction on the history from its end, where the last operation is
  induction history using List.reverseRecOn with
  | nil => exact standsAt_opened settings first
  | append_singleton earlier operation ih =>
    rw [after_append, after_cons, after_nil, currentDatabase_concat, currentBaselines_concat]
    exact ih.step operation

/-! ## Independence of the history -/

/-- A new session over the database that a history comes to, with the standing yields. -/
def renewed (settings : Settings) (first : Database) (history : List Operation) : Session :=
  { opened settings (currentDatabase settings first history) with
    baselines := currentBaselines settings history }

lemma standsAt_renewed (settings : Settings) (first : Database) (history : List Operation) :
    (renewed settings first history).StandsAt settings
      (currentDatabase settings first history) (currentBaselines settings history) :=
  ⟨rfl, rfl, rfl, RuleCache.faithful_ofRules _⟩

/-- `preview` and `previewModifiers` of `(opened settings first).after history` are those of
`renewed settings first history`, and an operation that `Fails` may be left out of the history. -/
theorem preview_after_history (settings : Settings) (first : Database)
    (history : List Operation) :
    (∀ g tradition,
      (((opened settings first).after history).preview g tradition).1
        = ((renewed settings first history).preview g tradition).1) ∧
    (∀ g ids,
      (((opened settings first).after history).previewModifiers g ids).map Prod.fst
        = ((renewed settings first history).previewModifiers g ids).map Prod.fst) ∧
    ∀ earlier operation later, history = earlier ++ operation :: later →
      ((opened settings first).after earlier).Fails operation →
      (∀ g tradition,
        (((opened settings first).after history).preview g tradition).1
          = (((opened settings first).after (earlier ++ later)).preview g tradition).1) ∧
      ∀ g ids,
        (((opened settings first).after history).previewModifiers g ids).map Prod.fst
          = (((opened settings first).after (earlier ++ later)).previewModifiers g ids).map
              Prod.fst := by
  have hafter := standsAt_after settings first history
  have hrenewed := standsAt_renewed settings first history
  refine ⟨fun g tradition => ?_, fun g ids => ?_, fun earlier operation later heq hfails => ?_⟩
  · rw [(hafter.preview g tradition).1, (hrenewed.preview g tradition).1]
  · rw [(hafter.previewModifiers g ids).1, (hrenewed.previewModifiers g ids).1]
  · have hsame : (opened settings first).after history
        = (opened settings first).after (earlier ++ later) := by
      rw [heq, after_append, after_append, after_cons, step_of_fails hfails]
    exact ⟨fun g tradition => by rw [hsame], fun g ids => by rw [hsame]⟩

end Store

/-! ## A market -/

/-- A table with columns of texts. -/
def texts (columns : List String) (rows : List (List String)) : Table where
  columns := columns.map (⟨·, .text⟩)
  rows := rows.map (·.map Cell.text)

/-- `TRADE` gives 5 gold for each city, if the leader has the trait `TRADER`, and half more gold.
`TANGLE` has after `TOLL` a modifier whose set requires itself. -/
def marketRules : Database :=
  .complete
    [("TraditionModifiers", texts ["TraditionType", "ModifierId"]
        [["TRADE", "TOLL"], ["TRADE", "TITHE"], ["TANGLE", "TOLL"], ["TANGLE", "KNOTTED"]]),
     ("Modifiers", texts ["ModifierId", "ModifierType", "SubjectRequirementSetId"]
        [["TOLL", "IN_CITIES", "TRADERS"], ["TITHE", "FOR_PLAYER", ""],
         ["KNOTTED", "FOR_PLAYER", "KNOT"]]),
     ("DynamicModifiers", texts ["ModifierType", "CollectionType", "EffectType"]
        [["IN_CITIES", "COLLECTION_PLAYER_CITIES", "EFFECT_CITY_ADJUST_YIELD"],
         ["FOR_PLAYER", "COLLECTION_OWNER", "EFFECT_PLAYER_ADJUST_YIELD"]]),
     ("ModifierArguments", texts ["ModifierId", "Name", "Value"]
        [["TOLL", "YieldType", "YIELD_GOLD"], ["TOLL", "Amount", "5"],
         ["TITHE", "YieldType", "YIELD_GOLD"], ["TITHE", "Percent", "50"]]),
     ("RequirementSetRequirements", texts ["RequirementSetId", "RequirementId"]
        [["TRADERS", "LED_BY_TRADER"], ["KNOT", "KNOT_MET"]]),
     ("Requirements", texts ["RequirementId", "RequirementType"]
        [["LED_BY_TRADER", "REQUIREMENT_PLAYER_HAS_CIVILIZATION_OR_LEADER_TRAIT"],
         ["KNOT_MET", setIsMet]]),
     ("RequirementArguments", texts ["RequirementId", "Name", "Value"]
        [["LED_BY_TRADER", "TraitType", "TRADER"], ["KNOT_MET", "RequirementSetId", "KNOT"]]),
     ("LeaderTraits", texts ["LeaderType", "TraitType"] [["ADA", "TRADER"]]),
     ("Yields", texts ["YieldType"] [["YIELD_GOLD"]])] []

/-- A player with one city and standing gold of 10, to which 20 percent apply. -/
def market : Snapshot where
  localPlayerId := some 0
  players := ⟨[(0,
    { id := 0
      leader := some "ADA"
      cities := [{ id := 1, name := none, owner := 0 }]
      yieldTraces := ⟨[("YIELD_GOLD",
        .object [(.text "base", .object [(.text "steps", .array [.object
          [(.text "base", .object [(.text "value", .int 10)]),
           (.text "modifier", .object [(.text "value", .int 20)])]])])])]⟩ })]⟩

/-- Previews of `TRADE` and of `TANGLE`, which is stopped, and then an update of the standing
yields. -/
def marketDay : List Operation :=
  [.preview market (some "TRADE"), .preview market (some "TANGLE"), .updateBaselines market]

/-- An update where the local player is not in the game. -/
def missedUpdate : Operation :=
  .updateBaselines { localPlayerId := some 7 }

/-- A reload from a file that cannot be read. -/
def missedReload : Operation :=
  .reloadFromSource (fun _ => none) fun _ => none

/-- `missedUpdate` and `missedReload` fail after `marketDay` and leave the preview of `TRADE` at the
14 gold of `renewed`, although the cache has `TRADERS` and the preview of `TANGLE` was stopped. -/
theorem preview_after_failed_update :
    let settings : Settings := { databaseJson := some "rules.json" }
    let session := opened settings marketRules
    let history := marketDay ++ [missedUpdate, missedReload]
    ((session.preview market (some "TANGLE")).1.modifiers.map (·.id),
        (session.preview market (some "TANGLE")).1.errors)
      = (["TOLL"], ["RequirementSetCycleError: Requirement set cycle detected: KNOT -> KNOT"]) ∧
    (session.after history).cache.sets.entries.map Prod.fst = ["TRADERS"] ∧
    (session.after history).baselines.keys = ["YIELD_GOLD"] ∧
    (session.after marketDay).Fails missedUpdate ∧
    (session.after (marketDay ++ [missedUpdate])).Fails missedReload ∧
    ((session.after history).preview market (some "TRADE")).1.yields = [("YIELD_GOLD", 14)] ∧
    ((session.after history).preview market (some "TRADE")).1
      = ((renewed settings marketRules history).preview market (some "TRADE")).1 ∧
    ((session.after history).previewModifiers market [some "TOLL"]).map Prod.fst
      = ((renewed settings marketRules history).previewModifiers market [some "TOLL"]).map
          Prod.fst ∧
    ((session.after history).preview market (some "TRADE")).1
      = ((session.after (marketDay ++ [missedReload])).preview market (some "TRADE")).1 ∧
    ((session.after history).preview market (some "TRADE")).1
      = ((session.after (marketDay ++ [missedUpdate])).preview market (some "TRADE")).1 := by
  intro settings session history
  have hupdate : (session.after marketDay).Fails missedUpdate := ⟨_, rfl⟩
  have hreload : (session.after (marketDay ++ [missedUpdate])).Fails missedReload := ⟨_, rfl⟩
  obtain ⟨hpreview, hmodifiers, hfailed⟩ := preview_after_history settings marketRules history
  exact ⟨by decide +kernel, by decide +kernel, by decide +kernel, hupdate, hreload,
    by decide +kernel, hpreview market (some "TRADE"), hmodifiers market [some "TOLL"],
    (hfailed marketDay missedUpdate [missedReload] rfl hupdate).1 market (some "TRADE"),
    (hfailed (marketDay ++ [missedUpdate]) missedReload [] rfl hreload).1 market (some "TRADE")⟩

end PolicyForecast.Session
