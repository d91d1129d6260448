import PolicyForecast.Proofs.History
import PolicyForecast.Proofs.Independence

/-!
# Engines that share the cache of a session

A host may keep an engine that it got from a session and use it later on. The engine stays with the
rules and the game that it was made for, but it uses the cache of the session, which may have turned
to other rules in the meantime: the engine is *outdated* then.

Look-ups always go to the rules behind the cache, so an outdated engine keeps no answer of the rules
that were replaced (`RuleCache.LooksUp` holds after every history). Requirement sets it resolves
from its own rules, and keeps them in the cache. Main statements: as long as no outdated engine is
used after a reload, all that the cache keeps is as the current rules have it, and previews of the
session are those of a new session (`Host.shared_cache_after_history`); without this condition they
need not be (`Host.outdated_engine_leaves_replaced_set`).
-/

namespace PolicyForecast

variable {rules : Rules} {cache : RuleCache} {α : Type}

/-! ## Look-ups of previews over any rules -/

namespace RuleCache

lemma LooksUp.resolve (h : cache.LooksUp rules) (other : Rules) (id : Option String) :
    (cache.resolve other id).2.LooksUp rules :=
  ⟨h.rules_eq, h.answers⟩

/-- `serve` under other rules leaves a cache that `LooksUp` the same ones. -/
lemma LooksUp.serve (h : cache.LooksUp rules) (other : Rules) (q : Request) :
    (cache.serve other q).2.LooksUp rules := by
  cases q with
  | lookUp table key => exact (lookUp_of_looksUp h table key).2.1
  | modifier id => exact h.resolve other (some id)
  | district | constructible | unitDomain | unit | adjacency | adjacencyMembers | warehouse
  | maintenances => exact h

lemma LooksUp.run (h : cache.LooksUp rules) (other : Rules) (x : Consulting α) :
    (x.run other cache).2.LooksUp rules := by
  induction x generalizing cache with
  | done a => exact h
  | note e rest ih => exact ih h
  | ask q next ih => exact ih _ (h.serve other q)

lemma LooksUp.resolveAll (h : cache.LooksUp rules) (other : Rules) (ids : List (Option String)) :
    (Engine.resolveAll other ids cache).2.LooksUp rules := by
  induction ids generalizing cache with
  | nil => exact h
  | cons id rest ih =>
    unfold Engine.resolveAll
    have hleft := h.resolve other id
    rcases hrun : cache.resolve other id with ⟨found, left⟩
    rw [hrun] at hleft
    cases found with
    | error fault => exact hleft
    | ok found => exact ih hleft

lemma LooksUp.previewIds (h : cache.LooksUp rules) (e : Engine) (g : Snapshot)
    (ids : List (Option String)) : (e.previewIds g ids cache).2.LooksUp rules := by
  show (e.run g ids cache).2.LooksUp rules
  unfold Engine.run
  cases e.scene g with
  | error fault => exact h
  | ok s =>
    have hleft := h.resolveAll e.rules ids
    rcases hrun : Engine.resolveAll e.rules ids cache with ⟨⟨modifiers, result⟩, left⟩
    rw [hrun] at hleft
    cases result with
    | error fault => exact hleft
    | ok _ => exact hleft.run e.rules _

end RuleCache

/-! ## What operations do to a cache -/

/-- A cache is left by a preview of modifiers, or is the one that was there before. -/
inductive Engine.Leaves (e : Engine) (cache : RuleCache) : RuleCache → Prop
  | untouched : Leaves e cache cache
  | previewed (g : Snapshot) (ids : List (Option String)) :
      Leaves e cache (e.previewIds g ids cache).2

namespace Engine

variable (e : Engine) (g : Snapshot)

lemma leaves_preview (tradition : Option String) (cache : RuleCache) :
    e.Leaves cache (e.preview g tradition cache).2 := by
  unfold preview
  cases tradition.filter (· ≠ "") with
  | none => exact .untouched
  | some t => exact .previewed g _

lemma leaves_previewModifiers {ids : List (Option String)} {cache : RuleCache}
    {answer : Preview × RuleCache} (h : e.previewModifiers g ids cache = .ok answer) :
    e.Leaves cache answer.2 := by
  unfold previewModifiers at h
  split at h
  · cases h
  · obtain rfl := Except.ok.inj h
    exact .previewed g ids

/-- A preview under other rules leaves a cache that `LooksUp` the same ones. -/
lemma Leaves.looksUp {e : Engine} {left : RuleCache} (h : e.Leaves cache left)
    (hcache : cache.LooksUp rules) : left.LooksUp rules := by
  cases h with
  | untouched => exact hcache
  | previewed g ids => exact hcache.previewIds e g ids

end Engine

namespace Session

variable [TableStore]

/-- `step` leaves another cache, other baselines or another database. -/
lemma step_cases (session : Session) (operation : Operation) :
    (∃ left, session.engine.Leaves session.cache left ∧
      session.step operation = { session with cache := left }) ∨
    (∃ baselines, session.step operation = { session with baselines }) ∨
    ∃ database, session.step operation = session.reload database := by
  cases operation with
  | preview g tradition =>
    exact .inl ⟨_, session.engine.leaves_preview g tradition session.cache, rfl⟩
  | previewModifiers g ids =>
    simp only [step, previewModifiers]
    cases hanswer : session.engine.previewModifiers g ids session.cache with
    | error fault => exact .inl ⟨_, .untouched, rfl⟩
    | ok answer => exact .inl ⟨_, session.engine.leaves_previewModifiers g hanswer, rfl⟩
  | updateBaselines g =>
    simp only [step, updateBaselines]
    cases g.localPlayer with
    | error fault => exact .inl ⟨_, .untouched, rfl⟩
    | ok player =>
      simp only [bind, Except.bind]
      cases Baselines.ofTraces player.yieldTraces with
      | error fault => exact .inl ⟨_, .untouched, rfl⟩
      | ok baselines => exact .inr (.inl ⟨baselines, rfl⟩)
  | reload database => exact .inr (.inr ⟨database, rfl⟩)
  | reloadFromSource answer readFile =>
    simp only [step, reloadFromSource]
    cases loaded session.settings answer readFile with
    | error fault => exact .inl ⟨_, .untouched, rfl⟩
    | ok database => exact .inr (.inr ⟨database, rfl⟩)

/-- `step` of an operation with a `database?` is `reload`. -/
lemma step_of_database? {session : Session} {operation : Operation} {database : Database}
    (h : operation.database? session.settings = some database) :
    session.step operation = session.reload database := by
  cases operation with
  | reload other =>
    obtain rfl : other = database := Option.some.inj h
    rfl
  | reloadFromSource answer readFile =>
    simp only [Operation.database?] at h
    simp only [step, reloadFromSource]
    cases hloaded : loaded session.settings answer readFile with
    | error fault =>
      rw [hloaded] at h
      cases h
    | ok other =>
      rw [hloaded] at h
      obtain rfl : other = database := Option.some.inj h
      rfl
  | preview | previewModifiers | updateBaselines => cases h

end Session

/-! ## Hosts -/

/-- An engine that was got from a session: the rules and the game that it was made for. -/
structure HeldEngine where
  rules : Rules
  game : Snapshot

/-- A session, and the engines that were got from it. -/
structure Host where
  session : Session
  engines : List HeldEngine := []

namespace Host

/-- What a host does. -/
inductive Operation where
  /-- An operation of the session. -/
  | session (operation : Session.Operation)
  /-- A request for an engine for a game. -/
  | engine (g : Snapshot)
  /-- The preview of a tradition by one of the engines. -/
  | preview (index : Nat) (tradition : Option String)
  /-- The preview of a list of modifiers by one of the engines. -/
  | previewModifiers (index : Nat) (ids : List (Option String))

/-- A host that has a session over a database and nothing else yet. -/
def opened (settings : Settings) (database : Database) : Host where
  session := .opened settings database

/-- The session after a preview of modifiers by an engine; a list that is refused changes
nothing. -/
def afterPreviewModifiers (session : Session) (engine : HeldEngine)
    (ids : List (Option String)) : Session :=
  match (session.engineOver engine.rules).previewModifiers engine.game ids session.cache with
  | .ok answer => (session.keeping answer).2
  | .error _ => session

section Store

variable [TableStore]

/-- The host after an operation. There is nothing to do with an engine that there is not. -/
def step (host : Host) : Operation → Host
  | .session operation => { host with session := host.session.step operation }
  | .engine g => { host with engines := host.engines ++ [⟨host.session.rules, g⟩] }
  | .preview index tradition =>
    match host.engines[index]? with
    | none => host
    | some engine =>
      { host with
        session := (host.session.previewOver engine.rules engine.game tradition).2 }
  | .previewModifiers index ids =>
    match host.engines[index]? with
    | none => host
    | some engine => { host with session := afterPreviewModifiers host.session engine ids }

/-- An operation does not use an outdated engine: if it uses one, the engine is over the current
rules. -/
def Operation.Current (host : Host) : Operation → Prop
  | .preview index _ | .previewModifiers index _ =>
    ∀ engine ∈ host.engines[index]?, engine.rules = host.session.rules
  | .session _ | .engine _ => True

/-- An operation changes to another database. -/
def Operation.Reloads (settings : Settings) : Operation → Prop
  | .session operation => (operation.database? settings).isSome
  | .engine _ | .preview .. | .previewModifiers .. => False

/-- No operation of a history uses an outdated engine. -/
def UsesCurrent (host : Host) : List Operation → Prop
  | [] => True
  | operation :: later => operation.Current host ∧ (host.step operation).UsesCurrent later

/-- The host after a history. -/
def after (host : Host) (history : List Operation) : Host :=
  history.foldl step host

@[simp] lemma after_append (host : Host) (earlier later : List Operation) :
    host.after (earlier ++ later) = (host.after earlier).after later :=
  List.foldl_append

/-- `step` of a host leaves another cache, by a preview over some rules that are the current ones if
the operation is `Current`, or other baselines or another database. -/
lemma step_cases (host : Host) (operation : Operation) :
    (∃ rules left, (host.session.engineOver rules).Leaves host.session.cache left ∧
      (operation.Current host → rules = host.session.rules) ∧
      (host.step operation).session = { host.session with cache := left }) ∨
    (∃ baselines, (host.step operation).session = { host.session with baselines }) ∨
    ∃ database, (host.step operation).session = host.session.reload database := by
  have hidle : (∃ rules left, (host.session.engineOver rules).Leaves host.session.cache left ∧
      (operation.Current host → rules = host.session.rules) ∧
      host.session = { host.session with cache := left }) :=
    ⟨host.session.rules, _, .untouched, fun _ => rfl, rfl⟩
  cases operation with
  | session operation =>
    rcases host.session.step_cases operation with ⟨left, hleft, heq⟩ | h
    · exact .inl ⟨host.session.rules, left, hleft, fun _ => rfl, heq⟩
    · exact .inr h
  | engine g => exact .inl hidle
  | preview index tradition =>
    simp only [step, Operation.Current] at hidle ⊢
    cases hengine : host.engines[index]? with
    | none => exact .inl (by simpa only [hengine] using hidle)
    | some engine =>
      exact .inl ⟨engine.rules, _, Engine.leaves_preview _ engine.game tradition _,
        fun h => h engine rfl, rfl⟩
  | previewModifiers index ids =>
    simp only [step, Operation.Current] at hidle ⊢
    cases hengine : host.engines[index]? with
    | none => exact .inl (by simpa only [hengine] using hidle)
    | some engine =>
      dsimp only [afterPreviewModifiers]
      cases hanswer :
          (host.session.engineOver engine.rules).previewModifiers engine.game ids
            host.session.cache with
      | error fault => exact .inl (by simpa only [hengine] using hidle)
      | ok answer =>
        exact .inl ⟨engine.rules, _, Engine.leaves_previewModifiers _ _ hanswer,
          fun h => h engine rfl, rfl⟩

end Store

/-! ## Look-ups after every history -/

/-- The settings are as they were, and the look-ups that the cache keeps are those of the current
rules. -/
structure KeepsLookUps (host : Host) (settings : Settings) : Prop where
  settings_eq : host.session.settings = settings
  looksUp : host.session.cache.LooksUp host.session.rules

variable {host : Host} {settings : Settings}

lemma keepsLookUps_opened (settings : Settings) (database : Database) :
    (opened settings database).KeepsLookUps settings :=
  ⟨rfl, RuleCache.looksUp_ofRules _⟩

section Store

variable [TableStore]

lemma KeepsLookUps.step (h : host.KeepsLookUps settings) (operation : Operation) :
    (host.step operation).KeepsLookUps settings := by
  rcases host.step_cases operation with
    ⟨rules, left, hleft, -, heq⟩ | ⟨baselines, heq⟩ | ⟨database, heq⟩
  · exact ⟨by rw [heq]; exact h.settings_eq, by rw [heq]; exact hleft.looksUp h.looksUp⟩
  · exact ⟨by rw [heq]; exact h.settings_eq, by rw [heq]; exact h.looksUp⟩
  · exact ⟨by rw [heq]; exact h.settings_eq, by rw [heq]; exact RuleCache.looksUp_ofRules _⟩

lemma KeepsLookUps.after (h : host.KeepsLookUps settings) (history : List Operation) :
    (host.after history).KeepsLookUps settings := by
  induction history generalizing host with
  | nil => exact h
  | cons operation later ih => exact ih (h.step operation)

end Store

/-! ## Sets after histories without outdated engines -/

/-- The session stands at its own database and standing yields. -/
def Stands (host : Host) (settings : Settings) : Prop :=
  host.session.StandsAt settings host.session.database host.session.baselines

lemma stands_opened (settings : Settings) (database : Database) :
    (opened settings database).Stands settings :=
  Session.standsAt_opened settings database

section Store

variable [TableStore]

lemma stands_of_reloads (h : host.session.settings = settings) {operation : Operation}
    (hreloads : operation.Reloads settings) : (host.step operation).Stands settings := by
  cases operation with
  | session operation =>
    obtain ⟨database, hdatabase⟩ := Option.isSome_iff_exists.1 hreloads
    rw [← h] at hdatabase
    have hsession : (host.step (.session operation)).session = host.session.reload database :=
      Session.step_of_database? hdatabase
    unfold Stands
    rw [hsession]
    exact ⟨h, rfl, rfl, RuleCache.faithful_ofRules _⟩
  | engine | preview | previewModifiers => exact hreloads.elim

lemma Stands.step (h : host.Stands settings) {operation : Operation}
    (hcurrent : operation.Current host) : (host.step operation).Stands settings := by
  unfold Stands
  rcases host.step_cases operation with
    ⟨rules, left, hleft, hrules, heq⟩ | ⟨baselines, heq⟩ | ⟨database, heq⟩
  · obtain rfl := hrules hcurrent
    have hfaithful : left.Faithful host.session.rules := by
      cases hleft with
      | untouched => exact h.faithful
      | previewed g ids => exact (Engine.previewIds_of_faithful _ g ids h.faithful).2
    rw [heq]
    exact ⟨h.settings_eq, rfl, rfl, hfaithful⟩
  · rw [heq]
    exact ⟨h.settings_eq, rfl, rfl, h.faithful⟩
  · rw [heq]
    exact ⟨h.settings_eq, rfl, rfl, RuleCache.faithful_ofRules _⟩

lemma Stands.after (h : host.Stands settings) {history : List Operation}
    (hcurrent : host.UsesCurrent history) : (host.after history).Stands settings := by
  induction history generalizing host with
  | nil => exact h
  | cons operation later ih => exact ih (h.step hcurrent.1) hcurrent.2

/-- A new session like the one that a host has: over the same database, with the same standing
yields. -/
def renewed (host : Host) : Session :=
  { Session.opened host.session.settings host.session.database with
    baselines := host.session.baselines }

/-- After every history the cache `LooksUp` the current rules. If the operations since the last one
that `Reloads` are such that `UsesCurrent`, the sets of the cache are `Sound` for them, and previews
are those of `renewed`. -/
theorem shared_cache_after_history (settings : Settings) (first : Database)
    (history : List Operation) :
    let host := (opened settings first).after history
    host.session.cache.LooksUp host.session.rules ∧
    ∀ earlier later, history = earlier ++ later →
      (earlier = [] ∨ ∃ before reload, earlier = before ++ [reload] ∧ reload.Reloads settings) →
      ((opened settings first).after earlier).UsesCurrent later →
      host.session.rules.Sound host.session.cache.sets ∧
      (∀ g tradition,
        (host.session.preview g tradition).1 = (host.renewed.preview g tradition).1) ∧
      ∀ g ids,
        (host.session.previewModifiers g ids).map Prod.fst
          = (host.renewed.previewModifiers g ids).map Prod.fst := by
  intro host
  have hopened := keepsLookUps_opened settings first
  refine ⟨(hopened.after history).looksUp, fun earlier later heq hstart hcurrent => ?_⟩
  have hstands : host.Stands settings := by
    have hearlier : ((opened settings first).after earlier).Stands settings := by
      rcases hstart with rfl | ⟨before, reload, rfl, hreloads⟩
      · exact stands_opened settings first
      · rw [after_append]
        exact stands_of_reloads (hopened.after before).settings_eq hreloads
    have hlater := hearlier.after hcurrent
    rwa [← after_append, ← heq] at hlater
  have hrenewed : host.renewed.StandsAt settings host.session.database host.session.baselines :=
    ⟨hstands.settings_eq, rfl, rfl, RuleCache.faithful_ofRules _⟩
  exact ⟨hstands.faithful.sets,
    fun g tradition => (hstands.preview g tradition).1.trans (hrenewed.preview g tradition).1.symm,
    fun g ids =>
      (hstands.previewModifiers g ids).1.trans (hrenewed.previewModifiers g ids).1.symm⟩

end Store

/-! ## An outdated engine -/

/-- A modifier for the player, whose set has one requirement of `type`. -/
def requiring (type : String) : Database :=
  .complete
    [("Modifiers",
      ⟨[⟨"ModifierId", .text⟩, ⟨"ModifierType", .text⟩, ⟨"SubjectRequirementSetId", .text⟩],
        [[.text "MODIFIER", .text "TYPE", .text "SET"]]⟩),
     ("DynamicModifiers",
      ⟨[⟨"ModifierType", .text⟩, ⟨"CollectionType", .text⟩],
        [[.text "TYPE", .text "COLLECTION_OWNER"]]⟩),
     ("RequirementSetRequirements",
      ⟨[⟨"RequirementSetId", .text⟩, ⟨"RequirementId", .text⟩],
        [[.text "SET", .text "REQUIREMENT"]]⟩),
     ("Requirements",
      ⟨[⟨"RequirementId", .text⟩, ⟨"RequirementType", .text⟩],
        [[.text "REQUIREMENT", .text type]]⟩)] []

/-- `missings` of `previewModifiers` are those of `run`. -/
lemma missings_previewModifiers (session : Session) (g : Snapshot) {ids : List (Option String)}
    (h : ids.contains none = false) :
    (session.previewModifiers g ids).map (·.1.missings)
      = .ok (session.engine.run g ids session.cache).1.2.missings := by
  unfold Session.previewModifiers Engine.previewModifiers
  rw [if_neg (by simpa using h)]
  exact congrArg Except.ok (session.engine.remarks_of_answer _ _).2.2.1

/-- Engine 0 is used before the reload, engine 1 is got and used after it: `UsesCurrent` holds, and
`previewModifiers` is that of `renewed`. -/
theorem engine_got_after_reload :
    let before : List Operation := [.engine .solitaire, .previewModifiers 0 [some "MODIFIER"]]
    let reload : Operation := .session (.reload (requiring "NEW"))
    let later : List Operation := [.engine .solitaire, .previewModifiers 1 [some "MODIFIER"]]
    let host := (opened {} (requiring "OLD")).after (before ++ [reload] ++ later)
    reload.Reloads {} ∧
      ((opened {} (requiring "OLD")).after (before ++ [reload])).UsesCurrent later ∧
      (host.session.previewModifiers .solitaire [some "MODIFIER"]).map Prod.fst
        = (host.renewed.previewModifiers .solitaire [some "MODIFIER"]).map Prod.fst := by
  intro before reload later host
  have hreloads : reload.Reloads {} := rfl
  have hcurrent : ((opened {} (requiring "OLD")).after (before ++ [reload])).UsesCurrent later :=
    ⟨trivial, fun engine hengine => by rw [← Option.some.inj hengine]; rfl, trivial⟩
  have hshared := shared_cache_after_history {} (requiring "OLD") (before ++ [reload] ++ later)
  have hpreviews := hshared.2 _ later rfl (.inr ⟨before, reload, rfl, hreloads⟩) hcurrent
  exact ⟨hreloads, hcurrent, hpreviews.2.2 .solitaire [some "MODIFIER"]⟩

/-- A host that gets an engine over `requiring "OLD"`, reloads `requiring "NEW"` and then uses the
engine. -/
def outdated : Host :=
  (opened {} (requiring "OLD")).after
    [.engine .solitaire, .session (.reload (requiring "NEW")),
     .previewModifiers 0 [some "MODIFIER"]]

/-- In `outdated`, the set of `requiring "OLD"` is kept after the reload of `requiring "NEW"`, so
that `previewModifiers` finds the requirement type `OLD`, where `renewed` finds `NEW`. -/
theorem outdated_engine_leaves_replaced_set :
    ¬ outdated.session.rules.Sound outdated.session.cache.sets ∧
      (outdated.session.previewModifiers .solitaire [some "MODIFIER"]).map (·.1.missings)
        = .ok ["Unhandled RequirementType: OLD (REQUIREMENT)"] ∧
      (outdated.renewed.previewModifiers .solitaire [some "MODIFIER"]).map (·.1.missings)
        = .ok ["Unhandled RequirementType: NEW (REQUIREMENT)"] := by
  have hshared : (outdated.session.engine.run .solitaire [some "MODIFIER"]
      outdated.session.cache).1.2.missings = ["Unhandled RequirementType: OLD (REQUIREMENT)"] := by
    decide +kernel
  have hnew : (outdated.session.engine.run .solitaire [some "MODIFIER"]
      outdated.renewed.cache).1.2.missings = ["Unhandled RequirementType: NEW (REQUIREMENT)"] := by
    decide +kernel
  refine ⟨fun hsound => ?_, ?_, ?_⟩
  · -- a faithful cache would make no difference
    have hlookups := ((keepsLookUps_opened {} (requiring "OLD")).after _ : outdated.KeepsLookUps {})
    have hsame := outdated.session.engine.run_of_faithful .solitaire [some "MODIFIER"]
      (hlookups.looksUp.faithful hsound)
    have hfresh := outdated.session.engine.run_of_faithful .solitaire [some "MODIFIER"]
      (RuleCache.faithful_ofRules outdated.session.rules)
    have hequal : ["Unhandled RequirementType: OLD (REQUIREMENT)"]
        = ["Unhandled RequirementType: NEW (REQUIREMENT)"] :=
      hshared.symm.trans ((congrArg (·.2.missings) (hsame.1.trans hfresh.1.symm)).trans hnew)
    exact absurd hequal (by decide)
  · rw [missings_previewModifiers _ _ rfl, hshared]
  · exact (missings_previewModifiers _ _ rfl).trans (congrArg Except.ok hnew)

end Host

end PolicyForecast
