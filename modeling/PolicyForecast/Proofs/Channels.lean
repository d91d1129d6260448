import PolicyForecast.Proofs.MalformedApplication
import PolicyForecast.Proofs.Replies
import PolicyForecast.Proofs.Selection
import PolicyForecast.Proofs.Totals
import PolicyForecast.Proofs.WrittenLists

/-!
# Which sums an effect changes

The effect of a modifier that is no attachment changes the sums of one channel, and there only those
of the types that it concerns. The channel is settled by the kind of the effect and the arguments of
the modifier (`YieldEffect.channel`). The types are those that the modifier names, or those of the
row of the rules that it names; for savings on constructibles they are those of the payments that
are selected (`YieldEffect.Concerns`).

This is first said of records (`Recorded.Writes`) and kept by sequences; of a delta to which all
that is contributed the rest is then unchanged. Main statement:
`Scene.application_writes_one_channel`.
-/

namespace PolicyForecast

variable {ε α β : Type}

/-! ## Records that contribute to one channel -/

namespace Recorded

variable {c : Channel} {P : String → Prop}

/-- All that is contributed goes to one channel, and there to types with a property. -/
def Writes (c : Channel) (P : String → Prop) (x : Recorded ε α) : Prop :=
  ∀ a ∈ x.additions, a.channel = c ∧ ∀ type ∈ yieldTypes a.types, P type

lemma Writes.mono {P' : String → Prop} {x : Recorded ε α} (h : x.Writes c P)
    (himp : ∀ type, P type → P' type) : x.Writes c P' :=
  fun a ha => ⟨(h a ha).1, fun type htype => himp type ((h a ha).2 type htype)⟩

lemma Writes.bind {x : Recorded ε α} {f : α → Recorded ε β} (hx : x.Writes c P)
    (hf : ∀ a, x.result = .ok a → (f a).Writes c P) : (x >>= f).Writes c P := by
  cases hresult : x.result with
  | error fault =>
    rw [bind_of_error hresult]
    exact hx
  | ok a =>
    rw [bind_of_ok hresult]
    intro added hadded
    unfold additions at hadded
    rw [List.filterMap_append, List.mem_append] at hadded
    rcases hadded with h | h
    · exact hx added h
    · exact hf a hresult added h

end Recorded

namespace Evaluation

open Recorded

variable {answers : Answers} {c : Channel} {P : String → Prop}

/-- A computation that is `Confined` to remarks `Writes` nothing. -/
lemma writes_of_confined {x : Evaluation α} (h : x.Confined Event.IsRemark) :
    (x.given answers).Writes c P := by
  intro a ha
  obtain ⟨e, he, hadded⟩ := List.mem_filterMap.1 ha
  rw [Consulting.Confined.of_mem_given h answers e he] at hadded
  cases hadded

lemma writes_contribute {types : Option String} {value : Float}
    (h : ∀ type ∈ yieldTypes types, P type) :
    ((contribute c types value).given answers).Writes c P := by
  intro a ha
  obtain rfl := List.mem_singleton.1 ha
  exact ⟨rfl, h⟩

lemma writes_pure (a : α) : ((pure a : Evaluation α).given answers).Writes c P :=
  writes_of_confined (confined_pure a)

/-- After a part that is `Confined` to remarks, `>>=` writes what its second part does. -/
lemma writes_bind {x : Evaluation α} {f : α → Evaluation β} (hx : x.Confined Event.IsRemark)
    (hf : ∀ a, (x.given answers).result = .ok a → ((f a).given answers).Writes c P) :
    ((x >>= f).given answers).Writes c P := by
  rw [given_bind]
  exact (writes_of_confined hx).bind hf

lemma writes_forM {f : α → Evaluation Unit} {as : List α}
    (h : ∀ a ∈ as, ((f a).given answers).Writes c P) :
    ((as.forM f).given answers).Writes c P := by
  induction as with
  | nil => exact writes_pure ()
  | cons a rest ih =>
    rw [List.forall_mem_cons] at h
    show ((f a >>= fun _ => rest.forM f).given answers).Writes c P
    rw [given_bind]
    exact h.1.bind fun _ _ => ih h.2

lemma result_ofRule_eq_ok {r : Except RuleFault α} {a : α} :
    ((ofRule r).given answers).result = .ok a ↔ r = .ok a := by
  cases r with
  | error fault => exact ⟨nofun, nofun⟩
  | ok b => exact ⟨fun h => congrArg _ (Except.ok.inj h), fun h => congrArg _ (Except.ok.inj h)⟩

/-- `writes_bind` after `ofConsulting`, which always ends well. -/
lemma writes_ofConsulting_bind {x : Consulting α} (hx : x.Confined Event.IsRemark)
    {f : α → Evaluation β} (hf : ((f (x.given answers).2).given answers).Writes c P) :
    ((ofConsulting x >>= f).given answers).Writes c P := by
  refine writes_bind (confined_ofConsulting hx) fun a ha => ?_
  rw [given_ofConsulting] at ha
  obtain rfl := Except.ok.inj ha
  exact hf

end Evaluation

/-! ## Types and channels -/

namespace Modifier

/-- A yield type is among those that a modifier names. -/
def NamesYield (m : Modifier) (type : String) : Prop :=
  ∃ text, m.arguments.filled? "YieldType" = some text ∧ type ∈ Text.items text

/-- A modifier selects a type of constructible: the one that it names, or else each with the tag
that it names, or else any. -/
def SelectsConstructible (m : Modifier) (cache : RuleCache) (type : Option String) : Prop :=
  match m.arguments.filled? "ConstructibleType", m.arguments.filled? "Tag" with
  | some wanted, _ => type = some wanted
  | none, some tag => some tag ∈ (cache.lookUp .tagsOfType type).1
  | none, none => True

/-- A yield type in which a constructible of some cities makes a payment, and a modifier selects the
constructible and the payment. -/
def SavesIn (m : Modifier) (rules : Rules) (cache : RuleCache) (s : Scene) (cities : List City)
    (type : String) : Prop :=
  ∃ constructible ∈ cities.flatMap s.game.map.cityConstructibles,
    m.SelectsConstructible cache constructible ∧
      ∃ r ∈ rules.maintenancesOf constructible,
        m.concernsYield r.yieldType = true ∧ type ∈ yieldTypes r.yieldType

end Modifier

namespace YieldEffect

/-- The channel of an effect. -/
def channel (m : Modifier) : YieldEffect → Channel
  | .playerYield => if m.arguments.has "Percent" then .percent else m.flatChannel
  | .cityYield => if m.arguments.has "Percent" then .amount else m.flatChannel
  | .cityYieldPer _ | .playerYieldPer _ | .plotYield => m.flatChannel
  | .cityAdjacency | .cityWarehouse => .amount
  | .cityMaintenance | .playerUnitMaintenance | .playerMaintenance | .unitMaintenance =>
    .noMultiplier

/-- The yield types that an effect on a subject concerns. -/
def Concerns (rules : Rules) (cache : RuleCache) (s : Scene) (m : Modifier) (subject : Subject)
    (type : String) : YieldEffect → Prop
  | .cityYield | .cityYieldPer _ | .playerYield | .playerYieldPer _ | .plotYield =>
    m.NamesYield type
  | .cityAdjacency =>
    ∃ id rule, m.arguments.filled? "ConstructibleAdjacency" = some id ∧
      rules.adjacency? id = some rule ∧ type ∈ yieldTypes rule.yieldType
  | .cityWarehouse =>
    ∃ id rule, m.arguments.filled? "WarehouseYieldChange" = some id ∧
      rules.warehouse? id = some rule ∧ type ∈ yieldTypes rule.yieldType
  | .playerUnitMaintenance | .unitMaintenance => type ∈ Text.items m.unitYieldTypes
  | .cityMaintenance => ∃ c, subject = .city c ∧ m.SavesIn rules cache s [c] type
  | .playerMaintenance => ∃ p, subject = .player p ∧ m.SavesIn rules cache s p.cities type

end YieldEffect

/-! ## What effects contribute to -/

open Recorded Evaluation

variable {answers : Answers} {rules : Rules} {cache : RuleCache} {s : Scene}

namespace Modifier

variable {m : Modifier} {c : Channel} {P : String → Prop}

lemma text_eq_ok {name text : String} :
    m.text name = .ok text ↔ m.arguments.filled? name = some text := by
  unfold Modifier.text
  cases m.arguments.filled? name with
  | none => exact ⟨nofun, nofun⟩
  | some value =>
    exact ⟨fun h => congrArg _ (Except.ok.inj h), fun h => congrArg _ (Option.some.inj h)⟩

/-- `number?` has a value iff the argument is there. -/
lemma isSome_of_number? {name : String} {x : Option Float} (h : m.number? name = .ok x) :
    x.isSome = m.arguments.has name := by
  unfold number? at h
  unfold Arguments.has
  cases hfilled : m.arguments.filled? name with
  | none =>
    rw [hfilled] at h
    obtain rfl := Except.ok.inj h
    rfl
  | some text =>
    rw [hfilled] at h
    obtain ⟨number, -, hnumber⟩ := Except.exists_of_bind_ok h
    obtain rfl := Except.ok.inj hnumber
    rfl

/-- `writes_bind` after `text`, with the text of the argument. -/
lemma writes_text_bind {name : String} {f : String → Evaluation β}
    (hf : ∀ text, m.arguments.filled? name = some text → ((f text).given answers).Writes c P) :
    ((ofRule (m.text name) >>= f).given answers).Writes c P :=
  writes_bind (confined_ofRule _) fun text h => hf text (text_eq_ok.1 (result_ofRule_eq_ok.1 h))

lemma writes_addAmount (amount : Float) :
    ((m.addAmount amount).given answers).Writes m.flatChannel m.NamesYield :=
  writes_text_bind fun text htext => writes_contribute fun _ htype => ⟨text, htext, htype⟩

lemma writes_addOwnAmount :
    (m.addOwnAmount.given answers).Writes m.flatChannel m.NamesYield :=
  writes_bind (confined_ofRule _) fun amount _ => writes_addAmount amount

lemma writes_addAmountTimes (count : Quantity) :
    ((m.addAmountTimes count).given answers).Writes m.flatChannel m.NamesYield :=
  writes_bind (confined_ofRule _) fun _ _ =>
    writes_bind (confined_ofNumber _) fun _ _ => writes_addAmount _

lemma writes_addPercent (percent : Float) :
    ((m.addPercent percent).given answers).Writes .percent m.NamesYield :=
  writes_text_bind fun text htext => writes_contribute fun _ htype => ⟨text, htext, htype⟩

lemma writes_addCityPercent (city : City) (percent : Float) :
    ((m.addCityPercent city percent).given answers).Writes .amount m.NamesYield := by
  refine writes_text_bind fun text htext => writes_forM fun item hitem => ?_
  refine writes_bind (confined_ofNumber _) fun _ _ => writes_contribute fun type htype => ?_
  -- each share is contributed under one item of the text
  have hitems : yieldTypes (some item) = [item] := Text.items_of_mem_items hitem
  rw [hitems, List.mem_singleton] at htype
  exact ⟨text, htext, htype ▸ hitem⟩

lemma writes_saveOnUnits (p : Player) : ((m.saveOnUnits p).given answers).Writes .noMultiplier
    fun type => type ∈ Text.items m.unitYieldTypes :=
  writes_bind (UnitGroup.confined_ofUnits _) fun _ _ =>
    writes_bind (confined_ofExcept _) fun _ _ => writes_contribute fun _ htype => htype

lemma writes_saveOnUnit (u : GameUnit) : ((m.saveOnUnit u).given answers).Writes .noMultiplier
    fun type => type ∈ Text.items m.unitYieldTypes := by
  refine writes_bind (confined_ofConsulting (UnitGroup.confined_single u)) fun group _ => ?_
  split
  · exact writes_bind (confined_ofExcept _) fun _ _ => writes_contribute fun _ htype => htype
  · exact writes_pure _

/-- What `concernsConstructible` picks is selected. -/
lemma selects_of_concerns {type : Option String}
    (h : ((m.concernsConstructible type).given (cache.replies rules)).2 = true) :
    m.SelectsConstructible cache type := by
  unfold concernsConstructible at h
  unfold SelectsConstructible
  split
  next wanted hwanted =>
    simp only [hwanted] at h
    exact eq_of_beq h
  next tag hnone htag =>
    simp only [hnone, htag] at h
    exact List.contains_iff_mem.1 h
  next => trivial

lemma writes_saveOnPayment {cities : List City} {type : Option String} {r : MaintenanceRecord}
    (htype : type ∈ cities.flatMap s.game.map.cityConstructibles)
    (hselects : m.SelectsConstructible cache type)
    (hr : r ∈ (rules.maintenancesOf type).filter fun r => m.concernsYield r.yieldType) :
    ((m.saveOnPayment r).given answers).Writes .noMultiplier
      (m.SavesIn rules cache s cities) := by
  obtain ⟨hrecord, hyield⟩ := List.mem_filter.1 hr
  exact writes_bind (confined_ofExcept _) fun _ _ => writes_contribute fun _ hnamed =>
    ⟨type, htype, hselects, r, hrecord, hyield, hnamed⟩

lemma writes_saveOnConstructible {cities : List City} {type : Option String}
    (htype : type ∈ cities.flatMap s.game.map.cityConstructibles) :
    ((m.saveOnConstructible type).given (cache.replies rules)).Writes .noMultiplier
      (m.SavesIn rules cache s cities) := by
  refine writes_ofConsulting_bind (m.confined_concernsConstructible type) ?_
  split
  next hconcerned =>
    refine writes_ofConsulting_bind Consulting.confined_request ?_
    exact writes_forM fun r hr => writes_saveOnPayment htype (selects_of_concerns hconcerned) hr
  next => exact writes_pure ()

lemma writes_saveOnConstructibles (cities : List City) :
    ((m.saveOnConstructibles s cities).given (cache.replies rules)).Writes .noMultiplier
      (m.SavesIn rules cache s cities) := by
  unfold saveOnConstructibles
  split
  · exact writes_forM fun type htype => writes_saveOnConstructible htype
  · exact writes_of_confined (confined_ofExcept _)

end Modifier

namespace YieldEffect

variable {m : Modifier}

lemma writes_addAdjacency (subject : Subject) (c : City) :
    ((addAdjacency s m c).given (cache.replies rules)).Writes .amount
      fun type => cityAdjacency.Concerns rules cache s m subject type := by
  refine Modifier.writes_text_bind fun id hid => ?_
  refine writes_ofConsulting_bind Consulting.confined_request ?_
  have hanswer : ((Consulting.request (.adjacency id)).given (cache.replies rules)).2
      = rules.adjacency? id := rfl
  rw [hanswer]
  cases hrule : rules.adjacency? id with
  | none => exact writes_of_confined (confined_note rfl)
  | some rule =>
    refine writes_ofConsulting_bind Consulting.confined_request ?_
    refine writes_bind ((sequential_confined _).mapM (rule.confined_yield s.game.map) _)
      fun _ _ => writes_contribute fun type htype => ?_
    exact ⟨id, rule, hid, hrule, htype⟩

lemma writes_addWarehouse (subject : Subject) (c : City) :
    ((addWarehouse s m c).given (cache.replies rules)).Writes .amount
      fun type => cityWarehouse.Concerns rules cache s m subject type := by
  refine Modifier.writes_text_bind fun id hid => ?_
  refine writes_ofConsulting_bind Consulting.confined_request ?_
  have hanswer : ((Consulting.request (.warehouse id)).given (cache.replies rules)).2
      = rules.warehouse? id := rfl
  rw [hanswer]
  cases hrule : rules.warehouse? id with
  | none => exact writes_of_confined (confined_note rfl)
  | some rule =>
    dsimp only
    cases rule.count? (s.game.map.cityPlots c) with
    | none => exact writes_of_confined (confined_note rfl)
    | some n => exact writes_contribute fun type htype => ⟨id, rule, hid, hrule, htype⟩

/-- `amountOr` writes to `flatChannel`, or to the channel of `percentage` if there is a
`Percent`. -/
lemma writes_amountOr {percentage : Float → Evaluation Unit} {c : Channel}
    (h : ∀ percent, ((percentage percent).given answers).Writes c m.NamesYield) :
    ((amountOr m percentage).given answers).Writes
      (if m.arguments.has "Percent" then c else m.flatChannel) m.NamesYield := by
  refine writes_bind (confined_ofRule _) fun percent hpercent => ?_
  rw [← Modifier.isSome_of_number? (result_ofRule_eq_ok.1 hpercent)]
  cases percent with
  | none => exact Modifier.writes_addOwnAmount
  | some percent => exact h percent

/-- `run` writes to `effect.channel m`, and there to types that it `Concerns`. -/
lemma writes_run (subject : Subject) (effect : YieldEffect) :
    ((effect.run s m subject).given (cache.replies rules)).Writes (effect.channel m)
      fun type => effect.Concerns rules cache s m subject type := by
  cases effect with
  | cityYield =>
    exact writes_bind (confined_ofRule _) fun c _ =>
      writes_amountOr (Modifier.writes_addCityPercent c)
  | cityYieldPer count =>
    exact writes_bind (confined_ofRule _) fun c _ =>
      writes_bind (count.confined_of s m c) fun n _ => Modifier.writes_addAmountTimes n
  | cityAdjacency =>
    exact writes_bind (confined_ofRule _) fun c _ => writes_addAdjacency subject c
  | cityWarehouse =>
    exact writes_bind (confined_ofRule _) fun c _ => writes_addWarehouse subject c
  | cityMaintenance =>
    refine writes_bind (confined_ofRule _) fun c hc => ?_
    obtain rfl : subject = .city c := by
      cases subject <;> cases hc
      rfl
    exact (Modifier.writes_saveOnConstructibles [c]).mono fun type htype => ⟨c, rfl, htype⟩
  | playerYield =>
    exact writes_bind ((confined_ofRule _).bind fun _ => confined_pure _) fun _ _ =>
      writes_amountOr Modifier.writes_addPercent
  | playerYieldPer count =>
    exact writes_bind (confined_ofRule _) fun p _ =>
      writes_bind (count.confined_of s m p) fun n _ => Modifier.writes_addAmountTimes n
  | playerUnitMaintenance =>
    exact writes_bind (confined_ofRule _) fun p _ => Modifier.writes_saveOnUnits p
  | playerMaintenance =>
    refine writes_bind (confined_ofRule _) fun p hp => ?_
    obtain rfl : subject = .player p := by
      cases subject <;> cases hp
      rfl
    exact (Modifier.writes_saveOnConstructibles p.cities).mono fun type htype => ⟨p, rfl, htype⟩
  | plotYield =>
    exact writes_bind ((confined_ofRule _).bind fun _ => confined_pure _) fun _ _ =>
      Modifier.writes_addOwnAmount
  | unitMaintenance =>
    exact writes_bind (confined_ofRule _) fun u _ => Modifier.writes_saveOnUnit u

end YieldEffect

/-! ## Deltas -/

namespace Delta

variable {before : Delta} {c : Channel} {P : String → Prop} {additions : List Addition}

/-- Two deltas differ in one channel at most, and there only at types with a property. -/
structure DiffersOnly (before after : Delta) (c : Channel) (P : String → Prop) : Prop where
  others : ∀ other, other ≠ c → after.channel other = before.channel other
  entries : ∀ type, ¬ P type → (after.channel c).get? type = (before.channel c).get? type

lemma channel_addAll_of_ne {other : Channel} (h : ∀ a ∈ additions, a.channel = c)
    (hother : other ≠ c) : (before.addAll additions).channel other = before.channel other := by
  induction additions generalizing before with
  | nil => rfl
  | cons a rest ih =>
    rw [List.forall_mem_cons] at h
    rw [addAll_cons, ih h.2, channel_add_of_ne before a (h.1.symm ▸ hother)]

/-- `addAll` of additions to one channel differs there only, and only in their types. -/
lemma differsOnly_addAll (before : Delta)
    (h : ∀ a ∈ additions, a.channel = c ∧ ∀ type ∈ yieldTypes a.types, P type) :
    before.DiffersOnly (before.addAll additions) c P where
  others _ hother := channel_addAll_of_ne (fun a ha => (h a ha).1) hother
  entries type htype :=
    agree_addAll_of_not_mem before (fun a ha hmem => htype ((h a ha).2 type hmem)) c

end Delta

/-! ## Applications -/

namespace Scene

open Application

variable {m : Modifier} {subject : Subject} {stack : List String}

/-- `guarded` has the additions of what it guards. -/
lemma additions_ran_guarded (x : Application Unit) :
    ((s.guarded m subject x).ran rules stack cache).additions
      = (x.ran rules stack cache).additions := by
  unfold guarded ran Application.run
  rw [outcome_tryCatch, Consulting.run_bind]
  rcases (x.outcome stack).run rules cache with ⟨⟨events, result, left⟩, cache'⟩
  have hadded (later : List Event) (h : later.filterMap Event.addition? = []) :
      (events ++ later).filterMap Event.addition? = events.filterMap Event.addition? := by
    rw [List.filterMap_append, h, List.append_nil]
  rcases result with fault | _
  · rcases fault with fault | _ | _ | _ | _
    · rcases fault with fault | _ | _ | _
      · -- only a malformed rule is caught
        cases hstrict : s.settings.strictArguments with
        | true => exact hadded [ruleRemark m subject fault] rfl
        | false => exact hadded [ruleRemark m subject fault] rfl
      all_goals exact hadded [] rfl
    all_goals exact hadded [] rfl
  · exact hadded [] rfl

lemma additions_ran_ofEvaluation (x : Evaluation Unit) :
    ((ofEvaluation x).ran rules stack cache).additions = (x.run rules cache).1.additions := by
  unfold ran Application.run Evaluation.run
  rw [outcome_ofEvaluation, Consulting.run_bind]
  rcases x.outcome.run rules cache with ⟨⟨events, result⟩, cache'⟩
  show (events ++ []).filterMap _ = events.filterMap _
  rw [List.append_nil]

/-- `run` of a yield effect and `apply` of its modifier change the channel `effect.channel m` only,
and there only the types that the effect `Concerns`, whatever the delta and the cache. -/
theorem application_writes_one_channel (rules : Rules) (s : Scene) (fuel : Nat) (m : Modifier)
    (subject : Subject) (effect : YieldEffect) (stack : List String) (cache : RuleCache)
    (delta : Delta) (heffect : Effect.ofType? m.effect = some (.yields effect)) :
    delta.DiffersOnly
        (delta.addAll ((effect.run s m subject).run rules cache).1.additions)
        (effect.channel m) (fun type => effect.Concerns rules cache s m subject type) ∧
      delta.DiffersOnly
        (delta.addAll ((s.apply (fuel + 1) m subject).ran rules stack cache).additions)
        (effect.channel m) (fun type => effect.Concerns rules cache s m subject type) := by
  have hwrites : ((effect.run s m subject).run rules cache).1.Writes (effect.channel m)
      fun type => effect.Concerns rules cache s m subject type := by
    rw [(effect.factual_run s m subject).run_eq_given]
    exact YieldEffect.writes_run subject effect
  refine ⟨delta.differsOnly_addAll hwrites, delta.differsOnly_addAll ?_⟩
  cases hidle : m.newOnly || subject.isEmpty with
  | true =>
    rw [apply_idle hidle]
    intro a ha
    cases ha
  | false =>
    have hcarried : m.carriedOut? subject = some (.yields effect) := by
      rw [Modifier.carriedOut?, hidle]
      exact heffect
    rw [apply_of_carriedOut hcarried (by simp), additions_ran_guarded]
    show ∀ a ∈ ((ofEvaluation (effect.run s m subject)).ran rules stack cache).additions, _
    rw [additions_ran_ofEvaluation]
    exact hwrites

/-- 10 percent of `YIELD_FOOD` for the player, with the flag `PercentMultiplier`, which concerns
amounts only. -/
def tithe : Modifier where
  id := "TITHE"
  effect := some "EFFECT_PLAYER_ADJUST_YIELD"
  arguments := .ofRows
    [{ name := some "YieldType", value := some "YIELD_FOOD" },
     { name := some "Percent", value := some "10" },
     { name := some "PercentMultiplier", value := some "true" }]

/-- A delta with one type in each channel. -/
def gathered : Delta where
  amount := ⟨[("YIELD_FOOD", 1)]⟩
  percent := ⟨[("YIELD_GOLD", 2)]⟩
  noMultiplier := ⟨[("YIELD_FOOD", 3)]⟩

/-- `tithe` adds `YIELD_FOOD` to the percentages of `gathered` and leaves its other channels and the
percentage of `YIELD_GOLD` as they are. -/
theorem tithe_changes_percentage :
    let s : Scene := ⟨.solitaire, { id := 0 }, {}⟩
    let after := gathered.addAll
      ((s.apply 1 tithe (.player { id := 0 })).ran {} [] (.ofRules {})).additions
    Effect.ofType? tithe.effect = some (.yields .playerYield) ∧
      after.amount = gathered.amount ∧ after.noMultiplier = gathered.noMultiplier ∧
      after.percent.get? "YIELD_GOLD" = some 2 ∧
      after.percent.keys = ["YIELD_GOLD", "YIELD_FOOD"] := by
  intro s after
  have heffect : Effect.ofType? tithe.effect = some (.yields .playerYield) := rfl
  have hchanged := (application_writes_one_channel {} s 0 tithe (.player { id := 0 }) .playerYield
    [] (.ofRules {}) gathered heffect).2
  have hchannel : YieldEffect.playerYield.channel tithe = .percent := rfl
  rw [hchannel] at hchanged
  have hgold : ¬ tithe.NamesYield "YIELD_GOLD" := by
    rintro ⟨text, htext, hnamed⟩
    obtain rfl : "YIELD_FOOD" = text := Option.some.inj htext
    revert hnamed
    decide
  refine ⟨heffect, hchanged.others .amount nofun, hchanged.others .noMultiplier nofun, ?_, rfl⟩
  exact (hchanged.entries "YIELD_GOLD" hgold).trans rfl

end Scene

end PolicyForecast
