import PolicyForecast.Proofs.Totals

/-!
# How previews end

A preview of a list of modifiers always comes to an answer, and the answer has one of two shapes.
When nothing stops the preview, the answer has the yields that come of all contributions. When
something does, it has no yields and the fault as its last remark; which modifiers it has depends on
how far the preview came (`Engine.StopsWith`). Main statement: `Engine.previewModifiers_exact`.
-/

namespace PolicyForecast

/-! ## Sequences that stop -/

variable {α : Type}

lemma all_or_first_not (P : α → Prop) (as : List α) :
    (∀ a ∈ as, P a) ∨
    ∃ before a after, as = before ++ a :: after ∧ (∀ b ∈ before, P b) ∧ ¬ P a := by
  classical
  cases hfirst : as.find? fun a => decide (¬ P a) with
  | none =>
    refine .inl fun a ha => ?_
    simpa using List.find?_eq_none.1 hfirst a ha
  | some a =>
    obtain ⟨ha, before, after, rfl, hbefore⟩ := List.find?_eq_some_iff_append.1 hfirst
    refine .inr ⟨before, a, after, rfl, fun b hb => ?_, of_decide_eq_true ha⟩
    simpa using hbefore b hb

namespace Recorded

variable {ε : Type} {f : α → Recorded ε Unit}

lemma error_of_not_ok {x : Recorded ε Unit} (h : x.result ≠ .ok ()) :
    ∃ fault, x.result = .error fault := by
  cases hresult : x.result with
  | error fault => exact ⟨fault, rfl⟩
  | ok _ => exact absurd hresult h

/-- `forM` stops at the first step with a fault, with the events up to there. -/
lemma forM_of_error {before after : List α} {a : α} {fault : ε}
    (hbefore : ∀ b ∈ before, (f b).result = .ok ()) (ha : (f a).result = .error fault) :
    (before ++ a :: after).forM f
      = ⟨(before ++ [a]).flatMap fun a => (f a).events, .error fault⟩ := by
  induction before with
  | nil =>
    have hcons : (a :: after).forM f = f a >>= fun _ => after.forM f := rfl
    rw [List.nil_append, hcons, bind_of_error ha, List.nil_append, List.flatMap_singleton]
  | cons b rest ih =>
    rw [List.forall_mem_cons] at hbefore
    have hcons : (b :: rest ++ a :: after).forM f
        = f b >>= fun _ => (rest ++ a :: after).forM f := rfl
    rw [hcons, bind_of_ok hbefore.1, ih hbefore.2]
    rfl

end Recorded

namespace Rules

variable {rules : Rules}

/-- An id can be resolved, to a modifier or to none. -/
def Resolves (rules : Rules) (id : String) : Prop :=
  ∃ found, rules.resolved (some id) = .ok found

/-- The modifiers of those ids that the rules have, in the order of the ids. -/
def modifiersOf (rules : Rules) (ids : List String) : List Modifier :=
  ids.filterMap fun id => (rules.resolved (some id)).toOption.join

lemma modifiersOf_cons {id : String} {found : Option Modifier}
    (h : rules.resolved (some id) = .ok found) (rest : List String) :
    rules.modifiersOf (id :: rest) = found.toList ++ rules.modifiersOf rest := by
  have hjoin : (rules.resolved (some id)).toOption.join = found := by
    rw [h]
    rfl
  unfold modifiersOf
  rw [List.filterMap_cons, hjoin]
  cases found <;> rfl

/-- `resolvedAll` of ids that all `Resolves`. -/
lemma resolvedAll_of_resolves {ids : List String} (h : ∀ id ∈ ids, rules.Resolves id) :
    rules.resolvedAll (ids.map some) = (rules.modifiersOf ids, .ok ()) := by
  induction ids with
  | nil => rfl
  | cons id rest ih =>
    rw [List.forall_mem_cons] at h
    obtain ⟨found, hfound⟩ := h.1
    rw [List.map_cons, resolvedAll, hfound, ih h.2, modifiersOf_cons hfound]

/-- `resolvedAll` stops at the first id that does not resolve. -/
lemma resolvedAll_of_error {before after : List String} {id : String} {fault : Fault}
    (hbefore : ∀ i ∈ before, rules.Resolves i) (hid : rules.resolved (some id) = .error fault) :
    rules.resolvedAll ((before ++ id :: after).map some)
      = (rules.modifiersOf before, .error fault) := by
  induction before with
  | nil =>
    rw [List.nil_append, List.map_cons, resolvedAll, hid]
    rfl
  | cons i rest ih =>
    rw [List.forall_mem_cons] at hbefore
    obtain ⟨found, hfound⟩ := hbefore.1
    rw [List.cons_append, List.map_cons, resolvedAll, hfound, ih hbefore.2,
      modifiersOf_cons hfound]

lemma error_of_not_resolves {id : String} (h : ¬ rules.Resolves id) :
    ∃ fault, rules.resolved (some id) = .error fault := by
  cases hid : rules.resolved (some id) with
  | error fault => exact ⟨fault, rfl⟩
  | ok found => exact absurd ⟨found, hid⟩ h

end Rules

/-! ## Answers of previews -/

namespace Engine

variable {e : Engine} {g : Snapshot} {ids : List String} {modifiers : List Modifier}
  {events : List Event} {fault : Fault} {yields : List (String × Int)} {p : Preview}

/-- What is recorded when modifiers are applied one after the other. -/
def eventsOf (e : Engine) (s : Scene) (modifiers : List Modifier) : List Event :=
  modifiers.flatMap fun m => (e.applied s m).events

/-- The yields of all that was contributed. -/
def yieldsOf (e : Engine) (events : List Event) : Except Fault (List (String × Int)) :=
  (Delta.addAll {} (events.filterMap Event.addition?)).finalize e.baselines e.rules.yieldTypes
    e.settings.applyPlayerPercentToAmount

/-- A preview is stopped by a fault, with modifiers that it has and events that were recorded by
then. -/
inductive StopsWith (e : Engine) (g : Snapshot) (ids : List String) :
    List Modifier → List Event → Fault → Prop
  /-- No player has the id of the local player. -/
  | context (hplayer : g.player? g.localPlayerId = none) :
      e.StopsWith g ids [] [] (.unknownPlayer g.localPlayerId)
  /-- An id cannot be resolved, and all before it can. -/
  | resolution {player : Player} {before after : List String} {id : String} {fault : Fault}
      (hplayer : g.player? g.localPlayerId = some player)
      (hids : ids = before ++ id :: after)
      (hbefore : ∀ i ∈ before, e.rules.Resolves i)
      (hfault : e.rules.resolved (some id) = .error fault) :
      e.StopsWith g ids (e.rules.modifiersOf before) [] fault
  /-- The application of a modifier stops, and those before it come to their ends. -/
  | application {player : Player} {before after : List Modifier} {m : Modifier} {fault : Fault}
      (hplayer : g.player? g.localPlayerId = some player)
      (hids : ∀ id ∈ ids, e.rules.Resolves id)
      (hmodifiers : e.rules.modifiersOf ids = before ++ m :: after)
      (hbefore : ∀ m' ∈ before, (e.applied ⟨g, player, e.settings⟩ m').result = .ok ())
      (hfault : (e.applied ⟨g, player, e.settings⟩ m).result = .error fault) :
      e.StopsWith g ids (e.rules.modifiersOf ids)
        (e.eventsOf ⟨g, player, e.settings⟩ (before ++ [m])) fault
  /-- All modifiers are applied, but a yield is no whole number. -/
  | finalization {player : Player} {fault : NumberFault}
      (hplayer : g.player? g.localPlayerId = some player)
      (hids : ∀ id ∈ ids, e.rules.Resolves id)
      (happlied : ∀ m ∈ e.rules.modifiersOf ids,
        (e.applied ⟨g, player, e.settings⟩ m).result = .ok ())
      (hfault : e.yieldsOf (e.eventsOf ⟨g, player, e.settings⟩ (e.rules.modifiersOf ids))
        = .error (.number fault)) :
      e.StopsWith g ids (e.rules.modifiersOf ids)
        (e.eventsOf ⟨g, player, e.settings⟩ (e.rules.modifiersOf ids)) (.number fault)

/-- A preview comes to its end with events that were recorded and yields. -/
structure Finishes (e : Engine) (g : Snapshot) (ids : List String) (events : List Event)
    (yields : List (String × Int)) : Prop where
  resolves : ∀ id ∈ ids, e.rules.Resolves id
  applies : ∃ player, g.player? g.localPlayerId = some player ∧
    events = e.eventsOf ⟨g, player, e.settings⟩ (e.rules.modifiersOf ids) ∧
    ∀ m ∈ e.rules.modifiersOf ids, (e.applied ⟨g, player, e.settings⟩ m).result = .ok ()
  finalizes : e.yieldsOf events = .ok yields

/-- The answer to a preview, which has one of two shapes. -/
inductive HasPreview (e : Engine) (g : Snapshot) (ids : List String) : Preview → Prop
  /-- Nothing stopped the preview. -/
  | complete {events : List Event} {yields : List (String × Int)}
      (h : e.Finishes g ids events yields) :
      e.HasPreview g ids {
        yields
        modifiers := e.rules.modifiersOf ids
        errors := events.filterMap Event.error?
        missings := events.filterMap Event.missing?
        ignored := events.filterMap Event.ignored? }
  /-- A fault stopped the preview and is the last of its errors. -/
  | degraded {modifiers : List Modifier} {events : List Event} {fault : Fault}
      (h : e.StopsWith g ids modifiers events fault) :
      e.HasPreview g ids {
        yields := []
        modifiers
        errors := events.filterMap Event.error? ++ [s!"{fault.label}: {fault.message}"]
        missings := events.filterMap Event.missing?
        ignored := events.filterMap Event.ignored? }

/-! ## The one answer -/

/-- The answer of a preview over the record that it has when nothing is kept. -/
def recordedAnswer (e : Engine) (g : Snapshot) (ids : List String) : Preview :=
  e.answer (e.record g (ids.map some)).1 (e.record g (ids.map some)).2

/-- `record` of ids that all `Resolves` is `forM` of `applied`. -/
lemma record_of_resolves {player : Player} (hplayer : g.player? g.localPlayerId = some player)
    (hids : ∀ id ∈ ids, e.rules.Resolves id) :
    e.record g (ids.map some) = (e.rules.modifiersOf ids,
      (e.rules.modifiersOf ids).forM (e.applied ⟨g, player, e.settings⟩)) := by
  have hresolved := Rules.resolvedAll_of_resolves hids
  rw [record_of_resolvedAll (scene_of_player hplayer) (by rw [hresolved]), hresolved]

lemma answer_of_error {record : Recorded Fault Unit} (h : record.result = .error fault) :
    e.answer modifiers record = .stopped modifiers record.events fault := by
  unfold answer
  rw [h]
  rfl

lemma answer_of_ok {record : Recorded Fault Unit} (h : record.result = .ok ()) :
    e.answer modifiers record = match e.yieldsOf record.events with
      | .ok yields => .finished modifiers record.events yields
      | .error fault => .stopped modifiers record.events fault := by
  unfold answer
  rw [h]
  rfl

lemma recordedAnswer_of_stops (h : e.StopsWith g ids modifiers events fault) :
    e.recordedAnswer g ids = .stopped modifiers events fault := by
  unfold recordedAnswer
  cases h with
  | context hplayer =>
    rw [record, scene_of_no_player hplayer]
    exact answer_of_error rfl
  | resolution hplayer hids hbefore hfault =>
    subst hids
    rw [record, scene_of_player hplayer]
    simp only [Rules.resolvedAll_of_error hbefore hfault]
    exact answer_of_error rfl
  | application hplayer hids hmodifiers hbefore hfault =>
    rw [record_of_resolves hplayer hids, hmodifiers, Recorded.forM_of_error hbefore hfault]
    exact answer_of_error rfl
  | finalization hplayer hids happlied hfault =>
    rw [record_of_resolves hplayer hids, Recorded.forM_of_ok happlied, answer_of_ok rfl]
    unfold eventsOf at hfault ⊢
    rw [hfault]

lemma recordedAnswer_of_finishes (h : e.Finishes g ids events yields) :
    e.recordedAnswer g ids = .finished (e.rules.modifiersOf ids) events yields := by
  obtain ⟨player, hplayer, rfl, happlied⟩ := h.applies
  have hyields := h.finalizes
  unfold recordedAnswer
  rw [record_of_resolves hplayer h.resolves, Recorded.forM_of_ok happlied, answer_of_ok rfl]
  unfold eventsOf at hyields ⊢
  rw [hyields]

/-- A preview `StopsWith` something or `Finishes`. -/
lemma stops_or_finishes (e : Engine) (g : Snapshot) (ids : List String) :
    (∃ modifiers events fault, e.StopsWith g ids modifiers events fault) ∨
      ∃ events yields, e.Finishes g ids events yields := by
  cases hplayer : g.player? g.localPlayerId with
  | none => exact .inl ⟨_, _, _, .context hplayer⟩
  | some player =>
    rcases all_or_first_not e.rules.Resolves ids with hids | ⟨_, _, _, hids, hbefore, hnot⟩
    swap
    · obtain ⟨fault, hfault⟩ := Rules.error_of_not_resolves hnot
      exact .inl ⟨_, _, _, .resolution hplayer hids hbefore hfault⟩
    rcases all_or_first_not (fun m => (e.applied ⟨g, player, e.settings⟩ m).result = .ok ())
      (e.rules.modifiersOf ids) with happlied | ⟨_, _, _, hmodifiers, hbefore, hnot⟩
    swap
    · obtain ⟨fault, hfault⟩ := Recorded.error_of_not_ok hnot
      exact .inl ⟨_, _, _, .application hplayer hids hmodifiers hbefore hfault⟩
    cases hyields : e.yieldsOf (e.eventsOf ⟨g, player, e.settings⟩ (e.rules.modifiersOf ids)) with
    | error fault =>
      obtain ⟨number, rfl⟩ :=
        Delta.exists_number_of_finalize_error (Delta.distinct_addAll _) hyields
      exact .inl ⟨_, _, _, .finalization hplayer hids happlied hyields⟩
    | ok yields => exact .inr ⟨_, yields, hids, ⟨player, hplayer, rfl, happlied⟩, hyields⟩

/-- `HasPreview` holds of `recordedAnswer` only. -/
lemma hasPreview_iff : e.HasPreview g ids p ↔ p = e.recordedAnswer g ids := by
  constructor
  · rintro (h | h)
    · exact (recordedAnswer_of_finishes h).symm
    · exact (recordedAnswer_of_stops h).symm
  · rintro rfl
    rcases e.stops_or_finishes g ids with ⟨_, _, _, h⟩ | ⟨_, _, h⟩
    · rw [recordedAnswer_of_stops h]
      exact .degraded h
    · rw [recordedAnswer_of_finishes h]
      exact .complete h

/-- `previewModifiers` of ids none of which is null is not refused, and `e.HasPreview g ids cache`
holds of exactly the answer that it gives. -/
theorem previewModifiers_exact (e : Engine) (g : Snapshot) (ids : List String) (cache : RuleCache)
    (hcache : cache.Faithful e.rules) :
    ∃ p left, e.previewModifiers g (ids.map some) cache = .ok (p, left) ∧
      ∀ answer, e.HasPreview g ids answer ↔ answer = p := by
  obtain ⟨hrecord, -⟩ := e.run_of_faithful g (ids.map some) hcache
  refine ⟨e.recordedAnswer g ids, (e.previewIds g (ids.map some) cache).2, ?_,
    fun _ => hasPreview_iff⟩
  have hpreview : (e.previewIds g (ids.map some) cache).1 = e.recordedAnswer g ids := by
    simp only [previewIds, hrecord, recordedAnswer]
  have hnone : (ids.map some).contains none = false := by simp
  rw [previewModifiers, hnone, ← hpreview]
  rfl

/-- `GRANT` gives the player 5 of a yield, and the set of `TIED` stands for itself. -/
def tangled : Engine :=
  { granting with
    rules :=
      { Rules.knot with
        modifiers := granting.rules.modifiers
          ++ [⟨some "TIED", some "TYPE", none, some "KNOT", false, false, false⟩]
        modifierTypes := granting.rules.modifierTypes
        modifierArguments := granting.rules.modifierArguments } }

/-- The set of `TIED` is a `requirementSetCycle`: what `HasPreview` then has the modifiers `GRANT`
and `GRANT` from before `TIED`, and no yields. -/
theorem tangled_preview_stops :
    ∃ p left, tangled.previewModifiers .solitaire
        (["GRANT", "OTHER", "GRANT", "TIED", "GRANT"].map some) (.ofRules tangled.rules)
          = .ok (p, left) ∧
      (∀ answer, tangled.HasPreview .solitaire ["GRANT", "OTHER", "GRANT", "TIED", "GRANT"] answer
        ↔ answer = p) ∧
      p.yields = [] ∧ p.modifiers.map (·.id) = ["GRANT", "GRANT"] ∧
      p.errors = ["RequirementSetCycleError: Requirement set cycle detected: KNOT -> KNOT"] := by
  obtain ⟨p, left, hpreview, hunique⟩ := previewModifiers_exact tangled .solitaire
    ["GRANT", "OTHER", "GRANT", "TIED", "GRANT"] (.ofRules tangled.rules)
    (RuleCache.faithful_ofRules tangled.rules)
  have hrun : (tangled.previewModifiers .solitaire
      (["GRANT", "OTHER", "GRANT", "TIED", "GRANT"].map some) (.ofRules tangled.rules)).map
        (fun r => (r.1.yields, r.1.modifiers.map (·.id), r.1.errors))
      = .ok ([], ["GRANT", "GRANT"],
        ["RequirementSetCycleError: Requirement set cycle detected: KNOT -> KNOT"]) := by
    rfl
  rw [hpreview] at hrun
  simp only [Except.map, Except.ok.injEq, Prod.mk.injEq] at hrun
  exact ⟨p, left, hpreview, hunique, hrun⟩

end Engine

end PolicyForecast
