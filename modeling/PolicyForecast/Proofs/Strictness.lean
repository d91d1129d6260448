import PolicyForecast.Proofs.Encounters

/-!
# Strict and lenient previews

A preview in which rules are strict is compared with the preview of the same modifiers in which they
are not. Both do the same until a malformed rule is met; the lenient preview goes past it, the
strict one is stopped there. Main statement: `Engine.strict_until_first_encounter`.
-/

namespace PolicyForecast

namespace Engine

/-- What previews need, with rules that are strict or not. -/
def withStrictness (e : Engine) (strict : Bool) : Engine :=
  { e with settings := { e.settings with strictArguments := strict } }

variable {e : Engine} {g : Snapshot} {ids : List (Option String)}

lemma scene_withStrictness (e : Engine) (g : Snapshot) (strict : Bool) :
    (e.withStrictness strict).scene g = (e.scene g).map (·.withStrictness strict) := by
  unfold scene
  cases g.localPlayer <;> rfl

/-- `record` under strict rules has the same modifiers and stops at the first of the
`encounters`. -/
lemma stopsAtFirst_record (e : Engine) (g : Snapshot) (ids : List (Option String)) :
    ((e.withStrictness true).record g ids).1 = ((e.withStrictness false).record g ids).1 ∧
      StopsAtFirst ((e.withStrictness false).record g ids).2
        ((e.withStrictness true).record g ids).2 ((e.withStrictness false).encounters g ids) := by
  have hscene := e.scene_withStrictness g
  cases hs : e.scene g with
  | error fault =>
    simp only [hs, Except.map] at hscene
    simp only [record, encounters, hscene]
    exact ⟨trivial, .refl _⟩
  | ok s =>
    simp only [hs, Except.map] at hscene
    have hrules (strict : Bool) : (e.withStrictness strict).rules = e.rules := rfl
    rcases hresolved : e.rules.resolvedAll ids with ⟨modifiers, fault | _⟩
    · simp only [record, encounters, hscene, hrules, hresolved]
      exact ⟨trivial, .refl _⟩
    · have hok (strict : Bool) : ((e.withStrictness strict).rules.resolvedAll ids).2 = .ok () :=
        congrArg Prod.snd hresolved
      rw [record_of_resolvedAll (hscene true) (hok true),
        record_of_resolvedAll (hscene false) (hok false)]
      simp only [encounters, hscene, hrules, hresolved]
      refine ⟨trivial, StopsAtFirst.forM (fun m => ?_) modifiers⟩
      exact s.stopsAtFirst_enter (Scene.steady_apply _ _) (Scene.steady_apply _ _)
        (s.stopsAtFirst_apply e.rules.answer e.rules.depth) m none []

/-- Without `encounters`, the preview of `withStrictness true` is that of `withStrictness false`.
With a first one, it has the same modifiers, no yields and the remarks of `first.before`, and its
errors go on with `first.wording`, for the modifier and then for each of `first.enclosing`, and with
the fault. -/
theorem strict_until_first_encounter (e : Engine) (g : Snapshot) (ids : List (Option String))
    (cache cache' : RuleCache) (hcache : cache.Faithful e.rules)
    (hcache' : cache'.Faithful e.rules) :
    let lenient := ((e.withStrictness false).previewIds g ids cache).1
    let strict := ((e.withStrictness true).previewIds g ids cache').1
    ((e.withStrictness false).encounters g ids = [] → strict = lenient) ∧
    ∀ first later, (e.withStrictness false).encounters g ids = first :: later →
      first.before ++ [first.remark]
        <+: ((e.withStrictness false).run g ids cache).1.2.events ∧
      strict.yields = [] ∧
      strict.modifiers = lenient.modifiers ∧
      strict.errors = first.before.filterMap Event.error?
        ++ first.wording (first.modifier, first.subject) :: first.enclosing.map first.wording
        ++ [s!"{first.fault.label}: {first.fault.message}"] ∧
      first.before.filterMap Event.error? ++ [first.wording (first.modifier, first.subject)]
        <+: lenient.errors ∧
      strict.missings = first.before.filterMap Event.missing? ∧
      strict.missings <+: lenient.missings ∧
      strict.ignored = first.before.filterMap Event.ignored? ∧
      strict.ignored <+: lenient.ignored := by
  obtain ⟨hmodifiers, hstops⟩ := e.stopsAtFirst_record g ids
  have hlenient : ((e.withStrictness false).run g ids cache).1
      = (e.withStrictness false).record g ids :=
    ((e.withStrictness false).run_of_faithful g ids hcache).1
  have hstrict : ((e.withStrictness true).run g ids cache').1
      = (e.withStrictness true).record g ids :=
    ((e.withStrictness true).run_of_faithful g ids hcache').1
  simp only [previewIds, hlenient, hstrict, hmodifiers]
  generalize ((e.withStrictness false).record g ids).1 = modifiers at *
  generalize ((e.withStrictness false).record g ids).2 = record at *
  have heq := hstops.strict_eq
  refine ⟨fun hnone => ?_, fun first later hencounters => ?_⟩
  · -- both have one record, of which the answer does not depend on strictness
    rw [heq, hnone]
    rfl
  · rw [hencounters] at hstops heq
    rw [heq]
    have hplaced : first.before ++ [first.remark] <+: record.events :=
      hstops.placed first List.mem_cons_self
    obtain ⟨hsame, herrors, hmissings, hignored⟩ :=
      (e.withStrictness false).remarks_of_answer modifiers record
    have hbefore (view : Event → Option String) :
        first.before.filterMap view <+: record.events.filterMap view :=
      ((List.prefix_append _ _).trans hplaced).filterMap view
    have hmissing : first.stopped.missings = first.before.filterMap Event.missing? :=
      first.filterMap_stopped fun _ => rfl
    have hunconcerned : first.stopped.ignored = first.before.filterMap Event.ignored? :=
      first.filterMap_stopped fun _ => rfl
    refine ⟨hplaced, rfl, hsame.symm, congrArg (· ++ _) first.errors_stopped, ?_, hmissing, ?_,
      hunconcerned, ?_⟩
    · have h := hplaced.filterMap Event.error?
      rw [List.filterMap_append] at h
      exact h.trans herrors
    · show first.stopped.missings <+: _
      rw [hmissing, hmissings]
      exact hbefore Event.missing?
    · show first.stopped.ignored <+: _
      rw [hunconcerned, hignored]
      exact hbefore Event.ignored?

/-- `OUTER` attaches to the player `INNER`, an amount without a `YieldType`. -/
def attachingMalformed : Rules where
  modifiers :=
    [⟨some "OUTER", some "ATTACH", none, none, false, false, false⟩,
     ⟨some "INNER", some "GRANT", none, none, false, false, false⟩]
  modifierTypes :=
    [⟨some "ATTACH", some "COLLECTION_OWNER", some "EFFECT_ATTACH_MODIFIERS"⟩,
     ⟨some "GRANT", some "COLLECTION_OWNER", some "EFFECT_PLAYER_ADJUST_YIELD"⟩]
  modifierArguments :=
    [⟨some "OUTER", { name := some "ModifierId", value := some "INNER" }⟩,
     ⟨some "INNER", { name := some "Amount", value := some "5" }⟩]

/-- `INNER`, which has no `YieldType`, is attached by `OUTER`: its fault is worded for `INNER`, for
`OUTER` and for the preview. -/
theorem attaching_malformed_strictly :
    let e : Engine := ⟨attachingMalformed, {}, ∅⟩
    (RuleCache.ofRules e.rules).Faithful e.rules ∧
      ((e.withStrictness true).previewIds .solitaire [some "OUTER"] (.ofRules e.rules)).1.errors =
        ["EFFECT_PLAYER_ADJUST_YIELD on Player(0): Modifier INNER is missing a YieldType argument",
         "EFFECT_ATTACH_MODIFIERS on Player(0): Modifier INNER is missing a YieldType argument",
         "MissingArgumentError: Modifier INNER is missing a YieldType argument"] := by
  intro e
  have hfaithful := RuleCache.faithful_ofRules e.rules
  have hremarks : ((e.withStrictness false).encounters .solitaire [some "OUTER"]).map
      (fun k => k.before.filterMap Event.error?
        ++ k.wording (k.modifier, k.subject) :: k.enclosing.map k.wording
        ++ [s!"{k.fault.label}: {k.fault.message}"]) =
      [["EFFECT_PLAYER_ADJUST_YIELD on Player(0): Modifier INNER is missing a YieldType argument",
        "EFFECT_ATTACH_MODIFIERS on Player(0): Modifier INNER is missing a YieldType argument",
        "MissingArgumentError: Modifier INNER is missing a YieldType argument"]] := by
    decide +kernel
  obtain ⟨first, hencounters, htexts⟩ := List.map_eq_singleton_iff.1 hremarks
  have hstopped := (strict_until_first_encounter e .solitaire [some "OUTER"] _ _ hfaithful
    hfaithful).2 first [] hencounters
  exact ⟨hfaithful, hstopped.2.2.2.1.trans htexts⟩

end Engine

end PolicyForecast
