import PolicyForecast.Proofs.InertModifiers
import PolicyForecast.Proofs.Selection

/-!
# When an unknown effect is remarked on

A modifier whose effect is not known does nothing, and a remark says so. The remark is made where
the modifier is applied, that is for one subject after the other, and only for those that are not
empty. So a modifier without subjects passes in silence, whatever it is that leaves it without any:
owner requirements that fail, a collection without members, or subject requirements that none of
them meets.

Main statement: in a preview that is not stopped, a listed modifier with an unknown effect is
remarked on once for each of its subjects that is not empty, and nothing else that comes of it reads
like that remark (`Engine.unknown_effect_remarks`).
-/

namespace PolicyForecast

/-- What the remark on the unknown effect of a modifier says. -/
def Modifier.unhandledText (m : Modifier) : String :=
  s!"Unhandled EffectType: {Wording.name m.effect} ({m.id})"

/-- A modifier that acts, with an effect that is not known. -/
structure Modifier.HasUnknownEffect (m : Modifier) : Prop where
  newOnly_eq : m.newOnly = false
  effect_eq : Effect.ofType? m.effect = none

/-! ## Findings are no such remarks -/

lemma OpensApart.ne_unhandledText {text : String} (h : OpensApart text) (m : Modifier) :
    text ≠ m.unhandledText := by
  rintro rfl
  have hopens : OpensBy (· = effectOpening) "Unhandled EffectType: " := by decide
  have htext : OpensBy (· = effectOpening) m.unhandledText :=
    (((hopens.append _).append _).append _).append _
  exact h.2 htext.2

/-- `subjects` leaves no `unhandledText`. -/
lemma Modifier.count_missings_subjects (m : Modifier) (s : Scene) (parent : Option Subject)
    (answers : Answers) :
    (((m.subjects s parent).given answers).events.filterMap Event.missing?).count m.unhandledText
      = 0 := by
  rw [List.count_eq_zero]
  intro hmem
  obtain ⟨event, hevent, htext⟩ := List.mem_filterMap.1 hmem
  have hfinding : event.IsFinding :=
    (m.confined_subjects s parent).of_mem_given answers event hevent
  cases hfinding with
  | error => cases htext
  | missing hopens => exact hopens.ne_unhandledText m (Option.some.inj htext)

/-! ## Applying a modifier with an unknown effect -/

namespace Scene

variable {s : Scene} {m : Modifier}

/-- `apply` of an unknown effect is one `unhandledRemark`, or nothing on an empty subject. -/
lemma record_apply_unknown (h : m.HasUnknownEffect) (fuel : Nat) (subject : Subject)
    (answers : Answers) (stack : List String) :
    (s.apply (fuel + 1) m subject).record answers stack
      = ⟨if subject.isEmpty then [] else [unhandledRemark m], .ok ()⟩ := by
  unfold apply
  rw [h.newOnly_eq, Bool.false_or]
  split
  · rfl
  · unfold Scene.effect
    rw [h.effect_eq]
    exact Application.record_ofEvaluation _

/-- One `unhandledText` for each subject that is not empty. -/
lemma missings_unknown (m : Modifier) (subjects : List Subject) :
    (subjects.flatMap fun subject => if subject.isEmpty then [] else [unhandledRemark m]).filterMap
        Event.missing?
      = List.replicate (subjects.countP fun subject => !subject.isEmpty) m.unhandledText := by
  induction subjects with
  | nil => rfl
  | cons subject rest ih =>
    rw [List.flatMap_cons, List.filterMap_append, ih, List.countP_cons]
    cases subject.isEmpty with
    | true => rfl
    | false => rfl

end Scene

namespace Engine

variable {e : Engine} {g : Snapshot} {s : Scene} {m : Modifier}

/-- `applied` of an unknown effect has `unhandledText` as often as there are subjects that are not
empty. -/
lemma applied_unknown (h : m.HasUnknownEffect) (hok : (e.applied s m).result = .ok ()) :
    ∃ subjects, m.HasSubjects e.rules s none subjects ∧
      (e.applied s m).missings.count m.unhandledText
        = subjects.countP fun subject => !subject.isEmpty := by
  have hcases := Scene.enter_cases e.rules s m none [] (s.steady_apply e.rules.depth)
  unfold applied Scene.applyToAll at hok ⊢
  rcases hcases with ⟨hmem, -⟩ | ⟨-, fault, -, hrecord⟩ | ⟨-, subjects, hsubjects, hrecord⟩
  · cases hmem
  · rw [hrecord] at hok
    cases hok
  refine ⟨subjects, hsubjects, ?_⟩
  -- each subject is applied to with fuel left, since there is room for one modifier on the stack
  have happly (subject : Subject) :
      (s.apply e.rules.depth m subject).record e.rules.answer ([] ++ [m.id])
        = ⟨if subject.isEmpty then [] else [Scene.unhandledRemark m], .ok ()⟩ :=
    Scene.record_apply_unknown h _ subject e.rules.answer _
  have hremarks : (subjects.forM fun subject =>
        (s.apply e.rules.depth m subject).record e.rules.answer ([] ++ [m.id]))
      = ⟨subjects.flatMap fun subject => if subject.isEmpty then [] else [Scene.unhandledRemark m],
          .ok ()⟩ := by
    simp only [happly]
    exact Recorded.forM_of_ok fun _ _ => rfl
  rw [hrecord, hremarks]
  unfold Recorded.missings
  rw [List.filterMap_append, List.count_append, m.count_missings_subjects, Scene.missings_unknown,
    Nat.zero_add, List.count_replicate_self]

/-- In a preview that does not degrade, `alone` of a modifier that `HasUnknownEffect` has its
`unhandledText` as often as it `Selects` subjects that are not empty; so the preview has it if there
is one. -/
theorem unknown_effect_remarks (e : Engine) (g : Snapshot) (ids : List (Option String))
    (cache : RuleCache) (hcache : cache.Faithful e.rules) (hruns : ¬ e.Degrades g ids cache)
    (m : Modifier) (hm : m ∈ (e.previewIds g ids cache).1.modifiers) (h : m.HasUnknownEffect) :
    ∃ s subjects, e.scene g = .ok s ∧ m.Selects e.rules cache s none subjects ∧
      (e.alone g (some m.id)).missings.count m.unhandledText
        = subjects.countP (fun subject => !subject.isEmpty) ∧
      ((∃ subject ∈ subjects, subject.isEmpty = false) →
        m.unhandledText ∈ (e.previewIds g ids cache).1.missings) := by
  have hrun : (e.run g ids cache).1 = e.record g ids := (e.run_of_faithful g ids hcache).1
  obtain ⟨yields, hyields⟩ : ∃ yields, e.outcome (e.record g ids).2 = .ok yields := by
    rw [Degrades, exists_error_iff, not_not, hrun] at hruns
    exact hruns
  have hok := result_of_outcome_ok hyields
  obtain ⟨hmodifiers, -, hmissings, -⟩ :=
    e.remarks_of_answer (e.run g ids cache).1.1 (e.run g ids cache).1.2
  rcases e.record_cases g ids with ⟨_, hfault⟩ | ⟨_, hfault⟩ | ⟨s, hscene, -, hrecord⟩
  · rw [hfault] at hok
    cases hok
  · rw [hfault] at hok
    cases hok
  have hlisted : m ∈ (e.rules.resolvedAll ids).1 := by
    have hm' : m ∈ (e.run g ids cache).1.1 := hmodifiers ▸ hm
    rw [hrun, hrecord] at hm'
    exact hm'
  rw [hrecord] at hok
  have happlied := Recorded.ok_of_forM_ok hok
  obtain ⟨subjects, hsubjects, hcount⟩ := applied_unknown h (happlied m hlisted)
  have halone : e.alone g (some m.id) = e.applied s m := by
    have hfresh := (e.run_of_faithful g [some m.id] (RuleCache.faithful_ofRules e.rules)).1
    unfold alone
    rw [hfresh]
    exact record_of_found hscene (Rules.has_of_mem_resolvedAll hlisted)
  have hselects : m.Selects e.rules cache s none subjects := by
    rw [← Modifier.subjects_eq_ok hcache, (m.subjects s none).run_of_faithful hcache]
    exact hsubjects
  refine ⟨s, subjects, hscene, hselects, ?_, ?_⟩
  · rw [halone]
    exact hcount
  · rintro ⟨subject, hsubject, hfilled⟩
    have hmem : m.unhandledText ∈ (e.applied s m).missings := by
      rw [← List.count_pos_iff, hcount, List.countP_pos_iff]
      exact ⟨subject, hsubject, by simp [hfilled]⟩
    -- the events of the modifier are among those of the preview
    have hpreview : (e.previewIds g ids cache).1.missings = (e.record g ids).2.missings := by
      rw [← hrun]
      exact hmissings
    rw [hpreview, hrecord]
    unfold Recorded.missings at hmem ⊢
    rw [Recorded.forM_of_ok happlied, List.filterMap_flatMap]
    exact List.mem_flatMap.2 ⟨m, hlisted, hmem⟩

lemma mem_modifiers_of_found {id : Option String} {cache : RuleCache}
    (hcache : cache.Faithful e.rules) (hscene : e.scene g = .ok s)
    (h : e.rules.resolved id = .ok (some m)) :
    m ∈ (e.previewIds g [id] cache).1.modifiers := by
  have hone : e.rules.resolvedAll [id] = ([m], .ok ()) := by
    simp only [Rules.resolvedAll, h, Option.toList_some, List.append_nil]
  have hmodifiers := (e.remarks_of_answer (e.run g [id] cache).1.1 (e.run g [id] cache).1.2).1
  rw [(e.run_of_faithful g [id] hcache).1] at hmodifiers
  have hpreview : (e.previewIds g [id] cache).1.modifiers = (e.record g [id]).1 := by
    rw [← hmodifiers, ← (e.run_of_faithful g [id] hcache).1]
    rfl
  rw [hpreview, record_of_resolvedAll hscene (congrArg Prod.snd hone), hone]
  exact List.mem_singleton_self m

/-- A modifier whose effect is neither handled nor ignored. -/
def novelty (collection : String) : Modifier where
  id := "NOVELTY"
  type := some "TYPE"
  effect := some "EFFECT_NOT_YET_KNOWN"
  collection := some collection

/-- An engine whose rules have `novelty` only. -/
def innovating (collection : String) : Engine where
  rules :=
    { modifiers := [⟨some "NOVELTY", some "TYPE", none, none, false, false, false⟩]
      modifierTypes := [⟨some "TYPE", some collection, some "EFFECT_NOT_YET_KNOWN"⟩] }
  settings := {}
  baselines := ∅

lemma novelty_hasUnknownEffect (collection : String) : (novelty collection).HasUnknownEffect :=
  ⟨rfl, rfl⟩

/-- `missings` has the `unhandledText` of `NOVELTY` if its collection is `COLLECTION_OWNER`. -/
theorem novelty_for_owner_remarked :
    let engine := innovating "COLLECTION_OWNER"
    ¬ engine.Degrades .solitaire [some "NOVELTY"] (.ofRules engine.rules) ∧
      novelty "COLLECTION_OWNER"
        ∈ (engine.previewIds .solitaire [some "NOVELTY"] (.ofRules engine.rules)).1.modifiers ∧
      (novelty "COLLECTION_OWNER").unhandledText
        ∈ (engine.previewIds .solitaire [some "NOVELTY"] (.ofRules engine.rules)).1.missings := by
  intro engine
  have hruns : ¬ engine.Degrades .solitaire [some "NOVELTY"] (.ofRules engine.rules) := by
    decide +kernel
  have hlisted : novelty "COLLECTION_OWNER"
      ∈ (engine.previewIds .solitaire [some "NOVELTY"] (.ofRules engine.rules)).1.modifiers :=
    mem_modifiers_of_found (RuleCache.faithful_ofRules _) rfl rfl
  have hone : (engine.alone .solitaire (some "NOVELTY")).missings.count
      (novelty "COLLECTION_OWNER").unhandledText = 1 := by
    decide +kernel
  obtain ⟨s, subjects, -, -, hcount, hvisible⟩ :=
    unknown_effect_remarks engine .solitaire [some "NOVELTY"] (.ofRules engine.rules)
      (RuleCache.faithful_ofRules _) hruns _ hlisted (novelty_hasUnknownEffect _)
  refine ⟨hruns, hlisted, hvisible ?_⟩
  have hfilled : 0 < subjects.countP fun subject => !subject.isEmpty := by
    rw [← hcount]
    exact hone ▸ Nat.one_pos
  obtain ⟨subject, hsubject, hfilled⟩ := List.countP_pos_iff.1 hfilled
  exact ⟨subject, hsubject, by simpa using hfilled⟩

/-- If the collection of `NOVELTY` is `COLLECTION_PLAYER_CITIES`, it `HasUnknownEffect` as well, but
`missings` is empty, since the player of `solitaire` has no cities. -/
theorem novelty_for_cities_silent :
    let engine := innovating "COLLECTION_PLAYER_CITIES"
    ¬ engine.Degrades .solitaire [some "NOVELTY"] (.ofRules engine.rules) ∧
      novelty "COLLECTION_PLAYER_CITIES"
        ∈ (engine.previewIds .solitaire [some "NOVELTY"] (.ofRules engine.rules)).1.modifiers ∧
      (novelty "COLLECTION_PLAYER_CITIES").HasUnknownEffect ∧
      (engine.previewIds .solitaire [some "NOVELTY"] (.ofRules engine.rules)).1.missings = [] := by
  intro engine
  have hruns : ¬ engine.Degrades .solitaire [some "NOVELTY"] (.ofRules engine.rules) := by
    decide +kernel
  have hsilent :
      (engine.previewIds .solitaire [some "NOVELTY"] (.ofRules engine.rules)).1.missings = [] := by
    decide +kernel
  exact ⟨hruns, mem_modifiers_of_found (RuleCache.faithful_ofRules _) rfl rfl,
    novelty_hasUnknownEffect _, hsilent⟩

end Engine

end PolicyForecast
