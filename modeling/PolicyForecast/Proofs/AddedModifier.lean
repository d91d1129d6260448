import PolicyForecast.Proofs.AlikeRules
import PolicyForecast.Proofs.Attachment
import PolicyForecast.Proofs.MalformedApplication
import PolicyForecast.Proofs.OtherTraditions
import PolicyForecast.Proofs.Totals

/-!
# One more modifier in a tradition

A malformed rule is remarked on and stops nothing, but other faults do: a number that has no
integer, names that cannot be put in order, a map without columns. Main statement: a modifier that
is added to a tradition, and attaches no other, stops the preview exactly if it stops on its own or
if the total of a yield type that it contributes to has no integer; otherwise it changes the totals
of these types only (`Engine.added_modifier_exact`).

That it may stop the preview at all is shown by an infinite amount (`Engine.infinite_bounty_stops`).
-/

namespace PolicyForecast

namespace Rules

variable {rules : Rules}

/-! ## Modifiers that stand alone -/

/-- A modifier that attaches no other one, and whose requirement sets do not lead to a cycle. -/
structure StandsAlone (rules : Rules) (record : ModifierRecord) : Prop where
  effect : (rules.modifierType? record.type).bind ModifierTypeRecord.effect
    ≠ some "EFFECT_ATTACH_MODIFIERS"
  subjectSet : ∀ set, record.subjectSet = some set → set ≠ "" → ¬ rules.ReachesCycle set
  ownerSet : ∀ set, record.ownerSet = some set → set ≠ "" → ¬ rules.ReachesCycle set

/-- `unfold` succeeds on an id from which no cycle can be reached. -/
lemma exists_unfold {id : Option String}
    (h : ∀ set, id = some set → set ≠ "" → ¬ rules.ReachesCycle set) :
    ∃ set, rules.unfold id = .ok set := by
  unfold Rules.unfold
  cases hid : id.filter (· ≠ "") with
  | none => exact ⟨_, rfl⟩
  | some set =>
    obtain ⟨hsome, hne⟩ := Option.filter_eq_some_iff.1 hid
    rcases unfoldSet_cases (.start rules set) with ⟨tree, htree, -⟩ | ⟨chain, -, hcycle⟩
    · exact ⟨tree, htree⟩
    · exact absurd hcycle (h set hsome (by simpa using hne))

/-- `resolved` finds a modifier that `StandsAlone`. -/
lemma StandsAlone.resolved {id : String} {record : ModifierRecord} (h : rules.StandsAlone record)
    (hrecord : rules.modifier? (some id) = some record) :
    ∃ m, rules.resolved (some id) = .ok (some m) ∧ m.effect ≠ some "EFFECT_ATTACH_MODIFIERS" := by
  obtain ⟨subjectSet, hsubjectSet⟩ := exists_unfold h.subjectSet
  obtain ⟨ownerSet, hownerSet⟩ := exists_unfold h.ownerSet
  obtain ⟨m, hm, heffect⟩ : ∃ m, rules.unfoldRecord id record = .ok m ∧
      m.effect = (rules.modifierType? record.type).bind ModifierTypeRecord.effect := by
    unfold unfoldRecord
    rw [hsubjectSet, hownerSet]
    exact ⟨_, rfl, rfl⟩
  refine ⟨m, ?_, heffect ▸ h.effect⟩
  rw [resolved_of_record hrecord, hm]
  rfl

/-- `resolvedAll` ends well if it does for each id. -/
lemma resolvedAll_ok {ids : List (Option String)}
    (h : ∀ id ∈ ids, (rules.resolvedAll [id]).2 = .ok ()) : (rules.resolvedAll ids).2 = .ok () := by
  induction ids with
  | nil => rfl
  | cons id rest ih =>
    rw [List.forall_mem_cons] at h
    have hone := h.1
    unfold resolvedAll at hone ⊢
    cases hfound : rules.resolved id with
    | error fault =>
      rw [hfound] at hone
      cases hone
    | ok found => exact ih h.2

end Rules

/-! ## What stops a modifier that attaches no other -/

namespace Scene

open Application

variable {s : Scene} {apply : Modifier → Subject → Application Unit} {m : Modifier}
  {subject : Subject} {answers : Answers} {stack : List String}

/-- Unless it attaches, `effect` has only faults of evaluation. -/
lemma effect_error (heffect : m.effect ≠ some "EFFECT_ATTACH_MODIFIERS") {fault : Fault}
    (h : ((s.effect apply m subject).record answers stack).result = .error fault) :
    ∃ evaluation, fault = .evaluation evaluation := by
  unfold effect at h
  split at h
  · cases h
  · cases h
  next effect _ htype =>
    cases effect with
    | inert => cases h
    | attach => exact absurd (Effect.ofType?_eq_attach.1 htype) heffect
    | yields effect =>
      -- the guard lets through what it does not remark on, and adds no faults
      have hsteady : Steady (s.perform apply m subject (.yields effect)) := steady_ofEvaluation _
      rw [record_guarded hsteady] at h
      have hrun : ((ofEvaluation (effect.run s m subject)).record answers stack).result
          = .error fault := result_of_remarked_error h
      rw [record_ofEvaluation] at hrun
      cases hresult : ((effect.run s m subject).given answers).result with
      | error evaluation =>
        rw [Recorded.mapError, hresult] at hrun
        exact ⟨evaluation, (Except.error.inj hrun).symm⟩
      | ok _ =>
        rw [Recorded.mapError, hresult] at hrun
        cases hrun

end Scene

namespace Engine

open Application

variable {e : Engine} {g : Snapshot} {s : Scene} {m : Modifier}

/-- Unless the modifier attaches or rules are strict, the faults of `applied` are faults of
evaluation, and no rule faults. -/
lemma applied_error (hlenient : s.settings.strictArguments = false)
    (heffect : m.effect ≠ some "EFFECT_ATTACH_MODIFIERS") {fault : Fault}
    (h : (e.applied s m).result = .error fault) :
    ∃ evaluation, fault = .evaluation evaluation ∧ ∀ rule, evaluation ≠ .rule rule := by
  by_cases hevaluation : ∃ evaluation, fault = .evaluation evaluation
  · obtain ⟨evaluation, rfl⟩ := hevaluation
    refine ⟨evaluation, rfl, ?_⟩
    rintro rule rfl
    have hnever := s.neverMalformed_enter (s.neverMalformed_apply hlenient e.rules.depth) m none []
    exact hnever.given e.rules.answer rule h
  · -- nothing is on the stack before, so that any other fault would come of an application
    rw [not_exists] at hevaluation
    rcases s.enter_error (s.steady_apply e.rules.depth) h hevaluation with
      ⟨hmem, -⟩ | ⟨-, subjects, subject, -, -, hsubject⟩
    · cases hmem
    · have hown : ∃ evaluation, fault = .evaluation evaluation := by
        unfold Rules.depth Scene.apply at hsubject
        split at hsubject
        · cases hsubject
        · exact Scene.effect_error heffect hsubject
      obtain ⟨evaluation, rfl⟩ := hown
      exact absurd rfl (hevaluation evaluation)

/-- `applied_error` for the record of a single id. -/
lemma record_error {id : Option String} (hscene : e.scene g = .ok s)
    (hlenient : e.settings.strictArguments = false) (hm : e.rules.resolved id = .ok (some m))
    (heffect : m.effect ≠ some "EFFECT_ATTACH_MODIFIERS") {fault : Fault}
    (h : (e.record g [id]).2.result = .error fault) :
    ∃ evaluation, fault = .evaluation evaluation ∧ ∀ rule, evaluation ≠ .rule rule := by
  have hsettings : s.settings = e.settings := by
    unfold scene at hscene
    cases hplayer : g.localPlayer with
    | error fault =>
      rw [hplayer] at hscene
      cases hscene
    | ok player =>
      rw [hplayer] at hscene
      rw [← Except.ok.inj hscene]
  have hone : e.rules.resolvedAll [id] = ([m], .ok ()) := by
    simp only [Rules.resolvedAll, hm, Option.toList_some, List.append_nil]
  rw [record_of_resolvedAll hscene (congrArg Prod.snd hone), hone] at h
  obtain ⟨m', hmem, hfault⟩ := Recorded.exists_of_forM_error h
  obtain rfl := List.mem_singleton.1 hmem
  exact applied_error (hsettings ▸ hlenient) heffect hfault

end Engine

/-! ## Records with one more modifier -/

/-- If `f` ends well on `before ++ after`, `forM` over the list with `added` in it ends as `forM`
over `added`. -/
lemma Recorded.result_forM_insert {ε α : Type} {f : α → Recorded ε Unit}
    {before added after : List α} (h : ∀ a ∈ before ++ after, (f a).result = .ok ()) :
    ((before ++ (added ++ after)).forM f).result = (added.forM f).result := by
  have happend (as bs : List α) : (as ++ bs).forM f = as.forM f >>= fun _ => bs.forM f :=
    List.forM_append
  rw [List.forall_mem_append] at h
  rw [happend, happend, bind_of_ok (congrArg result (forM_of_ok h.1))]
  cases hadded : (added.forM f).result with
  | error fault => rw [bind_of_error hadded]
  | ok _ =>
    rw [bind_of_ok hadded]
    exact congrArg result (forM_of_ok h.2)

namespace Engine

variable {e : Engine} {g : Snapshot} {before after : List (Option String)} {id : Option String}

/-- If `before ++ after` ends well, it ends with `id` in it as `[id]` does. -/
lemma result_record_insert (h : (e.record g (before ++ after)).2.result = .ok ())
    (hid : (e.rules.resolvedAll [id]).2 = .ok ()) :
    (e.record g (before ++ id :: after)).2.result = (e.record g [id]).2.result := by
  rcases e.record_cases g (before ++ after) with
    ⟨_, hfault⟩ | ⟨_, hfault⟩ | ⟨s, hscene, hresolved, hrecord⟩
  · rw [hfault] at h
    cases h
  · rw [hfault] at h
    cases h
  obtain ⟨hsingle, hmodifiers⟩ := Rules.resolvedAll_of_ok hresolved
  have hall : (e.rules.resolvedAll (before ++ id :: after)).2 = .ok () := by
    refine Rules.resolvedAll_ok ?_
    rw [List.forall_mem_append] at hsingle ⊢
    exact ⟨hsingle.1, List.forall_mem_cons.2 ⟨hid, hsingle.2⟩⟩
  rw [hrecord, hmodifiers, List.flatMap_append] at h
  rw [record_of_resolvedAll hscene hall, record_of_resolvedAll hscene hid,
    (Rules.resolvedAll_of_ok hall).2, List.flatMap_append, List.flatMap_cons]
  exact Recorded.result_forM_insert (Recorded.ok_of_forM_ok h)

lemma exists_scene_of_ok {ids : List (Option String)} (h : (e.record g ids).2.result = .ok ()) :
    ∃ s, e.scene g = .ok s := by
  unfold record at h
  cases hscene : e.scene g with
  | error fault =>
    rw [hscene] at h
    cases h
  | ok s => exact ⟨s, rfl⟩

/-- The additions of a record that ends well are those of its ids, concatenated. -/
lemma additions_record_of_ok (h : (e.record g before).2.result = .ok ()) :
    (e.record g before).2.additions = before.flatMap fun id => (e.record g [id]).2.additions := by
  unfold Recorded.additions
  rw [(record_eq_of_ok h).2, List.filterMap_flatMap]

end Engine

/-! ## Previews with one more modifier -/

namespace Engine

variable {e : Engine} {g : Snapshot}

/-- `outcome` with `id` put between `earlier` and `later`, where it has yields without: it fails iff
`[id]` ends in a fault or `roundHalfUp` does on a type that `[id]` `ContributesTo`, and else the
other yields stay. -/
lemma outcome_record_insert {m : Modifier} {id : Option String}
    {earlier later : List (Option String)} (hlenient : e.settings.strictArguments = false)
    (hm : e.rules.resolved id = .ok (some m))
    (heffect : m.effect ≠ some "EFFECT_ATTACH_MODIFIERS") {yields : List (String × Int)}
    (hyields : e.outcome (e.record g (earlier ++ later)).2 = .ok yields) :
    let added := (e.record g [id]).2
    let record' := (e.record g (earlier ++ id :: later)).2
    ((∃ fault, e.outcome record' = .error fault) ↔
      (∃ fault, added.result = .error (.evaluation fault) ∧ ∀ rule, fault ≠ .rule rule) ∨
      ∃ type, added.ContributesTo type ∧
        ∃ fault, roundHalfUp (e.total record' type) = .error fault) ∧
    ∀ yields', e.outcome record' = .ok yields' → ∀ type, ¬ added.ContributesTo type →
      yields'.lookup type = yields.lookup type := by
  intro added record'
  have hok : (e.record g (earlier ++ later)).2.result = .ok () := by
    cases hresult : (e.record g (earlier ++ later)).2.result with
    | error fault =>
      rw [outcome, hresult] at hyields
      cases hyields
    | ok _ => rfl
  have hresolves : (e.rules.resolvedAll [id]).2 = .ok () := by
    simp only [Rules.resolvedAll, hm]
  have hresult : record'.result = added.result := result_record_insert hok hresolves
  cases hadded : added.result with
  | error fault =>
    -- what stops the modifier alone stops the list, and is not that it is malformed
    obtain ⟨s, hscene⟩ := exists_scene_of_ok hok
    obtain ⟨evaluation, rfl, hrule⟩ := record_error hscene hlenient hm heffect hadded
    have hstops : e.outcome record' = .error (.evaluation evaluation) := by
      rw [outcome, hresult, hadded]
      rfl
    refine ⟨iff_of_true ⟨_, hstops⟩ (.inl ⟨evaluation, rfl, hrule⟩), fun yields' hyields' => ?_⟩
    rw [hstops] at hyields'
    cases hyields'
  | ok _ =>
    -- nothing stops the list, so that only its totals can
    have hok' : record'.result = .ok () := hresult.trans hadded
    have hinserts : added.Inserts (e.record g (earlier ++ later)).2 record' := by
      refine ⟨_, _, (additions_record_of_ok hok).trans List.flatMap_append, ?_⟩
      rw [additions_record_of_ok hok', List.flatMap_append, List.flatMap_cons]
    obtain ⟨hruns, hsame⟩ := outcome_of_inserts hinserts hok hok' hyields
    refine ⟨?_, hsame⟩
    rw [exists_error_iff, hruns]
    simp [exists_error_iff]

/-- One more link of `t`, to a modifier that `StandsAlone`, makes the preview of `t` stop iff
`alone` of this modifier ends in a fault that is no rule fault, or `roundHalfUp` fails on the total
of a type that `alone` `ContributesTo`. If the preview stops, it has no yields; otherwise those of
all other types are as before. -/
theorem added_modifier_exact (e : Engine) (g : Snapshot) (t id : String) (record : ModifierRecord)
    (before after : List TraditionModifier) (cache cache' : RuleCache)
    (htradition : t ≠ "") (hlenient : e.settings.strictArguments = false)
    (hlist : e.rules.traditionModifiers = before ++ after)
    (hrecord : e.rules.modifier? (some id) = some record)
    (hstands : e.rules.StandsAlone record)
    (hcache : cache.Faithful e.rules)
    (hcache' : cache'.Faithful (e.listing (before ++ ⟨some t, some id⟩ :: after)).rules)
    (hruns : ¬ e.Stops g t cache) :
    let e' := e.listing (before ++ ⟨some t, some id⟩ :: after)
    let added := e.alone g (some id)
    (e'.Stops g t cache' ↔
      (∃ fault, added.result = .error (.evaluation fault) ∧ ∀ rule, fault ≠ .rule rule) ∨
      ∃ type, added.ContributesTo type ∧ ∃ fault,
        roundHalfUp (e'.total (e'.run g (e'.rules.traditionModifierIds t) cache').1.2 type)
          = .error fault) ∧
    (e'.Stops g t cache' → (e'.preview g (some t) cache').1.yields = []) ∧
    (¬ e'.Stops g t cache' → ∀ type, ¬ added.ContributesTo type →
      (e'.preview g (some t) cache').1.yields.lookup type
        = (e.preview g (some t) cache).1.yields.lookup type) := by
  intro e' added
  obtain ⟨earlier, later, hids, hids'⟩ := Rules.traditionModifierIds_listing t (some id) hlist
  obtain ⟨m, hm, heffect⟩ := hstands.resolved hrecord
  -- all caches are faithful, so that each run has the record of its modifiers
  have hadded : added = (e.record g [some id]).2 :=
    congrArg Prod.snd (e.run_of_faithful g _ (RuleCache.faithful_ofRules e.rules)).1
  have hrun : (e.run g (e.rules.traditionModifierIds t) cache).1.2
      = (e.record g (earlier ++ later)).2 := by
    rw [(e.run_of_faithful g _ hcache).1, hids]
  have hrun' : (e'.run g (e'.rules.traditionModifierIds t) cache').1.2
      = (e.record g (earlier ++ some id :: later)).2 := by
    rw [(e'.run_of_faithful g _ hcache').1, e.record_listing]
    exact congrArg (fun ids => (e.record g ids).2) hids'
  rw [Stops, exists_error_iff, not_not, hrun] at hruns
  obtain ⟨yields, hyields⟩ := hruns
  obtain ⟨hstops, hsame⟩ := outcome_record_insert hlenient hm heffect hyields
  rw [yields_preview e' g htradition, yields_preview e g htradition, Stops, hrun, hrun', hyields,
    hadded]
  refine ⟨hstops, ?_, fun hnone type hother => ?_⟩
  · rintro ⟨fault, hfault⟩
    have hfault' : e'.outcome (e.record g (earlier ++ some id :: later)).2 = .error fault := hfault
    rw [hfault']
    rfl
  · rw [exists_error_iff, not_not] at hnone
    obtain ⟨yields', hyields'⟩ := hnone
    rw [hyields']
    exact hsame yields' hyields' type hother

/-- `GRANT` gives the player 5 gold. `BOUNTY` has the amount `inf`, and `NAMELESS` no `YieldType`;
no tradition brings them. -/
def gilded : Engine where
  rules :=
    { traditionModifiers := [⟨some "HOARD", some "GRANT"⟩]
      modifiers :=
        [⟨some "GRANT", some "TYPE", none, none, false, false, false⟩,
         ⟨some "BOUNTY", some "TYPE", none, none, false, false, false⟩,
         ⟨some "NAMELESS", some "TYPE", none, none, false, false, false⟩]
      modifierTypes :=
        [⟨some "TYPE", some "COLLECTION_OWNER", some "EFFECT_PLAYER_ADJUST_YIELD"⟩]
      modifierArguments :=
        [⟨some "GRANT", { name := some "YieldType", value := some "YIELD_GOLD" }⟩,
         ⟨some "GRANT", { name := some "Amount", value := some "5" }⟩,
         ⟨some "BOUNTY", { name := some "YieldType", value := some "YIELD_CULTURE" }⟩,
         ⟨some "BOUNTY", { name := some "Amount", value := some "inf" }⟩,
         ⟨some "NAMELESS", { name := some "Amount", value := some "5" }⟩]
      yieldTypes := ["YIELD_GOLD", "YIELD_CULTURE"] }
  settings := {}
  baselines := ∅

lemma gilded_standsAlone (id : String) :
    gilded.rules.StandsAlone ⟨some id, some "TYPE", none, none, false, false, false⟩ where
  effect := by
    show (gilded.rules.modifierType? (some "TYPE")).bind ModifierTypeRecord.effect ≠ _
    decide
  subjectSet := nofun
  ownerSet := nofun

/-- `BOUNTY`, an infinite amount of `YIELD_CULTURE`, stops the preview of `HOARD` in `gilded`, so
that the 5 `YIELD_GOLD` are gone too. -/
theorem infinite_bounty_stops :
    let e' := gilded.listing ([⟨some "HOARD", some "GRANT"⟩] ++ [⟨some "HOARD", some "BOUNTY"⟩])
    gilded.settings.strictArguments = false ∧
      gilded.rules.StandsAlone ⟨some "BOUNTY", some "TYPE", none, none, false, false, false⟩ ∧
      ¬ gilded.Stops .solitaire "HOARD" (.ofRules gilded.rules) ∧
      (gilded.preview .solitaire (some "HOARD") (.ofRules gilded.rules)).1.yields
        = [("YIELD_GOLD", 5), ("YIELD_CULTURE", 0)] ∧
      e'.Stops .solitaire "HOARD" (.ofRules e'.rules) ∧
      ¬ (gilded.alone .solitaire (some "BOUNTY")).ContributesTo "YIELD_GOLD" ∧
      (e'.preview .solitaire (some "HOARD") (.ofRules e'.rules)).1.yields = [] ∧
      (e'.preview .solitaire (some "HOARD") (.ofRules e'.rules)).1.errors
        = ["OverflowError: cannot convert float infinity to integer"] := by
  intro e'
  refine ⟨rfl, gilded_standsAlone "BOUNTY", ?_⟩
  decide +kernel

/-- `NAMELESS`, an amount without `YieldType`, changes no yield of `HOARD` in `gilded`. -/
theorem nameless_changes_nothing :
    let e' := gilded.listing ([⟨some "HOARD", some "GRANT"⟩] ++ [⟨some "HOARD", some "NAMELESS"⟩])
    ¬ e'.Stops .solitaire "HOARD" (.ofRules e'.rules) ∧
      ∀ type, (e'.preview .solitaire (some "HOARD") (.ofRules e'.rules)).1.yields.lookup type
        = (gilded.preview .solitaire (some "HOARD") (.ofRules gilded.rules)).1.yields.lookup
          type := by
  dsimp only
  have hnothing : (gilded.alone .solitaire (some "NAMELESS")).additions = [] := rfl
  have hok : (gilded.alone .solitaire (some "NAMELESS")).result = .ok () := rfl
  have hother : ∀ type, ¬ (gilded.alone .solitaire (some "NAMELESS")).ContributesTo type := by
    rintro type ⟨a, ha, -⟩
    rw [hnothing] at ha
    cases ha
  have hgilded : ¬ gilded.Stops .solitaire "HOARD" (.ofRules gilded.rules) := by decide +kernel
  obtain ⟨hstops, -, hsame⟩ := added_modifier_exact gilded .solitaire "HOARD" "NAMELESS" _
    [⟨some "HOARD", some "GRANT"⟩] [] _ _ (by decide) rfl rfl rfl (gilded_standsAlone "NAMELESS")
    (RuleCache.faithful_ofRules gilded.rules) (RuleCache.faithful_ofRules _) hgilded
  rw [hok] at hstops
  have hruns := mt hstops.1 (by
    rintro (⟨fault, hfault, -⟩ | ⟨type, htype, -⟩)
    · cases hfault
    · exact hother type htype)
  exact ⟨hruns, fun type => hsame hruns type (hother type)⟩

end Engine

end PolicyForecast
