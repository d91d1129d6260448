import PolicyForecast.Proofs.AlikeRules
import PolicyForecast.Proofs.RelatedApplications

/-!
# Rules with further records

Records of modifiers, their types and arguments, and of requirements and sets may be added to rules.
If the keys of the added records are not among some ids, then look-ups of these ids find what they
found before. And if the records that were there before refer to no other ids, nothing else is ever
looked up on behalf of them: sets unfold as before, modifiers are resolved as before, and they
attach the same modifiers. That the added records refer to old ids, or to each other in cycles, does
not matter; the bounds on the recursions become larger, which makes no difference.

Main statement: `Engine.preview_adding`.
-/

namespace PolicyForecast

namespace Rules

/-! ## Look-ups in longer lists -/

section

variable {α : Type} {key : α → Option String} {old : String → Prop} {records added : List α}
  {id : Option String}

/-- No key of some records is among some ids. -/
def KeysAvoid (key : α → Option String) (old : String → Prop) (records : List α) : Prop :=
  ∀ r ∈ records, ∀ k, key r = some k → ¬ old k

lemma KeysAvoid.keyMatches_eq_false (h : KeysAvoid key old added) (hid : ∀ k, id = some k → old k) :
    ∀ r ∈ added, keyMatches (key r) id = false := by
  intro r hr
  rw [Bool.eq_false_iff]
  intro hmatches
  unfold keyMatches at hmatches
  rw [Bool.and_eq_true] at hmatches
  obtain ⟨hsome, hkey⟩ := hmatches
  obtain ⟨k, rfl⟩ := Option.isSome_iff_exists.1 hsome
  exact h r hr k (eq_of_beq hkey) (hid k rfl)

/-- The records with an old id are the same with the added ones. -/
lemma KeysAvoid.filter_append (h : KeysAvoid key old added) (hid : ∀ k, id = some k → old k) :
    (records ++ added).filter (fun r => keyMatches (key r) id)
      = records.filter fun r => keyMatches (key r) id := by
  have hnone : added.filter (fun r => keyMatches (key r) id) = [] := by
    rw [List.filter_eq_nil_iff]
    intro r hr
    rw [h.keyMatches_eq_false hid r hr]
    exact Bool.false_ne_true
  rw [List.filter_append, hnone, List.append_nil]

/-- The first record with an old id is the same with the added ones. -/
lemma KeysAvoid.find?_append (h : KeysAvoid key old added) (hid : ∀ k, id = some k → old k) :
    (records ++ added).find? (fun r => keyMatches (key r) id)
      = records.find? fun r => keyMatches (key r) id := by
  have hnone : added.find? (fun r => keyMatches (key r) id) = none := by
    rw [List.find?_eq_none]
    intro r hr
    rw [h.keyMatches_eq_false hid r hr]
    exact Bool.false_ne_true
  rw [List.find?_append, hnone, Option.or_none]

end

/-! ## Rules that are added -/

variable {rules more : Rules} {old : String → Prop}

/-- The rules with the records of other rules about traditions, modifiers and requirements after
their own. -/
def adding (rules more : Rules) : Rules :=
  { rules with
    traditionModifiers := rules.traditionModifiers ++ more.traditionModifiers
    modifiers := rules.modifiers ++ more.modifiers
    modifierTypes := rules.modifierTypes ++ more.modifierTypes
    modifierArguments := rules.modifierArguments ++ more.modifierArguments
    requirementSets := rules.requirementSets ++ more.requirementSets
    requirementLinks := rules.requirementLinks ++ more.requirementLinks
    requirements := rules.requirements ++ more.requirements
    requirementArguments := rules.requirementArguments ++ more.requirementArguments }

/-- Rules say nothing about some ids of modifiers and requirements. -/
structure SilentOn (more : Rules) (old : String → Prop) : Prop where
  modifiers : KeysAvoid ModifierRecord.id old more.modifiers
  modifierTypes : KeysAvoid ModifierTypeRecord.type old more.modifierTypes
  modifierArguments : KeysAvoid ArgumentRecord.owner old more.modifierArguments
  requirementSets : KeysAvoid RequirementSetRecord.id old more.requirementSets
  requirementLinks : KeysAvoid RequirementLink.set old more.requirementLinks
  requirements : KeysAvoid RequirementRecord.id old more.requirements
  requirementArguments : KeysAvoid ArgumentRecord.owner old more.requirementArguments

/-- Rules refer to some ids only. -/
structure RefersWithin (rules : Rules) (old : String → Prop) : Prop where
  traditions : ∀ r ∈ rules.traditionModifiers, ∀ k, r.modifier = some k → old k
  types : ∀ r ∈ rules.modifiers, ∀ k, r.type = some k → old k
  subjectSets : ∀ r ∈ rules.modifiers, ∀ k, r.subjectSet = some k → old k
  ownerSets : ∀ r ∈ rules.modifiers, ∀ k, r.ownerSet = some k → old k
  arguments : ∀ r ∈ rules.modifierArguments, ∀ k, r.argument.value = some k → old k
  requirements : ∀ r ∈ rules.requirementLinks, ∀ k, r.requirement = some k → old k
  sets : ∀ r ∈ rules.requirementArguments, ∀ k, r.argument.value = some k → old k

/-! ### References -/

lemma RefersWithin.of_requirement (h : rules.RefersWithin old) {set : String}
    {requirement : Option String} (hmem : requirement ∈ rules.requirementIdsOfSet set) :
    ∀ k, requirement = some k → old k := by
  obtain ⟨link, hlink, rfl⟩ := List.mem_map.1 hmem
  exact h.requirements link (List.mem_of_mem_filter hlink)

lemma RefersWithin.of_standsFor (h : rules.RefersWithin old) {requirement : Option String}
    {set : String} (hset : rules.StandsFor requirement set) : old set := by
  obtain ⟨-, argument, -, -, hargument, hvalue, -⟩ := hset
  obtain ⟨r, hr, rfl⟩ := Option.map_eq_some_iff.1 hargument
  exact h.sets r (List.mem_of_mem_filter (List.mem_of_getLast? hr)) set hvalue

lemma RefersWithin.of_argument (h : rules.RefersWithin old) {id name value : String}
    (hvalue : (rules.argumentsOfModifier id).filled? name = some value) : old value := by
  obtain ⟨hvalue, -⟩ := Option.filter_eq_some_iff.1 hvalue
  obtain ⟨argument, hargument, hvalue⟩ := Option.bind_eq_some_iff.1 hvalue
  unfold argumentsOfModifier Arguments.ofRows Arguments.find? at hargument
  rw [OrderedMap.get?_ofList] at hargument
  obtain ⟨pair, hpair, rfl⟩ := Option.map_eq_some_iff.1 hargument
  -- the argument comes from a row of the modifier
  have hmem := List.mem_of_mem_filter (List.mem_of_getLast? hpair)
  simp only [List.map_map, List.mem_map] at hmem
  obtain ⟨r, hr, rfl⟩ := hmem
  exact h.arguments r (List.mem_of_mem_filter hr) value hvalue

lemma RefersWithin.of_tradition (h : rules.RefersWithin old) {t : String} {id : Option String}
    (hmem : id ∈ rules.traditionModifierIds t) : ∀ k, id = some k → old k := by
  obtain ⟨r, hr, rfl⟩ := List.mem_map.1 hmem
  exact h.traditions r (List.mem_of_mem_filter hr)

/-! ### What is found -/

/-- `adding` rules that are `SilentOn old` leaves the `old` sets alike. -/
lemma SilentOn.alikeSets (h : more.SilentOn old) (hrules : rules.RefersWithin old) :
    AlikeSets rules (rules.adding more) old where
  type id hid := by
    have hset : (rules.adding more).requirementSet? id = rules.requirementSet? id :=
      h.requirementSets.find?_append fun _ hk => Option.some.inj hk ▸ hid
    unfold typeOfSet
    rw [hset]
  requirements id hid := by
    have hold : ∀ k, some id = some k → old k := fun _ hk => Option.some.inj hk ▸ hid
    have hlinks : (rules.requirementLinks ++ more.requirementLinks).filter
          (fun r => keyMatches r.set (some id))
        = rules.requirementLinks.filter fun r => keyMatches r.set (some id) :=
      h.requirementLinks.filter_append hold
    exact congrArg (List.map RequirementLink.requirement) hlinks.symm
  heads id hid requirement hmem := by
    have hold := hrules.of_requirement hmem
    have hrecord : (rules.adding more).requirement? requirement = rules.requirement? requirement :=
      h.requirements.find?_append hold
    have harguments : (rules.adding more).argumentsOfRequirement requirement
        = rules.argumentsOfRequirement requirement := by
      show Arguments.ofRows (((rules.requirementArguments ++ more.requirementArguments).filter
        fun r => keyMatches r.owner requirement).map ArgumentRecord.argument) = _
      rw [h.requirementArguments.filter_append hold]
      rfl
    unfold requirementHead
    rw [hrecord, harguments]
  below id hid below hrefers := by
    obtain ⟨requirement, -, hset⟩ := hrefers
    exact hrules.of_standsFor hset
  links_le := by
    show _ ≤ (rules.requirementLinks ++ more.requirementLinks).length
    rw [List.length_append]
    exact Nat.le_add_right _ _

/-- `resolved` is the same on `old` ids. -/
lemma SilentOn.resolved (h : more.SilentOn old) (hrules : rules.RefersWithin old)
    {id : Option String} (hid : ∀ k, id = some k → old k) :
    rules.resolved id = (rules.adding more).resolved id := by
  have hrecord : (rules.adding more).modifier? id = rules.modifier? id :=
    h.modifiers.find?_append hid
  refine resolved_congr hrecord.symm fun name r hname hr => ?_
  have hmem : r ∈ rules.modifiers := List.mem_of_find?_eq_some hr
  have hsets := h.alikeSets hrules
  refine ⟨?_, ?_, ?_, ?_⟩
  · exact (h.modifierTypes.find?_append (hrules.types r hmem)).symm
  · show _ = Arguments.ofRows (((rules.modifierArguments ++ more.modifierArguments).filter
      fun r => keyMatches r.owner (some name)).map ArgumentRecord.argument)
    rw [h.modifierArguments.filter_append (hname ▸ hid)]
    rfl
  · exact hsets.unfold fun set hset _ => hrules.subjectSets r hmem set hset
  · exact hsets.unfold fun set hset _ => hrules.ownerSets r hmem set hset

lemma SilentOn.resolvedAll (h : more.SilentOn old) (hrules : rules.RefersWithin old)
    {ids : List (Option String)} (hids : ∀ id ∈ ids, ∀ k, id = some k → old k) :
    rules.resolvedAll ids = (rules.adding more).resolvedAll ids := by
  induction ids with
  | nil => rfl
  | cons id rest ih =>
    rw [List.forall_mem_cons] at hids
    rw [Rules.resolvedAll, Rules.resolvedAll, h.resolved hrules hids.1, ih hids.2]

/-- `traditionModifierIds` is the same if the added links are for other traditions. -/
lemma traditionModifierIds_adding {t : String}
    (ht : ∀ r ∈ more.traditionModifiers, r.tradition ≠ some t) :
    (rules.adding more).traditionModifierIds t = rules.traditionModifierIds t := by
  have havoid : KeysAvoid TraditionModifier.tradition (· = t) more.traditionModifiers := by
    rintro r hr k hk rfl
    exact ht r hr hk
  have hlist : (rules.traditionModifiers ++ more.traditionModifiers).filter
        (fun r => keyMatches r.tradition (some t))
      = rules.traditionModifiers.filter fun r => keyMatches r.tradition (some t) :=
    havoid.filter_append fun _ hk => (Option.some.inj hk).symm
  exact congrArg (List.map TraditionModifier.modifier) hlist

lemma agreeOnFacts_adding (rules more : Rules) :
    rules.answer.AgreeOnFacts (rules.adding more).answer := by
  intro q hq
  cases q with
  | lookUp table key => cases table <;> rfl
  | modifier id => exact hq.elim
  | _ => rfl

/-- A modifier that the rules `Has` attaches the same under both. -/
lemma SilentOn.attachesAlike (h : more.SilentOn old) (hrules : rules.RefersWithin old) (s : Scene)
    {m : Modifier} {id : String} (hm : rules.Has m) (htext : m.text "ModifierId" = .ok id) :
    Recorded.Compositional.AttachesAlike Eq rules.Has s rules.answer (rules.adding more).answer
      m id := by
  have hfilled : m.arguments.filled? "ModifierId" = some id := by
    unfold Modifier.text at htext
    cases hvalue : m.arguments.filled? "ModifierId" with
    | none =>
      rw [hvalue] at htext
      cases htext
    | some value =>
      rw [hvalue] at htext
      exact congrArg some (Except.ok.inj htext)
  rw [hm.arguments_eq] at hfilled
  have hid : ∀ k, some id = some k → old k :=
    fun _ hk => Option.some.inj hk ▸ hrules.of_argument hfilled
  exact .inl ⟨h.resolved hrules hid, fun attached hattached => has_of_resolved hattached⟩

end Rules

/-! ## Previews -/

namespace Engine

variable {e : Engine} {more : Rules} {old : String → Prop}

/-- The engine with further rules. -/
def adding (e : Engine) (more : Rules) : Engine :=
  { e with rules := e.rules.adding more }

/-- `applied` is the same on the modifiers that the rules `Has`. -/
lemma applied_adding (h : more.SilentOn old) (hrules : e.rules.RefersWithin old) (s : Scene)
    {m : Modifier} (hm : e.rules.Has m) : e.applied s m = (e.adding more).applied s m := by
  have hdepth : e.rules.depth + more.modifiers.length = (e.rules.adding more).depth := by
    have hlength : (e.rules.adding more).modifiers.length
        = e.rules.modifiers.length + more.modifiers.length := List.length_append
    unfold Rules.depth
    omega
  have hsame := Recorded.compositional_eq.enter (s := s) (e.rules.agreeOnFacts_adding more)
    (fun _ => Rules.Has.mem_modifierIds) (fun _ _ hm htext => h.attachesAlike hrules s hm htext)
    (Scene.bounded_nil e.rules) hm none 0 more.modifiers.length
  rw [hdepth] at hsame
  exact hsame

/-- `record` is the same on `old` ids. -/
lemma record_adding (h : more.SilentOn old) (hrules : e.rules.RefersWithin old) (g : Snapshot)
    {ids : List (Option String)} (hids : ∀ id ∈ ids, ∀ k, id = some k → old k) :
    e.record g ids = (e.adding more).record g ids := by
  have hall : e.rules.resolvedAll ids = (e.adding more).rules.resolvedAll ids :=
    h.resolvedAll hrules hids
  cases hplayer : g.player? g.localPlayerId with
  | none =>
    unfold record
    rw [scene_of_no_player hplayer, scene_of_no_player hplayer]
  | some player =>
    have hscene := scene_of_player (e := e) hplayer
    have hscene' : (e.adding more).scene g = .ok ⟨g, player, e.settings⟩ := hscene
    rcases (e.rules.resolvedAll_cases ids).2 with hok | ⟨chain, hchain⟩
    · have hsteps : ∀ m ∈ (e.rules.resolvedAll ids).1,
          e.applied ⟨g, player, e.settings⟩ m
            = (e.adding more).applied ⟨g, player, e.settings⟩ m :=
        fun m hm => applied_adding h hrules _ (Rules.has_of_mem_resolvedAll hm)
      rw [record_of_resolvedAll hscene hok, record_of_resolvedAll hscene' (hall ▸ hok), ← hall,
        Recorded.compositional_eq.forM hsteps]
    · -- the same cycle of sets stops both
      unfold record
      rw [hscene, hscene', ← hall]
      rcases hresolved : e.rules.resolvedAll ids with ⟨modifiers, result⟩
      rw [hresolved] at hchain
      obtain rfl : result = _ := hchain
      rfl

/-- `preview` is the same with rules that are `SilentOn old`, where the rules `RefersWithin old`,
and without links for its tradition. -/
theorem preview_adding (h : more.SilentOn old) (hrules : e.rules.RefersWithin old) (g : Snapshot)
    (t : String) (ht : ∀ r ∈ more.traditionModifiers, r.tradition ≠ some t)
    {cache cache' : RuleCache} (hcache : cache.Faithful e.rules)
    (hcache' : cache'.Faithful (e.adding more).rules) :
    ((e.adding more).preview g (some t) cache').1 = (e.preview g (some t) cache).1 := by
  have hids : (e.adding more).rules.traditionModifierIds t = e.rules.traditionModifierIds t :=
    Rules.traditionModifierIds_adding ht
  have hrecord := record_adding h hrules g fun id hid => hrules.of_tradition (t := t) hid
  unfold preview
  cases hfilter : (some t).filter (· ≠ "") with
  | none => rfl
  | some t' =>
    obtain ⟨hsome, -⟩ := Option.filter_eq_some_iff.1 hfilter
    obtain rfl : t = t' := Option.some.inj hsome
    have hrun : ((e.adding more).run g (e.rules.traditionModifierIds t) cache').1
        = (e.run g (e.rules.traditionModifierIds t) cache).1 := by
      rw [((e.adding more).run_of_faithful g _ hcache').1, (e.run_of_faithful g _ hcache).1,
        hrecord]
    show ((e.adding more).previewIds g ((e.adding more).rules.traditionModifierIds t) cache').1
      = (e.previewIds g (e.rules.traditionModifierIds t) cache).1
    rw [hids]
    simp only [previewIds, hrun]
    rfl

end Engine

end PolicyForecast
