import PolicyForecast.Proofs.Confinement
import PolicyForecast.Proofs.RuleChecks
import PolicyForecast.Proofs.UnstatedRequirements

/-!
# Requirements that are of no use

A requirement may say too little, or be asked of a subject that has nothing it could be about. Where
its evaluation does not stop (`RequirementHead.Unevaluable`), it counts as not met. `Useless` lists
these requirements with the remarks that are made on them: one, or none where the requirement leaves
out what its fact is compared with. Of the latter the evaluation makes no remark at all
(`RequirementHead.silent_of_compared`), so that its verdict is all there is; and this is a no except
in the gaps of `RequirementHead.MeetsGap`.

Main statement: `RequirementSet.evaluation_exact`.
-/

namespace PolicyForecast

variable {rules : Rules} {s : Scene} {subject : Subject} {h : RequirementHead}

/-- The names of arguments in order, as a remark lists them. -/
def Arguments.nameList (args : Arguments) : String :=
  Wording.bracketed ((args.keys.mergeSort nameLe).map Wording.quotedName)

namespace RequirementHead

/-- A requirement is of no use on a subject, with the remarks that are made on it. -/
inductive Useless (rules : Rules) (s : Scene) (subject : Subject) (h : RequirementHead) :
    List Event → Prop
  /-- It should stand for a set, but names none. -/
  | noSet (htype : h.type = some setIsMet) :
      h.Useless rules s subject
        [.missing s!"Requirement {h.name} has no nested requirement set"]
  /-- Its type is not known. -/
  | unknown (hset : h.type ≠ some setIsMet) (htype : Fact.ofType? h.type = none) :
      h.Useless rules s subject
        [.missing s!"Unhandled RequirementType: {Wording.name h.type} ({h.name})"]
  /-- It is about a city, a plot or a unit, and the subject has none. -/
  | unsuited {fact : Fact} (htype : Fact.ofType? h.type = some fact)
      (hsubject : fact.hasSubject s subject = false) :
      h.Useless rules s subject
        [.missing (s!"Requirement {h.name} ({Wording.name h.type}) cannot be evaluated on "
          ++ subject.describe)]
  /-- It is about a terrain of a city, but does not say which. -/
  | noTerrain (htype : Fact.ofType? h.type = some (.city .hasTerrain))
      (hcity : subject.city?.isSome) (hnone : h.arguments.filled? "TerrainType" = none) :
      h.Useless rules s subject [.missing s!"Requirement {h.name} has no TerrainType argument"]
  /-- It is about the inhabitants of a city, but does not say how many. -/
  | noPopulation (htype : Fact.ofType? h.type = some (.city .population))
      (hcity : subject.city?.isSome) (hnone : h.arguments.has "MinUrbanPopulation" = false)
      (hnames : ¬ h.arguments.Unordered) :
      h.Useless rules s subject [.missing (s!"Unhandled arguments for REQUIREMENT_CITY_POPULATION "
        ++ s!"({h.name}): {h.arguments.nameList}")]
  /-- It is about a constructible of a plot, but its type and its tag are absent or empty; there is
  no remark on it. -/
  | noConstructible (htype : Fact.ofType? h.type = some (.plot .hasConstructible))
      (hplot : (subject.plot? s.game.map).isSome)
      (htypeless : h.arguments.filled? "ConstructibleType" = none)
      (htagless : h.arguments.filled? "Tag" = none) : h.Useless rules s subject []
  /-- It is about the class of a plot's district, but lists none; there is no remark on it. -/
  | noDistrictClass (htype : Fact.ofType? h.type = some (.plot .districtClass))
      (hplot : (subject.plot? s.game.map).isSome) (hnone : h.districtClasses = []) :
      h.Useless rules s subject []
  /-- It leaves out what its fact is compared with, and does not meet what is missing on the other
  side as well; there is no remark on it. -/
  | unstated {fact : Fact} (htype : Fact.ofType? h.type = some fact)
      (hterrain : fact ≠ .city .hasTerrain) (hsubject : fact.hasSubject s subject = true)
      (hunstated : h.Unstated fact) (hgap : ¬ h.MeetsGap rules s subject fact)
      (hevaluable : ∀ fault, ¬ h.Unevaluable s subject fault) : h.Useless rules s subject []

/-! ## Comparisons without remarks -/

/-- `isSatisfied` of a fact with `compared` arguments makes no remark, `hasTerrain` apart. -/
lemma silent_of_compared {fact : Fact} (htype : Fact.ofType? h.type = some fact)
    (hcompares : fact.compared ≠ []) (hterrain : fact ≠ .city .hasTerrain)
    (hsubject : fact.hasSubject s subject = true) : (h.isSatisfied s subject).Silent := by
  cases fact with
  | city fact =>
    obtain ⟨c, hcity⟩ := Option.isSome_iff_exists.1 hsubject
    rw [isSatisfied_of_city htype hcity]
    cases fact with
    | hasBuilding => exact (confined_hasBuilding s.game.map c h.arguments).silent
    | hasProject => exact Evaluation.sequential_silent.pure _
    | hasTerrain => exact absurd rfl hterrain
    | isCapital | isCity | isTown | isFounder | isDistantLands | population | followsReligion =>
      exact absurd rfl hcompares
  | plot fact =>
    obtain ⟨p, hplot⟩ := Option.isSome_iff_exists.1 hsubject
    rw [isSatisfied_of_plot htype hplot]
    cases fact with
    | districtClass =>
      exact Evaluation.silent_ofConsulting
        ((confined_districtClass p).silent.bind fun _ => Consulting.silent_pure _)
    | hasConstructible =>
      exact Evaluation.silent_ofConsulting (confined_plotHasConstructible p h.arguments).silent
    | terrain | feature => exact Evaluation.sequential_silent.pure _
    | resourceVisible | isCoastalLand | adjacentToCoast | numConstructibles | isQuarter =>
      exact absurd rfl hcompares
  | player fact =>
    rw [isSatisfied, htype]
    cases fact with
    | leader => exact Evaluation.sequential_silent.pure _
    | hasTrait =>
      refine Evaluation.silent_ofConsulting
        ((Consulting.confined_traits _ _).silent.bind fun _ => ?_)
      split
      · exact Consulting.silent_pure _
      · exact (Consulting.confined_traits _ _).silent.bind fun _ => Consulting.silent_pure _
    | atPeaceWithMajors | numAlliances => exact absurd rfl hcompares
  | unit fact =>
    cases subject with
    | unit u =>
      rw [isSatisfied, htype]
      exact Evaluation.silent_ofConsulting (UnitFact.confined_holds u h fact).silent
    | city | plot | player | empty => cases hsubject

/-- `isSatisfied` of an `Unstated` requirement that does not `MeetsGap` is false, without a
remark. -/
lemma given_of_unstated {fact : Fact} (htype : Fact.ofType? h.type = some fact)
    (hterrain : fact ≠ .city .hasTerrain) (hsubject : fact.hasSubject s subject = true)
    (hunstated : h.Unstated fact) (hgap : ¬ h.MeetsGap rules s subject fact)
    (hevaluable : ∀ fault, ¬ h.Unevaluable s subject fault) :
    (h.isSatisfied s subject).given rules.answer = ⟨[], .ok false⟩ := by
  refine (silent_of_compared htype hunstated.compares hterrain hsubject).given_eq ?_
  cases hresult : ((h.isSatisfied s subject).given rules.answer).result with
  | error fault => exact absurd (isSatisfied_eq_error.1 hresult) (hevaluable fault)
  | ok met =>
    cases met with
    | false => rfl
    | true => exact absurd ((isSatisfied_unstated htype hunstated).1 hresult) hgap

/-! ## Verdicts on what is of no use -/

variable {remarks : List Event}

/-- `isSatisfiedAlone` of a `Useless` requirement is false, with its remarks. -/
lemma given_of_useless (huseless : h.Useless rules s subject remarks) :
    (h.isSatisfiedAlone s subject).given rules.answer = ⟨remarks, .ok false⟩ := by
  cases huseless with
  | noSet htype =>
    unfold isSatisfiedAlone
    rw [if_pos htype]
    rfl
  | unknown hset htype =>
    unfold isSatisfiedAlone isSatisfied
    rw [if_neg hset, htype]
    rfl
  | unsuited htype hsubject =>
    rw [isSatisfiedAlone_of_fact htype]
    exact given_of_unsuited htype hsubject
  | noTerrain htype hcity hnone =>
    obtain ⟨c, hc⟩ := Option.isSome_iff_exists.1 hcity
    rw [isSatisfiedAlone_of_fact htype, isSatisfied_of_city htype hc]
    simp only [CityFact.holds, CityFact.hasEnoughTerrain, hnone]
    rfl
  | noPopulation htype hcity hnone hnames =>
    obtain ⟨c, hc⟩ := Option.isSome_iff_exists.1 hcity
    rw [isSatisfiedAlone_of_fact htype, isSatisfied_of_city htype hc]
    simp only [CityFact.holds, CityFact.hasEnoughInhabitants, hnone,
      Arguments.sortedNames_of_not_unordered hnames]
    rfl
  | noConstructible htype hplot htypeless htagless =>
    obtain ⟨p, hp⟩ := Option.isSome_iff_exists.1 hplot
    rw [isSatisfiedAlone_of_fact htype, isSatisfied_of_plot htype hp]
    simp only [PlotFact.holds, plotHasConstructible, htypeless, htagless]
    rfl
  | noDistrictClass htype hplot hnone =>
    obtain ⟨p, hp⟩ := Option.isSome_iff_exists.1 hplot
    rw [isSatisfiedAlone_of_fact htype]
    refine (silent_of_compared htype (by decide) (by decide) hplot).given_eq ?_
    rw [isSatisfied_of_plot htype hp]
    exact Evaluation.result_ofConsulting_eq_ok.2 (hasDistrictClass_of_nil hnone)
  | unstated htype hterrain hsubject hunstated hgap hevaluable =>
    rw [isSatisfiedAlone_of_fact htype]
    exact given_of_unstated htype hterrain hsubject hunstated hgap hevaluable

end RequirementHead

namespace RequirementSet

/-- `holds` ends in a fault iff `Reaches` leads to a requirement that is `Unevaluable` with it, and
`isSatisfied` iff its requirement is. A requirement that is `Useless` with some remarks counts as
not met, with just these remarks. -/
theorem evaluation_exact (s : Scene) (subject : Subject) {rules : Rules} {cache : RuleCache}
    (hcache : cache.Faithful rules) :
    (∀ (set : RequirementSet) (fault : EvaluationFault),
      ((set.holds s subject).run rules cache).1.result = .error fault ↔
        ∃ h, Requirement.Reaches rules.answer s subject (set.type = anyOf) set.requirements h ∧
          h.Unevaluable s subject fault) ∧
    (∀ (h : RequirementHead) (fault : EvaluationFault),
      ((h.isSatisfied s subject).run rules cache).1.result = .error fault ↔
        h.Unevaluable s subject fault) ∧
    ∀ (h : RequirementHead) (remarks : List Event), h.Useless rules s subject remarks →
      ((h.isSatisfiedAlone s subject).run rules cache).1 = ⟨remarks, .ok false⟩ := by
  refine ⟨fun set fault => ?_, fun h fault => ?_, fun h remarks huseless => ?_⟩
  · rw [Evaluation.run_of_faithful _ hcache]
    exact holds_eq_error
  · rw [Evaluation.run_of_faithful _ hcache]
    exact RequirementHead.isSatisfied_eq_error
  · rw [Evaluation.run_of_faithful _ hcache]
    exact RequirementHead.given_of_useless huseless

/-- `STRANGE`, of a type that is not known, is `Useless`; `LARGE`, after it, ends `holds` in
`unorderedNames`. -/
theorem census_stops_at_second :
    (((⟨some "CENSUS", anyOf, [.leaf (census.requirementHead (some "STRANGE")),
        .leaf (census.requirementHead (some "LARGE"))]⟩ : RequirementSet).holds
          hamletScene (.city hamlet)).run census (.ofRules census)).1.result
        = .error (.unorderedNames true) ∧
      (((census.requirementHead (some "STRANGE")).isSatisfiedAlone
          hamletScene (.city hamlet)).run census (.ofRules census)).1
        = ⟨[.missing "Unhandled RequirementType: OTHER (STRANGE)"], .ok false⟩ := by
  obtain ⟨hsets, -, huseless⟩ := evaluation_exact hamletScene (.city hamlet)
    (RuleCache.faithful_ofRules census)
  constructor
  · have hunevaluable : (census.requirementHead (some "LARGE")).Unevaluable hamletScene
        (.city hamlet) (.unorderedNames true) :=
      .population rfl rfl rfl ⟨by decide, by decide⟩
    exact (hsets _ _).2 ⟨_, .later rfl .here, hunevaluable⟩
  · exact huseless _ _ (.unknown (by decide) rfl)

/-- The set `CENSUS` is resolved, and `holds` on `hamlet` ends in `unorderedNames`. -/
theorem census_stops :
    ∃ set, ((census.set (some "CENSUS")).run.run ∅).1 = .ok set ∧
      ((set.holds hamletScene (.city hamlet)).run census (.ofRules census)).1.result
        = .error (.unorderedNames true) :=
  ⟨_, rfl, rfl⟩

end RequirementSet

end PolicyForecast
