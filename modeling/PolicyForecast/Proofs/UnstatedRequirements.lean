import PolicyForecast.Proofs.Evaluability

/-!
# Requirements that do not say what they require

Many facts are comparisons: of the terrain of a plot with the one that a requirement names, of the
tags of a unit with a tag, and so on (`Fact.compared`). A requirement that leaves out what its fact
is compared with should be met by nothing. It is met by some things nevertheless: where a missing
text is compared like any other, it equals one that is missing on the other side. Which comparisons
are of that kind, and what meets them, is listed in `RequirementHead.MeetsGap`. A project, a terrain
of a city, a district class and a constructible of a plot that are not named are met by nothing, for
these comparisons ask first whether there is a name.

Main statement: `RequirementHead.unstated_satisfied_iff`.
-/

namespace PolicyForecast

variable {rules : Rules} {s : Scene} {subject : Subject} {h : RequirementHead}

/-- The arguments that a fact is compared with; of two the first that is there counts. -/
def Fact.compared : Fact → List String
  | .city .hasBuilding => ["BuildingType", "Tag"]
  | .city .hasProject => ["ProjectType"]
  | .city .hasTerrain | .plot .terrain => ["TerrainType"]
  | .plot .feature => ["FeatureType"]
  | .plot .districtClass => ["DistrictClass"]
  | .plot .hasConstructible => ["ConstructibleType", "Tag"]
  | .player .leader => ["LeaderType"]
  | .player .hasTrait => ["TraitType"]
  | .unit .domain => ["UnitDomain"]
  | .unit .tag => ["Tag"]
  | .unit .type => ["UnitType"]
  | _ => []

namespace RequirementHead

/-- A requirement does not say what its fact is compared with. -/
structure Unstated (h : RequirementHead) (fact : Fact) : Prop where
  compares : fact.compared ≠ []
  absent : ∀ name ∈ fact.compared, h.value? name = none
  /-- Where any project will do there is no comparison. -/
  oneProject : fact = .city .hasProject → h.value? "HasAnyProject" ≠ some "true"

/-- What a fact compares is missing as well on the side of a subject or of the rules. -/
inductive MeetsGap (rules : Rules) (s : Scene) (subject : Subject) (h : RequirementHead) :
    Fact → Prop
  /-- The city has a constructible without a type, and the building that is asked for is there as an
  argument, without a text. -/
  | building {c : City} (hcity : subject.city? = some c)
      (hgiven : h.arguments.find? "BuildingType" ≠ none)
      (hnone : none ∈ s.game.map.cityConstructibles c) :
      h.MeetsGap rules s subject (.city .hasBuilding)
  /-- The plot has no terrain. -/
  | terrain {p : Plot} (hplot : subject.plot? s.game.map = some p) (hnone : p.terrain = none) :
      h.MeetsGap rules s subject (.plot .terrain)
  /-- The plot has no feature. -/
  | feature {p : Plot} (hplot : subject.plot? s.game.map = some p) (hnone : p.feature = none) :
      h.MeetsGap rules s subject (.plot .feature)
  /-- The player has no leader. -/
  | leader (hnone : (playerOf s subject).leader = none) :
      h.MeetsGap rules s subject (.player .leader)
  /-- A row gives the leader of the player a trait that it does not name. -/
  | leaderTrait {leader : String} (hleader : (playerOf s subject).leader = some leader)
      (hnamed : leader ≠ "") (hrow : none ∈ rules.traitsOfLeader (some leader)) :
      h.MeetsGap rules s subject (.player .hasTrait)
  /-- A row gives the civilization of the player a trait that it does not name. -/
  | civilizationTrait {civilization : String}
      (hcivilization : (playerOf s subject).civilization = some civilization)
      (hnamed : civilization ≠ "")
      (hrow : none ∈ rules.traitsOfCivilization (some civilization)) :
      h.MeetsGap rules s subject (.player .hasTrait)
  /-- The type of the unit is known and has no domain. -/
  | domain {u : GameUnit} {r : UnitRecord} (hunit : subject = .unit u)
      (hrecord : rules.unit? u.unitType = some r) (hnone : r.domain = none) :
      h.MeetsGap rules s subject (.unit .domain)
  /-- A row gives the type of the unit a tag that it does not name. -/
  | tag {u : GameUnit} (hunit : subject = .unit u) (hrow : none ∈ rules.tagsOfType u.unitType) :
      h.MeetsGap rules s subject (.unit .tag)
  /-- The unit has no type. -/
  | unitType {u : GameUnit} (hunit : subject = .unit u) (hnone : u.unitType = none) :
      h.MeetsGap rules s subject (.unit .type)

variable {fact : Fact}

lemma MeetsGap.hasSubject (hgap : h.MeetsGap rules s subject fact) :
    fact.hasSubject s subject = true := by
  cases hgap with
  | building hcity => simp [Fact.hasSubject, hcity]
  | terrain hplot | feature hplot => simp [Fact.hasSubject, hplot]
  | leader | leaderTrait | civilizationTrait => rfl
  | domain hunit | tag hunit | unitType hunit => simp [Fact.hasSubject, hunit, Subject.kind]

end RequirementHead

/-! ## Comparisons with what is missing -/

namespace Arguments

variable {args : Arguments} {name : String}

lemma filled?_of_value?_none (hnone : args.value? name = none) : args.filled? name = none := by
  rw [filled?, hnone]
  rfl

lemma value_of_find? {a : Argument} (hnone : args.value? name = none)
    (hfind : args.find? name = some a) : a.value = none := by
  rwa [value?, hfind] at hnone

end Arguments

lemma Rules.typesWithTag_none : rules.typesWithTag none = [] := by
  simp [typesWithTag, keyMatches]

variable {c : City} {p : Plot} {player : Player} {u : GameUnit}

lemma hasBuilding_unstated {args : Arguments} (htype : args.value? "BuildingType" = none)
    (htag : args.value? "Tag" = none) :
    ((hasBuilding s.game.map c args).given rules.answer).result = .ok true ↔
      args.find? "BuildingType" ≠ none ∧ none ∈ s.game.map.cityConstructibles c := by
  unfold hasBuilding
  cases hbuilding : args.find? "BuildingType" with
  | some a =>
    show Except.ok ((s.game.map.cityConstructibles c).contains a.value) = .ok true ↔ _
    rw [Arguments.value_of_find? htype hbuilding]
    simp
  | none =>
    cases htagged : args.find? "Tag" with
    | some a =>
      show Except.ok ((s.game.map.cityConstructibles c).any
        (rules.typesWithTag a.value).contains) = .ok true ↔ _
      rw [Arguments.value_of_find? htag htagged, Rules.typesWithTag_none]
      simp
    | none => cases args.sortedNames <;> exact ⟨nofun, nofun⟩

lemma none_mem_traits {table : MemoTable} {bearer : Option String} :
    ((Consulting.traits table bearer).given rules.answer).2.contains none = true ↔
      ∃ name, bearer = some name ∧ name ≠ "" ∧ none ∈ rules.lookUp table (some name) := by
  unfold Consulting.traits
  cases hnamed : bearer.filter (· ≠ "") with
  | none =>
    refine ⟨nofun, ?_⟩
    rintro ⟨name, rfl, hname, -⟩
    simp [hname] at hnamed
  | some name =>
    obtain ⟨rfl, hname⟩ := Option.filter_eq_some_iff.1 hnamed
    have hne : name ≠ "" := of_decide_eq_true hname
    show (rules.lookUp table (some name)).contains none = true ↔ _
    rw [List.contains_iff_mem]
    constructor
    · intro hrow
      exact ⟨name, rfl, hne, hrow⟩
    · rintro ⟨_, heq, -, hrow⟩
      rwa [Option.some.inj heq]

lemma hasTraitOf_unstated (hnone : h.value? "TraitType" = none) :
    ((PlayerFact.hasTraitOf player h).given rules.answer).2 = true ↔
      ((Consulting.traits .leaderTraits player.leader).given rules.answer).2.contains none = true ∨
      ((Consulting.traits .civilizationTraits player.civilization).given
        rules.answer).2.contains none = true := by
  unfold PlayerFact.hasTraitOf
  rw [hnone, Consulting.given_bind]
  cases ((Consulting.traits .leaderTraits player.leader).given rules.answer).2.contains none with
  | true => exact ⟨fun _ => .inl rfl, fun _ => rfl⟩
  | false =>
    -- the traits of the civilization decide, as those of the leader have no such trait
    show ((Consulting.traits .civilizationTraits player.civilization >>= fun traits =>
      pure (traits.contains none)).given rules.answer).2 = true ↔ _
    rw [Consulting.given_bind, Consulting.given_pure]
    exact ⟨.inr, fun hsome => hsome.resolve_left nofun⟩

/-- The district classes that a requirement asks for. -/
def RequirementHead.districtClasses (h : RequirementHead) : List String :=
  ((h.arguments.find? "DistrictClass").map Argument.list).getD []

lemma hasDistrictClass_of_nil {answers : Answers} (hnone : h.districtClasses = []) :
    ((PlotFact.hasDistrictClass p h).given answers).2 = false := by
  unfold RequirementHead.districtClasses at hnone
  unfold PlotFact.hasDistrictClass
  rw [hnone, Consulting.given_bind]
  cases ((districtClass p).given answers).2 <;> rfl

lemma RequirementHead.districtClasses_of_value?_none (hnone : h.value? "DistrictClass" = none) :
    h.districtClasses = [] := by
  unfold districtClasses
  cases hfind : h.arguments.find? "DistrictClass" with
  | none => rfl
  | some a =>
    show Text.items (a.value.getD "") = []
    rw [Arguments.value_of_find? hnone hfind]
    rfl

lemma Evaluation.result_ofConsulting_eq_ok {α : Type} {answers : Answers} {x : Consulting α}
    {a : α} : ((ofConsulting x).given answers).result = .ok a ↔ (x.given answers).2 = a := by
  rw [given_ofConsulting]
  exact ⟨Except.ok.inj, congrArg _⟩

/-! ## Whose fact is looked at -/

namespace RequirementHead

/-- An `Unstated` city fact holds iff it `MeetsGap`. -/
lemma city_unstated {fact : CityFact} (hcity : subject.city? = some c)
    (hunstated : h.Unstated (.city fact)) :
    ((fact.holds s c h).given rules.answer).result = .ok true ↔
      h.MeetsGap rules s subject (.city fact) := by
  obtain ⟨hcompares, habsent, hproject⟩ := hunstated
  cases fact with
  | isCapital | isCity | isTown | isFounder | isDistantLands | population | followsReligion =>
    exact absurd rfl hcompares
  | hasBuilding =>
    have hiff : ((hasBuilding s.game.map c h.arguments).given rules.answer).result = .ok true ↔ _ :=
      hasBuilding_unstated (habsent "BuildingType" (by decide)) (habsent "Tag" (by decide))
    refine hiff.trans ⟨fun hgap => .building hcity hgap.1 hgap.2, fun hgap => ?_⟩
    cases hgap with
    | building hcity' hgiven hnone =>
      obtain rfl := Option.some.inj (hcity.symm.trans hcity')
      exact ⟨hgiven, hnone⟩
  | hasProject =>
    have hfalse : CityFact.worksOnProject c h = false := by
      rw [CityFact.worksOnProject, if_neg (hproject rfl), habsent "ProjectType" (by decide)]
      cases c.project <;> rfl
    refine ⟨fun heq => ?_, nofun⟩
    change Except.ok (CityFact.worksOnProject c h) = .ok true at heq
    rw [hfalse] at heq
    cases heq
  | hasTerrain =>
    have hfilled := Arguments.filled?_of_value?_none (habsent "TerrainType" (by decide))
    refine ⟨fun heq => ?_, nofun⟩
    simp only [CityFact.holds, CityFact.hasEnoughTerrain, hfilled] at heq
    cases heq

lemma plot_unstated {fact : PlotFact} (hplot : subject.plot? s.game.map = some p)
    (hunstated : h.Unstated (.plot fact)) :
    ((fact.holds s p h).given rules.answer).result = .ok true ↔
      h.MeetsGap rules s subject (.plot fact) := by
  obtain ⟨hcompares, habsent, -⟩ := hunstated
  cases fact with
  | resourceVisible | isCoastalLand | adjacentToCoast | numConstructibles | isQuarter =>
    exact absurd rfl hcompares
  | districtClass =>
    have hfalse : ((PlotFact.hasDistrictClass p h).given rules.answer).2 = false :=
      hasDistrictClass_of_nil (districtClasses_of_value?_none (habsent "DistrictClass" (by decide)))
    refine ⟨fun heq => ?_, nofun⟩
    have htrue := Evaluation.result_ofConsulting_eq_ok.1 heq
    exact absurd (hfalse.symm.trans htrue) Bool.false_ne_true
  | hasConstructible =>
    have htype := Arguments.filled?_of_value?_none (habsent "ConstructibleType" (by decide))
    have htag := Arguments.filled?_of_value?_none (habsent "Tag" (by decide))
    have hfalse : ((plotHasConstructible p h.arguments).given rules.answer).2 = false := by
      rw [plotHasConstructible, htype, htag]
      rfl
    refine ⟨fun heq => ?_, nofun⟩
    have htrue := Evaluation.result_ofConsulting_eq_ok.1 heq
    exact absurd (hfalse.symm.trans htrue) Bool.false_ne_true
  | terrain =>
    show Except.ok (p.terrain == h.value? "TerrainType") = .ok true ↔ _
    rw [habsent "TerrainType" (by decide)]
    refine ⟨fun heq => .terrain hplot (by simpa using heq), fun hgap => ?_⟩
    cases hgap with
    | terrain hplot' hnone =>
      obtain rfl := Option.some.inj (hplot.symm.trans hplot')
      rw [hnone]
      rfl
  | feature =>
    show Except.ok (p.feature == h.value? "FeatureType") = .ok true ↔ _
    rw [habsent "FeatureType" (by decide)]
    refine ⟨fun heq => .feature hplot (by simpa using heq), fun hgap => ?_⟩
    cases hgap with
    | feature hplot' hnone =>
      obtain rfl := Option.some.inj (hplot.symm.trans hplot')
      rw [hnone]
      rfl

lemma player_unstated {fact : PlayerFact} (hunstated : h.Unstated (.player fact)) :
    ((fact.holds s (playerOf s subject) h).given rules.answer).result = .ok true ↔
      h.MeetsGap rules s subject (.player fact) := by
  obtain ⟨hcompares, habsent, -⟩ := hunstated
  cases fact with
  | atPeaceWithMajors | numAlliances => exact absurd rfl hcompares
  | leader =>
    show Except.ok ((playerOf s subject).leader == h.value? "LeaderType") = .ok true ↔ _
    rw [habsent "LeaderType" (by decide)]
    refine ⟨fun heq => .leader (by simpa using heq), fun hgap => ?_⟩
    cases hgap with
    | leader hnone =>
      rw [hnone]
      rfl
  | hasTrait =>
    refine Evaluation.result_ofConsulting_eq_ok.trans
      ((hasTraitOf_unstated (habsent "TraitType" (by decide))).trans ?_)
    rw [none_mem_traits, none_mem_traits]
    constructor
    · rintro (⟨leader, hleader, hnamed, hrow⟩ | ⟨civilization, hcivilization, hnamed, hrow⟩)
      · exact .leaderTrait hleader hnamed hrow
      · exact .civilizationTrait hcivilization hnamed hrow
    · intro hgap
      cases hgap with
      | leaderTrait hleader hnamed hrow => exact .inl ⟨_, hleader, hnamed, hrow⟩
      | civilizationTrait hcivilization hnamed hrow =>
        exact .inr ⟨_, hcivilization, hnamed, hrow⟩

lemma unit_unstated {fact : UnitFact} (hunstated : h.Unstated (.unit fact)) :
    ((fact.holds u h).given rules.answer).2 = true ↔
      h.MeetsGap rules s (.unit u) (.unit fact) := by
  obtain ⟨-, habsent, -⟩ := hunstated
  cases fact with
  | domain =>
    show (rules.unit? u.unitType).any (·.domain == h.value? "UnitDomain") = true ↔ _
    rw [habsent "UnitDomain" (by decide), Option.any_eq_true]
    constructor
    · rintro ⟨r, hrecord, hnone⟩
      exact .domain rfl hrecord (by simpa using hnone)
    · intro hgap
      cases hgap with
      | domain hunit hrecord hnone =>
        obtain rfl := Subject.unit.inj hunit
        exact ⟨_, hrecord, by simpa using hnone⟩
  | tag =>
    show (rules.tagsOfType u.unitType).contains (h.value? "Tag") = true ↔ _
    rw [habsent "Tag" (by decide), List.contains_iff_mem]
    refine ⟨fun hrow => .tag rfl hrow, fun hgap => ?_⟩
    cases hgap with
    | tag hunit hrow =>
      obtain rfl := Subject.unit.inj hunit
      exact hrow
  | type =>
    show (u.unitType == h.value? "UnitType") = true ↔ _
    rw [habsent "UnitType" (by decide)]
    refine ⟨fun hnone => .unitType rfl (by simpa using hnone), fun hgap => ?_⟩
    cases hgap with
    | unitType hunit hnone =>
      obtain rfl := Subject.unit.inj hunit
      rw [hnone]
      rfl

variable {fact : Fact}

lemma isSatisfied_unstated (htype : Fact.ofType? h.type = some fact)
    (hunstated : h.Unstated fact) :
    ((h.isSatisfied s subject).given rules.answer).result = .ok true ↔
      h.MeetsGap rules s subject fact := by
  cases hsubject : fact.hasSubject s subject with
  | false =>
    rw [given_of_unsuited htype hsubject]
    refine ⟨nofun, fun hgap => ?_⟩
    rw [hgap.hasSubject] at hsubject
    cases hsubject
  | true =>
    cases fact with
    | city fact =>
      obtain ⟨c, hcity⟩ := Option.isSome_iff_exists.1 hsubject
      rw [isSatisfied_of_city htype hcity, city_unstated hcity hunstated]
    | plot fact =>
      obtain ⟨p, hplot⟩ := Option.isSome_iff_exists.1 hsubject
      rw [isSatisfied_of_plot htype hplot, plot_unstated hplot hunstated]
    | player fact =>
      rw [isSatisfied, htype]
      exact player_unstated hunstated
    | unit fact =>
      cases subject with
      | unit u =>
        rw [isSatisfied, htype]
        exact Evaluation.result_ofConsulting_eq_ok.trans (unit_unstated hunstated)
      | city | plot | player | empty => cases hsubject

/-- `isSatisfied` of a requirement that is `Unstated` is true iff `MeetsGap`, and false iff it
neither `MeetsGap` nor is `Unevaluable`. -/
theorem unstated_satisfied_iff {cache : RuleCache} (hcache : cache.Faithful rules) (s : Scene)
    (subject : Subject) (h : RequirementHead) (fact : Fact)
    (htype : Fact.ofType? h.type = some fact) (hunstated : h.Unstated fact) :
    let result := ((h.isSatisfied s subject).run rules cache).1.result
    (result = .ok true ↔ h.MeetsGap rules s subject fact) ∧
      (result = .ok false ↔
        ¬ h.MeetsGap rules s subject fact ∧ ∀ fault, ¬ h.Unevaluable s subject fault) := by
  intro result
  have hresult : result = ((h.isSatisfied s subject).given rules.answer).result := by
    rw [← Evaluation.run_of_faithful _ hcache]
  have hmet : ((h.isSatisfied s subject).given rules.answer).result = .ok true ↔
      h.MeetsGap rules s subject fact := isSatisfied_unstated htype hunstated
  have hstops (fault : EvaluationFault) :
      ((h.isSatisfied s subject).given rules.answer).result = .error fault ↔
        h.Unevaluable s subject fault := isSatisfied_eq_error
  rw [hresult, ← hmet]
  refine ⟨Iff.rfl, ?_⟩
  simp only [← hstops]
  cases ((h.isSatisfied s subject).given rules.answer).result with
  | error fault => exact ⟨nofun, fun hnot => absurd rfl (hnot.2 fault)⟩
  | ok met => cases met <;> simp

/-- `SOME_LEADER` and `SOME_FEATURE`, without the leader and the feature that they ask for. -/
def vague : Rules where
  requirements :=
    [⟨some "SOME_LEADER", some "REQUIREMENT_PLAYER_LEADER_TYPE_MATCHES", false⟩,
     ⟨some "SOME_FEATURE", some "REQUIREMENT_PLOT_FEATURE_TYPE_MATCHES", false⟩]

/-- A player as subject, with or without a leader. -/
def chief (leader : Option String) : Subject :=
  .player { id := 1, leader }

/-- `SOME_LEADER`, which names no leader, is met by a `chief` without one and not by one with
`ADA`. -/
theorem vague_leader_met_without_leader :
    let h := vague.requirementHead (some "SOME_LEADER")
    h.Unstated (.player .leader) ∧
      ((h.isSatisfied RequirementSet.hamletScene (chief none)).run vague
        (.ofRules vague)).1.result = .ok true ∧
      ((h.isSatisfied RequirementSet.hamletScene (chief (some "ADA"))).run vague
        (.ofRules vague)).1.result = .ok false := by
  intro h
  have hunstated : h.Unstated (.player .leader) := ⟨nofun, by decide, nofun⟩
  have hexact (leader : Option String) := unstated_satisfied_iff (RuleCache.faithful_ofRules vague)
    RequirementSet.hamletScene (chief leader) h (.player .leader) rfl hunstated
  refine ⟨hunstated, (hexact none).1.2 (.leader rfl), (hexact (some "ADA")).2.2 ⟨?_, ?_⟩⟩
  · intro hgap
    cases hgap with
    | leader hnone => cases hnone
  · intro fault hunevaluable
    cases hunevaluable with
    | population htype | building htype | coast htype => cases htype

/-- `SOME_FEATURE`, which has no `FeatureType`, is met on a plot without a feature. -/
theorem vague_feature_met_without_feature :
    let h := vague.requirementHead (some "SOME_FEATURE")
    h.arguments.find? "FeatureType" = none ∧
      ((h.isSatisfied RequirementSet.hamletScene
          (.plot RequirementSet.hamlet { index := 0, x := 0, y := 0 })).run vague
        (.ofRules vague)).1.result = .ok true :=
  ⟨rfl, rfl⟩

end RequirementHead

end PolicyForecast
