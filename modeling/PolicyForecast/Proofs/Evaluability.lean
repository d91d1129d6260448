import PolicyForecast.Proofs.Selection

/-!
# Which requirements cannot be evaluated

Most requirements come to a verdict on every subject: one that fits nothing counts as not met, with
a remark. There are two reasons for which the evaluation of a requirement stops instead, and with it
the whole preview. The names of its arguments are listed in a remark although one of several is
missing; or the neighbours of a plot are looked for on a map without columns
(`RequirementHead.Unevaluable`). A set stops at the first such requirement that its evaluation gets
to (`Requirement.Reaches`). Main statements: `RequirementHead.isSatisfied_eq_error` and
`RequirementSet.holds_eq_error`.
-/

namespace PolicyForecast

variable {α β : Type}

/-! ## Names that cannot be put in order -/

namespace Arguments

/-- One of several names is missing. -/
def Unordered (args : Arguments) : Prop :=
  none ∈ args.keys ∧ 1 < args.keys.length

/-- The fault that stops a listing of names in order. -/
def orderFault (args : Arguments) : EvaluationFault :=
  .unorderedNames (args.keys.head? == some none)

variable {args : Arguments}

lemma sortedNames_of_unordered (h : args.Unordered) :
    args.sortedNames = .error args.orderFault := by
  obtain ⟨hmem, hlength⟩ := h
  unfold sortedNames orderFault
  split
  next heq => rw [heq]; rfl
  next hne =>
    have hboth : (args.keys.contains none && decide (1 < args.keys.length)) = true := by
      rw [Bool.and_eq_true, List.contains_iff_mem, decide_eq_true_eq]
      exact ⟨hmem, hlength⟩
    rw [if_pos hboth]
    -- a list of several names begins with a name, or the first case would have applied
    cases hkeys : args.keys with
    | nil => rw [hkeys] at hmem; cases hmem
    | cons key rest =>
      cases key with
      | some name => rfl
      | none =>
        cases rest with
        | nil => rw [hkeys] at hlength; simp at hlength
        | cons key rest => exact absurd hkeys (hne key rest)

lemma sortedNames_of_not_unordered (h : ¬ args.Unordered) :
    args.sortedNames = .ok (args.keys.mergeSort nameLe) := by
  unfold sortedNames
  split
  next key rest heq => exact absurd ⟨by simp [heq], by simp [heq]⟩ h
  next =>
    rw [if_neg]
    intro hboth
    rw [Bool.and_eq_true, List.contains_iff_mem, decide_eq_true_eq] at hboth
    exact h hboth

lemma sortedNames_eq_error {fault : EvaluationFault} :
    args.sortedNames = .error fault ↔ args.Unordered ∧ fault = args.orderFault := by
  by_cases h : args.Unordered
  · rw [sortedNames_of_unordered h]
    exact ⟨fun heq => ⟨h, (Except.error.inj heq).symm⟩, fun heq => heq.2 ▸ rfl⟩
  · rw [sortedNames_of_not_unordered h]
    exact ⟨nofun, fun heq => absurd heq.1 h⟩

end Arguments

/-! ## Neighbours on a map without columns -/

namespace HexMap

/-- The row of a plot or one beside it is on the map. -/
def HasRowBy (m : HexMap) (p : Plot) : Prop :=
  ∃ y, (p.y - 1 ≤ y ∧ y ≤ p.y + 1) ∧ 0 ≤ y ∧ y < m.height

variable {m : HexMap} {p : Plot} {fault : EvaluationFault}

lemma step?_eq_error {offset : Int × Int} :
    m.step? p offset = .error fault ↔
      (m.width = 0 ∧ 0 ≤ p.y + offset.2 ∧ p.y + offset.2 < m.height) ∧ fault = .zeroWidth := by
  unfold step?
  simp only
  split
  · simp; omega
  · split
    next hrow hwidth => simp [hwidth, eq_comm]; omega
    next => simp; omega

/-- The offsets to neighbours lead to the rows -1, 0 and 1. -/
lemma exists_offset_iff (y : Int) (P : Int → Prop) :
    (∃ offset ∈ offsetsInRow y, P offset.2) ↔ P (-1) ∨ P 0 ∨ P 1 := by
  unfold offsetsInRow evenRowOffsets oddRowOffsets
  split <;> simp <;> tauto

/-- `steps` fails iff the map has no columns and the plot has rows beside it. -/
lemma steps_eq_error :
    m.steps p = .error fault ↔ (m.width = 0 ∧ m.HasRowBy p) ∧ fault = .zeroWidth := by
  have hrow : (∃ offset ∈ offsetsInRow p.y,
      m.width = 0 ∧ 0 ≤ p.y + offset.2 ∧ p.y + offset.2 < m.height) ↔
      m.width = 0 ∧ m.HasRowBy p := by
    rw [exists_offset_iff p.y fun d => m.width = 0 ∧ 0 ≤ p.y + d ∧ p.y + d < m.height]
    constructor
    · rintro (⟨hwidth, hrow⟩ | ⟨hwidth, hrow⟩ | ⟨hwidth, hrow⟩)
      all_goals exact ⟨hwidth, _, by omega, hrow⟩
    · rintro ⟨hwidth, y, hnear, hrow⟩
      have hcases : y = p.y - 1 ∨ y = p.y ∨ y = p.y + 1 := by omega
      rcases hcases with rfl | rfl | rfl
      · exact .inl ⟨hwidth, by omega⟩
      · exact .inr (.inl ⟨hwidth, by omega⟩)
      · exact .inr (.inr ⟨hwidth, by omega⟩)
  unfold steps
  rw [bind_pure_eq_error, mapM_eq_error (fun _ _ => step?_eq_error), hrow]

/-- `neighbours` fails iff the map has no columns and the plot has rows beside it. -/
lemma neighbours_eq_error {index : Int} :
    m.neighbours index = .error fault ↔
      (m.width = 0 ∧ ∃ p, m.plot? index = some p ∧ m.HasRowBy p) ∧ fault = .zeroWidth := by
  unfold neighbours
  cases hplot : m.plot? index with
  | none => simp
  | some p =>
    show (m.steps p >>= fun numbers => pure _) = _ ↔ _
    rw [bind_pure_eq_error, steps_eq_error]
    simp

end HexMap

lemma isAdjacentToCoast_eq_error {m : HexMap} {p : Plot} {fault : EvaluationFault} :
    isAdjacentToCoast m p = .error fault ↔
      (p.coastalLand = false ∧ m.width = 0 ∧ ∃ q, m.plot? p.index = some q ∧ m.HasRowBy q) ∧
        fault = .zeroWidth := by
  unfold isAdjacentToCoast
  cases hcoastal : p.coastalLand with
  | true => simp [pure, Except.pure]
  | false =>
    show (m.neighbours p.index >>= fun plots => pure _) = _ ↔ _
    rw [bind_pure_eq_error, HexMap.neighbours_eq_error]
    simp

/-! ## Single requirements -/

namespace Evaluation

variable {answers : Answers}

/-- A computation comes to a value under given answers. -/
def Ends (answers : Answers) (x : Evaluation α) : Prop :=
  ∃ a, (x.given answers).result = .ok a

lemma ends_pure (a : α) : (pure a : Evaluation α).Ends answers := ⟨a, rfl⟩

lemma ends_ofConsulting (x : Consulting α) : (ofConsulting x).Ends answers :=
  ⟨(x.given answers).2, congrArg Recorded.result (given_ofConsulting x)⟩

lemma Ends.bind {x : Evaluation α} {f : α → Evaluation β} (hx : x.Ends answers)
    (hf : ∀ a, (f a).Ends answers) : (x >>= f).Ends answers := by
  obtain ⟨a, ha⟩ := hx
  obtain ⟨b, hb⟩ := hf a
  refine ⟨b, ?_⟩
  rw [given_bind, Recorded.result_bind, ha]
  exact hb

lemma Ends.not_error {x : Evaluation α} (h : x.Ends answers) {fault : EvaluationFault} :
    (x.given answers).result ≠ .error fault := by
  obtain ⟨a, ha⟩ := h
  rw [ha]
  exact nofun

end Evaluation

namespace RequirementHead

variable {answers : Answers} {s : Scene} {subject : Subject} {h : RequirementHead}

/-- A requirement cannot be evaluated on a subject. -/
inductive Unevaluable (s : Scene) (subject : Subject) (h : RequirementHead) :
    EvaluationFault → Prop
  /-- It is about the inhabitants of a city, but does not say how many, and has an argument without
  a name among others. -/
  | population (htype : Fact.ofType? h.type = some (.city .population))
      (hcity : subject.city?.isSome) (hnone : h.arguments.has "MinUrbanPopulation" = false)
      (hnames : h.arguments.Unordered) : h.Unevaluable s subject h.arguments.orderFault
  /-- It is about a building in a city, but does not say which, and has an argument without a name
  among others. -/
  | building (htype : Fact.ofType? h.type = some (.city .hasBuilding))
      (hcity : subject.city?.isSome) (htypeless : h.arguments.find? "BuildingType" = none)
      (htagless : h.arguments.find? "Tag" = none) (hnames : h.arguments.Unordered) :
      h.Unevaluable s subject h.arguments.orderFault
  /-- It is about the coast beside a plot that is not coastal itself, on a map without columns. -/
  | coast {p q : Plot} (htype : Fact.ofType? h.type = some (.plot .adjacentToCoast))
      (hplot : subject.plot? s.game.map = some p) (hinland : p.coastalLand = false)
      (hwidth : s.game.map.width = 0) (hstored : s.game.map.plot? p.index = some q)
      (hrow : s.game.map.HasRowBy q) : h.Unevaluable s subject .zeroWidth

lemma ends_threshold (argument : String) : (h.threshold argument).Ends answers := by
  unfold threshold
  split
  · exact Evaluation.ends_pure _
  · split
    · exact Evaluation.ends_pure _
    · exact (Evaluation.ends_ofConsulting _).bind fun _ => Evaluation.ends_pure _

lemma ends_reaches (argument : String) (count : Int) : (h.reaches argument count).Ends answers :=
  (ends_threshold argument).bind fun _ => Evaluation.ends_pure _

lemma ends_unsuited (subject : Subject) : (h.unsuited subject).Ends answers :=
  (Evaluation.ends_ofConsulting _).bind fun _ => Evaluation.ends_pure _

end RequirementHead

variable {answers : Answers} {s : Scene} {h : RequirementHead} {fault : EvaluationFault}

/-- `sortedNames` fails iff the names are `Unordered`. -/
lemma Arguments.map_sortedNames_eq_error {args : Arguments} :
    (args.sortedNames.map fun _ => false) = .error fault ↔
      args.Unordered ∧ fault = args.orderFault := by
  rw [← sortedNames_eq_error]
  cases args.sortedNames with
  | error fault' =>
    exact ⟨fun heq => congrArg _ (Except.error.inj heq),
      fun heq => congrArg _ (Except.error.inj heq)⟩
  | ok names => exact ⟨nofun, nofun⟩

lemma hasBuilding_eq_error {m : HexMap} {c : City} {args : Arguments} :
    ((hasBuilding m c args).given answers).result = .error fault ↔
      (args.find? "BuildingType" = none ∧ args.find? "Tag" = none ∧ args.Unordered) ∧
        fault = args.orderFault := by
  unfold hasBuilding
  cases args.find? "BuildingType" with
  | some a => exact ⟨nofun, nofun⟩
  | none =>
    cases args.find? "Tag" with
    | some a =>
      have hends (look : Consulting (List (Option String))) :
          Evaluation.Ends answers do return (m.cityConstructibles c).any (← look).contains :=
        (Evaluation.ends_ofConsulting _).bind fun _ => Evaluation.ends_pure _
      exact ⟨fun heq => absurd heq (hends _).not_error, nofun⟩
    | none =>
      have hresult : (Evaluation.given answers do
          discard (args.sortedNames : Except EvaluationFault _)
          return false).result = args.sortedNames.map fun _ => false := by
        cases args.sortedNames <;> rfl
      simp only [hresult, Arguments.map_sortedNames_eq_error, true_and]

namespace CityFact

lemma result_hasEnoughInhabitants {c : City}
    (hnone : h.arguments.has "MinUrbanPopulation" = false) :
    ((hasEnoughInhabitants c h).given answers).result
      = h.arguments.sortedNames.map fun _ => false := by
  unfold hasEnoughInhabitants
  rw [hnone]
  cases h.arguments.sortedNames <;> rfl

lemma hasEnoughInhabitants_eq_error {c : City} :
    ((hasEnoughInhabitants c h).given answers).result = .error fault ↔
      (h.arguments.has "MinUrbanPopulation" = false ∧ h.arguments.Unordered) ∧
        fault = h.arguments.orderFault := by
  cases hhas : h.arguments.has "MinUrbanPopulation" with
  | true =>
    have hends : (h.reaches "MinUrbanPopulation" c.urbanPopulation).Ends answers :=
      RequirementHead.ends_reaches _ _
    unfold hasEnoughInhabitants
    rw [hhas]
    exact ⟨fun heq => absurd heq hends.not_error, nofun⟩
  | false => simp [result_hasEnoughInhabitants hhas, Arguments.map_sortedNames_eq_error]

lemma ends_holds {c : City} {fact : CityFact} (hpopulation : fact ≠ .population)
    (hbuilding : fact ≠ .hasBuilding) : (fact.holds s c h).Ends answers := by
  cases fact with
  | population => exact absurd rfl hpopulation
  | hasBuilding => exact absurd rfl hbuilding
  | hasTerrain =>
    show (hasEnoughTerrain s c h).Ends answers
    unfold hasEnoughTerrain
    split
    · exact (Evaluation.ends_ofConsulting _).bind fun _ => Evaluation.ends_pure _
    · exact h.ends_reaches _ _
  | isCapital | isCity | isTown | isFounder | isDistantLands | hasProject | followsReligion =>
    exact Evaluation.ends_pure _

end CityFact

lemma PlotFact.ends_holds {p : Plot} {fact : PlotFact} (hcoast : fact ≠ .adjacentToCoast) :
    (fact.holds s p h).Ends answers := by
  cases fact with
  | adjacentToCoast => exact absurd rfl hcoast
  | numConstructibles => exact h.ends_reaches _ _
  | districtClass | hasConstructible | isQuarter => exact Evaluation.ends_ofConsulting _
  | resourceVisible | isCoastalLand | terrain | feature => exact Evaluation.ends_pure _

lemma PlayerFact.ends_holds {p : Player} {fact : PlayerFact} :
    (fact.holds s p h).Ends answers := by
  cases fact with
  | hasTrait => exact Evaluation.ends_ofConsulting _
  | numAlliances => exact h.ends_reaches _ _
  | atPeaceWithMajors | leader => exact Evaluation.ends_pure _

namespace RequirementHead

variable {subject : Subject}

lemma isSatisfied_of_city {fact : CityFact} (htype : Fact.ofType? h.type = some (.city fact))
    {c : City} (hcity : subject.city? = some c) : h.isSatisfied s subject = fact.holds s c h := by
  unfold isSatisfied
  rw [htype]
  simp only [hcity]

lemma isSatisfied_of_plot {fact : PlotFact} (htype : Fact.ofType? h.type = some (.plot fact))
    {p : Plot} (hplot : subject.plot? s.game.map = some p) :
    h.isSatisfied s subject = fact.holds s p h := by
  unfold isSatisfied
  rw [htype]
  simp only [hplot]

lemma unevaluable_of_city {fact : CityFact} {c : City}
    (htype : Fact.ofType? h.type = some (.city fact)) (hc : subject.city? = some c)
    (heq : ((fact.holds s c h).given answers).result = .error fault) :
    h.Unevaluable s subject fault := by
  have hcity : subject.city?.isSome := by rw [hc]; rfl
  by_cases hpopulation : fact = .population
  · subst hpopulation
    obtain ⟨⟨hnone, hnames⟩, rfl⟩ := CityFact.hasEnoughInhabitants_eq_error.1 heq
    exact .population htype hcity hnone hnames
  · by_cases hbuilding : fact = .hasBuilding
    · subst hbuilding
      obtain ⟨⟨htypeless, htagless, hnames⟩, rfl⟩ := hasBuilding_eq_error.1 heq
      exact .building htype hcity htypeless htagless hnames
    · exact absurd heq (CityFact.ends_holds hpopulation hbuilding).not_error

lemma unevaluable_of_plot {fact : PlotFact} {p : Plot}
    (htype : Fact.ofType? h.type = some (.plot fact)) (hp : subject.plot? s.game.map = some p)
    (heq : ((fact.holds s p h).given answers).result = .error fault) :
    h.Unevaluable s subject fault := by
  by_cases hcoast : fact = .adjacentToCoast
  · subst hcoast
    obtain ⟨⟨hinland, hwidth, q, hstored, hrow⟩, rfl⟩ := isAdjacentToCoast_eq_error.1 heq
    exact .coast htype hp hinland hwidth hstored hrow
  · exact absurd heq (PlotFact.ends_holds hcoast).not_error

/-- A requirement whose `isSatisfied` fails is `Unevaluable`. -/
lemma unevaluable_of_error (heq : ((h.isSatisfied s subject).given answers).result = .error fault) :
    h.Unevaluable s subject fault := by
  unfold isSatisfied at heq
  split at heq
  next fact htype =>
    split at heq
    next c hc => exact unevaluable_of_city htype hc heq
    next => exact absurd heq (ends_unsuited _).not_error
  next fact htype =>
    split at heq
    next p hp => exact unevaluable_of_plot htype hp heq
    next => exact absurd heq (ends_unsuited _).not_error
  next => exact absurd heq PlayerFact.ends_holds.not_error
  next =>
    split at heq
    next => exact absurd heq (Evaluation.ends_ofConsulting _).not_error
    next => exact absurd heq (ends_unsuited _).not_error
  next =>
    have hends : Evaluation.Ends answers do
        .note (.missing s!"Unhandled RequirementType: {Wording.name h.type} ({h.name})")
        return false :=
      (Evaluation.ends_ofConsulting _).bind fun _ => Evaluation.ends_pure _
    exact absurd heq hends.not_error

/-- `isSatisfied` fails iff the requirement is `Unevaluable`. -/
lemma isSatisfied_eq_error :
    ((h.isSatisfied s subject).given answers).result = .error fault ↔
      h.Unevaluable s subject fault := by
  refine ⟨unevaluable_of_error, fun hunevaluable => ?_⟩
  cases hunevaluable with
  | population htype hcity hnone hnames =>
    obtain ⟨c, hc⟩ := Option.isSome_iff_exists.1 hcity
    rw [isSatisfied_of_city htype hc]
    exact CityFact.hasEnoughInhabitants_eq_error.2 ⟨⟨hnone, hnames⟩, rfl⟩
  | building htype hcity htypeless htagless hnames =>
    obtain ⟨c, hc⟩ := Option.isSome_iff_exists.1 hcity
    rw [isSatisfied_of_city htype hc]
    exact hasBuilding_eq_error.2 ⟨⟨htypeless, htagless, hnames⟩, rfl⟩
  | coast htype hplot hinland hwidth hstored hrow =>
    rw [isSatisfied_of_plot htype hplot]
    exact isAdjacentToCoast_eq_error.2 ⟨⟨hinland, hwidth, _, hstored, hrow⟩, rfl⟩

lemma type_ne_of_unevaluable (hunevaluable : h.Unevaluable s subject fault) :
    h.type ≠ some setIsMet := by
  intro htype
  have hnone : Fact.ofType? h.type = none := by
    rw [htype]
    decide
  cases hunevaluable with
  | population hfact | building hfact | coast hfact =>
    rw [hnone] at hfact
    cases hfact

/-- `isSatisfiedAlone` fails iff the requirement is `Unevaluable`. -/
lemma isSatisfiedAlone_eq_error :
    ((h.isSatisfiedAlone s subject).given answers).result = .error fault ↔
      h.Unevaluable s subject fault := by
  unfold isSatisfiedAlone
  split
  next htype =>
    exact ⟨nofun, fun hunevaluable => absurd htype (type_ne_of_unevaluable hunevaluable)⟩
  next => exact isSatisfied_eq_error

end RequirementHead

/-! ## Requirements without a subject -/

/-- Whether a subject has what a fact is about. -/
def Fact.hasSubject (s : Scene) (subject : Subject) : Fact → Bool
  | .city _ => subject.city?.isSome
  | .plot _ => (subject.plot? s.game.map).isSome
  | .player _ => true
  | .unit _ => subject.kind = .unit

namespace RequirementHead

variable {subject : Subject}

lemma isSatisfiedAlone_of_fact {fact : Fact} (htype : Fact.ofType? h.type = some fact) :
    h.isSatisfiedAlone s subject = h.isSatisfied s subject := by
  refine if_neg fun hset => ?_
  rw [hset] at htype
  cases htype

lemma given_of_unsuited {fact : Fact} (htype : Fact.ofType? h.type = some fact)
    (hsubject : fact.hasSubject s subject = false) :
    (h.isSatisfied s subject).given answers =
      ⟨[.missing (s!"Requirement {h.name} ({Wording.name h.type}) cannot be evaluated on "
        ++ subject.describe)], .ok false⟩ := by
  unfold isSatisfied
  rw [htype]
  cases fact with
  | city fact =>
    have hcity : subject.city? = none :=
      Option.isNone_iff_eq_none.1 (Option.isSome_eq_false_iff.1 hsubject)
    simp only [hcity]
    rfl
  | plot fact =>
    have hplot : subject.plot? s.game.map = none :=
      Option.isNone_iff_eq_none.1 (Option.isSome_eq_false_iff.1 hsubject)
    simp only [hplot]
    rfl
  | player fact => cases hsubject
  | unit fact =>
    cases subject with
    | unit u => cases hsubject
    | city | plot | player | empty => rfl

end RequirementHead

/-! ## Sets of requirements -/

/-- The evaluation of requirements from left to right, of which one that comes out as `deciding`
ends it, gets to a requirement that states a fact: it stands first, or in the set that the first one
stands for, or the first one comes out otherwise. -/
inductive Requirement.Reaches (answers : Answers) (s : Scene) (subject : Subject) :
    (deciding : Bool) → List Requirement → RequirementHead → Prop
  | here {deciding : Bool} {h : RequirementHead} {rest : List Requirement} :
      Reaches answers s subject deciding (.leaf h :: rest) h
  | inside {deciding : Bool} {head h : RequirementHead} {id type : String}
      {requirements rest : List Requirement}
      (hinside : Reaches answers s subject (type = anyOf) requirements h) :
      Reaches answers s subject deciding (.nested head id type requirements :: rest) h
  | later {deciding : Bool} {r : Requirement} {rest : List Requirement} {h : RequirementHead}
      (hr : ((r.holds s subject).given answers).result = .ok (!deciding))
      (hlater : Reaches answers s subject deciding rest h) :
      Reaches answers s subject deciding (r :: rest) h

namespace Requirement

variable {subject : Subject} {deciding : Bool}

lemma result_search_nil :
    ((search s subject deciding []).given answers).result = .ok (!deciding) := by
  rw [search]
  rfl

lemma result_search_cons (r : Requirement) (rest : List Requirement) :
    ((search s subject deciding (r :: rest)).given answers).result =
      ((r.holds s subject).given answers).result >>= fun b =>
        if b = deciding then .ok deciding
        else ((search s subject deciding rest).given answers).result := by
  rw [search, Evaluation.given_bind, Recorded.result_bind]
  congr 1
  funext b
  split <;> rfl

/-- `outcome` has the result of the search, met if the set is empty. -/
lemma result_outcome (type id : String) (isEmpty : Bool) (search : Bool → Evaluation Bool) :
    ((RequirementSet.outcome type id isEmpty search).given answers).result =
      if isEmpty then .ok true else ((search (type = anyOf)).given answers).result := by
  have hremark : ((RequirementSet.remarkOnType type id).given answers).result = .ok () := by
    unfold RequirementSet.remarkOnType
    split <;> rfl
  unfold RequirementSet.outcome
  split
  · rfl
  · rw [Evaluation.given_bind, Recorded.result_bind, hremark]
    rfl

/-- `search` fails at its first requirement, or in the rest if the first comes to `!deciding`. -/
lemma search_cons_eq_error {r : Requirement} {rest : List Requirement} :
    ((search s subject deciding (r :: rest)).given answers).result = .error fault ↔
      ((r.holds s subject).given answers).result = .error fault ∨
        ((r.holds s subject).given answers).result = .ok (!deciding) ∧
          ((search s subject deciding rest).given answers).result = .error fault := by
  rw [result_search_cons]
  cases ((r.holds s subject).given answers).result with
  | error fault' =>
    show Except.error fault' = Except.error fault ↔ _
    simp
  | ok b =>
    show (if b = deciding then _ else _) = _ ↔ _
    cases b <;> cases deciding <;> simp

/-- `Reaches` goes to the rest if the first requirement comes to `!deciding`. -/
lemma reaches_cons {r : Requirement} {rest : List Requirement} {h : RequirementHead} :
    Reaches answers s subject deciding (r :: rest) h ↔
      Reaches answers s subject deciding [r] h ∨
        ((r.holds s subject).given answers).result = .ok (!deciding) ∧
          Reaches answers s subject deciding rest h := by
  constructor
  · intro hreaches
    cases hreaches with
    | here => exact .inl .here
    | inside hinside => exact .inl (.inside hinside)
    | later hr hlater => exact .inr ⟨hr, hlater⟩
  · rintro (hfirst | ⟨hr, hlater⟩)
    · cases hfirst with
      | here => exact .here
      | inside hinside => exact .inside hinside
      | later _ hnothing => cases hnothing
    · exact .later hr hlater

lemma leaf_eq_error {head : RequirementHead} :
    ((holds s subject (.leaf head)).given answers).result = .error fault ↔
      ((head.isSatisfiedAlone s subject).given answers).result = .error fault := by
  rw [holds, Evaluation.given_bind, Recorded.result_bind]
  exact bind_pure_eq_error

/-- A nested requirement fails iff the search of its set does. -/
lemma nested_eq_error {head : RequirementHead} {id type : String}
    {requirements : List Requirement} :
    ((holds s subject (.nested head id type requirements)).given answers).result = .error fault ↔
      ((search s subject (type = anyOf) requirements).given answers).result = .error fault := by
  rw [holds, Evaluation.given_bind, Recorded.result_bind, result_outcome]
  refine bind_pure_eq_error.trans ?_
  cases requirements with
  | nil => simp [result_search_nil]
  | cons r rest => rfl

-- Along the tree: a requirement stops through the set that it stands for, a list through one of its
-- requirements.

mutual

lemma holds_eq_error (deciding : Bool) : (r : Requirement) →
    (((r.holds s subject).given answers).result = .error fault ↔
      ∃ h, Reaches answers s subject deciding [r] h ∧ h.Unevaluable s subject fault)
  | .leaf head => by
    rw [leaf_eq_error, RequirementHead.isSatisfiedAlone_eq_error]
    constructor
    · exact fun hunevaluable => ⟨head, .here, hunevaluable⟩
    · rintro ⟨h, hreaches, hunevaluable⟩
      cases hreaches with
      | here => exact hunevaluable
      | later _ hnothing => cases hnothing
  | .nested head id type requirements => by
    rw [nested_eq_error, search_eq_error (type = anyOf) requirements]
    constructor
    · rintro ⟨h, hinside, hunevaluable⟩
      exact ⟨h, .inside hinside, hunevaluable⟩
    · rintro ⟨h, hreaches, hunevaluable⟩
      cases hreaches with
      | inside hinside => exact ⟨h, hinside, hunevaluable⟩
      | later _ hnothing => cases hnothing

lemma search_eq_error (deciding : Bool) : (requirements : List Requirement) →
    (((search s subject deciding requirements).given answers).result = .error fault ↔
      ∃ h, Reaches answers s subject deciding requirements h ∧ h.Unevaluable s subject fault)
  | [] => by
    rw [result_search_nil]
    constructor
    · intro heq
      cases heq
    · rintro ⟨h, hreaches, -⟩
      cases hreaches
  | r :: rest => by
    have hcons {h : RequirementHead} : Reaches answers s subject deciding (r :: rest) h ↔ _ :=
      reaches_cons
    rw [search_cons_eq_error, holds_eq_error deciding r, search_eq_error deciding rest]
    simp only [hcons]
    constructor
    · rintro (⟨h, hfirst, hunevaluable⟩ | ⟨hr, h, hlater, hunevaluable⟩)
      · exact ⟨h, .inl hfirst, hunevaluable⟩
      · exact ⟨h, .inr ⟨hr, hlater⟩, hunevaluable⟩
    · rintro ⟨h, hfirst | ⟨hr, hlater⟩, hunevaluable⟩
      · exact .inl ⟨h, hfirst, hunevaluable⟩
      · exact .inr ⟨hr, h, hlater, hunevaluable⟩

end

end Requirement

namespace RequirementSet

variable {subject : Subject}

/-- `holds` fails iff it `Reaches` a requirement that is `Unevaluable`. -/
lemma holds_eq_error {set : RequirementSet} :
    ((set.holds s subject).given answers).result = .error fault ↔
      ∃ h, Requirement.Reaches answers s subject (set.type = anyOf) set.requirements h ∧
        h.Unevaluable s subject fault := by
  rw [← Requirement.search_eq_error, holds, Requirement.result_outcome]
  obtain ⟨id, type, requirements⟩ := set
  cases requirements with
  | nil => simp [isEmpty, Requirement.result_search_nil]
  | cons r rest => rfl

/-- A city without anything. -/
def hamlet : City where
  id := 1
  name := some "Home"
  owner := 0

/-- The scene of a player with nothing. -/
def hamletScene : Scene where
  game := { localPlayerId := some 0, players := ⟨[(0, { id := 0, cities := [hamlet] })]⟩ }
  player := { id := 0, cities := [hamlet] }
  settings := {}

/-- The set `CENSUS` asks for `STRANGE`, of an unknown type, or `LARGE`, of the population of a
city, whose arguments are named null and `Other`. -/
def census : Rules where
  requirementSets := [⟨some "CENSUS", some anyOf⟩]
  requirementLinks := [⟨some "CENSUS", some "STRANGE"⟩, ⟨some "CENSUS", some "LARGE"⟩]
  requirements :=
    [⟨some "STRANGE", some "OTHER", false⟩,
     ⟨some "LARGE", some "REQUIREMENT_CITY_POPULATION", false⟩]
  requirementArguments :=
    [⟨some "LARGE", { name := none, value := some "5" }⟩,
     ⟨some "LARGE", { name := some "Other", value := some "5" }⟩]

end RequirementSet

end PolicyForecast
