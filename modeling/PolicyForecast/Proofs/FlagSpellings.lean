import PolicyForecast.Proofs.Evaluability

/-!
# How flags are spelled

A flag is an argument whose text says yes or no. Yes is spelled `true` or `1`, in any case and with
blanks around it, and everything else is a no. What a modifier does depends on the texts of its
flags only through what they say (`Modifier.Respelled`), and so does whether a city follows the
religion of a player. Whether a city works on a project does not: there a flag says yes in the
spelling `true` alone, so that a requirement that is met by any project is taken for one that names
its project (`RequirementHead.Misread`).

Main statement: `RequirementHead.flags_read_alike`.
-/

namespace PolicyForecast

/-! ## Plain spellings -/

/-- What a text says as a flag, in its plain spelling. -/
def Text.plainFlag (text : String) : String :=
  if isTrue text then "true" else "false"

namespace Text

variable {text : String}

lemma isTrue_plainFlag (text : String) : isTrue (plainFlag text) = isTrue text := by
  unfold plainFlag
  cases isTrue text with
  | true => rfl
  | false => rfl

/-- A text and its plain spelling are both `true`, or neither is, unless the text spells yes in
another way. -/
lemma plainFlag_eq_true_iff (h : isTrue text = true → text = "true") :
    plainFlag text = "true" ↔ text = "true" := by
  unfold plainFlag
  cases hyes : isTrue text with
  | true => simp [h hyes]
  | false =>
    have hother : text ≠ "true" := by
      rintro rfl
      cases hyes
    simp [hother]

end Text

namespace Arguments

variable {args : Arguments} {name other text : String}

/-- Gives an argument another text. -/
def withText (args : Arguments) (name text : String) : Arguments :=
  args.insert (some name)
    { (args.find? name).getD { name := some name, value := none } with value := some text }

lemma find?_withText_of_ne (hother : other ≠ name) :
    (args.withText name text).find? other = args.find? other := by
  unfold withText find?
  rw [OrderedMap.get?_insert, if_neg (by simpa using hother)]

lemma value?_withText_of_ne (hother : other ≠ name) :
    (args.withText name text).value? other = args.value? other := by
  unfold value?
  rw [find?_withText_of_ne hother]

@[simp] lemma value?_withText : (args.withText name text).value? name = some text := by
  unfold value? withText find?
  rw [OrderedMap.get?_insert, if_pos (beq_self_eq_true (some name))]
  rfl

/-- `flag` is `Text.isTrue` of the text. -/
lemma flag_of_value? (hvalue : args.value? name = some text) :
    args.flag name = Text.isTrue text := by
  unfold flag filled?
  rw [hvalue]
  by_cases hempty : text = ""
  · subst hempty
    rfl
  · simp [Option.filter, hempty]

end Arguments

/-! ## Flags of modifiers -/

/-- The arguments of modifiers that are flags. -/
def Modifier.flagNames : List String :=
  ["Urban", "Rural", "Cities", "Towns", "PercentMultiplier"]

/-- Two modifiers differ at most in the texts of flags, which say the same. -/
structure Modifier.Respelled (m m' : Modifier) : Prop where
  id : m.id = m'.id
  effect : m.effect = m'.effect
  newOnly : m.newOnly = m'.newOnly
  find? : ∀ name ∉ flagNames, m.arguments.find? name = m'.arguments.find? name
  flag : ∀ name ∈ flagNames, m.flag name = m'.flag name

namespace Modifier.Respelled

variable {m m' : Modifier} {s : Scene} {name : String}

/-! ### Arguments that are no flags -/

lemma filled? (h : m.Respelled m') (hname : name ∉ flagNames) :
    m.arguments.filled? name = m'.arguments.filled? name := by
  unfold Arguments.filled? Arguments.value?
  rw [h.find? name hname]

lemma has (h : m.Respelled m') (hname : name ∉ flagNames) :
    m.arguments.has name = m'.arguments.has name := by
  unfold Arguments.has
  rw [h.filled? hname]

lemma text (h : m.Respelled m') (hname : name ∉ flagNames) : m.text name = m'.text name := by
  unfold Modifier.text
  rw [h.filled? hname, h.id]

lemma number (h : m.Respelled m') (hname : name ∉ flagNames) : m.number name = m'.number name := by
  unfold Modifier.number numberOf
  rw [h.text hname, h.id]

lemma number? (h : m.Respelled m') (hname : name ∉ flagNames) :
    m.number? name = m'.number? name := by
  unfold Modifier.number? numberOf
  rw [h.filled? hname, h.id]

/-! ### Amounts and percentages -/

lemma addAmount (h : m.Respelled m') : m.addAmount = m'.addAmount := by
  funext amount
  unfold Modifier.addAmount flatChannel
  rw [h.text (by decide), h.flag "PercentMultiplier" (by decide)]

lemma addOwnAmount (h : m.Respelled m') : m.addOwnAmount = m'.addOwnAmount := by
  unfold Modifier.addOwnAmount
  rw [h.number (by decide), h.addAmount]

lemma addAmountTimes (h : m.Respelled m') : m.addAmountTimes = m'.addAmountTimes := by
  funext count
  unfold Modifier.addAmountTimes
  rw [h.number (by decide), h.addAmount]

lemma addPercent (h : m.Respelled m') : m.addPercent = m'.addPercent := by
  funext percent
  unfold Modifier.addPercent
  rw [h.text (by decide)]

lemma addCityPercent (h : m.Respelled m') : m.addCityPercent = m'.addCityPercent := by
  funext c percent
  unfold Modifier.addCityPercent
  rw [h.text (by decide)]

lemma amountOr (h : m.Respelled m') (percentage : Float → Evaluation Unit) :
    YieldEffect.amountOr m percentage = YieldEffect.amountOr m' percentage := by
  unfold YieldEffect.amountOr
  rw [h.number? (by decide), h.addOwnAmount]

/-! ### Counts -/

lemma selectsConstructibles (h : m.Respelled m') :
    m.selectsConstructibles = m'.selectsConstructibles := by
  unfold Modifier.selectsConstructibles
  rw [h.has (by decide), h.has (by decide), h.id]

lemma countConstructibles (h : m.Respelled m') (map : HexMap) (c : City) :
    countConstructibles map c m.arguments
      = PolicyForecast.countConstructibles map c m'.arguments := by
  unfold PolicyForecast.countConstructibles
  rw [h.find? "ConstructibleType" (by decide), h.find? "Tag" (by decide)]

lemma divided (h : m.Respelled m') : m.divided = m'.divided := by
  funext count
  unfold Modifier.divided
  rw [h.number? (by decide), h.id]

lemma inhabitants (h : m.Respelled m') : m.inhabitants = m'.inhabitants := by
  funext c
  unfold Modifier.inhabitants
  rw [h.flag "Urban" (by decide), h.flag "Rural" (by decide)]

lemma settlements (h : m.Respelled m') : m.settlements = m'.settlements := by
  funext p
  unfold Modifier.settlements
  rw [h.flag "Cities" (by decide), h.flag "Towns" (by decide)]

lemma cityCount (h : m.Respelled m') (c : City) (count : CityCount) :
    count.of s m c = count.of s m' c := by
  cases count with
  | attributePoints =>
    unfold CityCount.of
    rw [h.text (by decide)]
  | population =>
    unfold CityCount.of
    rw [h.divided, h.inhabitants]
  | constructibles =>
    unfold CityCount.of
    rw [h.selectsConstructibles, h.countConstructibles]
  | specialists | resources | greatWorks => rfl

lemma playerCount (h : m.Respelled m') (p : Player) (count : PlayerCount) :
    count.of s m p = count.of s m' p := by
  cases count with
  | settlements =>
    unfold PlayerCount.of
    rw [h.settlements]
  | constructibles =>
    unfold PlayerCount.of
    simp only [h.selectsConstructibles, h.countConstructibles]
  | activeTraditions | cityStates | alliances | resources | commanderLevels => rfl

/-! ### Savings -/

lemma saving (h : m.Respelled m') : m.saving = m'.saving := by
  funext count cost
  unfold Modifier.saving
  rw [h.number? (by decide), h.number? (by decide), h.id]

lemma unitYieldTypes (h : m.Respelled m') : m.unitYieldTypes = m'.unitYieldTypes := by
  unfold Modifier.unitYieldTypes
  rw [h.filled? (by decide)]

lemma isTargetOf (h : m.Respelled m') (g : UnitGroup) : g.isTargetOf m = g.isTargetOf m' := by
  unfold UnitGroup.isTargetOf
  rw [h.filled? (by decide), h.filled? (by decide), h.filled? (by decide)]

lemma saveOnUnits (h : m.Respelled m') : m.saveOnUnits = m'.saveOnUnits := by
  funext p
  have hgroup : m.groupSaving = m'.groupSaving := by
    unfold groupSaving
    rw [h.saving]
  unfold Modifier.saveOnUnits
  simp only [h.isTargetOf, hgroup, h.unitYieldTypes]

lemma saveOnUnit (h : m.Respelled m') : m.saveOnUnit = m'.saveOnUnit := by
  funext u
  unfold Modifier.saveOnUnit groupSaving
  simp only [h.isTargetOf, h.saving, h.unitYieldTypes]

lemma saveOnConstructible (h : m.Respelled m') :
    m.saveOnConstructible = m'.saveOnConstructible := by
  funext type
  have hconcerns : m.concernsConstructible type = m'.concernsConstructible type := by
    unfold concernsConstructible
    rw [h.filled? (by decide), h.filled? (by decide)]
  have hyield : m.concernsYield = m'.concernsYield := by
    unfold concernsYield
    rw [h.filled? (by decide)]
  have hpayment : m.saveOnPayment = m'.saveOnPayment := by
    unfold saveOnPayment
    rw [h.saving]
  unfold Modifier.saveOnConstructible
  rw [hconcerns, hyield, hpayment]

lemma saveOnConstructibles (h : m.Respelled m') :
    m.saveOnConstructibles s = m'.saveOnConstructibles s := by
  funext cities
  unfold Modifier.saveOnConstructibles
  rw [h.has (by decide), h.has (by decide), h.saveOnConstructible, h.id]

/-! ### Applications -/

lemma addAdjacency (h : m.Respelled m') (c : City) :
    addAdjacency s m c = PolicyForecast.addAdjacency s m' c := by
  unfold PolicyForecast.addAdjacency
  rw [h.text (by decide), h.id]

lemma addWarehouse (h : m.Respelled m') (c : City) :
    addWarehouse s m c = PolicyForecast.addWarehouse s m' c := by
  unfold PolicyForecast.addWarehouse
  rw [h.text (by decide), h.id]

/-- `run` is the same for modifiers that are `Respelled`. -/
lemma run (h : m.Respelled m') (subject : Subject) (effect : YieldEffect) :
    effect.run s m subject = effect.run s m' subject := by
  cases effect with
  | cityYield => simp only [YieldEffect.run, h.amountOr, h.addCityPercent]
  | cityYieldPer count => simp only [YieldEffect.run, h.cityCount, h.addAmountTimes]
  | cityAdjacency => simp only [YieldEffect.run, h.addAdjacency]
  | cityWarehouse => simp only [YieldEffect.run, h.addWarehouse]
  | cityMaintenance => simp only [YieldEffect.run, h.saveOnConstructibles]
  | playerYield => simp only [YieldEffect.run, h.amountOr, h.addPercent]
  | playerYieldPer count => simp only [YieldEffect.run, h.playerCount, h.addAmountTimes]
  | playerUnitMaintenance => simp only [YieldEffect.run, h.saveOnUnits]
  | playerMaintenance => simp only [YieldEffect.run, h.saveOnConstructibles]
  | plotYield => simp only [YieldEffect.run, h.addOwnAmount]
  | unitMaintenance => simp only [YieldEffect.run, h.saveOnUnit]

lemma perform (h : m.Respelled m') (apply : Modifier → Subject → Application Unit)
    (subject : Subject) (effect : Effect) :
    s.perform apply m subject effect = s.perform apply m' subject effect := by
  cases effect with
  | yields effect => simp only [Scene.perform, h.run]
  | attach =>
    have hremark (id : String) : Scene.unattachedRemark m id = Scene.unattachedRemark m' id := by
      unfold Scene.unattachedRemark
      rw [h.id]
    have hmodifier : m.text "ModifierId" = m'.text "ModifierId" := h.text (by decide)
    simp only [Scene.perform, Scene.attach, hmodifier, hremark]
  | inert => rfl

/-- `apply` is the same for modifiers that are `Respelled`. -/
lemma apply (h : m.Respelled m') (fuel : Nat) (subject : Subject) :
    s.apply fuel m subject = s.apply fuel m' subject := by
  cases fuel with
  | zero => rfl
  | succ fuel =>
    unfold Scene.apply Scene.effect Scene.guarded Scene.unhandledRemark Scene.ignoredRemark
      Scene.ruleRemark
    simp only [h.newOnly, h.effect, h.id, h.perform]

end Modifier.Respelled

/-- Gives an argument of a modifier another text. -/
def Modifier.withText (m : Modifier) (name text : String) : Modifier :=
  { m with arguments := m.arguments.withText name text }

/-- `plainFlag` of a flag is a `Respelled` modifier. -/
lemma Modifier.respelled_plainFlag {m : Modifier} {name text : String} (hname : name ∈ flagNames)
    (htext : m.arguments.value? name = some text) :
    (m.withText name (Text.plainFlag text)).Respelled m where
  id := rfl
  effect := rfl
  newOnly := rfl
  find? other hother := by
    have hne : other ≠ name := by
      rintro rfl
      exact hother hname
    exact Arguments.find?_withText_of_ne hne
  flag other _ := by
    show (m.arguments.withText name (Text.plainFlag text)).flag other = m.arguments.flag other
    by_cases hsame : other = name
    · subst hsame
      rw [Arguments.flag_of_value? Arguments.value?_withText, Arguments.flag_of_value? htext,
        Text.isTrue_plainFlag]
    · unfold Arguments.flag Arguments.filled?
      rw [Arguments.value?_withText_of_ne hsame]

/-! ## Flags of requirements -/

/-- `followsReligionOf` is equality of the two religions, whatever the flags. -/
lemma CityFact.followsReligionOf_eq (p : Player) (c : City) (h : RequirementHead) :
    followsReligionOf p c h = (p.religion.isSome && c.majorityReligion == p.religion) := by
  unfold followsReligionOf
  cases p.religion with
  | none => simp
  | some religion =>
    cases c.majorityReligion with
    | none => simp
    | some majority => simp

namespace RequirementHead

variable {h : RequirementHead} {s : Scene} {subject : Subject} {name text : String}

/-- The arguments of requirements that are flags. -/
def flagNames : List String :=
  ["HasAnyProject", "hasReligion", "cityReligion"]

/-- The types of requirements with flags. -/
def flaggedTypes : List String :=
  ["REQUIREMENT_CITY_HAS_PROJECT", "REQUIREMENT_CITY_FOLLOWS_RELIGION"]

/-- Gives an argument of a requirement another text. -/
def withText (h : RequirementHead) (name text : String) : RequirementHead :=
  { h with arguments := h.arguments.withText name text }

/-- A flag says that any project will do, but not in the spelling `true`, and it matters: the city
works on a project, and that is not the one that the requirement names, if it names one. -/
structure Misread (h : RequirementHead) (subject : Subject) (name text : String) : Prop where
  type : h.type = some "REQUIREMENT_CITY_HAS_PROJECT"
  flag : name = "HasAnyProject"
  saysTrue : Text.isTrue text = true
  spelling : text ≠ "true"
  project : ∃ c project, subject.city? = some c ∧ c.project = some project ∧
    h.value? "ProjectType" ≠ some project

/-- `isSatisfied` of a city fact is the same with another text if `holds` is. -/
lemma isSatisfied_withText {fact : CityFact} (htype : Fact.ofType? h.type = some (.city fact))
    (hfact : ∀ c, subject.city? = some c →
      fact.holds s c (h.withText name text) = fact.holds s c h) :
    (h.withText name text).isSatisfied s subject = h.isSatisfied s subject := by
  have htype' : Fact.ofType? (h.withText name text).type = some (.city fact) := htype
  cases hcity : subject.city? with
  | some c =>
    rw [isSatisfied_of_city htype hcity, isSatisfied_of_city htype' hcity]
    exact hfact c hcity
  | none =>
    unfold isSatisfied
    rw [htype, htype']
    simp only [hcity]
    rfl

lemma isSatisfied_withText_of_religion
    (htype : h.type = some "REQUIREMENT_CITY_FOLLOWS_RELIGION") :
    (h.withText name text).isSatisfied s subject = h.isSatisfied s subject := by
  have hfact : Fact.ofType? h.type = some (.city .followsReligion) := by
    rw [htype]
    rfl
  refine isSatisfied_withText hfact fun c _ => ?_
  unfold CityFact.holds
  rw [CityFact.followsReligionOf_eq, CityFact.followsReligionOf_eq]

/-- `worksOnProject` is the same with `plainFlag`, unless the requirement is `Misread`. -/
lemma worksOnProject_plainFlag {c : City} (hcity : subject.city? = some c)
    (htype : h.type = some "REQUIREMENT_CITY_HAS_PROJECT") (hname : name ∈ flagNames)
    (htext : h.value? name = some text) (hread : ¬ h.Misread subject name text) :
    CityFact.worksOnProject c (h.withText name (Text.plainFlag text))
      = CityFact.worksOnProject c h := by
  have hnamed : (h.withText name (Text.plainFlag text)).value? "ProjectType"
      = h.value? "ProjectType" := by
    refine Arguments.value?_withText_of_ne ?_
    rintro rfl
    exact absurd hname (by decide)
  unfold CityFact.worksOnProject
  rw [hnamed]
  by_cases hflag : name = "HasAnyProject"
  · subst hflag
    have hplain : (h.withText "HasAnyProject" (Text.plainFlag text)).value? "HasAnyProject"
        = some (Text.plainFlag text) := Arguments.value?_withText
    rw [hplain, htext]
    simp only [Option.some.injEq]
    by_cases hspelled : Text.isTrue text = true → text = "true"
    · simp only [Text.plainFlag_eq_true_iff hspelled]
    · -- the flag is not understood, but the city has no project or the one that is named
      rw [Classical.not_imp] at hspelled
      obtain ⟨hyes, hother⟩ := hspelled
      have hplainly : Text.plainFlag text = "true" := if_pos hyes
      rw [if_pos hplainly, if_neg hother]
      cases hproject : c.project with
      | none => rfl
      | some project =>
        have hsame : h.value? "ProjectType" = some project := by
          by_contra hne
          exact hread ⟨htype, rfl, hyes, hother, c, project, hcity, hproject, hne⟩
        rw [hsame]
        simp
  · have hkept : (h.withText name (Text.plainFlag text)).value? "HasAnyProject"
        = h.value? "HasAnyProject" := Arguments.value?_withText_of_ne (Ne.symm hflag)
    rw [hkept]

/-- `isSatisfied` is the same with `plainFlag`, unless the requirement is `Misread`. -/
lemma isSatisfied_plainFlag (htype : ∃ type ∈ flaggedTypes, h.type = some type)
    (hname : name ∈ flagNames) (htext : h.value? name = some text)
    (hread : ¬ h.Misread subject name text) :
    (h.withText name (Text.plainFlag text)).isSatisfied s subject = h.isSatisfied s subject := by
  obtain ⟨type, hmem, htype⟩ := htype
  simp only [flaggedTypes, List.mem_cons, List.not_mem_nil, or_false] at hmem
  rcases hmem with rfl | rfl
  · have hfact : Fact.ofType? h.type = some (.city .hasProject) := by
      rw [htype]
      rfl
    refine isSatisfied_withText hfact fun c hcity => ?_
    unfold CityFact.holds
    rw [worksOnProject_plainFlag hcity htype hname htext hread]
  · exact isSatisfied_withText_of_religion htype

/-- A requirement that is `Misread` is not met, and met with `plainFlag`. -/
lemma isSatisfied_of_misread (htext : h.value? name = some text)
    (hread : h.Misread subject name text) :
    h.isSatisfied s subject = pure false ∧
      (h.withText name (Text.plainFlag text)).isSatisfied s subject = pure true := by
  obtain ⟨htype, rfl, hyes, hother, c, project, hcity, hproject, hnamed⟩ := hread
  have hfact : Fact.ofType? h.type = some (.city .hasProject) := by
    rw [htype]
    rfl
  have hfact' : Fact.ofType? (h.withText "HasAnyProject" (Text.plainFlag text)).type
      = some (.city .hasProject) := hfact
  rw [isSatisfied_of_city hfact hcity, isSatisfied_of_city hfact' hcity]
  have hmissed : CityFact.worksOnProject c h = false := by
    unfold CityFact.worksOnProject
    rw [htext, if_neg (by simpa using hother), hproject]
    simpa using Ne.symm hnamed
  have hmet : CityFact.worksOnProject c (h.withText "HasAnyProject" (Text.plainFlag text))
      = true := by
    have hplain : (h.withText "HasAnyProject" (Text.plainFlag text)).value? "HasAnyProject"
        = some (Text.plainFlag text) := Arguments.value?_withText
    have hplainly : Text.plainFlag text = "true" := if_pos hyes
    unfold CityFact.worksOnProject
    rw [hplain, hplainly, if_pos rfl, hproject]
    rfl
  unfold CityFact.holds
  rw [hmissed, hmet]
  exact ⟨rfl, rfl⟩

/-- With `plainFlag text` for the text of an argument in `flagNames`, `isSatisfied` is the same iff
the requirement is not `Misread`; if it is, the requirement is not met, and met with
`plainFlag text`. `apply` of a modifier is the same for every argument in `Modifier.flagNames`. -/
theorem flags_read_alike (rules : Rules) (cache : RuleCache) (s : Scene) :
    (∀ (h : RequirementHead) (subject : Subject) (name text : String),
      (∃ type ∈ flaggedTypes, h.type = some type) → name ∈ flagNames → h.value? name = some text →
        (((h.withText name (Text.plainFlag text)).isSatisfied s subject).run rules cache
            = (h.isSatisfied s subject).run rules cache ↔ ¬ h.Misread subject name text) ∧
          (h.Misread subject name text →
            ((h.isSatisfied s subject).run rules cache).1.result = .ok false ∧
            (((h.withText name (Text.plainFlag text)).isSatisfied s subject).run
              rules cache).1.result = .ok true)) ∧
    (∀ (m : Modifier) (subject : Subject) (fuel : Nat) (name text : String),
      name ∈ Modifier.flagNames → m.arguments.value? name = some text →
        s.apply fuel (m.withText name (Text.plainFlag text)) subject = s.apply fuel m subject) := by
  constructor
  · intro h subject name text htype hname htext
    have hmisread (hread : h.Misread subject name text) :
        ((h.isSatisfied s subject).run rules cache).1.result = .ok false ∧
          (((h.withText name (Text.plainFlag text)).isSatisfied s subject).run
            rules cache).1.result = .ok true := by
      obtain ⟨hmissed, hmet⟩ := isSatisfied_of_misread (s := s) htext hread
      rw [hmissed, hmet]
      exact ⟨rfl, rfl⟩
    refine ⟨⟨fun hsame hread => ?_, fun hread => ?_⟩, hmisread⟩
    · obtain ⟨hmissed, hmet⟩ := hmisread hread
      rw [hsame, hmissed] at hmet
      cases hmet
    · rw [isSatisfied_plainFlag htype hname htext hread]
  · intro m subject fuel name text hname htext
    exact (Modifier.respelled_plainFlag hname htext).apply fuel subject

/-- The city works on some project; the flag is spelled `1`. -/
def busy : RequirementHead where
  id := some "BUSY"
  type := some "REQUIREMENT_CITY_HAS_PROJECT"
  arguments := .ofRows [{ name := some "HasAnyProject", value := some "1" }]

/-- The city follows the religion of its player. -/
def devout : RequirementHead where
  id := some "DEVOUT"
  type := some "REQUIREMENT_CITY_FOLLOWS_RELIGION"
  arguments := .ofRows [{ name := some "hasReligion", value := some " TRUE " }]

/-- A yield for each urban inhabitant. -/
def crowded : Modifier where
  id := "MOD_CROWDED"
  effect := some "EFFECT_CITY_ADJUST_YIELD_PER_POPULATION"
  arguments := .ofRows
    [{ name := some "Urban", value := some "True" }, { name := some "Amount", value := some "1" },
     { name := some "YieldType", value := some "YIELD_GOLD" }]

/-- A city with a project. -/
def workshop : City where
  id := 1
  name := some "Workshop"
  owner := 0
  project := some "PROJECT_FAIR"

/-- `busy`, with `HasAnyProject` set to `1`, is `Misread` on `workshop`; the flags of `devout` and
`crowded` are not. -/
theorem busy_missed_unless_plain :
    busy.Misread (.city workshop) "HasAnyProject" "1" ∧
      ((busy.isSatisfied RequirementSet.hamletScene (.city workshop)).run {}
        (.ofRules {})).1.result = .ok false ∧
      (((busy.withText "HasAnyProject" "true").isSatisfied RequirementSet.hamletScene
        (.city workshop)).run {} (.ofRules {})).1.result = .ok true ∧
      ((devout.withText "hasReligion" "true").isSatisfied RequirementSet.hamletScene
          (.city workshop)).run {} (.ofRules {})
        = (devout.isSatisfied RequirementSet.hamletScene (.city workshop)).run {} (.ofRules {}) ∧
      RequirementSet.hamletScene.apply 1 (crowded.withText "Urban" "true") (.city workshop)
        = RequirementSet.hamletScene.apply 1 crowded (.city workshop) := by
  obtain ⟨hrequirements, hmodifiers⟩ := flags_read_alike {} (.ofRules {}) RequirementSet.hamletScene
  have hmisread : busy.Misread (.city workshop) "HasAnyProject" "1" :=
    ⟨rfl, rfl, rfl, by decide, workshop, "PROJECT_FAIR", rfl, rfl, by decide⟩
  have hbusy := (hrequirements busy (.city workshop) "HasAnyProject" "1"
    ⟨"REQUIREMENT_CITY_HAS_PROJECT", by decide, rfl⟩ (by decide) rfl).2 hmisread
  have hdevout := (hrequirements devout (.city workshop) "hasReligion" " TRUE "
    ⟨"REQUIREMENT_CITY_FOLLOWS_RELIGION", by decide, rfl⟩ (by decide) rfl).1.2
    fun hread => absurd hread.flag (by decide)
  have hcrowded := hmodifiers crowded (.city workshop) 1 "Urban" "True" (by decide) rfl
  exact ⟨hmisread, hbusy.1, hbusy.2, hdevout, hcrowded⟩

/-- `busy` has the text `1`, which `isTrue`, and is not met on `workshop`, as it is with `true`. -/
theorem busy_missed :
    busy.value? "HasAnyProject" = some "1" ∧ Text.isTrue "1" = true ∧
      ((busy.isSatisfied RequirementSet.hamletScene (.city workshop)).run {}
        (.ofRules {})).1.result = .ok false ∧
      (((busy.withText "HasAnyProject" "true").isSatisfied RequirementSet.hamletScene
        (.city workshop)).run {} (.ofRules {})).1.result = .ok true :=
  ⟨rfl, rfl, rfl, rfl⟩

end RequirementHead

end PolicyForecast
