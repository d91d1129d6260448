import PolicyForecast.Preview.Counts
import PolicyForecast.Preview.Savings
import PolicyForecast.Proofs.Faithful

/-!
# Three filters of constructibles

A modifier or requirement picks out constructibles by their type or else by a tag. That is decided
in three places: one by one (`Modifier.concernsConstructible`), on a plot (`plotHasConstructible`)
and in the count of a city (`countConstructibles`). The first two always agree: a plot has what is
asked for if one of its constructibles is picked out. The count goes its own way in two cases. An
argument for the type that is there but says nothing leaves the choice to the tag elsewhere, whereas
the count compares types with it. And the count looks tags up the other way round, in the types that
carry the tag, where a row without a type speaks of constructibles without one.

Main statement: `Modifier.constructible_filters_exact`.
-/

namespace PolicyForecast

variable {α : Type} {rules : Rules} {cache : RuleCache} {answers : Answers}

/-! ## Tags by type and types by tag -/

lemma keyMatches_eq_true {key wanted : Option String} :
    keyMatches key wanted = true ↔ wanted ≠ none ∧ key = wanted := by
  rw [keyMatches, Bool.and_eq_true, Option.isSome_iff_ne_none, beq_iff_eq]

namespace Rules

lemma mem_tagsOfType {type tag : Option String} :
    tag ∈ rules.tagsOfType type ↔ type ≠ none ∧ ⟨type, tag⟩ ∈ rules.typeTags := by
  unfold tagsOfType
  simp only [List.mem_map, List.mem_filter, keyMatches_eq_true]
  constructor
  · rintro ⟨⟨_, _⟩, ⟨hmem, htype, rfl⟩, rfl⟩
    exact ⟨htype, hmem⟩
  · rintro ⟨htype, hmem⟩
    exact ⟨_, ⟨hmem, htype, rfl⟩, rfl⟩

lemma mem_typesWithTag {type tag : Option String} :
    type ∈ rules.typesWithTag tag ↔ tag ≠ none ∧ ⟨type, tag⟩ ∈ rules.typeTags := by
  unfold typesWithTag
  simp only [List.mem_map, List.mem_filter, keyMatches_eq_true]
  constructor
  · rintro ⟨⟨_, _⟩, ⟨hmem, htag, rfl⟩, rfl⟩
    exact ⟨htag, hmem⟩
  · rintro ⟨htag, hmem⟩
    exact ⟨_, ⟨hmem, htag, rfl⟩, rfl⟩

/-- `typesWithTag` and `tagsOfType` agree on a type and a tag that are there. -/
lemma mem_typesWithTag_iff (type tag : String) :
    some type ∈ rules.typesWithTag (some tag) ↔ some tag ∈ rules.tagsOfType (some type) := by
  rw [mem_typesWithTag, mem_tagsOfType]
  simp

end Rules

/-- `cityConstructibles` are the constructibles of `purchasedPlots`. -/
lemma HexMap.exists_mem_cityConstructibles {map : HexMap} {c : City} {P : Option String → Prop} :
    (∃ type ∈ map.cityConstructibles c, P type) ↔
      ∃ index ∈ c.purchasedPlots, ∃ p, map.plot? index = some p ∧
        ∃ type ∈ p.constructibles, P type := by
  unfold cityConstructibles cityPlots
  simp only [List.mem_flatMap, List.mem_filterMap]
  constructor
  · rintro ⟨type, ⟨p, ⟨index, hindex, hp⟩, hmem⟩, htype⟩
    exact ⟨index, hindex, p, hp, type, hmem, htype⟩
  · rintro ⟨index, hindex, p, hp, type, hmem, htype⟩
    exact ⟨type, ⟨p, ⟨index, hindex, hp⟩, hmem⟩, htype⟩

/-! ## What the filters come to -/

namespace Consulting

lemma given_hasTag (type tag : Option String) :
    ((hasTag type tag).given answers).2 = (answers (.lookUp .tagsOfType type)).contains tag := rfl

/-- `anyM` has the value of `any`. -/
lemma given_anyM (test : α → Consulting Bool) (as : List α) :
    ((as.anyM test).given answers).2 = as.any fun a => ((test a).given answers).2 := by
  induction as with
  | nil => rfl
  | cons a rest ih =>
    rw [List.anyM_cons, given_bind, List.any_cons, ← ih]
    cases ((test a).given answers).2 <;> rfl

lemma run_value (x : Consulting α) (h : cache.Faithful rules) :
    (x.run rules cache).1.2 = (x.given rules.answer).2 :=
  congrArg Prod.snd (x.run_of_faithful h).1

end Consulting

namespace Arguments

variable {args : Arguments}

lemma find?_of_filled {name text : String} (h : args.filled? name = some text) :
    ∃ a, args.find? name = some a ∧ a.value = some text := by
  obtain ⟨hvalue, -⟩ := Option.filter_eq_some_iff.1 h
  exact Option.bind_eq_some_iff.1 hvalue

lemma filled?_of_find?_none {name : String} (h : args.find? name = none) :
    args.filled? name = none := by
  unfold filled? value?
  rw [h]
  rfl

end Arguments

namespace Modifier

variable {m : Modifier} {map : HexMap} {c : City} {p : Plot} {type : Option String}

/-- Whether a modifier picks out a type of constructible, over rules. -/
def picks (m : Modifier) (rules : Rules) (type : Option String) : Bool :=
  ((m.concernsConstructible type).given rules.answer).2

lemma picks_of_type {wanted : String} (h : m.arguments.filled? "ConstructibleType" = some wanted) :
    m.picks rules type = (type == some wanted) := by
  unfold picks concernsConstructible
  rw [h]
  rfl

lemma picks_of_tag {tag : String} (htype : m.arguments.filled? "ConstructibleType" = none)
    (htag : m.arguments.filled? "Tag" = some tag) :
    m.picks rules type = (rules.tagsOfType type).contains (some tag) := by
  unfold picks concernsConstructible
  rw [htype, htag]
  exact Consulting.given_hasTag type (some tag)

/-- `selectsConstructibles` succeeds iff `ConstructibleType` has a value, or else `Tag` has. -/
lemma selectsConstructibles_cases (h : m.selectsConstructibles = .ok ()) :
    (∃ wanted, m.arguments.filled? "ConstructibleType" = some wanted) ∨
      m.arguments.filled? "ConstructibleType" = none ∧
        ∃ tag, m.arguments.filled? "Tag" = some tag := by
  unfold selectsConstructibles at h
  split at h
  next hgiven =>
    cases htype : m.arguments.filled? "ConstructibleType" with
    | some wanted => exact .inl ⟨wanted, rfl⟩
    | none =>
      have hhas : m.arguments.has "ConstructibleType" = false := by
        rw [Arguments.has, htype]
        rfl
      rw [hhas, Bool.false_or] at hgiven
      exact .inr ⟨rfl, Option.isSome_iff_exists.1 hgiven⟩
  next => cases h

/-- `plotHasConstructible` is whether some constructible of the plot is among the `picks`. -/
lemma given_plotHasConstructible (h : m.selectsConstructibles = .ok ()) :
    ((plotHasConstructible p m.arguments).given rules.answer).2
      = p.constructibles.any (m.picks rules) := by
  unfold plotHasConstructible
  rcases selectsConstructibles_cases h with ⟨wanted, htype⟩ | ⟨htype, tag, htag⟩
  · have hpicks : m.picks rules = fun type => type == some wanted :=
      funext fun _ => picks_of_type htype
    rw [htype, hpicks, List.any_beq']
    rfl
  · have hpicks : m.picks rules = fun type => (rules.tagsOfType type).contains (some tag) :=
      funext fun _ => picks_of_tag htype htag
    rw [htype, htag, hpicks]
    exact Consulting.given_anyM _ _

/-- The number of types in `typesWithTag` is that of the `picks`, and of types that are null if null
has the tag. -/
lemma countP_types {tag : String} (htype : m.arguments.filled? "ConstructibleType" = none)
    (htag : m.arguments.filled? "Tag" = some tag) (types : List (Option String)) :
    types.countP (rules.typesWithTag (some tag)).contains
      = types.countP (m.picks rules)
        + if none ∈ rules.typesWithTag (some tag) then types.count none else 0 := by
  induction types with
  | nil => simp
  | cons type rest ih =>
    have hpicks : m.picks rules type = (rules.tagsOfType type).contains (some tag) :=
      picks_of_tag htype htag
    rw [List.countP_cons, List.countP_cons, List.count_cons, ih, hpicks]
    cases type with
    | none =>
      have hnone : some tag ∉ rules.tagsOfType none := fun h => (Rules.mem_tagsOfType.1 h).1 rfl
      by_cases hrow : none ∈ rules.typesWithTag (some tag)
      · simp [hnone, hrow]
        omega
      · simp [hnone, hrow]
    | some type =>
      have hboth : some type ∈ rules.typesWithTag (some tag) ↔ _ :=
        Rules.mem_typesWithTag_iff type tag
      by_cases htagged : some tag ∈ rules.tagsOfType (some type)
      · simp [htagged, hboth.2 htagged]
        omega
      · simp [htagged, mt hboth.1 htagged]

lemma given_countConstructibles_of_find? {a : Argument}
    (h : m.arguments.find? "ConstructibleType" = some a) :
    ((countConstructibles map c m.arguments).given answers).2
      = (map.cityConstructibles c).count a.value := by
  unfold countConstructibles
  rw [h]
  rfl

lemma given_countConstructibles_of_tag {tag : String}
    (htype : m.arguments.find? "ConstructibleType" = none)
    (htag : m.arguments.filled? "Tag" = some tag) :
    ((countConstructibles map c m.arguments).given rules.answer).2
      = (map.cityConstructibles c).countP (rules.typesWithTag (some tag)).contains := by
  obtain ⟨a, hfind, hvalue⟩ := Arguments.find?_of_filled htag
  unfold countConstructibles
  rw [htype, hfind, ← hvalue]
  rfl

/-! ## The filters against each other -/

/-- Let `selectsConstructibles` succeed. Some constructible of the city is picked by
`concernsConstructible` iff `plotHasConstructible` holds of one of its plots. `countConstructibles`
is the number of those that are picked if `ConstructibleType` has a value; without this argument,
those without a type count too if the tag has one; and if it has no value, those that equal it
count. -/
theorem constructible_filters_exact (hcache : cache.Faithful rules) (map : HexMap) (c : City)
    (m : Modifier) (hselects : m.selectsConstructibles = .ok ()) :
    let constructibles := map.cityConstructibles c
    let picked := constructibles.countP fun type =>
      ((m.concernsConstructible type).run rules cache).1.2
    let counted := ((countConstructibles map c m.arguments).run rules cache).1.2
    (0 < picked ↔ ∃ index ∈ c.purchasedPlots, ∃ p, map.plot? index = some p ∧
      ((plotHasConstructible p m.arguments).run rules cache).1.2 = true) ∧
    (m.arguments.has "ConstructibleType" = true → counted = picked) ∧
    (m.arguments.find? "ConstructibleType" = none → counted = picked +
      if none ∈ rules.typesWithTag (m.arguments.value? "Tag")
      then constructibles.count none else 0) ∧
    ∀ a, m.arguments.find? "ConstructibleType" = some a →
      m.arguments.has "ConstructibleType" = false → counted = constructibles.count a.value := by
  intro constructibles picked counted
  have hpicked : picked = constructibles.countP (m.picks rules) :=
    List.countP_congr fun type _ => by rw [Consulting.run_value _ hcache]; rfl
  have hcounted : counted = ((countConstructibles map c m.arguments).given rules.answer).2 :=
    Consulting.run_value _ hcache
  rw [hpicked, hcounted]
  refine ⟨?_, fun hhas => ?_, fun hnone => ?_, fun a hfind _ => ?_⟩
  · simp only [Consulting.run_value _ hcache, given_plotHasConstructible hselects,
      List.countP_pos_iff, List.any_eq_true]
    exact HexMap.exists_mem_cityConstructibles
  · obtain ⟨wanted, htype⟩ := Option.isSome_iff_exists.1 hhas
    obtain ⟨a, hfind, hvalue⟩ := Arguments.find?_of_filled htype
    have hpicks : m.picks rules = (· == some wanted) := funext fun _ => picks_of_type htype
    rw [given_countConstructibles_of_find? hfind, hpicks, hvalue]
    rfl
  · have htype := Arguments.filled?_of_find?_none hnone
    rcases selectsConstructibles_cases hselects with ⟨wanted, hwanted⟩ | ⟨-, tag, htag⟩
    · rw [htype] at hwanted
      cases hwanted
    · rw [given_countConstructibles_of_tag hnone htag, (Option.filter_eq_some_iff.1 htag).1,
        countP_types htype htag]
  · exact given_countConstructibles_of_find? hfind

/-- A city with the one plot of `campusMap`. -/
def campus : City where
  id := 1
  name := some "Home"
  owner := 0
  purchasedPlots := [0]

/-- One plot with a library and a mill. -/
def campusMap : HexMap where
  width := 1
  height := 1
  plots := ⟨[(0, { index := 0, x := 0, y := 0, constructibles := [some "LIBRARY", some "MILL"] })]⟩

/-- Rules in which `LIBRARY` has the tag `SCIENCE`. -/
def campusRules : Rules where
  typeTags := [⟨some "LIBRARY", some "SCIENCE"⟩]

/-- A modifier for the tag `SCIENCE`, with the arguments `type` before it. -/
def endowment (type : List Argument) : Modifier where
  id := "ENDOWMENT"
  arguments := .ofRows (type ++ [{ name := some "Tag", value := some "SCIENCE" }])

/-- `countConstructibles` of `campus` for `endowment []` is the number that `concernsConstructible`
picks. -/
theorem campus_filters_agree :
    (endowment []).selectsConstructibles = .ok () ∧
      ((countConstructibles campusMap campus (endowment []).arguments).run campusRules
          (.ofRules campusRules)).1.2
        = (campusMap.cityConstructibles campus).countP fun type =>
          (((endowment []).concernsConstructible type).run campusRules
            (.ofRules campusRules)).1.2 := by
  have hselects : (endowment []).selectsConstructibles = .ok () := rfl
  obtain ⟨-, -, hcounted, -⟩ := constructible_filters_exact (RuleCache.faithful_ofRules campusRules)
    campusMap campus (endowment []) hselects
  exact ⟨hselects, (hcounted rfl).trans rfl⟩

/-- If `ConstructibleType` has no value, `concernsConstructible` picks one constructible of `campus`
and `plotHasConstructible` holds of its plot, but `countConstructibles` is 0. -/
theorem campus_with_vacant_type_not_counted :
    let m := endowment [{ name := some "ConstructibleType", value := none }]
    m.selectsConstructibles = .ok () ∧
      ((countConstructibles campusMap campus m.arguments).run campusRules
        (.ofRules campusRules)).1.2 = 0 ∧
      ((campusMap.cityConstructibles campus).countP fun type =>
        ((m.concernsConstructible type).run campusRules (.ofRules campusRules)).1.2) = 1 ∧
      ∃ p, campusMap.plot? 0 = some p ∧
        ((plotHasConstructible p m.arguments).run campusRules (.ofRules campusRules)).1.2 = true :=
  ⟨rfl, rfl, rfl, _, rfl, rfl⟩

end Modifier

end PolicyForecast
