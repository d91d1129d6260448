import PolicyForecast.Proofs.ConstructibleFilters
import PolicyForecast.Proofs.Neighbourhood
import PolicyForecast.Proofs.RuleChecks

/-!
# Neighbours that qualify

A rule asks up to nine things of a neighbour, each in a column of its own (`Demand`). What a plot
has to be like to meet a demand does not depend on the rest of the rule. So the neighbours that
qualify are those that meet every demand, in their order (`AdjacencyRule.given_qualifying`), and a
rule that asks for what two rules ask picks out what both of them pick out
(`AdjacencyRule.Carries.mem_qualified`).
-/

namespace PolicyForecast

/-! ## Demands on a neighbour -/

/-- What a rule can ask of a neighbour. -/
inductive Demand where
  | terrain (type : String)
  | feature (type : String)
  | district (type : String)
  | constructible (type : String)
  | tag (tag : String)
  | resource
  | river
  | naturalWonder
  | quarter

/-- Whether a type of constructible is a building, by the first record that tables have of it. -/
def Rules.isBuilding (tables : Rules) (type : Option String) : Bool :=
  (tables.constructible? type).any (·.constructibleClass == some "BUILDING")

namespace Demand

/-- The column in which a rule makes a demand. -/
def column : Demand → String
  | .terrain _ => "AdjacentTerrain"
  | .feature _ => "AdjacentFeature"
  | .district _ => "AdjacentDistrict"
  | .constructible _ => "AdjacentConstructible"
  | .tag _ => "AdjacentConstructibleTag"
  | .resource => "AdjacentResource"
  | .river => "AdjacentRiver"
  | .naturalWonder => "AdjacentNaturalWonder"
  | .quarter => "AdjacentQuarter"

/-- What a plot must be like to meet a demand, by tables of constructibles and tags. -/
def Met (tables : Rules) (p : Plot) : Demand → Prop
  | .terrain type => p.terrain = some type
  | .feature type => p.feature = some type
  | .district type => p.district = some type
  | .constructible type => some type ∈ p.constructibles
  | .tag name => ∃ type, some type ∈ p.constructibles ∧ ⟨some type, some name⟩ ∈ tables.typeTags
  | .resource => ∃ name, p.resource = some name ∧ name ≠ ""
  | .river => p.river = true
  | .naturalWonder => p.naturalWonder = true
  | .quarter => 2 ≤ p.constructibles.countP tables.isBuilding

variable {tables : Rules} {p : Plot}

lemma any_tagged_iff {name : String} :
    (p.constructibles.any fun type => (tables.tagsOfType type).contains (some name)) = true
      ↔ (Demand.tag name).Met tables p := by
  simp only [List.any_eq_true, List.contains_iff_mem, Rules.mem_tagsOfType]
  constructor
  · rintro ⟨type, htype, hnamed, htag⟩
    obtain ⟨text, rfl⟩ := Option.ne_none_iff_exists'.1 hnamed
    exact ⟨text, htype, htag⟩
  · rintro ⟨text, htype, htag⟩
    exact ⟨some text, htype, nofun, htag⟩

lemma any_resource_iff (tables : Rules) :
    p.resource.any (· ≠ "") = true ↔ Demand.resource.Met tables p := by
  simp [Met, Option.any_eq_true]

instance (tables : Rules) (p : Plot) : (d : Demand) → Decidable (d.Met tables p)
  | .terrain type => inferInstanceAs (Decidable (p.terrain = some type))
  | .feature type => inferInstanceAs (Decidable (p.feature = some type))
  | .district type => inferInstanceAs (Decidable (p.district = some type))
  | .constructible type => inferInstanceAs (Decidable (some type ∈ p.constructibles))
  | .tag _ => decidable_of_iff _ any_tagged_iff
  | .resource => decidable_of_iff _ (any_resource_iff tables)
  | .river => inferInstanceAs (Decidable (p.river = true))
  | .naturalWonder => inferInstanceAs (Decidable (p.naturalWonder = true))
  | .quarter => inferInstanceAs (Decidable (2 ≤ p.constructibles.countP tables.isBuilding))

end Demand

namespace AdjacencyRule

variable {r r' : AdjacencyRule} {d : Demand} {tables : Rules} {p : Plot}

/-! ## The demands of a rule -/

/-- The text in a column, unless it is missing or empty. -/
def stated (text : Option String) : List String :=
  (text.filter (· ≠ "")).toList

/-- A demand, if its column is set. -/
def flagged (isSet : Bool) (d : Demand) : List Demand :=
  if isSet then [d] else []

/-- What a rule asks of a neighbour. -/
def demands (r : AdjacencyRule) : List Demand :=
  (stated r.terrain).map .terrain ++ (stated r.feature).map .feature
    ++ (stated r.district).map .district ++ (stated r.constructible).map .constructible
    ++ (stated r.constructibleTag).map .tag
    ++ flagged r.resource .resource ++ flagged r.river .river
    ++ flagged r.naturalWonder .naturalWonder ++ flagged r.quarter .quarter

/-- A plot meets all that a rule asks of a neighbour. -/
def Admits (r : AdjacencyRule) (tables : Rules) (p : Plot) : Prop :=
  ∀ d ∈ r.demands, d.Met tables p

instance (r : AdjacencyRule) (tables : Rules) : DecidablePred (r.Admits tables) :=
  fun p => inferInstanceAs (Decidable (∀ d ∈ r.demands, d.Met tables p))

/-- What it is for a rule to make a demand: its column has the text, or is set. -/
def Asks (r : AdjacencyRule) : Demand → Prop
  | .terrain type => type ∈ stated r.terrain
  | .feature type => type ∈ stated r.feature
  | .district type => type ∈ stated r.district
  | .constructible type => type ∈ stated r.constructible
  | .tag name => name ∈ stated r.constructibleTag
  | .resource => r.resource = true
  | .river => r.river = true
  | .naturalWonder => r.naturalWonder = true
  | .quarter => r.quarter = true

lemma mem_flagged {isSet : Bool} {d' : Demand} :
    d' ∈ flagged isSet d ↔ isSet = true ∧ d' = d := by
  cases isSet <;> simp [flagged]

lemma forall_mem_flagged {isSet : Bool} {P : Demand → Prop} :
    (∀ d' ∈ flagged isSet d, P d') ↔ (isSet = true → P d) := by
  cases isSet <;> simp [flagged]

lemma mem_demands : d ∈ r.demands ↔ r.Asks d := by
  cases d <;> simp [demands, Asks, mem_flagged]

/-! ## Two rules in one -/

/-- Two rules set no column in common. -/
def Apart (r r' : AdjacencyRule) : Prop :=
  ∀ d ∈ r.demands, ∀ d' ∈ r'.demands, d.column ≠ d'.column

/-- A rule asks exactly for what two rules ask. -/
def Carries (both r r' : AdjacencyRule) : Prop :=
  ∀ d, d ∈ both.demands ↔ d ∈ r.demands ∨ d ∈ r'.demands

/-- The text of one column, or else of another one. -/
def either (text text' : Option String) : Option String :=
  (text.filter (· ≠ "")).or text'

/-- A rule with the predicates of a second one written into its columns. -/
def join (r r' : AdjacencyRule) : AdjacencyRule :=
  { r with
    terrain := either r.terrain r'.terrain
    feature := either r.feature r'.feature
    constructible := either r.constructible r'.constructible
    constructibleTag := either r.constructibleTag r'.constructibleTag
    district := either r.district r'.district
    resource := r.resource || r'.resource
    river := r.river || r'.river
    naturalWonder := r.naturalWonder || r'.naturalWonder
    quarter := r.quarter || r'.quarter }

/-- `either` states what one of two columns does, if not both state something. -/
lemma mem_stated_either {text text' : Option String} {name : String}
    (h : ∀ a ∈ stated text, ∀ b, b ∉ stated text') :
    name ∈ stated (either text text') ↔ name ∈ stated text ∨ name ∈ stated text' := by
  cases hfirst : stated text with
  | nil =>
    have hnone : text.filter (· ≠ "") = none := Option.toList_eq_nil_iff.1 hfirst
    rw [either, hnone, Option.none_or]
    simp
  | cons a rest =>
    have hsome : text.filter (· ≠ "") = some a :=
      Option.mem_toList.1 (show a ∈ stated text by rw [hfirst]; exact List.mem_cons_self)
    have hsecond : stated text' = [] :=
      List.eq_nil_iff_forall_not_mem.2 (h a (by rw [hfirst]; exact List.mem_cons_self))
    have hsame : stated (either text text') = stated text := by
      rw [stated, either, hsome, Option.some_or, ← hsome, Option.filter_filter]
      simp [stated]
    rw [hsame, hsecond, hfirst]
    simp

lemma Apart.carries (h : r.Apart r') : (r.join r').Carries r r' := by
  intro d
  have hapart (d d' : Demand) (hd : r.Asks d) (hd' : r'.Asks d') : d.column ≠ d'.column :=
    h d (mem_demands.2 hd) d' (mem_demands.2 hd')
  simp only [mem_demands]
  cases d with
  | terrain type =>
    exact mem_stated_either fun a ha b hb => hapart (.terrain a) (.terrain b) ha hb rfl
  | feature type =>
    exact mem_stated_either fun a ha b hb => hapart (.feature a) (.feature b) ha hb rfl
  | district type =>
    exact mem_stated_either fun a ha b hb => hapart (.district a) (.district b) ha hb rfl
  | constructible type =>
    exact mem_stated_either fun a ha b hb => hapart (.constructible a) (.constructible b) ha hb rfl
  | tag name => exact mem_stated_either fun a ha b hb => hapart (.tag a) (.tag b) ha hb rfl
  | resource | river | naturalWonder | quarter => exact Bool.or_eq_true_iff

lemma Carries.admits_iff {both : AdjacencyRule} (h : both.Carries r r') :
    both.Admits tables p ↔ r.Admits tables p ∧ r'.Admits tables p := by
  unfold Admits
  simp only [h _, or_imp, forall_and]

end AdjacencyRule

/-! ## Which neighbours qualify -/

/-- Answers tell what tables have on constructibles and their tags. -/
structure Answers.TellOf (answers : Answers) (tables : Rules) : Prop where
  tags (type : Option String) : answers (.lookUp .tagsOfType type) = tables.tagsOfType type
  constructible (type : Option String) :
    answers (.constructible type) = tables.constructible? type

/-- The replies of a cache that `LooksUp` tables tell of them. -/
lemma RuleCache.LooksUp.tellOf {tables : Rules} {cache : RuleCache} (h : cache.LooksUp tables)
    (rules : Rules) : (cache.replies rules).TellOf tables where
  tags type := (RuleCache.lookUp_of_looksUp h .tagsOfType type).1
  constructible type := congrArg (Rules.constructible? · type) h.rules_eq

namespace Consulting

variable {α β : Type} {answers : Answers}

lemma given_mapM (f : α → Consulting β) (as : List α) :
    ((as.mapM f).given answers).2 = as.map fun a => ((f a).given answers).2 := by
  induction as with
  | nil => rfl
  | cons a rest ih => rw [List.mapM_cons, given_bind, given_bind, ih]; rfl

lemma given_selectM (test : α → Consulting Bool) (as : List α) :
    ((selectM test as).given answers).2 = as.filter fun a => ((test a).given answers).2 := by
  induction as with
  | nil => rfl
  | cons a rest ih =>
    rw [selectM, given_bind, given_bind, ih, List.filter_cons]
    rfl

end Consulting

namespace AdjacencyRule

variable {r : AdjacencyRule} {tables : Rules} {p : Plot} {answers : Answers} {map : HexMap}

lemma named_iff {wanted : Option String} {met : String → Bool} :
    named wanted met = true ↔ ∀ name ∈ stated wanted, met name = true := by
  unfold named stated
  cases wanted.filter (· ≠ "") with
  | none => simp
  | some name => simp

/-- `suits` is the demands of the columns that are read off the plot alone. -/
lemma suits_iff (tables : Rules) :
    r.suits p = true ↔ (∀ type ∈ stated r.terrain, (Demand.terrain type).Met tables p) ∧
      (∀ type ∈ stated r.feature, (Demand.feature type).Met tables p) ∧
      (∀ type ∈ stated r.district, (Demand.district type).Met tables p) ∧
      ∀ type ∈ stated r.constructible, (Demand.constructible type).Met tables p := by
  simp only [suits, Bool.and_eq_true, named_iff, beq_iff_eq, List.contains_iff_mem, and_assoc]
  rfl

lemma tagged_iff (h : answers.TellOf tables) :
    ((r.tagged p).given answers).2 = true
      ↔ ∀ name ∈ stated r.constructibleTag, (Demand.tag name).Met tables p := by
  unfold tagged stated
  cases r.constructibleTag.filter (· ≠ "") with
  | none => simp
  | some name =>
    have htags (type : Option String) :
        ((Consulting.hasTag type (some name)).given answers).2
          = (tables.tagsOfType type).contains (some name) := by
      rw [Consulting.given_hasTag, h.tags]
    simp only [Option.toList_some, List.forall_mem_singleton, ← Demand.any_tagged_iff, ← htags]
    rw [anyTagged, Consulting.given_anyM]

lemma endowed_iff (tables : Rules) :
    r.endowed p = true ↔ (r.resource = true → Demand.resource.Met tables p) ∧
      (r.river = true → Demand.river.Met tables p) ∧
      (r.naturalWonder = true → Demand.naturalWonder.Met tables p) := by
  simp only [endowed, Bool.and_eq_true, Bool.or_eq_true, Bool.not_eq_true', ← Bool.not_eq_true,
    ← imp_iff_not_or, Demand.any_resource_iff tables, and_assoc]
  rfl

lemma isQuarter_iff (h : answers.TellOf tables) :
    ((isQuarter p).given answers).2 = true ↔ Demand.quarter.Met tables p := by
  have hbuildings : ((isQuarter p).given answers).2
      = decide (2 ≤ (p.constructibles.map tables.isBuilding).count true) := by
    have hbuilding (type : Option String) :
        ((isQuarterBuilding type).given answers).2 = tables.isBuilding type := by
      show Option.any _ (answers (.constructible type)) = _
      rw [h.constructible]
      rfl
    unfold isQuarter
    rw [Consulting.given_bind, Consulting.given_mapM, funext hbuilding]
    rfl
  have hcount : (p.constructibles.map tables.isBuilding).count true
      = p.constructibles.countP tables.isBuilding := by
    rw [List.count, List.countP_map]
    exact List.countP_congr fun type _ => by simp
  rw [hbuildings, hcount, decide_eq_true_iff]
  rfl

lemma given_qualifies :
    ((r.qualifies p).given answers).2 = (r.suits p && ((r.tagged p).given answers).2
      && r.endowed p && (!r.quarter || ((isQuarter p).given answers).2)) := by
  unfold qualifies
  cases r.suits p with
  | false => rfl
  | true =>
    show ((r.tagged p >>= _ : Consulting Bool).given answers).2 = _
    rw [Consulting.given_bind]
    cases ((r.tagged p).given answers).2 with
    | false => rfl
    | true => cases r.endowed p <;> cases r.quarter <;> rfl

/-- `qualifies` is `Admits`. -/
lemma qualifies_iff (h : answers.TellOf tables) :
    ((r.qualifies p).given answers).2 = true ↔ r.Admits tables p := by
  unfold Admits demands
  simp only [List.forall_mem_append, List.forall_mem_map, forall_mem_flagged, and_assoc]
  simp only [given_qualifies, Bool.and_eq_true, Bool.or_eq_true, Bool.not_eq_true',
    ← Bool.not_eq_true, ← imp_iff_not_or, suits_iff tables, tagged_iff h,
    endowed_iff tables, isQuarter_iff h, and_assoc]

end AdjacencyRule

/-! ## The neighbours that qualify -/

namespace HexMap

variable {m : HexMap}

/-- `neighbours` has no fault if the map has columns. -/
lemma exists_neighbours_eq_ok (hwidth : m.width ≠ 0) (index : Int) :
    ∃ plots, m.neighbours index = .ok plots := by
  cases hp : m.plot? index with
  | none =>
    unfold neighbours
    rw [hp]
    exact ⟨[], rfl⟩
  | some p => exact ⟨_, neighbours_eq hwidth hp⟩

/-- The neighbours of a plot, on a map on which there are columns to find them in. -/
def around (m : HexMap) (p : Plot) : List Plot :=
  (m.neighbours p.index).toOption.getD []

lemma neighbours_eq_around (hwidth : m.width ≠ 0) (p : Plot) :
    m.neighbours p.index = .ok (m.around p) := by
  obtain ⟨plots, hplots⟩ := exists_neighbours_eq_ok hwidth p.index
  unfold around
  rw [hplots]
  rfl

end HexMap

namespace AdjacencyRule

variable {r r' : AdjacencyRule} {tables : Rules} {p q : Plot} {answers : Answers} {map : HexMap}

/-- The neighbours of a plot that meet all demands of a rule, in the order of the neighbours. -/
def qualified (r : AdjacencyRule) (tables : Rules) (map : HexMap) (p : Plot) : List Plot :=
  (map.around p).filter (r.Admits tables)

lemma given_qualifying (hwidth : map.width ≠ 0) (h : answers.TellOf tables) :
    (r.qualifying map p).given answers = ⟨[], .ok (r.qualified tables map p)⟩ := by
  refine Evaluation.Silent.given_eq (r.confined_qualifying map p).silent ?_
  have hselected : ((selectM r.qualifies (map.around p) : Consulting _).given answers).2
      = r.qualified tables map p := by
    rw [Consulting.given_selectM]
    exact List.filter_congr fun q _ => by rw [Bool.eq_iff_iff, qualifies_iff h, decide_eq_true_iff]
  rw [← hselected, qualifying, HexMap.neighbours_eq_around hwidth]
  exact congrArg Recorded.result (Evaluation.given_ofConsulting _)

/-- What is `qualified` under a rule that `Carries` two is `qualified` under both. -/
lemma Carries.mem_qualified {both : AdjacencyRule} (h : both.Carries r r') :
    q ∈ both.qualified tables map p
      ↔ q ∈ r.qualified tables map p ∧ q ∈ r'.qualified tables map p := by
  simp only [qualified, List.mem_filter, decide_eq_true_eq, h.admits_iff]
  tauto

end AdjacencyRule

end PolicyForecast
