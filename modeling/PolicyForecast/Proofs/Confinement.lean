import PolicyForecast.Proofs.RuleFaults

/-!
# What requirements and effects ask for

Only an effect that attaches a modifier asks the rules for one. Requirements, subjects and
contributions to yields are worked out from other facts (`Request.IsFact`), so that rules that agree
on all facts give them the same record, whatever modifiers they have (`Confined.given_congr`). And
only contributions contribute: while subjects are worked out nothing is noted but remarks, and none
that could be taken for a remark on an effect (`Event.IsFinding`).

Main statements: `Modifier.confined_subjects` and `YieldEffect.factual_run`.
-/

namespace PolicyForecast

variable {α β : Type}

/-- A request for anything but a modifier. -/
def Request.IsFact : Request → Prop
  | .modifier _ => False
  | _ => True

/-- An event that contributes nothing. -/
def Event.IsRemark (e : Event) : Prop :=
  e.addition? = none

/-- How remarks on effects that are not known start. -/
def effectOpening : List Char :=
  "Unhandled E".toList

/-- The first letters of a text, as many as remarks on effects have in common, have a property. -/
def OpensBy (P : List Char → Prop) (text : String) : Prop :=
  effectOpening.length ≤ text.toList.length ∧ P (text.toList.take effectOpening.length)

instance {P : List Char → Prop} [DecidablePred P] : DecidablePred (OpensBy P) :=
  fun _ => inferInstanceAs (Decidable (_ ∧ _))

lemma OpensBy.append {P : List Char → Prop} {opening : String} (h : OpensBy P opening)
    (rest : String) : OpensBy P (opening ++ rest) := by
  unfold OpensBy
  rw [String.toList_append, List.length_append, List.take_append_of_le_length h.1]
  exact ⟨Nat.le_add_right_of_le h.1, h.2⟩

/-- A text that differs from the remarks on effects in its first letters. -/
abbrev OpensApart (text : String) : Prop :=
  OpensBy (· ≠ effectOpening) text

/-- A remark on a requirement, a set of them or a collection. -/
inductive Event.IsFinding : Event → Prop where
  | error {text : String} : IsFinding (.error text)
  | missing {text : String} (h : OpensApart text) : IsFinding (.missing text)

lemma Event.IsFinding.isRemark {e : Event} (h : e.IsFinding) : e.IsRemark := by
  cases h with
  | error => rfl
  | missing => rfl

/-- Two sets of answers agree on everything but modifiers. -/
def Answers.AgreeOnFacts (answers answers' : Answers) : Prop :=
  ∀ q, q.IsFact → answers q = answers' q

/-! ## Computations without modifiers -/

namespace Consulting

/-- Whatever it is answered, a computation asks for no modifiers, and all that it notes satisfies a
predicate. -/
def Confined (notes : Event → Prop) : Consulting α → Prop
  | .done _ => True
  | .note e rest => notes e ∧ rest.Confined notes
  | .ask q next => q.IsFact ∧ ∀ answer, (next answer).Confined notes

variable {notes : Event → Prop}

lemma confined_pure (a : α) : (pure a : Consulting α).Confined notes := trivial

lemma confined_request {q : Request} (h : q.IsFact := by trivial) : (request q).Confined notes :=
  ⟨h, fun _ => trivial⟩

lemma Confined.bind {x : Consulting α} {f : α → Consulting β} (hx : x.Confined notes)
    (hf : ∀ a, (f a).Confined notes) : (x >>= f).Confined notes := by
  show (Consulting.bind x f).Confined notes
  induction x with
  | done a => exact hf a
  | note e rest ih => exact ⟨hx.1, ih hx.2⟩
  | ask q next ih => exact ⟨hx.1, fun answer => ih answer (hx.2 answer)⟩

lemma Confined.mono {notes' : Event → Prop} {x : Consulting α} (h : x.Confined notes)
    (himp : ∀ e, notes e → notes' e) : x.Confined notes' := by
  induction x with
  | done a => trivial
  | note e rest ih => exact ⟨himp e h.1, ih h.2⟩
  | ask q next ih => exact ⟨h.1, fun answer => ih answer (h.2 answer)⟩

/-- Answers that `AgreeOnFacts` give the same record. -/
lemma Confined.given_congr {x : Consulting α} (h : x.Confined notes) {answers answers' : Answers}
    (hagree : answers.AgreeOnFacts answers') : x.given answers = x.given answers' := by
  induction x with
  | done a => rfl
  | note e rest ih => simp only [given, ih h.2]
  | ask q next ih =>
    have hanswer : answers q = answers' q := hagree q h.1
    simp only [given, hanswer]
    exact ih (answers' q) (h.2 (answers' q))

lemma Confined.of_mem_given {x : Consulting α} (h : x.Confined notes) (answers : Answers) :
    ∀ e ∈ (x.given answers).1, notes e := by
  induction x with
  | done a => simp [given]
  | note e rest ih => exact List.forall_mem_cons.2 ⟨h.1, ih h.2⟩
  | ask q next ih => exact ih (answers q) (h.2 (answers q))

lemma Confined.silent {x : Consulting α} (h : x.Confined fun _ => False) : x.Silent := by
  induction x with
  | done a => rfl
  | note e rest ih => exact h.1.elim
  | ask q next ih => exact fun answer => ih answer (h.2 answer)

/-! ### Sequences -/

lemma confined_mapM {f : α → Consulting β} (h : ∀ a, (f a).Confined notes) (as : List α) :
    (as.mapM f).Confined notes := by
  induction as with
  | nil => exact confined_pure []
  | cons a rest ih =>
    rw [List.mapM_cons]
    exact (h a).bind fun _ => ih.bind fun _ => confined_pure _

lemma confined_anyM {test : α → Consulting Bool} (h : ∀ a, (test a).Confined notes)
    (as : List α) : (as.anyM test).Confined notes := by
  induction as with
  | nil => exact confined_pure false
  | cons a rest ih =>
    rw [List.anyM_cons]
    refine (h a).bind fun met => ?_
    cases met with
    | true => exact confined_pure true
    | false => exact ih

lemma confined_selectM {test : α → Consulting Bool} (h : ∀ a, (test a).Confined notes)
    (as : List α) : (selectM test as).Confined notes := by
  induction as with
  | nil => exact confined_pure []
  | cons a rest ih => exact (h a).bind fun _ => ih.bind fun _ => confined_pure _

lemma confined_lookUp (table : MemoTable) (key : Option String) :
    (lookUp table key).Confined notes :=
  confined_request

lemma confined_hasTag (type tag : Option String) : (hasTag type tag).Confined notes :=
  (confined_lookUp _ _).bind fun _ => confined_pure _

lemma confined_traits (table : MemoTable) (bearer : Option String) :
    (traits table bearer).Confined notes := by
  unfold traits
  split
  · exact confined_pure []
  · exact confined_lookUp _ _

end Consulting

namespace Evaluation

/-- Whatever it is answered, a computation that may stop asks for no modifiers, and all that it
notes satisfies a predicate. -/
def Confined (notes : Event → Prop) (x : Evaluation α) : Prop :=
  x.outcome.Confined notes

variable {notes : Event → Prop}

lemma confined_ofConsulting {x : Consulting α} (h : x.Confined notes) :
    (ofConsulting x).Confined notes :=
  Consulting.Confined.bind h fun _ => Consulting.confined_pure _

lemma confined_ofExcept (r : Except EvaluationFault α) : (ofExcept r).Confined notes := trivial

lemma confined_ofRule (r : Except RuleFault α) : (ofRule r).Confined notes := trivial

lemma confined_ofNumber (r : Except NumberFault α) : (ofNumber r).Confined notes := trivial

lemma confined_note {e : Event} (h : notes e) : (note e).Confined notes :=
  confined_ofConsulting ⟨h, trivial⟩

lemma confined_error (text : String) : (note (.error text)).Confined Event.IsFinding :=
  confined_note .error

lemma confined_missing {text : String} (h : OpensApart text) :
    (note (.missing text)).Confined Event.IsFinding :=
  confined_note (.missing h)

lemma Confined.bind {x : Evaluation α} {f : α → Evaluation β} (hx : x.Confined notes)
    (hf : ∀ a, (f a).Confined notes) : (x >>= f).Confined notes := by
  unfold Confined
  rw [outcome_bind]
  refine Consulting.Confined.bind hx fun r => ?_
  cases r with
  | error fault => exact Consulting.confined_pure _
  | ok a => exact hf a

lemma Confined.silent {x : Evaluation α} (h : x.Confined fun _ => False) : x.Silent :=
  Consulting.Confined.silent h

lemma sequential_confined (notes : Event → Prop) : Sequential (Confined notes) where
  pure a := confined_ofExcept (.ok a)
  bind := Confined.bind

lemma confined_pure (a : α) : (pure a : Evaluation α).Confined notes :=
  confined_ofExcept (.ok a)

/-- Answers that `AgreeOnFacts` give the same record. -/
lemma Confined.given_congr {x : Evaluation α} (h : x.Confined notes) {answers answers' : Answers}
    (hagree : answers.AgreeOnFacts answers') : x.given answers = x.given answers' := by
  unfold given
  rw [Consulting.Confined.given_congr h hagree]

end Evaluation

open Evaluation

variable {notes : Event → Prop}

/-! ## Facts about what is built -/

lemma confined_anyTagged (constructibles : List (Option String)) (tag : String) :
    (anyTagged constructibles tag).Confined notes :=
  Consulting.confined_anyM (fun _ => Consulting.confined_hasTag _ _) constructibles

lemma confined_plotHasConstructible (p : Plot) (args : Arguments) :
    (plotHasConstructible p args).Confined notes := by
  unfold plotHasConstructible
  split
  · exact Consulting.confined_pure _
  · exact confined_anyTagged _ _
  · exact Consulting.confined_pure _

lemma confined_districtClass (p : Plot) : (districtClass p).Confined notes := by
  unfold districtClass
  split
  · exact Consulting.confined_pure _
  · exact (Consulting.confined_request).bind fun _ => Consulting.confined_pure _

lemma confined_isQuarter (p : Plot) : (isQuarter p).Confined notes := by
  have hbuilding (type : Option String) : (isQuarterBuilding type).Confined notes :=
    (Consulting.confined_request).bind fun _ => Consulting.confined_pure _
  exact (Consulting.confined_mapM hbuilding _).bind fun _ => Consulting.confined_pure _

lemma confined_countConstructibles (m : HexMap) (c : City) (args : Arguments) :
    (countConstructibles m c args).Confined notes := by
  unfold countConstructibles
  split
  · exact Consulting.confined_pure _
  · exact (Consulting.confined_lookUp _ _).bind fun _ => Consulting.confined_pure _
  · exact Consulting.confined_pure _

lemma confined_hasBuilding (m : HexMap) (c : City) (args : Arguments) :
    (hasBuilding m c args).Confined notes := by
  unfold hasBuilding
  split
  · exact confined_pure _
  · exact (confined_ofConsulting (Consulting.confined_lookUp _ _)).bind fun _ => confined_pure _
  · refine Confined.bind ?_ fun _ => confined_pure _
    exact (confined_ofExcept _).bind fun _ => confined_pure _

/-! ## Requirements -/

namespace RequirementHead

lemma confined_reaches (h : RequirementHead) (argument : String) (count : Int) :
    (h.reaches argument count).Confined Event.IsFinding := by
  refine Confined.bind ?_ fun _ => confined_pure _
  unfold threshold
  split
  · exact confined_pure _
  · split
    · exact confined_pure _
    · exact (confined_error _).bind fun _ => confined_pure _

lemma confined_unsuited (h : RequirementHead) (subject : Subject) :
    (h.unsuited subject).Confined Event.IsFinding := by
  have hopens : OpensApart "Requirement " := by decide
  exact (confined_missing (((((hopens.append _).append _).append _).append _).append _)).bind
    fun _ => confined_pure _

end RequirementHead

lemma CityFact.confined_holds (s : Scene) (c : City) (h : RequirementHead) (fact : CityFact) :
    (fact.holds s c h).Confined Event.IsFinding := by
  cases fact with
  | hasBuilding => exact confined_hasBuilding _ _ _
  | hasTerrain =>
    show (hasEnoughTerrain s c h).Confined Event.IsFinding
    unfold hasEnoughTerrain
    split
    · have hopens : OpensApart "Requirement " := by decide
      exact (confined_missing ((hopens.append _).append _)).bind fun _ => confined_pure _
    · exact h.confined_reaches _ _
  | population =>
    show (hasEnoughInhabitants c h).Confined Event.IsFinding
    unfold hasEnoughInhabitants
    split
    · exact h.confined_reaches _ _
    · have hopens : OpensApart "Unhandled arguments for REQUIREMENT_CITY_POPULATION (" := by decide
      exact (confined_ofExcept _).bind fun _ =>
        (confined_missing (((hopens.append _).append _).append _)).bind fun _ => confined_pure _
  | isCapital | isCity | isTown | isFounder | isDistantLands | hasProject | followsReligion =>
    exact confined_pure _

lemma PlotFact.confined_holds (s : Scene) (p : Plot) (h : RequirementHead) (fact : PlotFact) :
    (fact.holds s p h).Confined Event.IsFinding := by
  cases fact with
  | districtClass =>
    exact confined_ofConsulting
      ((confined_districtClass p).bind fun _ => Consulting.confined_pure _)
  | hasConstructible => exact confined_ofConsulting (confined_plotHasConstructible _ _)
  | isQuarter => exact confined_ofConsulting (confined_isQuarter _)
  | adjacentToCoast => exact confined_ofExcept _
  | numConstructibles => exact h.confined_reaches _ _
  | resourceVisible | isCoastalLand | terrain | feature => exact confined_pure _

lemma PlayerFact.confined_holds (s : Scene) (p : Player) (h : RequirementHead)
    (fact : PlayerFact) : (fact.holds s p h).Confined Event.IsFinding := by
  cases fact with
  | numAlliances => exact h.confined_reaches _ _
  | hasTrait =>
    refine confined_ofConsulting ((Consulting.confined_traits _ _).bind fun traits => ?_)
    split
    · exact Consulting.confined_pure _
    · exact (Consulting.confined_traits _ _).bind fun _ => Consulting.confined_pure _
  | atPeaceWithMajors | leader => exact confined_pure _

lemma UnitFact.confined_holds (u : GameUnit) (h : RequirementHead) (fact : UnitFact) :
    (fact.holds u h).Confined notes := by
  cases fact with
  | domain =>
    exact (Consulting.confined_request).bind fun _ => Consulting.confined_pure _
  | tag => exact Consulting.confined_hasTag _ _
  | type => exact Consulting.confined_pure _

lemma RequirementHead.confined_isSatisfiedAlone (s : Scene) (subject : Subject)
    (h : RequirementHead) : (h.isSatisfiedAlone s subject).Confined Event.IsFinding := by
  unfold isSatisfiedAlone
  split
  · have hopens : OpensApart "Requirement " := by decide
    exact (confined_missing ((hopens.append _).append _)).bind fun _ => confined_pure _
  unfold isSatisfied
  split
  · split
    · exact CityFact.confined_holds s _ h _
    · exact h.confined_unsuited subject
  · split
    · exact PlotFact.confined_holds s _ h _
    · exact h.confined_unsuited subject
  · exact PlayerFact.confined_holds s _ h _
  · split
    · exact confined_ofConsulting (UnitFact.confined_holds _ h _)
    · exact h.confined_unsuited subject
  · have hopens : OpensApart "Unhandled RequirementType: " := by decide
    exact (confined_missing ((((hopens.append _).append _).append _).append _)).bind
      fun _ => confined_pure _

lemma RequirementSet.confined_outcome (type id : String) (isEmpty : Bool)
    {search : Bool → Evaluation Bool} (h : ∀ deciding, (search deciding).Confined Event.IsFinding) :
    (outcome type id isEmpty search).Confined Event.IsFinding := by
  unfold outcome
  split
  · exact confined_pure _
  · refine Confined.bind ?_ fun _ => h _
    unfold remarkOnType
    split
    · exact confined_pure _
    · have hopens : OpensApart "Unknown RequirementSetType " := by decide
      exact confined_missing (((((hopens.append _).append _).append _).append _).append _)

mutual

lemma Requirement.confined_holds (s : Scene) (subject : Subject) :
    (r : Requirement) → (Requirement.holds s subject r).Confined Event.IsFinding
  | .leaf h => by
    unfold Requirement.holds
    exact (h.confined_isSatisfiedAlone s subject).bind fun _ => confined_pure _
  | .nested h id type requirements => by
    unfold Requirement.holds
    exact (RequirementSet.confined_outcome type id _ fun deciding =>
      Requirement.confined_search s subject deciding requirements).bind fun _ => confined_pure _

lemma Requirement.confined_search (s : Scene) (subject : Subject) (deciding : Bool) :
    (requirements : List Requirement) →
      (Requirement.search s subject deciding requirements).Confined Event.IsFinding
  | [] => by
    unfold Requirement.search
    exact confined_pure _
  | r :: rest => by
    unfold Requirement.search
    refine (Requirement.confined_holds s subject r).bind fun met => ?_
    split
    · exact confined_pure _
    · exact Requirement.confined_search s subject deciding rest

end

lemma RequirementSet.confined_holds (s : Scene) (subject : Subject) (set : RequirementSet) :
    (set.holds s subject).Confined Event.IsFinding :=
  confined_outcome _ _ _ fun deciding =>
    Requirement.confined_search s subject deciding set.requirements

/-! ## Subjects -/

lemma Collection.confined_members (s : Scene) (parent : Option Subject)
    (collection : Collection) : (collection.members s parent).Confined Event.IsFinding := by
  cases collection with
  | capital =>
    simp only [members]
    split <;> exact confined_pure _
  | cityPlots =>
    simp only [members]
    split
    · exact confined_pure _
    · exact (confined_error _).bind fun _ => confined_pure _
  | cities | plots | owner | units | unsupported => exact confined_pure _

/-- `subjects` asks for no modifiers, and its events are findings. -/
theorem Modifier.confined_subjects (s : Scene) (m : Modifier) (parent : Option Subject) :
    (m.subjects s parent).Confined Event.IsFinding := by
  have howner : (m.ownerMeets s).Confined Event.IsFinding := by
    unfold ownerMeets
    split
    · exact RequirementSet.confined_holds s _ _
    · exact confined_pure _
  have hcandidates : (m.candidates s parent).Confined Event.IsFinding := by
    unfold candidates
    split
    · exact Collection.confined_members s parent _
    · have hopens : OpensApart "Unhandled CollectionType: " := by decide
      exact (confined_missing ((((hopens.append _).append _).append _).append _)).bind
        fun _ => confined_pure _
  have hadmits (subject : Subject) : (m.admits s subject).Confined Event.IsFinding := by
    unfold admits
    split
    · exact confined_pure _
    · exact RequirementSet.confined_holds s _ _
  unfold subjects
  refine howner.bind fun met => ?_
  split
  · exact hcandidates.bind fun candidates =>
      (sequential_confined Event.IsFinding).selectM hadmits candidates
  · exact confined_pure _

/-! ## Contributions to yields -/

/-- A computation that asks for no modifiers. -/
abbrev Evaluation.Factual (x : Evaluation α) : Prop :=
  x.Confined fun _ => True

lemma factual_contribute (channel : Channel) (types : Option String) (value : Float) :
    (contribute channel types value).Factual :=
  confined_note trivial

lemma CityCount.confined_of (s : Scene) (m : Modifier) (c : City) (count : CityCount) :
    (count.of s m c).Confined notes := by
  cases count with
  | attributePoints => exact (confined_ofRule _).bind fun _ => confined_pure _
  | population => exact confined_ofExcept _
  | constructibles =>
    exact (confined_ofRule _).bind fun _ =>
      (confined_ofConsulting (confined_countConstructibles _ _ _)).bind fun _ => confined_pure _
  | specialists | resources | greatWorks => exact confined_pure _

lemma PlayerCount.confined_of (s : Scene) (m : Modifier) (p : Player) (count : PlayerCount) :
    (count.of s m p).Confined notes := by
  cases count with
  | constructibles =>
    refine (confined_ofRule _).bind fun _ => Confined.bind ?_ fun _ => confined_pure _
    exact (sequential_confined notes).mapM
      (fun c => confined_ofConsulting (confined_countConstructibles s.game.map c m.arguments)) _
  | activeTraditions | settlements | cityStates | alliances | resources | commanderLevels =>
    exact confined_pure _

namespace UnitGroup

lemma confined_none (unitType : Option String) : (UnitGroup.none unitType).Confined notes :=
  (Consulting.confined_request).bind fun _ =>
    (Consulting.confined_lookUp _ _).bind fun _ => Consulting.confined_pure _

lemma confined_single (u : GameUnit) : (UnitGroup.single u).Confined notes :=
  (confined_none _).bind fun _ => Consulting.confined_pure _

lemma confined_ofUnits (units : List GameUnit) : (ofUnits units).Confined notes := by
  refine Confined.bind ((sequential_confined notes).foldlM (fun groups u => ?_) _ _)
    fun _ => confined_pure _
  refine (confined_ofConsulting ?_).bind fun group =>
    (confined_ofNumber _).bind fun _ => confined_pure _
  unfold find
  split
  · exact Consulting.confined_pure _
  · exact confined_none _

end UnitGroup

namespace AdjacencyRule

variable (r : AdjacencyRule)

lemma confined_tagged (p : Plot) : (r.tagged p).Confined notes := by
  unfold tagged
  split
  · exact Consulting.confined_pure _
  · exact confined_anyTagged _ _

lemma confined_qualifies (p : Plot) : (r.qualifies p).Confined notes := by
  unfold qualifies
  split
  · exact Consulting.confined_pure _
  refine (r.confined_tagged p).bind fun tagged => ?_
  split
  · exact Consulting.confined_pure _
  split
  · exact Consulting.confined_pure _
  split
  · exact confined_isQuarter _
  · exact Consulting.confined_pure _

lemma confined_qualifying (m : HexMap) (p : Plot) : (r.qualifying m p).Confined notes :=
  (confined_ofExcept _).bind fun _ =>
    confined_ofConsulting (Consulting.confined_selectM r.confined_qualifies _)

lemma confined_yield (m : HexMap) (p : Plot) : (r.yield m p).Confined notes := by
  refine (r.confined_qualifying m p).bind fun plots => ?_
  dsimp only
  split
  · exact confined_ofNumber _
  · exact confined_pure _

end AdjacencyRule

namespace Modifier

variable (m : Modifier)

lemma factual_addAmount (amount : Float) : (m.addAmount amount).Factual :=
  (confined_ofRule _).bind fun _ => factual_contribute _ _ _

lemma factual_addOwnAmount : m.addOwnAmount.Factual :=
  (confined_ofRule _).bind fun amount => m.factual_addAmount amount

lemma factual_addAmountTimes (count : Quantity) : (m.addAmountTimes count).Factual :=
  (confined_ofRule _).bind fun _ => (confined_ofNumber _).bind fun _ => m.factual_addAmount _

lemma factual_addPercent (percent : Float) : (m.addPercent percent).Factual :=
  (confined_ofRule _).bind fun _ => factual_contribute _ _ _

lemma factual_addCityPercent (c : City) (percent : Float) :
    (m.addCityPercent c percent).Factual :=
  (confined_ofRule _).bind fun _ => (sequential_confined _).forM fun _ _ =>
    (confined_ofNumber _).bind fun _ => factual_contribute _ _ _

lemma factual_saveOnUnits (p : Player) : (m.saveOnUnits p).Factual :=
  (UnitGroup.confined_ofUnits _).bind fun _ =>
    (confined_ofExcept _).bind fun _ => factual_contribute _ _ _

lemma factual_saveOnUnit (u : GameUnit) : (m.saveOnUnit u).Factual := by
  refine (confined_ofConsulting (UnitGroup.confined_single u)).bind fun group => ?_
  split
  · exact (confined_ofExcept _).bind fun _ => factual_contribute _ _ _
  · exact confined_pure _

lemma confined_concernsConstructible (type : Option String) :
    (m.concernsConstructible type).Confined notes := by
  unfold concernsConstructible
  split
  · exact Consulting.confined_pure _
  · exact Consulting.confined_hasTag _ _
  · exact Consulting.confined_pure _

lemma factual_saveOnConstructible (type : Option String) :
    (m.saveOnConstructible type).Factual := by
  refine (confined_ofConsulting (m.confined_concernsConstructible type)).bind fun concerned => ?_
  split
  · refine (confined_ofConsulting (Consulting.confined_request)).bind fun payments => ?_
    exact (sequential_confined _).forM fun r _ =>
      (confined_ofExcept _).bind fun _ => factual_contribute _ _ _
  · exact confined_pure _

lemma factual_saveOnConstructibles (s : Scene) (cities : List City) :
    (m.saveOnConstructibles s cities).Factual := by
  unfold saveOnConstructibles
  split
  · exact (sequential_confined _).forM fun type _ => m.factual_saveOnConstructible type
  · exact confined_ofExcept _

end Modifier

lemma factual_addAdjacency (s : Scene) (m : Modifier) (c : City) :
    (addAdjacency s m c).Factual := by
  refine (confined_ofRule _).bind fun id => ?_
  refine (confined_ofConsulting (Consulting.confined_request)).bind fun found => ?_
  cases found with
  | none => exact confined_note trivial
  | some rule =>
    exact (confined_ofConsulting (Consulting.confined_request)).bind fun members =>
      ((sequential_confined _).mapM (rule.confined_yield s.game.map) _).bind
        fun _ => factual_contribute _ _ _

lemma factual_addWarehouse (s : Scene) (m : Modifier) (c : City) :
    (addWarehouse s m c).Factual := by
  refine (confined_ofRule _).bind fun id => ?_
  refine (confined_ofConsulting (Consulting.confined_request)).bind fun found => ?_
  cases found with
  | none => exact confined_note trivial
  | some rule =>
    dsimp only
    split <;> exact confined_note trivial

namespace YieldEffect

lemma factual_amountOr (m : Modifier) {percentage : Float → Evaluation Unit}
    (h : ∀ percent, (percentage percent).Factual) : (amountOr m percentage).Factual := by
  refine (confined_ofRule _).bind fun percent => ?_
  cases percent with
  | none => exact m.factual_addOwnAmount
  | some percent => exact h percent

/-- `run` of a yield effect asks for no modifiers. -/
theorem factual_run (s : Scene) (m : Modifier) (subject : Subject) (effect : YieldEffect) :
    (effect.run s m subject).Factual := by
  cases effect with
  | cityYield =>
    exact (confined_ofRule _).bind fun c => factual_amountOr m (m.factual_addCityPercent c)
  | cityYieldPer count =>
    exact (confined_ofRule _).bind fun c =>
      (count.confined_of s m c).bind fun n => m.factual_addAmountTimes n
  | cityAdjacency => exact (confined_ofRule _).bind fun c => factual_addAdjacency s m c
  | cityWarehouse => exact (confined_ofRule _).bind fun c => factual_addWarehouse s m c
  | cityMaintenance =>
    exact (confined_ofRule _).bind fun c => m.factual_saveOnConstructibles s [c]
  | playerYield =>
    exact (Confined.bind (confined_ofRule _) fun _ => confined_pure _).bind
      fun _ => factual_amountOr m m.factual_addPercent
  | playerYieldPer count =>
    exact (confined_ofRule _).bind fun p =>
      (count.confined_of s m p).bind fun n => m.factual_addAmountTimes n
  | playerUnitMaintenance => exact (confined_ofRule _).bind fun p => m.factual_saveOnUnits p
  | playerMaintenance =>
    exact (confined_ofRule _).bind fun p => m.factual_saveOnConstructibles s p.cities
  | plotYield =>
    exact (Confined.bind (confined_ofRule _) fun _ => confined_pure _).bind
      fun _ => m.factual_addOwnAmount
  | unitMaintenance => exact (confined_ofRule _).bind fun u => m.factual_saveOnUnit u

end YieldEffect

end PolicyForecast
