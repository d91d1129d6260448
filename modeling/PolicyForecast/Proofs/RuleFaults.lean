import PolicyForecast.Proofs.Steady

/-!
# Where malformed rules are found

What is amiss in a requirement is remarked on and counts as not met. So requirements are never
malformed, and the subjects of a modifier never stop at a malformed rule
(`Modifier.neverMalformed_subjects`). This holds whatever a computation is answered, so also for
answers that a cache has kept.

The predicates on computations that are introduced here for it are kept by sequences
(`Evaluation.Sequential`).
-/

namespace PolicyForecast

variable {α β : Type}

/-! ## Events and values, whatever the answers are -/

namespace Consulting

/-- The events and the value that a computation comes to satisfy a predicate, whatever it is
answered. -/
def Ensures : (P : List Event → α → Prop) → Consulting α → Prop
  | P, .done a => P [] a
  | P, .note e rest => rest.Ensures fun events a => P (e :: events) a
  | P, .ask _ next => ∀ answer, (next answer).Ensures P

variable {P : List Event → α → Prop} {Q : List Event → β → Prop}

lemma ensures_pure {a : α} (h : P [] a) : (pure a : Consulting α).Ensures P := h

lemma Ensures.mono {P' : List Event → α → Prop} {x : Consulting α} (h : x.Ensures P)
    (hP : ∀ events a, P events a → P' events a) : x.Ensures P' := by
  induction x generalizing P P' with
  | done a => exact hP [] a h
  | note e rest ih => exact ih h fun events a => hP (e :: events) a
  | ask q next ih => exact fun answer => ih answer (h answer) hP

lemma Always.ensures {p : α → Prop} {x : Consulting α} (h : x.Always p) :
    x.Ensures fun _ a => p a := by
  induction x with
  | done a => exact h
  | note e rest ih => exact ih h
  | ask q next ih => exact fun answer => ih answer (h answer)

/-- `Ensures` of a sequence, from the events of its first part and those of its second. -/
lemma Ensures.bind {x : Consulting α} {f : α → Consulting β} (hx : x.Ensures P)
    (hf : ∀ events a, P events a → (f a).Ensures fun later b => Q (events ++ later) b) :
    (x >>= f).Ensures Q := by
  show (Consulting.bind x f).Ensures Q
  induction x generalizing P Q with
  | done a => exact hf [] a hx
  | note e rest ih => exact ih hx fun events a => hf (e :: events) a
  | ask q next ih => exact fun answer => ih answer (hx answer) hf

lemma Ensures.run {x : Consulting α} (h : x.Ensures P) (rules : Rules) (cache : RuleCache) :
    P (x.run rules cache).1.1 (x.run rules cache).1.2 := by
  induction x generalizing P cache with
  | done a => exact h
  | note e rest ih => exact ih h cache
  | ask q next ih => exact ih _ (h _) _

/-- A computation that notes nothing. -/
def Silent (x : Consulting α) : Prop :=
  x.Ensures fun events _ => events = []

lemma silent_pure (a : α) : (pure a : Consulting α).Silent := rfl

lemma silent_request (q : Request) : (request q).Silent := fun _ => rfl

lemma Silent.bind {x : Consulting α} {f : α → Consulting β} (hx : x.Silent)
    (hf : ∀ a, (f a).Silent) : (x >>= f).Silent := by
  refine Ensures.bind hx ?_
  rintro events a rfl
  exact hf a

end Consulting

/-! ## Computations that may stop -/

/-- An outcome that is not a malformed rule. -/
def RuleFree (r : Except EvaluationFault α) : Prop :=
  ∀ rule, r ≠ .error (.rule rule)

namespace Evaluation

/-- A computation that notes nothing, whether it stops or not. -/
def Silent (x : Evaluation α) : Prop :=
  x.outcome.Silent

/-- A computation that never stops at a malformed rule. -/
def NeverMalformed (x : Evaluation α) : Prop :=
  x.outcome.Always RuleFree

/-- A computation that stops at a malformed rule only as long as it has noted nothing. -/
def Cautious (x : Evaluation α) : Prop :=
  x.outcome.Ensures fun events r => ¬ RuleFree r → events = []

/-! ### Sequences -/

/-- A property of computations that sequences keep. -/
structure Sequential (K : ∀ {α : Type}, Evaluation α → Prop) : Prop where
  pure {α : Type} (a : α) : K (pure a : Evaluation α)
  bind {α β : Type} {x : Evaluation α} {f : α → Evaluation β} :
    K x → (∀ a, K (f a)) → K (x >>= f)

namespace Sequential

variable {K : ∀ {α : Type}, Evaluation α → Prop} (hK : Sequential K)

include hK

lemma mapM {f : α → Evaluation β} (h : ∀ a, K (f a)) (as : List α) : K (as.mapM f) := by
  induction as with
  | nil => exact hK.pure []
  | cons a rest ih =>
    rw [List.mapM_cons]
    exact hK.bind (h a) fun b => hK.bind ih fun bs => hK.pure (b :: bs)

lemma forM {f : α → Evaluation Unit} {as : List α} (h : ∀ a ∈ as, K (f a)) : K (as.forM f) := by
  induction as with
  | nil => exact hK.pure ()
  | cons a rest ih =>
    rw [List.forall_mem_cons] at h
    exact hK.bind h.1 fun _ => ih h.2

lemma foldlM {f : β → α → Evaluation β} (h : ∀ b a, K (f b a)) (as : List α) (b : β) :
    K (as.foldlM f b) := by
  induction as generalizing b with
  | nil => exact hK.pure b
  | cons a rest ih => exact hK.bind (h b a) ih

lemma selectM {test : α → Evaluation Bool} (h : ∀ a, K (test a)) (as : List α) :
    K (selectM test as) := by
  induction as with
  | nil => exact hK.pure []
  | cons a rest ih => exact hK.bind (h a) fun _ => hK.bind ih fun _ => hK.pure _

end Sequential

/-! ### Silent computations -/

lemma silent_ofExcept (r : Except EvaluationFault α) : (ofExcept r).Silent := rfl

lemma silent_ofRule (r : Except RuleFault α) : (ofRule r).Silent := rfl

lemma silent_ofNumber (r : Except NumberFault α) : (ofNumber r).Silent := rfl

lemma silent_ofConsulting {x : Consulting α} (h : x.Silent) : (ofConsulting x).Silent :=
  Consulting.Silent.bind h fun _ => Consulting.silent_pure _

lemma Silent.bind {x : Evaluation α} {f : α → Evaluation β} (hx : x.Silent)
    (hf : ∀ a, (f a).Silent) : (x >>= f).Silent := by
  unfold Silent
  rw [outcome_bind]
  refine Consulting.Silent.bind hx fun r => ?_
  cases r with
  | error fault => exact Consulting.silent_pure _
  | ok a => exact hf a

lemma sequential_silent : Sequential Silent where
  pure _ := rfl
  bind := Silent.bind

/-! ### Computations that are never malformed -/

lemma neverMalformed_pure (a : α) : (pure a : Evaluation α).NeverMalformed := nofun

lemma neverMalformed_ofExcept {r : Except EvaluationFault α} (h : RuleFree r) :
    (ofExcept r).NeverMalformed := h

lemma neverMalformed_ofNumber (r : Except NumberFault α) : (ofNumber r).NeverMalformed := by
  cases r <;> exact nofun

lemma neverMalformed_ofConsulting (x : Consulting α) : (ofConsulting x).NeverMalformed :=
  x.always_true.bind fun _ _ => nofun

lemma neverMalformed_note (e : Event) : (note e).NeverMalformed :=
  neverMalformed_ofConsulting _

lemma NeverMalformed.bind {x : Evaluation α} {f : α → Evaluation β} (hx : x.NeverMalformed)
    (hf : ∀ a, (f a).NeverMalformed) : (x >>= f).NeverMalformed := by
  unfold NeverMalformed
  rw [outcome_bind]
  refine Consulting.Always.bind hx fun r hr => ?_
  cases r with
  | error fault =>
    refine Consulting.always_pure fun rule h => hr rule ?_
    rw [Except.error.inj h]
  | ok a => exact hf a

lemma sequential_neverMalformed : Sequential NeverMalformed where
  pure := neverMalformed_pure
  bind := NeverMalformed.bind

/-! ### Cautious computations -/

lemma Silent.cautious {x : Evaluation α} (h : x.Silent) : x.Cautious :=
  Consulting.Ensures.mono h fun _ _ hevents _ => hevents

lemma NeverMalformed.cautious {x : Evaluation α} (h : x.NeverMalformed) : x.Cautious :=
  (Consulting.Always.ensures h).mono fun _ _ hr hnot => absurd hr hnot

/-- A `Cautious` computation after a `Silent` one is `Cautious`. -/
lemma Silent.bind_cautious {x : Evaluation α} {f : α → Evaluation β} (hx : x.Silent)
    (hf : ∀ a, (f a).Cautious) : (x >>= f).Cautious := by
  unfold Cautious
  rw [outcome_bind]
  refine Consulting.Ensures.bind hx ?_
  rintro events r rfl
  cases r with
  | error fault => exact Consulting.ensures_pure fun _ => rfl
  | ok a => exact hf a

end Evaluation

/-! ## Requirements -/

open Evaluation

lemma RuleFree.bind {x : Except EvaluationFault α} {f : α → Except EvaluationFault β}
    (hx : RuleFree x) (hf : ∀ a, RuleFree (f a)) : RuleFree (x >>= f) := by
  cases x with
  | error fault => exact fun rule h => hx rule (congrArg Except.error (Except.error.inj h))
  | ok a => exact hf a

lemma ruleFree_ok (a : α) : RuleFree (.ok a) := nofun

lemma ruleFree_mapM {f : α → Except EvaluationFault β} (hf : ∀ a, RuleFree (f a)) (as : List α) :
    RuleFree (as.mapM f) := by
  induction as with
  | nil => exact ruleFree_ok _
  | cons a rest ih =>
    rw [List.mapM_cons]
    exact (hf a).bind fun _ => ih.bind fun _ => ruleFree_ok _

lemma HexMap.ruleFree_neighbours (m : HexMap) (index : Int) : RuleFree (m.neighbours index) := by
  have hstep (p : Plot) (offset : Int × Int) : RuleFree (m.step? p offset) := by
    simp only [step?]
    split
    · exact ruleFree_ok _
    · split
      · exact nofun
      · exact ruleFree_ok _
  unfold neighbours
  split
  · exact ruleFree_ok _
  · exact ((ruleFree_mapM (hstep _) _).bind fun _ => ruleFree_ok _).bind fun _ => ruleFree_ok _

lemma Arguments.ruleFree_sortedNames (args : Arguments) : RuleFree args.sortedNames := by
  unfold sortedNames
  split
  · exact nofun
  · split
    · exact nofun
    · exact ruleFree_ok _

lemma neverMalformed_hasBuilding (m : HexMap) (c : City) (args : Arguments) :
    (hasBuilding m c args).NeverMalformed := by
  unfold hasBuilding
  split
  · exact neverMalformed_pure _
  · exact (neverMalformed_ofConsulting _).bind fun _ => neverMalformed_pure _
  · refine NeverMalformed.bind ?_ fun _ => neverMalformed_pure _
    exact (neverMalformed_ofExcept args.ruleFree_sortedNames).bind fun _ => neverMalformed_pure _

lemma neverMalformed_isAdjacentToCoast (m : HexMap) (p : Plot) :
    (ofExcept (isAdjacentToCoast m p)).NeverMalformed := by
  refine neverMalformed_ofExcept ?_
  unfold isAdjacentToCoast
  split
  · exact ruleFree_ok _
  · exact (m.ruleFree_neighbours _).bind fun _ => ruleFree_ok _

namespace RequirementHead

lemma neverMalformed_reaches (h : RequirementHead) (argument : String) (count : Int) :
    (h.reaches argument count).NeverMalformed := by
  refine NeverMalformed.bind ?_ fun _ => neverMalformed_pure _
  unfold threshold
  split
  · exact neverMalformed_pure _
  · split
    · exact neverMalformed_pure _
    · exact (neverMalformed_note _).bind fun _ => neverMalformed_pure _

lemma neverMalformed_unsuited (h : RequirementHead) (subject : Subject) :
    (h.unsuited subject).NeverMalformed :=
  (neverMalformed_note _).bind fun _ => neverMalformed_pure _

end RequirementHead

namespace CityFact

lemma neverMalformed_hasEnoughTerrain (s : Scene) (c : City) (h : RequirementHead) :
    (hasEnoughTerrain s c h).NeverMalformed := by
  unfold hasEnoughTerrain
  split
  · exact (neverMalformed_note _).bind fun _ => neverMalformed_pure _
  · exact h.neverMalformed_reaches _ _

lemma neverMalformed_hasEnoughInhabitants (c : City) (h : RequirementHead) :
    (hasEnoughInhabitants c h).NeverMalformed := by
  unfold hasEnoughInhabitants
  split
  · exact h.neverMalformed_reaches _ _
  · exact (neverMalformed_ofExcept h.arguments.ruleFree_sortedNames).bind
      fun _ => (neverMalformed_note _).bind fun _ => neverMalformed_pure _

lemma neverMalformed_holds (s : Scene) (c : City) (h : RequirementHead) (fact : CityFact) :
    (fact.holds s c h).NeverMalformed := by
  cases fact with
  | hasBuilding => exact neverMalformed_hasBuilding s.game.map c h.arguments
  | hasTerrain => exact neverMalformed_hasEnoughTerrain s c h
  | population => exact neverMalformed_hasEnoughInhabitants c h
  | isCapital | isCity | isTown | isFounder | isDistantLands | hasProject | followsReligion =>
    exact neverMalformed_pure _

end CityFact

lemma PlotFact.neverMalformed_holds (s : Scene) (p : Plot) (h : RequirementHead) (fact : PlotFact) :
    (fact.holds s p h).NeverMalformed := by
  cases fact with
  | adjacentToCoast => exact neverMalformed_isAdjacentToCoast s.game.map p
  | numConstructibles => exact h.neverMalformed_reaches _ _
  | districtClass | hasConstructible | isQuarter => exact neverMalformed_ofConsulting _
  | resourceVisible | isCoastalLand | terrain | feature => exact neverMalformed_pure _

lemma PlayerFact.neverMalformed_holds (s : Scene) (p : Player) (h : RequirementHead)
    (fact : PlayerFact) : (fact.holds s p h).NeverMalformed := by
  cases fact with
  | numAlliances => exact h.neverMalformed_reaches _ _
  | hasTrait => exact neverMalformed_ofConsulting _
  | atPeaceWithMajors | leader => exact neverMalformed_pure _

namespace RequirementHead

lemma neverMalformed_isSatisfied (s : Scene) (subject : Subject) (h : RequirementHead) :
    (h.isSatisfied s subject).NeverMalformed := by
  unfold isSatisfied
  split
  · split
    · exact CityFact.neverMalformed_holds s _ h _
    · exact h.neverMalformed_unsuited subject
  · split
    · exact PlotFact.neverMalformed_holds s _ h _
    · exact h.neverMalformed_unsuited subject
  · exact PlayerFact.neverMalformed_holds s _ h _
  · split
    · exact neverMalformed_ofConsulting _
    · exact h.neverMalformed_unsuited subject
  · exact (neverMalformed_note _).bind fun _ => neverMalformed_pure _

lemma neverMalformed_isSatisfiedAlone (s : Scene) (subject : Subject) (h : RequirementHead) :
    (h.isSatisfiedAlone s subject).NeverMalformed := by
  unfold isSatisfiedAlone
  split
  · exact (neverMalformed_note _).bind fun _ => neverMalformed_pure _
  · exact h.neverMalformed_isSatisfied s subject

end RequirementHead

lemma RequirementSet.neverMalformed_outcome (type id : String) (isEmpty : Bool)
    {search : Bool → Evaluation Bool} (h : ∀ deciding, (search deciding).NeverMalformed) :
    (outcome type id isEmpty search).NeverMalformed := by
  unfold outcome
  split
  · exact neverMalformed_pure _
  · refine NeverMalformed.bind ?_ fun _ => h _
    unfold remarkOnType
    split
    · exact neverMalformed_pure _
    · exact neverMalformed_note _

mutual

lemma Requirement.neverMalformed_holds (s : Scene) (subject : Subject) :
    (r : Requirement) → (Requirement.holds s subject r).NeverMalformed
  | .leaf h => by
    unfold Requirement.holds
    exact (h.neverMalformed_isSatisfiedAlone s subject).bind fun _ => neverMalformed_pure _
  | .nested h id type requirements => by
    unfold Requirement.holds
    exact (RequirementSet.neverMalformed_outcome type id _ fun deciding =>
      Requirement.neverMalformed_search s subject deciding requirements).bind
        fun _ => neverMalformed_pure _

lemma Requirement.neverMalformed_search (s : Scene) (subject : Subject) (deciding : Bool) :
    (requirements : List Requirement) →
      (Requirement.search s subject deciding requirements).NeverMalformed
  | [] => by
    unfold Requirement.search
    exact neverMalformed_pure _
  | r :: rest => by
    unfold Requirement.search
    refine (Requirement.neverMalformed_holds s subject r).bind fun met => ?_
    split
    · exact neverMalformed_pure _
    · exact Requirement.neverMalformed_search s subject deciding rest

end

lemma RequirementSet.neverMalformed_holds (s : Scene) (subject : Subject) (set : RequirementSet) :
    (set.holds s subject).NeverMalformed :=
  neverMalformed_outcome _ _ _ fun deciding =>
    Requirement.neverMalformed_search s subject deciding set.requirements

namespace Modifier

/-- `subjects` ends in no rule fault. -/
theorem neverMalformed_subjects (s : Scene) (m : Modifier) (parent : Option Subject) :
    (m.subjects s parent).NeverMalformed := by
  have howner : (m.ownerMeets s).NeverMalformed := by
    unfold ownerMeets
    split
    · exact RequirementSet.neverMalformed_holds s _ _
    · exact neverMalformed_pure _
  have hcandidates : (m.candidates s parent).NeverMalformed := by
    unfold candidates
    split
    · unfold Collection.members
      split
      · split <;> exact neverMalformed_pure _
      · exact neverMalformed_pure _
      · exact neverMalformed_pure _
      · exact neverMalformed_pure _
      · split
        · exact neverMalformed_pure _
        · exact (neverMalformed_note _).bind fun _ => neverMalformed_pure _
      · exact neverMalformed_pure _
      · exact neverMalformed_pure _
    · exact (neverMalformed_note _).bind fun _ => neverMalformed_pure _
  have hadmits (subject : Subject) : (m.admits s subject).NeverMalformed := by
    unfold admits
    split
    · exact neverMalformed_pure _
    · exact RequirementSet.neverMalformed_holds s _ _
  unfold subjects
  refine howner.bind fun met => ?_
  split
  · exact hcandidates.bind fun candidates => sequential_neverMalformed.selectM hadmits candidates
  · exact neverMalformed_pure _

end Modifier

end PolicyForecast
