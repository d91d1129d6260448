import PolicyForecast.Proofs.SetMeaning

/-!
# A city stands for its centre

A fact is true or false of one part of the subject that a requirement is evaluated on: of its city,
its plot, its player or its unit. If two subjects have the same part for a fact (`Fact.SeesAlike`),
the fact makes no difference between them. A tree whose facts all see two subjects alike comes to
the same on both; the same requests are made on the way, and remarks differ at most in how they name
the subject (`Consulting.Retells`).

Every fact sees a city like its centre, and a fact that is not about plots sees it like any plot
that goes with it. Main statement: `RequirementSet.city_stands_for_centre`.
-/

namespace PolicyForecast

variable {α β : Type} {s : Scene} {a b : Subject}

/-! ## Evaluations on two subjects -/

/-- The remark that a requirement has nothing to be about. -/
def RequirementHead.unsuitedRemark (h : RequirementHead) (subject : Subject) : Event :=
  .missing (s!"Requirement {h.name} ({Wording.name h.type}) cannot be evaluated on "
    ++ subject.describe)

/-- What happens on one subject happens on the other, but for the name of the subject in the remark
that a requirement has nothing to be about. -/
inductive Event.Retold (a b : Subject) : Event → Event → Prop
  | same (e : Event) : Retold a b e e
  | renamed (h : RequirementHead) : Retold a b (h.unsuitedRemark a) (h.unsuitedRemark b)

namespace Consulting

/-- Computations that make the same requests and come to the same value, with the same events but
for the name of the subject. -/
inductive Retells (a b : Subject) : Consulting α → Consulting α → Prop
  | done (v : α) : Retells a b (.done v) (.done v)
  | note {e e' : Event} {x y : Consulting α} (hevent : e.Retold a b e') (hrest : Retells a b x y) :
      Retells a b (.note e x) (.note e' y)
  | ask (q : Request) {next next' : q.Answer → Consulting α}
      (hnext : ∀ answer, Retells a b (next answer) (next' answer)) :
      Retells a b (.ask q next) (.ask q next')

lemma Retells.refl (x : Consulting α) : Retells a b x x := by
  induction x with
  | done v => exact .done v
  | note e rest ih => exact .note (.same e) ih
  | ask q next ih => exact .ask q ih

lemma Retells.bind {x y : Consulting α} {f g : α → Consulting β} (h : Retells a b x y)
    (hnext : ∀ v, Retells a b (f v) (g v)) : Retells a b (x >>= f) (y >>= g) := by
  show Retells a b (Consulting.bind x f) (Consulting.bind y g)
  induction h with
  | done v => exact hnext v
  | note hevent _ ih => exact .note hevent ih
  | ask q _ ih => exact .ask q ih

/-- Computations that `Retells` relates run alike: the same value and cache, and events that are
`Retold`. -/
lemma Retells.run {x y : Consulting α} (h : Retells a b x y) (rules : Rules) (cache : RuleCache) :
    (x.run rules cache).1.2 = (y.run rules cache).1.2 ∧
      (x.run rules cache).2 = (y.run rules cache).2 ∧
      List.Forall₂ (Event.Retold a b) (x.run rules cache).1.1 (y.run rules cache).1.1 := by
  induction h generalizing cache with
  | done v => exact ⟨rfl, rfl, .nil⟩
  | note hevent _ ih =>
    obtain ⟨hvalue, hcache, hevents⟩ := ih cache
    exact ⟨hvalue, hcache, .cons hevent hevents⟩
  | ask q _ ih => exact ih (cache.serve rules q).1 (cache.serve rules q).2

end Consulting

/-- Runs on two subjects that come to the same result or fault and leave the same cache, with the
same events but for the name of the subject. -/
structure Retelling (a b : Subject) (x y : Recorded EvaluationFault α × RuleCache) : Prop where
  result : x.1.result = y.1.result
  cache : x.2 = y.2
  events : List.Forall₂ (Event.Retold a b) x.1.events y.1.events

namespace Evaluation

/-- The same of computations that may stop. -/
def Retells (a b : Subject) (x y : Evaluation α) : Prop :=
  Consulting.Retells a b x.outcome y.outcome

lemma Retells.refl (x : Evaluation α) : x.Retells a b x :=
  Consulting.Retells.refl x.outcome

lemma Retells.bind {x y : Evaluation α} {f g : α → Evaluation β} (h : x.Retells a b y)
    (hnext : ∀ v, (f v).Retells a b (g v)) : (x >>= f).Retells a b (y >>= g) := by
  unfold Retells
  rw [outcome_bind, outcome_bind]
  refine Consulting.Retells.bind h fun r => ?_
  cases r with
  | ok v => exact hnext v
  | error fault => exact .refl _

lemma Retells.run {x y : Evaluation α} (h : x.Retells a b y) (rules : Rules) (cache : RuleCache) :
    Retelling a b (x.run rules cache) (y.run rules cache) := by
  obtain ⟨hvalue, hcache, hevents⟩ := Consulting.Retells.run h rules cache
  exact ⟨hvalue, hcache, hevents⟩

end Evaluation

/-! ## Facts -/

/-- The unit that a subject is. -/
def Subject.unit? : Subject → Option GameUnit
  | .unit u => some u
  | _ => none

/-- Two subjects have the same part that a fact is about. -/
def Fact.SeesAlike (s : Scene) (a b : Subject) : Fact → Prop
  | .city _ => a.city? = b.city?
  | .plot _ => a.plot? s.game.map = b.plot? s.game.map
  | .player _ => RequirementHead.playerOf s a = RequirementHead.playerOf s b
  | .unit _ => a.unit? = b.unit?

namespace RequirementHead

variable {h : RequirementHead}

/-- The fact that a requirement states, if any, sees two subjects alike. -/
def SeesAlike (s : Scene) (a b : Subject) (h : RequirementHead) : Prop :=
  ∀ fact, Fact.ofType? h.type = some fact → fact.SeesAlike s a b

lemma retells_unsuited (h : RequirementHead) : (h.unsuited a).Retells a b (h.unsuited b) := by
  have hremark : (Evaluation.note (h.unsuitedRemark a)).Retells a b
      (Evaluation.note (h.unsuitedRemark b)) := .note (.renamed h) (.done _)
  exact hremark.bind fun _ => .refl _

/-- `isSatisfied` of a unit fact. -/
lemma isSatisfied_unit {fact : UnitFact} (htype : Fact.ofType? h.type = some (.unit fact))
    (subject : Subject) :
    h.isSatisfied s subject
      = subject.unit?.elim (h.unsuited subject) fun u =>
          Evaluation.ofConsulting (fact.holds u h) := by
  unfold isSatisfied
  rw [htype]
  cases subject <;> rfl

/-- `isSatisfied` is a `Retells` on subjects that the requirement `SeesAlike`. -/
lemma retells_isSatisfied (halike : h.SeesAlike s a b) :
    (h.isSatisfied s a).Retells a b (h.isSatisfied s b) := by
  cases htype : Fact.ofType? h.type with
  | none =>
    unfold isSatisfied
    rw [htype]
    exact .refl _
  | some fact =>
    have hsame := halike fact htype
    cases fact with
    | city fact =>
      have hcity : a.city? = b.city? := hsame
      unfold isSatisfied
      rw [htype]
      simp only [hcity]
      cases b.city? with
      | some c => exact .refl _
      | none => exact h.retells_unsuited
    | plot fact =>
      have hplot : a.plot? s.game.map = b.plot? s.game.map := hsame
      unfold isSatisfied
      rw [htype]
      simp only [hplot]
      cases b.plot? s.game.map with
      | some p => exact .refl _
      | none => exact h.retells_unsuited
    | player fact =>
      have hplayer : playerOf s a = playerOf s b := hsame
      unfold isSatisfied
      rw [htype]
      simp only [hplayer]
      exact .refl _
    | unit fact =>
      have hunit : a.unit? = b.unit? := hsame
      rw [isSatisfied_unit htype, isSatisfied_unit htype, hunit]
      cases b.unit? with
      | some u => exact .refl _
      | none => exact h.retells_unsuited

lemma retells_isSatisfiedAlone (halike : h.SeesAlike s a b) :
    (h.isSatisfiedAlone s a).Retells a b (h.isSatisfiedAlone s b) := by
  unfold isSatisfiedAlone
  split
  · exact .refl _
  · exact retells_isSatisfied halike

end RequirementHead

/-! ## Trees -/

lemma RequirementSet.retells_outcome {type id : String} {isEmpty : Bool}
    {search search' : Bool → Evaluation Bool}
    (hsearch : ∀ deciding, (search deciding).Retells a b (search' deciding)) :
    (outcome type id isEmpty search).Retells a b (outcome type id isEmpty search') := by
  unfold outcome
  split
  · exact .refl _
  · exact (Evaluation.Retells.refl _).bind fun _ => hsearch _

namespace Requirement

-- Along the tree: what is found on the two subjects is the same at every leaf, so that the searches
-- go equally far.

mutual

lemma retells_holds : (r : Requirement) → (∀ h ∈ r.leaves, h.SeesAlike s a b) →
    (r.holds s a).Retells a b (r.holds s b)
  | .leaf h, halike => by
    have hleaf : h.SeesAlike s a b := halike h (by simp [leaves])
    unfold holds
    exact (RequirementHead.retells_isSatisfiedAlone hleaf).bind fun _ => .refl _
  | .nested h id type requirements, halike => by
    rw [leaves] at halike
    unfold holds
    refine Evaluation.Retells.bind ?_ fun _ => .refl _
    exact RequirementSet.retells_outcome fun deciding => retells_search deciding requirements halike

lemma retells_search (deciding : Bool) : (requirements : List Requirement) →
    (∀ h ∈ leavesOf requirements, h.SeesAlike s a b) →
    (search s a deciding requirements).Retells a b (search s b deciding requirements)
  | [], _ => by
    unfold search
    exact .refl _
  | r :: rest, halike => by
    rw [leavesOf] at halike
    have hr := retells_holds r fun h hh => halike h (List.mem_append_left _ hh)
    have hrest := retells_search deciding rest fun h hh => halike h (List.mem_append_right _ hh)
    unfold search
    refine hr.bind fun met => ?_
    split
    · exact .refl _
    · exact hrest

end

end Requirement

namespace RequirementSet

/-- `holds` is a `Retells` on subjects that every leaf `SeesAlike`. -/
lemma retells_holds {set : RequirementSet} (halike : ∀ h ∈ set.leaves, h.SeesAlike s a b) :
    (set.holds s a).Retells a b (set.holds s b) :=
  retells_outcome fun deciding => Requirement.retells_search deciding set.requirements halike

end RequirementSet

/-! ## Cities and plots -/

variable {c : City} {p : Plot} {fact : Fact}

/-- Every fact `SeesAlike` a city and the plot of its location. -/
lemma Fact.seesAlike_centre (hcentre : s.game.map.plotAt? c.location = some p) :
    fact.SeesAlike s (.city c) (.plot c p) := by
  cases fact with
  | plot fact => exact hcentre
  | city | player | unit => rfl

/-- A fact that is no plot fact `SeesAlike` a city and each of its plots. -/
lemma Fact.seesAlike_plot (hother : ∀ plotFact, fact ≠ .plot plotFact) :
    fact.SeesAlike s (.city c) (.plot c p) := by
  cases fact with
  | plot fact => exact absurd rfl (hother fact)
  | city | player | unit => rfl

namespace RequirementSet

/-- `holds` on a city and on the plot of its location are a `Retelling` of each other: the same
verdict or fault and the same cache, and the same remarks up to the name of the subject. Without
plot facts among `set.leaves` the same holds for every plot of the city. -/
theorem city_stands_for_centre (rules : Rules) (cache : RuleCache) (s : Scene) (c : City)
    (set : RequirementSet) :
    (∀ centre, s.game.map.plotAt? c.location = some centre →
      Retelling (.city c) (.plot c centre) ((set.holds s (.city c)).run rules cache)
        ((set.holds s (.plot c centre)).run rules cache)) ∧
    ((∀ h ∈ set.leaves, ∀ fact, Fact.ofType? h.type ≠ some (.plot fact)) → ∀ p,
      Retelling (.city c) (.plot c p) ((set.holds s (.city c)).run rules cache)
        ((set.holds s (.plot c p)).run rules cache)) := by
  constructor
  · intro centre hcentre
    have halike : ∀ h ∈ set.leaves, h.SeesAlike s (.city c) (.plot c centre) :=
      fun _ _ _ _ => Fact.seesAlike_centre hcentre
    exact (retells_holds halike).run rules cache
  · intro hplotless p
    have halike : ∀ h ∈ set.leaves, h.SeesAlike s (.city c) (.plot c p) := by
      intro h hleaf fact htype
      refine Fact.seesAlike_plot fun plotFact hplot => ?_
      exact hplotless h hleaf plotFact (hplot ▸ htype)
    exact (retells_holds halike).run rules cache

/-- A plot on a hill. -/
def hill : Plot where
  index := 0
  x := 0
  y := 0
  terrain := some "TERRAIN_HILL"

/-- The plot beside `hill`, on a plain. -/
def plain : Plot where
  index := 1
  x := 1
  y := 0
  terrain := some "TERRAIN_FLAT"

/-- A town whose location is `hill`. -/
def lookout : City where
  id := 1
  name := some "Lookout"
  owner := 0
  location := some 0
  isTown := true

/-- The scene of `hill`, `plain` and `lookout`. -/
def lookoutScene : Scene where
  game :=
    { localPlayerId := some 0
      map := { width := 2, height := 1, plots := ⟨[(0, hill), (1, plain)]⟩ } }
  player := { id := 0, cities := [lookout] }
  settings := {}

/-- The subject is no unit, and its city is a town. -/
def settled : List Requirement :=
  [.nested ⟨some "CIVIL", some setIsMet, true, ∅⟩ "UNITS" anyOf
    [.leaf ⟨some "SCOUT", some "REQUIREMENT_UNIT_TYPE_MATCHES", false, ∅⟩],
   .leaf ⟨some "TOWN", some "REQUIREMENT_CITY_IS_TOWN", false, ∅⟩]

/-- The plot has the terrain of `hill`. -/
def elevated : Requirement :=
  .leaf ⟨some "ELEVATED", some "REQUIREMENT_PLOT_TERRAIN_TYPE_MATCHES", false,
    .ofRows [{ name := some "TerrainType", value := some "TERRAIN_HILL" }]⟩

/-- `elevated` is met by `lookout` as by its location `hill`, and not by `plain`; `settled` is met
by `plain` too. -/
theorem lookout_stands_for_hill :
    lookoutScene.game.map.plotAt? lookout.location = some hill ∧
      ((holds lookoutScene (.plot lookout hill) { requirements := elevated :: settled }).run {}
        (.ofRules {})).1.result = .ok true ∧
      ((holds lookoutScene (.plot lookout plain) { requirements := elevated :: settled }).run {}
        (.ofRules {})).1.result = .ok false ∧
      ((holds lookoutScene (.plot lookout plain) { requirements := settled }).run {}
        (.ofRules {})).1.result = .ok true := by
  have hcentre : lookoutScene.game.map.plotAt? lookout.location = some hill := rfl
  refine ⟨hcentre, ?_, rfl, ?_⟩
  · have hsame := (city_stands_for_centre {} (.ofRules {}) lookoutScene lookout
      { requirements := elevated :: settled }).1 hill hcentre
    exact hsame.result.symm.trans rfl
  · have hplotless : ∀ h ∈ leaves { requirements := settled }, ∀ fact,
        Fact.ofType? h.type ≠ some (.plot fact) := by
      intro h hleaf fact htype
      simp only [leaves, settled, Requirement.leavesOf, Requirement.leaves, List.cons_append,
        List.nil_append, List.append_nil, List.mem_cons, List.not_mem_nil, or_false] at hleaf
      rcases hleaf with rfl | rfl <;> cases htype
    have hsame := (city_stands_for_centre {} (.ofRules {}) lookoutScene lookout
      { requirements := settled }).2 hplotless plain
    exact hsame.result.symm.trans rfl

end RequirementSet

end PolicyForecast
