import Mathlib.Logic.Relation
import PolicyForecast.Rules.Resolution

/-!
# The graph of requirement sets

A set refers to the sets that its requirements stand for. This is said here row by row: `Refers`
reads the links of a set, the first row of each requirement in them and the last row of the argument
that names a set. Resolution finds the same through maps of arguments (`setOfRequirement?_eq_some`).

A set *unfolds* to a tree that lists its requirements in the order of the links, with the unfolding
of the set that a requirement stands for in the place of that requirement. Main statements: a set
has at most one unfolding (`Unfolds.unique`), and none if a cycle can be reached from it
(`Unfolds.not_reachesCycle`).
-/

namespace PolicyForecast.Rules

open Relation

variable {rules : Rules}

/-! ## References -/

/-- The last row of an argument of a requirement. -/
def lastArgument? (rules : Rules) (requirement : Option String) (name : String) :
    Option Argument :=
  ((rules.requirementArguments.filter fun r =>
    keyMatches r.owner requirement && r.argument.name == some name).getLast?).map
      ArgumentRecord.argument

/-- A requirement stands for a set: its first row is of that type, and the last row of its argument
names the set. -/
def StandsFor (rules : Rules) (requirement : Option String) (id : String) : Prop :=
  ∃ record argument, rules.requirement? requirement = some record ∧ record.type = some setIsMet ∧
    rules.lastArgument? requirement "RequirementSetId" = some argument ∧
    argument.value = some id ∧ id ≠ ""

/-- A set refers to the sets that its requirements stand for. -/
def Refers (rules : Rules) (id below : String) : Prop :=
  ∃ requirement ∈ rules.requirementIdsOfSet id, rules.StandsFor requirement below

/-- `find?` in the arguments of a requirement is its `lastArgument?`. -/
lemma find?_argumentsOfRequirement (requirement : Option String) (name : String) :
    (rules.argumentsOfRequirement requirement).find? name
      = rules.lastArgument? requirement name := by
  have hkey : ∀ a b : Option String, (a == b) = (b == a) := fun a b => by
    rw [Bool.eq_iff_iff, beq_iff_eq, beq_iff_eq, eq_comm]
  simp only [argumentsOfRequirement, Arguments.ofRows, Arguments.find?, lastArgument?,
    OrderedMap.get?_ofList, List.filter_map, List.filter_filter, List.getLast?_map,
    Option.map_map, Function.comp_def, hkey (some name), Bool.and_comm]

/-- `setOfRequirement?` is what the requirement `StandsFor`. -/
lemma setOfRequirement?_eq_some {requirement : Option String} {id : String} :
    rules.setOfRequirement? requirement = some id ↔ rules.StandsFor requirement id := by
  unfold setOfRequirement? requirementHead StandsFor
  cases hr : rules.requirement? requirement with
  | none => simp
  | some record =>
    simp only [Arguments.filled?, Arguments.value?, find?_argumentsOfRequirement]
    cases ha : rules.lastArgument? requirement "RequirementSetId" with
    | none => simp
    | some argument =>
      by_cases ht : record.type = some setIsMet
      · simp [ht, Option.filter_eq_some_iff]
      · simp [ht]

lemma setOfRequirement?_eq_none {requirement : Option String} :
    rules.setOfRequirement? requirement = none ↔ ∀ id, ¬ rules.StandsFor requirement id := by
  rw [Option.eq_none_iff_forall_ne_some]
  exact forall_congr' fun id => not_congr setOfRequirement?_eq_some

lemma StandsFor.unique {requirement : Option String} {id id' : String}
    (h : rules.StandsFor requirement id) (h' : rules.StandsFor requirement id') : id = id' := by
  rw [← setOfRequirement?_eq_some] at h h'
  exact Option.some.inj (h.symm.trans h')

/-! ## Cycles -/

/-- A cycle of references can be reached from a set. -/
def ReachesCycle (rules : Rules) (id : String) : Prop :=
  ∃ turn, ReflTransGen rules.Refers id turn ∧ TransGen rules.Refers turn turn

/-- A set that `ReachesCycle` `Refers` to one that does. -/
lemma ReachesCycle.exists_refers {id : String} (h : rules.ReachesCycle id) :
    ∃ below, rules.Refers id below ∧ rules.ReachesCycle below := by
  obtain ⟨turn, hreach, hturn⟩ := h
  rcases hreach.cases_head with rfl | ⟨below, hstep, hrest⟩
  · -- the set is on the cycle, which goes on from it
    obtain ⟨below, hstep, hrest⟩ := TransGen.head'_iff.1 hturn
    exact ⟨below, hstep, id, hrest, hturn⟩
  · exact ⟨below, hstep, turn, hrest, hturn⟩

/-- A set under which `Refers` is well-founded does not reach a cycle. -/
lemma not_reachesCycle_of_acc {id : String}
    (h : Acc (fun below id => rules.Refers id below) id) : ¬ rules.ReachesCycle id := by
  induction h with
  | intro id _ ih =>
    intro hcycle
    obtain ⟨below, hstep, hbelow⟩ := hcycle.exists_refers
    exact ih below hstep hbelow

lemma ReachesCycle.of_refers {id below : String} (h : rules.ReachesCycle below)
    (hstep : rules.Refers id below) : rules.ReachesCycle id := by
  obtain ⟨turn, hreach, hturn⟩ := h
  exact ⟨turn, hreach.head hstep, hturn⟩

/-! ## Unfoldings -/

/-- Requirements unfold to trees, one by one: those that stand for a set to the trees of the set,
the others to leaves. -/
inductive UnfoldsAll (rules : Rules) : List (Option String) → List Requirement → Prop
  | nil : UnfoldsAll rules [] []
  | leaf {requirement requirements trees} :
      (∀ id, ¬ rules.StandsFor requirement id) →
      UnfoldsAll rules requirements trees →
      UnfoldsAll rules (requirement :: requirements)
        (.leaf (rules.requirementHead requirement) :: trees)
  | nested {requirement id below requirements trees} :
      rules.StandsFor requirement id →
      UnfoldsAll rules (rules.requirementIdsOfSet id) below →
      UnfoldsAll rules requirements trees →
      UnfoldsAll rules (requirement :: requirements)
        (.nested (rules.requirementHead requirement) id (rules.typeOfSet id) below :: trees)

/-- A set unfolds to its type and the trees of its requirements. -/
structure Unfolds (rules : Rules) (id : String) (set : RequirementSet) : Prop where
  id_eq : set.id = some id
  type_eq : set.type = rules.typeOfSet id
  requirements : rules.UnfoldsAll (rules.requirementIdsOfSet id) set.requirements

lemma UnfoldsAll.unique {requirements : List (Option String)} {trees trees' : List Requirement}
    (h : rules.UnfoldsAll requirements trees) (h' : rules.UnfoldsAll requirements trees') :
    trees = trees' := by
  -- both unfoldings take the case that the requirement decides
  induction h generalizing trees' with
  | nil => cases h'; rfl
  | leaf hleaf _ ih =>
    cases h' with
    | leaf _ hrest => rw [ih hrest]
    | nested hset => exact absurd hset (hleaf _)
  | nested hset _ _ ihbelow ih =>
    cases h' with
    | leaf hleaf => exact absurd hset (hleaf _)
    | nested hset' hbelow hrest =>
      obtain rfl := hset.unique hset'
      rw [ihbelow hbelow, ih hrest]

lemma Unfolds.unique {id : String} {set set' : RequirementSet} (h : rules.Unfolds id set)
    (h' : rules.Unfolds id set') : set = set' := by
  obtain ⟨_, _, requirements⟩ := set
  obtain ⟨_, _, requirements'⟩ := set'
  obtain ⟨rfl, rfl, hrequirements⟩ := h
  obtain ⟨rfl, rfl, hrequirements'⟩ := h'
  exact congrArg (RequirementSet.mk _ _) (hrequirements.unique hrequirements')

/-- `Refers` is well-founded under requirements with `UnfoldsAll`. -/
lemma UnfoldsAll.acc {requirements : List (Option String)} {trees : List Requirement}
    (h : rules.UnfoldsAll requirements trees) :
    ∀ requirement ∈ requirements, ∀ id, rules.StandsFor requirement id →
      Acc (fun below id => rules.Refers id below) id := by
  induction h with
  | nil => simp
  | leaf hleaf _ ih =>
    intro requirement hmem id hset
    rcases List.mem_cons.1 hmem with rfl | hmem
    · exact absurd hset (hleaf id)
    · exact ih requirement hmem id hset
  | nested hset _ _ ihbelow ih =>
    intro requirement hmem id hset'
    rcases List.mem_cons.1 hmem with rfl | hmem
    · obtain rfl := hset.unique hset'
      refine ⟨_, fun below hrefers => ?_⟩
      obtain ⟨next, hnext, hbelow⟩ := hrefers
      exact ihbelow next hnext below hbelow
    · exact ih requirement hmem id hset'

/-- A set that `Unfolds` does not reach a cycle. -/
lemma Unfolds.not_reachesCycle {id : String} {set : RequirementSet} (h : rules.Unfolds id set) :
    ¬ rules.ReachesCycle id := by
  refine not_reachesCycle_of_acc ⟨_, fun below hrefers => ?_⟩
  obtain ⟨requirement, hmem, hset⟩ := hrefers
  exact h.requirements.acc requirement hmem below hset

end PolicyForecast.Rules
