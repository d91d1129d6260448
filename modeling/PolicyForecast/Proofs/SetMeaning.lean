import PolicyForecast.Proofs.Evaluability
import PolicyForecast.Proofs.Replies

/-!
# What a tree of requirements means

The evaluation of a set stops looking as soon as a requirement has decided it. What it comes to is
nevertheless a matter of the requirements alone, each with its own verdict: the meaning of a tree
(`Requirement.finding`) is built up from the findings on its leaves, without an order and with
nothing left out, and what is left out by the evaluation only shows in its remarks. Main statement:
`RequirementSet.holds_eq_finding`.
-/

namespace PolicyForecast

/-! ## Findings -/

/-- What the evaluation of a requirement or a set comes to when nothing stops it. -/
structure Finding where
  remarks : List Event
  met : Bool

namespace Finding

/-- An evaluation that comes to a finding. -/
def record (f : Finding) : Recorded EvaluationFault Bool :=
  ⟨f.remarks, .ok f.met⟩

/-- The finding on a requirement once its mark as inverse is regarded. -/
def marked (f : Finding) (inverse : Bool) : Finding :=
  { f with met := f.met != inverse }

/-- The findings up to the first verdict that is `deciding`, with that one. -/
def upTo (deciding : Bool) : List Finding → List Finding
  | [] => []
  | f :: rest => if f.met = deciding then [f] else f :: upTo deciding rest

/-- The verdict on findings of which one must be met, or all. -/
def combined (one : Bool) (findings : List Finding) : Bool :=
  if one then findings.any met else findings.all met

/-- `combined` is decided by the first finding that is met or not as `one` asks. -/
lemma combined_cons (one : Bool) (f : Finding) (rest : List Finding) :
    combined one (f :: rest) = if f.met = one then one else combined one rest := by
  unfold combined
  rw [List.any_cons, List.all_cons]
  cases one <;> cases f.met <;> simp

/-- The remark on the type of a set that has requirements. -/
def remarksOnType (type id : String) (findings : List Finding) : List Event :=
  if findings.isEmpty ∨ type = anyOf ∨ type = allOf then []
  else [.missing s!"Unknown RequirementSetType {type} for {id}, using {allOf}"]

/-- The finding on a set: without requirements it is met, else if one of them is met where one must
be, and if all are in every other case. Remarks are those of the requirements up to the one that
decides. -/
def ofSet (type id : String) (findings : List Finding) : Finding where
  remarks := remarksOnType type id findings ++ (upTo (type = anyOf) findings).flatMap remarks
  met := findings.isEmpty || combined (type = anyOf) findings

/-- The finding on a requirement that should stand for a set and stands for none. -/
def withoutSet (h : RequirementHead) : Finding where
  remarks := [.missing s!"Requirement {h.name} has no nested requirement set"]
  met := false

end Finding

/-! ## The meaning of a tree -/

namespace Requirement

mutual

/-- The requirements without a set below them, in the order of a tree. -/
def leaves : Requirement → List RequirementHead
  | .leaf h => [h]
  | .nested _ _ _ requirements => leavesOf requirements

/-- The requirements without a set below them in several trees. -/
def leavesOf : List Requirement → List RequirementHead
  | [] => []
  | r :: rest => r.leaves ++ leavesOf rest

end

mutual

/-- What a requirement means, if `find` has the findings on facts. -/
def finding (find : RequirementHead → Finding) : Requirement → Finding
  | .leaf h => (if h.type = some setIsMet then Finding.withoutSet h else find h).marked h.inverse
  | .nested h id type requirements =>
    (Finding.ofSet type id (findings find requirements)).marked h.inverse

/-- What each of several requirements means. -/
def findings (find : RequirementHead → Finding) : List Requirement → List Finding
  | [] => []
  | r :: rest => r.finding find :: findings find rest

end

end Requirement

namespace RequirementSet

/-- The requirements in the tree of a set that have no set below them. -/
def leaves (set : RequirementSet) : List RequirementHead :=
  Requirement.leavesOf set.requirements

/-- What a set means, if `find` has the findings on facts. -/
def finding (find : RequirementHead → Finding) (set : RequirementSet) : Finding :=
  Finding.ofSet set.type (Wording.name set.id) (Requirement.findings find set.requirements)

end RequirementSet

/-! ## Evaluation -/

variable {answers : Answers} {s : Scene} {subject : Subject} {find : RequirementHead → Finding}

/-- Leaves of a tree are found to be as `find` says. -/
def FindsAll (answers : Answers) (s : Scene) (subject : Subject)
    (find : RequirementHead → Finding) (heads : List RequirementHead) : Prop :=
  ∀ h ∈ heads, h.type ≠ some setIsMet →
    (h.isSatisfied s subject).given answers = (find h).record

namespace Requirement

lemma findings_eq_map (requirements : List Requirement) :
    findings find requirements = requirements.map (finding find) := by
  induction requirements with
  | nil => simp only [findings, List.map_nil]
  | cons r rest ih => simp only [findings, List.map_cons, ih]

lemma isEmpty_findings (find : RequirementHead → Finding) (requirements : List Requirement) :
    (findings find requirements).isEmpty = requirements.isEmpty := by
  rw [findings_eq_map, List.isEmpty_map]

lemma given_isSatisfiedAlone {h : RequirementHead} (hfind : FindsAll answers s subject find [h]) :
    (h.isSatisfiedAlone s subject).given answers
      = (if h.type = some setIsMet then Finding.withoutSet h else find h).record := by
  unfold RequirementHead.isSatisfiedAlone
  split
  next => rfl
  next htype => exact hfind h List.mem_cons_self htype

/-- `outcome` has the record of `Finding.ofSet` if its search has that of `upTo`. -/
lemma given_outcome {type id : String} {fs : List Finding} {search : Bool → Evaluation Bool}
    (hsearch : (search (type = anyOf)).given answers
      = ⟨(Finding.upTo (type = anyOf) fs).flatMap Finding.remarks,
        .ok (Finding.combined (type = anyOf) fs)⟩) :
    (RequirementSet.outcome type id fs.isEmpty search).given answers
      = (Finding.ofSet type id fs).record := by
  unfold RequirementSet.outcome
  cases fs with
  | nil => rfl
  | cons f rest =>
    have hremark : (RequirementSet.remarkOnType type id).given answers
        = ⟨Finding.remarksOnType type id (f :: rest), .ok ()⟩ := by
      unfold RequirementSet.remarkOnType Finding.remarksOnType
      split
      next htype => rw [if_pos (.inr htype)]; rfl
      next htype => rw [if_neg (by simpa using htype)]; rfl
    rw [if_neg (by simp), Evaluation.given_bind, hremark, hsearch, Recorded.bind_of_ok rfl]
    rfl

-- Along the tree: the finding on a set follows from those on its requirements, and a search adds
-- the finding on the first requirement to those on the others.

mutual

lemma given_holds : (r : Requirement) → FindsAll answers s subject find r.leaves →
    (r.holds s subject).given answers = (r.finding find).record
  | .leaf h, hfind => by
    rw [leaves] at hfind
    rw [holds, Evaluation.given_bind, given_isSatisfiedAlone hfind, finding,
      Recorded.bind_of_ok rfl]
    simp [Finding.record, Finding.marked]
  | .nested h id type requirements, hfind => by
    rw [leaves] at hfind
    rw [holds, ← isEmpty_findings find, Evaluation.given_bind,
      given_outcome (given_search (type = anyOf) requirements hfind), finding,
      Recorded.bind_of_ok rfl]
    simp [Finding.record, Finding.marked]

lemma given_search (deciding : Bool) : (requirements : List Requirement) →
    FindsAll answers s subject find (leavesOf requirements) →
    (search s subject deciding requirements).given answers
      = ⟨(Finding.upTo deciding (findings find requirements)).flatMap Finding.remarks,
        .ok (Finding.combined deciding (findings find requirements))⟩
  | [], _ => by
    rw [search, findings]
    cases deciding with
    | true => rfl
    | false => rfl
  | r :: rest, hfind => by
    rw [leavesOf] at hfind
    have hr := given_holds r fun h hh => hfind h (List.mem_append_left _ hh)
    have hrest := given_search deciding rest fun h hh => hfind h (List.mem_append_right _ hh)
    rw [search, Evaluation.given_bind, hr, Recorded.bind_of_ok rfl, findings]
    rw [Finding.upTo, Finding.combined_cons]
    by_cases hdecides : (r.finding find).met = deciding
    · simp only [if_pos hdecides, List.flatMap_singleton, Evaluation.given_pure, Recorded.pure_eq,
        List.append_nil, Finding.record]
    · simp only [if_neg hdecides, List.flatMap_cons, hrest, Finding.record]

end

end Requirement

namespace RequirementSet

lemma given_holds {set : RequirementSet} (hfind : FindsAll answers s subject find set.leaves) :
    (set.holds s subject).given answers = (set.finding find).record := by
  unfold holds isEmpty
  rw [← Requirement.isEmpty_findings find]
  exact Requirement.given_outcome (Requirement.given_search _ set.requirements hfind)

/-- If `find` has the records of the facts among `set.leaves`, `holds` has the record of
`set.finding find`, which is met iff there are no requirements, or one of them is met and the type
is `anyOf`, or all of them are and it is another. -/
theorem holds_eq_finding (s : Scene) (subject : Subject) (set : RequirementSet) (rules : Rules)
    (cache : RuleCache) (find : RequirementHead → Finding)
    (hfind : ∀ h ∈ set.leaves, h.type ≠ some setIsMet →
      ((h.isSatisfied s subject).run rules cache).1 = (find h).record) :
    ((set.holds s subject).run rules cache).1 = (set.finding find).record ∧
      ((set.finding find).met = true ↔ set.requirements = [] ∨
        if set.type = anyOf then ∃ r ∈ set.requirements, (r.finding find).met = true
        else ∀ r ∈ set.requirements, (r.finding find).met = true) := by
  constructor
  · rw [(confined_holds s subject set).run_eq_given]
    refine given_holds fun h hleaf htype => ?_
    have hconfined := h.confined_isSatisfiedAlone s subject
    rw [RequirementHead.isSatisfiedAlone, if_neg htype] at hconfined
    rw [← hconfined.run_eq_given, hfind h hleaf htype]
  · show (_ || Finding.combined _ _) = true ↔ _
    rw [Bool.or_eq_true, Requirement.isEmpty_findings, List.isEmpty_iff,
      Requirement.findings_eq_map]
    unfold Finding.combined
    split
    next hone => simp [if_pos (of_decide_eq_true hone)]
    next hall => simp [if_neg (fun hone => hall (decide_eq_true hone))]

/-- `CAPITAL`, or not `INSIDE`, or `STRANGER`; the type of `INSIDE` is not known. -/
def outing : RequirementSet where
  id := some "OUTING"
  type := anyOf
  requirements :=
    [.leaf ⟨some "CAPITAL", some "REQUIREMENT_CITY_IS_CAPITAL", false, ∅⟩,
     .nested ⟨some "OUTSIDE", some setIsMet, true, ∅⟩ "INSIDE" "REQUIREMENTSET_TEST_SOME"
      [.leaf ⟨some "CITY", some "REQUIREMENT_CITY_IS_CITY", false, ∅⟩,
       .leaf ⟨some "STRANGE", some "OTHER", false, ∅⟩,
       .leaf ⟨some "HOLLOW", some setIsMet, false, ∅⟩],
     .leaf ⟨some "STRANGER", some "OTHER", false, ∅⟩]

/-- `OUTSIDE` is met, since `INSIDE` is not. `HOLLOW` and `STRANGER` come after the decision in
their sets and leave no remark. -/
theorem outing_met :
    ((outing.holds hamletScene (.city hamlet)).run census (.ofRules census)).1
      = ⟨[.missing ("Unknown RequirementSetType REQUIREMENTSET_TEST_SOME for INSIDE, "
            ++ "using REQUIREMENTSET_TEST_ALL"),
          .missing "Unhandled RequirementType: OTHER (STRANGE)"], .ok true⟩ := by
  have hmeaning := holds_eq_finding hamletScene (.city hamlet) outing census (.ofRules census)
    fun h => if h.type = some "OTHER" then
        ⟨[.missing s!"Unhandled RequirementType: OTHER ({h.name})"], false⟩
      else ⟨[], h.type = some "REQUIREMENT_CITY_IS_CITY"⟩
  rw [(hmeaning ?_).1]
  · rfl
  · intro h hleaf htype
    simp only [outing, leaves, Requirement.leavesOf, Requirement.leaves, List.cons_append,
      List.nil_append, List.append_nil, List.mem_cons, List.not_mem_nil, or_false] at hleaf
    rcases hleaf with rfl | rfl | rfl | rfl | rfl
    · rfl
    · rfl
    · rfl
    · exact absurd rfl htype
    · rfl

end RequirementSet

end PolicyForecast
