import PolicyForecast.Proofs.Faithful
import PolicyForecast.Proofs.Sequences

/-!
# How subjects are selected

The subjects of a modifier are those members of its collection for which its requirements hold, in
the order of the collection (`Modifier.Selects`). Main statement: over a faithful cache these are
the subjects that a modifier is found to have, where it is found to have any
(`Modifier.subjects_eq_ok`).
-/

namespace PolicyForecast

variable {α β : Type}

/-! ## What selections come to -/

namespace Recorded

variable {ε : Type}

lemma result_bind (x : Recorded ε α) (f : α → Recorded ε β) :
    (x >>= f).result = x.result >>= fun a => (f a).result := by
  cases h : x.result with
  | error fault => rw [bind_of_error h]; rfl
  | ok a => rw [bind_of_ok h]; rfl

end Recorded

namespace Evaluation

/-- `run` on a `Faithful` cache is `given rules.answer`. -/
lemma run_of_faithful {rules : Rules} {cache : RuleCache} (x : Evaluation α)
    (h : cache.Faithful rules) : (x.run rules cache).1 = x.given rules.answer := by
  have hrecord := (Consulting.run_of_faithful x.outcome h).1
  simp only [run, given, hrecord]

variable {answers : Answers} {test : α → Evaluation Bool} {as : List α}

lemma given_ofConsulting (x : Consulting α) :
    (ofConsulting x).given answers = ⟨(x.given answers).1, .ok (x.given answers).2⟩ := by
  have houtcome : (ofConsulting x).outcome = x >>= fun a => pure (Except.ok a) := rfl
  unfold given
  rw [houtcome, Consulting.given_bind, Consulting.given_pure, List.append_nil]

lemma result_selectM_cons (answers : Answers) (test : α → Evaluation Bool) (a : α)
    (rest : List α) :
    ((selectM test (a :: rest)).given answers).result = do
      let stays ← ((test a).given answers).result
      let others ← ((selectM test rest).given answers).result
      return if stays then a :: others else others := by
  simp only [selectM, given_bind, Recorded.result_bind, given_pure]
  rfl

/-- `selectM` of a test that always ends well is `filter`. -/
lemma selectM_of_ok {passes : α → Bool}
    (h : ∀ a ∈ as, ((test a).given answers).result = .ok (passes a)) :
    ((selectM test as).given answers).result = .ok (as.filter passes) := by
  induction as with
  | nil => rfl
  | cons a rest ih =>
    rw [List.forall_mem_cons] at h
    rw [result_selectM_cons, h.1, ih h.2, List.filter_cons]
    rfl

/-- If `selectM` ends well, its test ended well on every item. -/
lemma ok_of_selectM_ok {selected : List α}
    (h : ((selectM test as).given answers).result = .ok selected) :
    ∀ a ∈ as, ∃ passes, ((test a).given answers).result = .ok passes := by
  induction as generalizing selected with
  | nil => simp
  | cons a rest ih =>
    rw [result_selectM_cons] at h
    obtain ⟨stays, hstays, h⟩ := Except.exists_of_bind_ok h
    obtain ⟨others, hothers, h⟩ := Except.exists_of_bind_ok h
    exact List.forall_mem_cons.2 ⟨⟨stays, hstays⟩, ih hothers⟩

end Evaluation

namespace Modifier

variable {rules : Rules} {cache : RuleCache} {s : Scene} {m : Modifier} {parent : Option Subject}

/-- What the subjects of a modifier are over rules, in a scene, attached to `parent` if anything. -/
inductive Selects (rules : Rules) (cache : RuleCache) (s : Scene) (m : Modifier)
    (parent : Option Subject) : List Subject → Prop
  /-- Owner requirements count and fail for the player: there are no subjects. -/
  | refused (hcount : s.settings.evaluateOwnerRequirements = true)
      (howner : ((m.ownerSet.holds s (.player s.player)).run rules cache).1.result = .ok false) :
      m.Selects rules cache s parent []
  /-- Of the members of the collection those stay, in order, that are empty or meet the subject
  requirements. -/
  | selected {candidates : List Subject} {meets : Subject → Bool}
      (howner : s.settings.evaluateOwnerRequirements = true →
        ((m.ownerSet.holds s (.player s.player)).run rules cache).1.result = .ok true)
      (hcandidates : ((m.candidates s parent).run rules cache).1.result = .ok candidates)
      (hmeets : ∀ subject ∈ candidates, subject.isEmpty = false →
        ((m.subjectSet.holds s subject).run rules cache).1.result = .ok (meets subject)) :
      m.Selects rules cache s parent
        (candidates.filter fun subject => subject.isEmpty || meets subject)

lemma result_ownerMeets (answers : Answers) (s : Scene) (m : Modifier) :
    ((m.ownerMeets s).given answers).result =
      if s.settings.evaluateOwnerRequirements then
        ((m.ownerSet.holds s (.player s.player)).given answers).result
      else .ok true := by
  unfold ownerMeets
  split <;> rfl

lemma result_admits (answers : Answers) (s : Scene) (m : Modifier) (subject : Subject) :
    ((m.admits s subject).given answers).result =
      if subject.isEmpty then .ok true
      else ((m.subjectSet.holds s subject).given answers).result := by
  unfold admits
  split <;> rfl

lemma result_subjects (answers : Answers) (s : Scene) (m : Modifier) (parent : Option Subject) :
    ((m.subjects s parent).given answers).result = do
      if ← ((m.ownerMeets s).given answers).result then
        let candidates ← ((m.candidates s parent).given answers).result
        ((selectM (m.admits s) candidates).given answers).result
      else return [] := by
  unfold subjects
  rw [Evaluation.given_bind, Recorded.result_bind]
  congr 1
  funext meets
  cases meets with
  | false => rfl
  | true =>
    simp only [if_true, Evaluation.given_bind, Recorded.result_bind]

/-- `selectM` of `admits` is `filter` of the requirements, which are not asked of empty subjects. -/
lemma result_selectM_admits {answers : Answers} {candidates : List Subject}
    {meets : Subject → Bool}
    (hmeets : ∀ subject ∈ candidates, subject.isEmpty = false →
      ((m.subjectSet.holds s subject).given answers).result = .ok (meets subject)) :
    ((selectM (m.admits s) candidates).given answers).result
      = .ok (candidates.filter fun subject => subject.isEmpty || meets subject) := by
  refine Evaluation.selectM_of_ok fun subject hsubject => ?_
  rw [result_admits]
  cases hempty : subject.isEmpty with
  | true => rfl
  | false => exact hmeets subject hsubject hempty

/-- `subjects` on a `Faithful` cache are those that the modifier `Selects`. -/
lemma subjects_eq_ok (hcache : cache.Faithful rules) {subjects : List Subject} :
    ((m.subjects s parent).run rules cache).1.result = .ok subjects ↔
      m.Selects rules cache s parent subjects := by
  have hrun {α : Type} (x : Evaluation α) :
      (x.run rules cache).1.result = (x.given rules.answer).result := by
    rw [x.run_of_faithful hcache]
  rw [hrun, result_subjects]
  constructor
  · intro h
    obtain ⟨ownerMeets, howner, h⟩ := Except.exists_of_bind_ok h
    rw [result_ownerMeets] at howner
    cases ownerMeets with
    | false =>
      obtain rfl := Except.ok.inj h
      split at howner
      next hcount => exact .refused hcount ((hrun _).trans howner)
      next => cases howner
    | true =>
      obtain ⟨candidates, hcandidates, h⟩ := Except.exists_of_bind_ok h
      -- every candidate was tested, and the test of a subject is what its requirements come to
      let meets (subject : Subject) : Bool :=
        ((m.subjectSet.holds s subject).given rules.answer).result.toOption.getD false
      have hmeets : ∀ subject ∈ candidates, subject.isEmpty = false →
          ((m.subjectSet.holds s subject).given rules.answer).result = .ok (meets subject) := by
        intro subject hsubject hempty
        obtain ⟨passes, hpasses⟩ := Evaluation.ok_of_selectM_ok h subject hsubject
        rw [result_admits, if_neg (by simp [hempty])] at hpasses
        simp only [meets, hpasses]
        rfl
      obtain rfl := Except.ok.inj ((result_selectM_admits hmeets).symm.trans h)
      refine .selected (fun hcount => ?_) ((hrun _).trans hcandidates)
        fun subject hsubject hempty => (hrun _).trans (hmeets subject hsubject hempty)
      rw [if_pos hcount] at howner
      exact (hrun _).trans howner
  · intro h
    cases h with
    | refused hcount howner =>
      rw [hrun] at howner
      rw [result_ownerMeets, if_pos hcount, howner]
      rfl
    | @selected candidates meets howner hcandidates hmeets =>
      simp only [hrun] at howner hcandidates hmeets
      have hmeet : ((m.ownerMeets s).given rules.answer).result = .ok true := by
        rw [result_ownerMeets]
        split
        next hcount => exact howner hcount
        next => rfl
      rw [hmeet, hcandidates]
      exact result_selectM_admits hmeets

end Modifier

end PolicyForecast
