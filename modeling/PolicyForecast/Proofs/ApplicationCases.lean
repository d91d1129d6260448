import PolicyForecast.Proofs.AttachmentGraph
import PolicyForecast.Proofs.PreviewRecord

/-!
# What entering and applying a modifier does

A modifier that is entered is met again, cannot have its subjects worked out, or is applied to them
one by one (`enter_cases`). A modifier that is applied to a subject does nothing, has an effect of
its own only, or has another modifier entered (`apply_cases`). Each statement about all applications
is an induction that uses these two.
-/

namespace PolicyForecast

variable {rules : Rules} {s : Scene} {stack : List String} {m attached : Modifier}
  {subject : Subject} {parent : Option Subject} {fuel : Nat}
  {apply : Modifier → Subject → Application Unit}

namespace Scene

open Application

/-! ## What an effect does -/

/-- The record of an effect after a malformed rule was remarked on. -/
def remarked (s : Scene) (m : Modifier) (subject : Subject) (r : Recorded Fault Unit) :
    Recorded Fault Unit :=
  match r.result with
  | .error (.evaluation (.rule fault)) =>
    ⟨r.events ++ [ruleRemark m subject fault],
      if s.settings.strictArguments then .error (.evaluation (.rule fault)) else .ok ()⟩
  | _ => r

lemma record_guarded {answers : Answers} {x : Application Unit} (hx : Steady x) :
    (s.guarded m subject x).record answers stack
      = s.remarked m subject (x.record answers stack) := by
  unfold guarded remarked
  rw [record_tryCatch hx]
  rcases hr : x.record answers stack with ⟨events, result⟩
  rcases result with fault | _
  · rcases fault with fault | _ | _ | _ | _
    · rcases fault with fault | _ | _ | _
      · -- only a malformed rule is caught
        cases hstrict : s.settings.strictArguments
        · rfl
        · rfl
      all_goals simp [record_throw]
    all_goals simp [record_throw]
  · rfl

/-- An outcome that does not come of modifiers that are met again nor of the bound, and not of a
malformed rule unless rules are strict. -/
inductive Plain (s : Scene) : Except Fault Unit → Prop
  | ok : Plain s (.ok ())
  | evaluation {fault : EvaluationFault} :
      (∀ rule, fault = .rule rule → s.settings.strictArguments = true) →
      Plain s (.error (.evaluation fault))
  | requirementSetCycle {chain : List String} : Plain s (.error (.requirementSetCycle chain))

/-- `remarked` makes the result of an evaluation `Plain`. -/
lemma plain_remarked (m : Modifier) (subject : Subject) (r : Recorded EvaluationFault Unit) :
    s.Plain (s.remarked m subject (r.mapError .evaluation)).result := by
  obtain ⟨events, result⟩ := r
  rcases result with fault | _
  · rcases fault with rule | fault | _ | missingFirst
    · unfold remarked Recorded.mapError
      cases hstrict : s.settings.strictArguments
      · exact .ok
      · exact .evaluation fun _ _ => hstrict
    · exact .evaluation nofun
    · exact .evaluation nofun
    · exact .evaluation nofun
  · exact .ok

lemma effect_of_attach (h : m.effect = some "EFFECT_ATTACH_MODIFIERS") :
    s.effect apply m subject = s.guarded m subject (s.attach apply m subject) := by
  unfold effect
  rw [Effect.ofType?_eq_attach.2 h]
  rfl

/-- Without `ModifierId`, `attach` ends in the rule fault. -/
lemma record_attach_of_error {answers : Answers} {fault : RuleFault}
    (h : m.text "ModifierId" = .error fault) :
    (s.attach apply m subject).record answers stack
      = ⟨[], .error (.evaluation (.rule fault))⟩ := by
  unfold attach
  rw [h]
  refine (record_bind (steady_ofEvaluation _) _).trans ?_
  rw [record_ofEvaluation]
  exact Recorded.bind_of_error rfl _

/-- `attach` asks for the modifier of `ModifierId` and does `enter` on it, or remarks that there is
none. -/
lemma record_attach_of_ok {answers : Answers} {id : String} (h : m.text "ModifierId" = .ok id) :
    (s.attach apply m subject).record answers stack =
      (⟨[], answers (.modifier id)⟩ : Recorded Fault (Option Modifier)) >>= fun found =>
        found.elim ⟨[unattachedRemark m id], .ok ()⟩ fun attached =>
          (s.enter apply attached (some subject)).record answers stack := by
  unfold attach
  rw [h]
  refine (record_bind (steady_ofEvaluation _) _).trans ?_
  rw [record_ofEvaluation]
  refine (pure_bind (m := Recorded Fault) id _).trans ?_
  rw [record_bind (steady_ofResult _), record_ofResult, Consulting.given_modifier]
  congr 1
  funext found
  cases found with
  | none => rfl
  | some attached => rfl

lemma text_of_filled {id : String} (h : m.arguments.filled? "ModifierId" = some id) :
    m.text "ModifierId" = .ok id := by
  rw [Modifier.text, h]
  rfl

/-- The `effect` of a modifier that `Names` another is `enter` on that one. -/
lemma record_effect_of_names (h : m.Names rules attached)
    (hsteady : ∀ m subject, Steady (apply m subject)) :
    (s.effect apply m subject).record rules.answer stack
      = s.remarked m subject
          ((s.enter apply attached (some subject)).record rules.answer stack) := by
  obtain ⟨heffect, id, hid, hresolved⟩ := h
  have hanswer : rules.answer (.modifier id) = .ok (some attached) := hresolved
  rw [effect_of_attach heffect, record_guarded (s.steady_attach hsteady m subject),
    record_attach_of_ok (text_of_filled hid), Recorded.bind_of_ok hanswer]
  rfl

/-- If a modifier `Names` no other, its `attach` has one record for every `apply` and stack, and it
is `Plain` once it is `remarked`. -/
lemma exists_record_attach (heffect : m.effect = some "EFFECT_ATTACH_MODIFIERS")
    (h : ∀ attached, ¬ m.Names rules attached) :
    ∃ r, s.Plain (s.remarked m subject r).result ∧
      ∀ apply : Modifier → Subject → Application Unit,
        (∀ m subject, Steady (apply m subject)) →
          ∀ stack, (s.attach apply m subject).record rules.answer stack = r := by
  cases hid : m.arguments.filled? "ModifierId" with
  | none =>
    have htext : m.text "ModifierId" = .error (.missingArgument m.id "ModifierId") := by
      rw [Modifier.text, hid]
      rfl
    exact ⟨_, plain_remarked m subject ⟨[], .error (.rule (.missingArgument m.id "ModifierId"))⟩,
      fun _ _ _ => record_attach_of_error htext⟩
  | some id =>
    have htext := text_of_filled hid
    rcases rules.resolved_cases (some id) with ⟨found, hfound, -⟩ | ⟨chain, hchain⟩
    · cases found with
      | none =>
        have hanswer : rules.answer (.modifier id) = .ok none := hfound
        refine ⟨⟨[unattachedRemark m id], .ok ()⟩, .ok, fun apply _ stack => ?_⟩
        rw [record_attach_of_ok htext, Recorded.bind_of_ok hanswer]
        rfl
      | some attached => exact absurd ⟨heffect, id, hid, hfound⟩ (h attached)
    · have hanswer : rules.answer (.modifier id) = .error (.requirementSetCycle chain) := hchain
      refine ⟨⟨[], .error (.requirementSetCycle chain)⟩, .requirementSetCycle,
        fun apply _ stack => ?_⟩
      rw [record_attach_of_ok htext, Recorded.bind_of_error hanswer]

/-- If a modifier `Names` no other, its `effect` has one `Plain` record for every `apply` and
stack. -/
lemma exists_record_effect (s : Scene) (subject : Subject)
    (h : ∀ attached, ¬ m.Names rules attached) :
    ∃ r, s.Plain r.result ∧ ∀ apply : Modifier → Subject → Application Unit,
      (∀ m subject, Steady (apply m subject)) →
        ∀ stack, (s.effect apply m subject).record rules.answer stack = r := by
  cases heffect : Effect.ofType? m.effect with
  | none =>
    refine ⟨⟨[unhandledRemark m], .ok ()⟩, .ok, fun apply _ stack => ?_⟩
    unfold effect
    rw [heffect]
    exact record_ofEvaluation _
  | some effect =>
    cases effect with
    | inert =>
      refine ⟨⟨[ignoredRemark m], .ok ()⟩, .ok, fun apply _ stack => ?_⟩
      unfold Scene.effect
      rw [heffect]
      exact record_ofEvaluation _
    | yields effect =>
      refine ⟨_, plain_remarked m subject ((effect.run s m subject).given rules.answer),
        fun apply _ stack => ?_⟩
      unfold Scene.effect
      rw [heffect, ← record_ofEvaluation]
      exact record_guarded (steady_ofEvaluation _)
    | attach =>
      rw [Effect.ofType?_eq_attach] at heffect
      obtain ⟨r, hplain, hr⟩ := exists_record_attach heffect h
      refine ⟨_, hplain, fun apply hsteady stack => ?_⟩
      rw [effect_of_attach heffect, record_guarded (s.steady_attach hsteady m subject),
        hr apply hsteady stack]

/-! ## Entering modifiers and applying them -/

/-- `enter` ends in a `modifierCycle`, or in the fault of `subjects`, or does `apply` on each
subject with the id on the stack. -/
lemma enter_cases (rules : Rules) (s : Scene) (m : Modifier) (parent : Option Subject)
    (stack : List String) (hsteady : ∀ m subject, Steady (apply m subject)) :
    (m.id ∈ stack ∧ (s.enter apply m parent).record rules.answer stack
        = ⟨[], .error (.modifierCycle (stack ++ [m.id]))⟩) ∨
    (m.id ∉ stack ∧ ∃ fault, ((m.subjects s parent).given rules.answer).result = .error fault ∧
      (s.enter apply m parent).record rules.answer stack
        = ⟨((m.subjects s parent).given rules.answer).events, .error (.evaluation fault)⟩) ∨
    (m.id ∉ stack ∧ ∃ subjects, m.HasSubjects rules s parent subjects ∧
      (s.enter apply m parent).record rules.answer stack
        = ⟨((m.subjects s parent).given rules.answer).events
            ++ (subjects.forM fun subject =>
              (apply m subject).record rules.answer (stack ++ [m.id])).events,
          (subjects.forM fun subject =>
            (apply m subject).record rules.answer (stack ++ [m.id])).result⟩) := by
  by_cases hmem : m.id ∈ stack
  · exact .inl ⟨hmem, s.record_enter_of_mem hmem⟩
  · rw [s.record_enter_of_not_mem hsteady hmem]
    cases hsubjects : ((m.subjects s parent).given rules.answer).result with
    | error fault =>
      have hfault : (((m.subjects s parent).given rules.answer).mapError Fault.evaluation).result
          = .error (.evaluation fault) := by
        rw [Recorded.mapError, hsubjects]
        rfl
      exact .inr (.inl ⟨hmem, fault, rfl, Recorded.bind_of_error hfault _⟩)
    | ok subjects =>
      have hok : (((m.subjects s parent).given rules.answer).mapError Fault.evaluation).result
          = .ok subjects := by
        rw [Recorded.mapError, hsubjects]
        rfl
      exact .inr (.inr ⟨hmem, subjects, hsubjects, Recorded.bind_of_ok hok _⟩)

/-- `apply` does nothing, or is `own` where the modifier `Names` no other, or is `enter` on the one
that it `Names`. -/
lemma apply_cases (rules : Rules) (s : Scene) (fuel : Nat) (m : Modifier) (subject : Subject)
    (stack : List String) :
    ((m.newOnly || subject.isEmpty) = true ∧
      (s.apply (fuel + 1) m subject).record rules.answer stack = ⟨[], .ok ()⟩) ∨
    ((m.newOnly || subject.isEmpty) = false ∧ (∀ attached, ¬ m.Names rules attached) ∧
      (s.apply (fuel + 1) m subject).record rules.answer stack = s.own rules m subject ∧
      s.Plain (s.own rules m subject).result) ∨
    ((m.newOnly || subject.isEmpty) = false ∧ ∃ attached, m.Names rules attached ∧
      (s.apply (fuel + 1) m subject).record rules.answer stack = s.remarked m subject
        ((s.enter (s.apply fuel) attached (some subject)).record rules.answer stack)) := by
  unfold apply
  cases hidle : m.newOnly || subject.isEmpty with
  | true => exact .inl ⟨rfl, by rw [if_pos rfl]; rfl⟩
  | false =>
    rw [if_neg Bool.false_ne_true]
    by_cases hnames : ∃ attached, m.Names rules attached
    · obtain ⟨attached, hattached⟩ := hnames
      exact .inr (.inr ⟨rfl, attached, hattached,
        record_effect_of_names hattached (s.steady_apply fuel)⟩)
    · rw [not_exists] at hnames
      obtain ⟨r, hplain, hr⟩ := exists_record_effect s subject hnames
      have hown : s.own rules m subject = r := hr _ (fun _ _ => steady_pure ()) []
      rw [hown, hr _ (s.steady_apply fuel) stack]
      exact .inr (.inl ⟨rfl, hnames, rfl, hplain⟩)

end Scene

end PolicyForecast
